import SourceAudit.Pattern.Reader
import SourceAudit.Rule

/-! Rules that a user declares. -/
namespace SourceAudit

/-- A rule as it is declared: names and a pattern, all still texts. -/
structure CustomRule where
  id : String
  category : String
  severity : String
  pattern : String
  description : String := ""
  remediation : String := ""
  caseInsensitive : Bool := false
deriving DecidableEq, Repr

namespace CustomRule

/-- Checks a declaration, in the order id, category, severity and pattern. -/
def compile (c : CustomRule) : Except ConfigError Rule := do
  let id := trim c.id
  if id.isEmpty then throw (.emptyRuleId c.id)
  let category ← Category.parse c.category
  let severity ← Severity.parse c.severity
  match Regex.parse? c.pattern c.caseInsensitive with
  | none => throw (.badPattern id)
  | some regex =>
    pure
      { id, category, severity
        description := if c.description.isEmpty then s!"Custom rule `{id}`" else c.description
        remediation := c.remediation
        kinds := .all
        matcher := patternMatcher (.ofRegex regex) }

end CustomRule
end SourceAudit
