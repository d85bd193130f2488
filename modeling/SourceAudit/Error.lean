/-! Why a scan cannot start. -/
namespace SourceAudit

/-- A setting that cannot be used. -/
inductive ConfigError where
  | unknownCategory (text : String)
  | unknownSeverity (text : String)
  | unknownFormat (text : String)
  | zeroWindowWidth
  | noCategories
  /-- A custom rule whose id is blank. -/
  | emptyRuleId (id : String)
  /-- A custom rule whose pattern is no regular expression. -/
  | badPattern (id : String)
  | duplicateRuleId (id : String)
deriving DecidableEq, Repr

namespace ConfigError

def message : ConfigError → String
  | unknownCategory text => s!"unknown rule category `{text}`"
  | unknownSeverity text => s!"unknown severity `{text}` (expected low, medium, high or critical)"
  | unknownFormat text => s!"unknown output format `{text}` (expected console, json or sarif)"
  | zeroWindowWidth => "window width must be a positive number of statements"
  | noCategories => "no rule categories enabled"
  | emptyRuleId id => s!"custom rule `{id}` has an invalid pattern: rule id must not be empty"
  | badPattern id => s!"custom rule `{id}` has an invalid pattern: regex parse error:"
  | duplicateRuleId id => s!"duplicate rule id `{id}`"

end ConfigError
end SourceAudit
