import SourceAudit.Rule.CommandInjection
import SourceAudit.Rule.Custom
import SourceAudit.Rule.HardcodedSecret
import SourceAudit.Rule.PathTraversal
import SourceAudit.Rule.RequestForgery
import SourceAudit.Rule.SqlInjection
import SourceAudit.Rule.WeakCrypto

/-! The rules of a scan, in the order they are tried. -/
namespace SourceAudit

structure Registry where
  rules : List Rule

namespace Registry

def builtin : Registry :=
  ⟨CommandInjection.rules ++ SqlInjection.rules ++ PathTraversal.rules ++ RequestForgery.rules ++
    HardcodedSecret.rules ++ WeakCrypto.rules⟩

def ids (r : Registry) : List String := r.rules.map Rule.id

/-- Adds declared rules one after the other; no id may come twice. -/
def add (r : Registry) : List CustomRule → Except ConfigError Registry
  | [] => .ok r
  | c :: cs =>
    match c.compile with
    | .error e => .error e
    | .ok rule =>
      if r.ids.contains rule.id then .error (.duplicateRuleId rule.id)
      else add ⟨r.rules ++ [rule]⟩ cs

/-- The built-in rules and then the declared ones. -/
def withCustom (custom : List CustomRule) : Except ConfigError Registry := builtin.add custom

def rulesFor (r : Registry) (c : Category) : List Rule := r.rules.filter (·.category = c)

def get? (r : Registry) (id : String) : Option Rule := r.rules.find? (·.id == id)

end Registry
end SourceAudit
