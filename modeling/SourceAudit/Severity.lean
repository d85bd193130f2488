import SourceAudit.Error
import SourceAudit.Text

/-! How bad a finding is. -/
namespace SourceAudit

inductive Severity where
  | low | medium | high | critical
deriving DecidableEq, Repr, Inhabited

namespace Severity

/-- From the worst to the mildest. -/
def all : List Severity := [critical, high, medium, low]

def rank : Severity → Nat
  | low => 0
  | medium => 1
  | high => 2
  | critical => 3

theorem rank_injective {a b : Severity} (h : a.rank = b.rank) : a = b := by
  cases a <;> cases b <;> first | rfl | cases h

instance : LE Severity := ⟨fun a b => a.rank ≤ b.rank⟩

instance (a b : Severity) : Decidable (a ≤ b) := inferInstanceAs (Decidable (a.rank ≤ b.rank))

def compare (a b : Severity) : Ordering := Ord.compare a.rank b.rank

def name : Severity → String
  | low => "low"
  | medium => "medium"
  | high => "high"
  | critical => "critical"

/-- Names are read without regard to case and to blanks around them. -/
def parse (text : String) : Except ConfigError Severity :=
  match (trim text).toLower with
  | "low" => .ok low
  | "medium" => .ok medium
  | "high" => .ok high
  | "critical" => .ok critical
  | _ => .error (.unknownSeverity text)

end Severity
end SourceAudit
