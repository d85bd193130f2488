import SourceAudit.Error
import SourceAudit.Text

/-! The six classes of vulnerabilities. -/
namespace SourceAudit

inductive Category where
  | commandInjection | sqlInjection | pathTraversal | ssrf | hardcodedSecret | weakCrypto
deriving DecidableEq, Repr, Inhabited

namespace Category

/-- Every category, in its order. -/
def all : List Category :=
  [commandInjection, sqlInjection, pathTraversal, ssrf, hardcodedSecret, weakCrypto]

def rank : Category → Nat
  | commandInjection => 0
  | sqlInjection => 1
  | pathTraversal => 2
  | ssrf => 3
  | hardcodedSecret => 4
  | weakCrypto => 5

theorem rank_injective {a b : Category} (h : a.rank = b.rank) : a = b := by
  cases a <;> cases b <;> first | rfl | cases h

theorem mem_all (c : Category) : c ∈ all := by
  cases c <;> decide

def compare (a b : Category) : Ordering := Ord.compare a.rank b.rank

def name : Category → String
  | commandInjection => "command-injection"
  | sqlInjection => "sql-injection"
  | pathTraversal => "path-traversal"
  | ssrf => "ssrf"
  | hardcodedSecret => "hardcoded-secret"
  | weakCrypto => "weak-crypto"

/-- Entries of the OWASP list for language-model applications that the class falls under. -/
def owaspEntries : Category → List String
  | commandInjection => ["LLM05", "LLM06"]
  | hardcodedSecret => ["LLM02"]
  | sqlInjection | pathTraversal | ssrf | weakCrypto => ["LLM06"]

/-- Names are read without regard to case and to blanks around them, and an underscore counts as a
hyphen. -/
def parse (text : String) : Except ConfigError Category :=
  let wanted := String.ofList ((trim text).toLower.toList.map fun c => if c = '_' then '-' else c)
  match all.find? fun c => c.name == wanted with
  | some c => .ok c
  | none => .error (.unknownCategory text)

end Category
end SourceAudit
