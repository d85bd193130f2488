import SourceAudit.Expr

/-! Fragments: the names, literals, calls and assignments of a source text, in order. -/
namespace SourceAudit

inductive FragmentKind where
  | identifier | stringLiteral | call | assignment
deriving DecidableEq, Repr, Inhabited

/-- A set of fragment kinds. -/
structure FragmentKinds where
  identifier : Bool := false
  stringLiteral : Bool := false
  call : Bool := false
  assignment : Bool := false
deriving DecidableEq, Repr

namespace FragmentKinds

def empty : FragmentKinds := {}

def all : FragmentKinds := ⟨true, true, true, true⟩

def only : FragmentKind → FragmentKinds
  | .identifier => { identifier := true }
  | .stringLiteral => { stringLiteral := true }
  | .call => { call := true }
  | .assignment => { assignment := true }

def union (a b : FragmentKinds) : FragmentKinds :=
  ⟨a.identifier || b.identifier, a.stringLiteral || b.stringLiteral, a.call || b.call,
    a.assignment || b.assignment⟩

def contains (s : FragmentKinds) : FragmentKind → Bool
  | .identifier => s.identifier
  | .stringLiteral => s.stringLiteral
  | .call => s.call
  | .assignment => s.assignment

/-- The two sets share a kind. -/
def intersects (a b : FragmentKinds) : Bool :=
  (a.identifier && b.identifier) || (a.stringLiteral && b.stringLiteral) || (a.call && b.call) ||
    (a.assignment && b.assignment)

/-- The set as a number, one bit a kind. -/
def bits (s : FragmentKinds) : Nat :=
  s.identifier.toNat + 2 * s.stringLiteral.toNat + 4 * s.call.toNat + 8 * s.assignment.toNat

theorem intersects_iff (a b : FragmentKinds) :
    a.intersects b = true ↔ ∃ k, a.contains k = true ∧ b.contains k = true := by
  constructor
  · intro h
    simp only [intersects, Bool.or_eq_true, Bool.and_eq_true] at h
    obtain ((h | h) | h) | h := h
    · exact ⟨.identifier, h⟩
    · exact ⟨.stringLiteral, h⟩
    · exact ⟨.call, h⟩
    · exact ⟨.assignment, h⟩
  · rintro ⟨k, ha, hb⟩
    cases k <;> simp_all [contains, intersects]

@[simp] theorem contains_union (a b : FragmentKinds) (k : FragmentKind) :
    (a.union b).contains k = (a.contains k || b.contains k) := by
  cases k <;> rfl

@[simp] theorem contains_only (k l : FragmentKind) : (only k).contains l = decide (k = l) := by
  cases k <;> cases l <;> rfl

end FragmentKinds

structure Fragment where
  kind : FragmentKind
  /-- The dotted path of a name or a callee, the target of an assignment, or a literal's body. -/
  text : String
  line : Nat
  column : Nat
  span : Span
  /-- The number of the statement the fragment belongs to. -/
  stmt : Nat
  /-- The number of the function around the fragment. -/
  scope : Nat
  /-- The arguments of a call, or the right side of an assignment. -/
  args : List Expr
  /-- The callee that a chain of method calls began with. -/
  chain : Option String
deriving Inhabited

namespace Fragment

def name (f : Fragment) : String := lastSegment f.text

def isCall (f : Fragment) : Bool := decide (f.kind = .call)
def isAssignment (f : Fragment) : Bool := decide (f.kind = .assignment)

/-- The right side of an assignment. -/
def value? (f : Fragment) : Option Expr := if f.isAssignment then f.args.head? else none

end Fragment
end SourceAudit
