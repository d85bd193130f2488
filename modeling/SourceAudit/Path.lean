import SourceAudit.Text

/-! File paths, kept as they were written and compared by their components. -/
namespace SourceAudit

/-- One step of a path: the root, the leading `.`, a `..`, or a name. -/
inductive PathStep where
  | root
  | here
  | parent
  | name (text : String)
deriving DecidableEq, Repr

namespace PathStep

def rank : PathStep → Nat
  | root => 0
  | here => 1
  | parent => 2
  | name _ => 3

/-- Steps are ordered by kind, and names among themselves by their bytes. -/
def compare : PathStep → PathStep → Ordering
  | name a, name b => Ord.compare a b
  | a, b => Ord.compare a.rank b.rank

end PathStep

/-- A path as the user wrote it. -/
structure Path where
  text : String
deriving DecidableEq, Repr, Inhabited

namespace Path

/-- Cuts a text at every slash. -/
def pieces (cs : List Char) : List (List Char) := cutAtEach '/' cs

/-- The step that a piece stands for. Empty pieces and inner dots stand for none. -/
def stepOf (piece : List Char) : Option PathStep :=
  if piece = [] ∨ piece = ['.'] then none
  else if piece = ['.', '.'] then some .parent
  else some (.name (String.ofList piece))

/-- The steps of a path: a doubled or closing slash and an inner `.` leave none behind. -/
def steps (p : Path) : List PathStep :=
  match p.text.toList with
  | '/' :: cs => .root :: (pieces cs).filterMap stepOf
  | cs =>
    match pieces cs with
    | ['.'] :: rest => .here :: rest.filterMap stepOf
    | all => all.filterMap stepOf

def compareSteps : List PathStep → List PathStep → Ordering
  | [], [] => .eq
  | [], _ :: _ => .lt
  | _ :: _, [] => .gt
  | a :: as, b :: bs => (a.compare b).then (compareSteps as bs)

/-- Paths are ordered step by step, so `a/b` comes before `a-b`. -/
def compare (a b : Path) : Ordering := compareSteps a.steps b.steps

/-- Two spellings of one path. -/
def same (a b : Path) : Bool := decide (a.steps = b.steps)

/-- The name of the file, when the last step is a name. -/
def fileName? (p : Path) : Option String :=
  match p.steps.getLast? with
  | some (.name text) => some text
  | _ => none

/-- What follows the last dot of the file name, unless that dot is its first character. -/
def extension? (p : Path) : Option String := do
  let file ← p.fileName?
  let back := file.toList.reverse
  match back.span (· != '.') with
  | (_, []) => none
  | (_, [_]) => none
  | (ext, _) => some (String.ofList ext.reverse)

/-- Puts `name` below the directory `p`. -/
def join (p : Path) (name : String) : Path :=
  if p.text.isEmpty then ⟨name⟩
  else if p.text.endsWith "/" then ⟨p.text ++ name⟩
  else ⟨p.text ++ "/" ++ name⟩

/-- Drops empty pieces and dots in front. -/
def dropDots : List Char → List Char
  | '/' :: cs => dropDots cs
  | '.' :: '/' :: cs => dropDots cs
  | ['.'] => []
  | cs => cs

/-- A path below the working directory without the `.` in front of it. -/
def withoutHere (p : Path) : Path :=
  match p.steps, p.text.toList with
  | .here :: _ :: _, '.' :: cs => ⟨String.ofList (dropDots cs)⟩
  | _, _ => p

end Path
end SourceAudit
