/-! Half-open byte ranges of a text, and the line and column that a reader sees. -/
namespace SourceAudit

/-- The bytes from `start` up to, and without, `stop`. -/
structure Span where
  start : Nat
  stop : Nat
deriving DecidableEq, Repr, Inhabited

namespace Span

/-- The span of a thing that was never placed. -/
def zero : Span := ⟨0, 0⟩

/-- Two spans overlap when they share a byte; an empty span lies over another only from inside it. -/
def overlaps (a b : Span) : Bool :=
  decide (a.start < b.stop) && decide (b.start < a.stop)

/-- The smallest span that holds both. -/
def cover (a b : Span) : Span :=
  ⟨min a.start b.start, max a.stop b.stop⟩

theorem overlaps_comm (a b : Span) : a.overlaps b = b.overlaps a := by
  simp [overlaps, Bool.and_comm]

@[simp] theorem start_cover (a b : Span) : (a.cover b).start = min a.start b.start := rfl
@[simp] theorem stop_cover (a b : Span) : (a.cover b).stop = max a.stop b.stop := rfl

end Span

/-- A place in a text: its byte offset, and its line and column counted from one. Columns count
characters, not bytes. -/
structure Position where
  offset : Nat
  line : Nat
  column : Nat
deriving DecidableEq, Repr, Inhabited

namespace Position

def start : Position := ⟨0, 1, 1⟩

/-- The place after one more character. -/
def next (p : Position) (c : Char) : Position :=
  if c = '\n' then ⟨p.offset + 1, p.line + 1, 1⟩
  else ⟨p.offset + c.utf8Size, p.line, p.column + 1⟩

/-- The place after all of `cs`. -/
def advance (p : Position) (cs : List Char) : Position :=
  cs.foldl next p

@[simp] theorem advance_nil (p : Position) : p.advance [] = p := rfl

@[simp] theorem advance_cons (p : Position) (c : Char) (cs : List Char) :
    p.advance (c :: cs) = (p.next c).advance cs := rfl

theorem advance_append (p : Position) (xs ys : List Char) :
    p.advance (xs ++ ys) = (p.advance xs).advance ys := by
  simp [advance]

end Position
end SourceAudit
