import SourceAudit.Fragment
import SourceAudit.Source

/-! Statements and the windows around them. A window shows a rule one statement, the statements after
it, and the statements before it in the same function. -/
namespace SourceAudit

/-- The fragments of one statement; there is at least one. -/
structure Statement where
  first : Fragment
  more : List Fragment
deriving Inhabited

namespace Statement

def fragments (s : Statement) : List Fragment := s.first :: s.more

def scope (s : Statement) : Nat := s.first.scope

/-- Puts a fragment in front, into the first statement when it carries that statement's number. -/
def insertFragment (f : Fragment) : List Statement → List Statement
  | [] => [⟨f, []⟩]
  | s :: ss => if f.stmt = s.first.stmt then ⟨f, s.fragments⟩ :: ss else ⟨f, []⟩ :: s :: ss

end Statement

/-- Groups neighbouring fragments of one statement. -/
def statements (fs : List Fragment) : List Statement := fs.foldr Statement.insertFragment []

@[simp] theorem statements_nil : statements [] = [] := rfl

@[simp] theorem statements_cons (f : Fragment) (fs : List Fragment) :
    statements (f :: fs) = Statement.insertFragment f (statements fs) := rfl

theorem flatMap_fragments_insertFragment (f : Fragment) (ss : List Statement) :
    (Statement.insertFragment f ss).flatMap Statement.fragments =
      f :: ss.flatMap Statement.fragments := by
  cases ss with
  | nil => rfl
  | cons s ss =>
    simp only [Statement.insertFragment]
    split <;> simp [Statement.fragments]

/-- Grouping neither loses nor reorders a fragment. -/
theorem flatMap_fragments_statements (fs : List Fragment) :
    (statements fs).flatMap Statement.fragments = fs := by
  induction fs with
  | nil => rfl
  | cons f fs ih => rw [statements_cons, flatMap_fragments_insertFragment, ih]

structure Window where
  source : Source
  statement : Statement
  /-- The fragments of the statements after the head that complete the window. -/
  rest : List Fragment
  /-- The fragments of the statements before the head, in the same scope. -/
  preceding : List Fragment

namespace Window

/-- The index of the last statement of a window, in machine words: a window is never narrower than one
statement and never goes beyond the last of `count`. -/
def lastIndex (index width count : UInt64) : UInt64 := min (index + max width 1) count - 1

/-- How many statements follow the head in its window. -/
def restCount (index count : Nat) (width : UInt64) : Nat :=
  (lastIndex index.toUInt64 width count.toUInt64).toNat - index

/-- Machine words hold the end of the window of statement `index`; where they do not, the window cannot
be formed. -/
def fits (index : Nat) (width : UInt64) : Bool :=
  decide (index + max width.toNat 1 < UInt64.size)

/-- The window of the statement `s`; `before` lists the statements before it, the nearest first. -/
def around (source : Source) (count : Nat) (width lookbehind : UInt64) (index : Nat)
    (before : List Statement) (s : Statement) (after : List Statement) : Window where
  source
  statement := s
  rest := (after.take (restCount index count width)).flatMap Statement.fragments
  preceding :=
    (((before.take lookbehind.toNat).takeWhile (·.scope == s.scope)).reverse).flatMap
      Statement.fragments

/-- The window of `s`, where it can be formed. -/
def around? (source : Source) (count : Nat) (width lookbehind : UInt64) (index : Nat)
    (before : List Statement) (s : Statement) (after : List Statement) : Option Window :=
  if fits index width then some (around source count width lookbehind index before s after) else none

/-- The window of the statement at `index` among `ss`, where there is one. -/
def among? (source : Source) (ss : List Statement) (width lookbehind : UInt64) (index : Nat) :
    Option Window :=
  ss[index]?.bind fun s =>
    around? source ss.length width lookbehind index (ss.take index).reverse s (ss.drop (index + 1))

def head (w : Window) : List Fragment := w.statement.fragments

def anchor (w : Window) : Fragment := w.statement.first

/-- The smallest span that holds the head. -/
def headSpan (w : Window) : Span :=
  w.statement.more.foldl (fun s f => s.cover f.span) w.statement.first.span

def headText (w : Window) : String := w.source.sliceSpan w.headSpan

def textOf (w : Window) (span : Span) : String := w.source.sliceSpan span

/-- The lookbehind and then the head. -/
def context (w : Window) : List Fragment := w.preceding ++ w.head

/-- The kinds of the head's fragments. -/
def kinds (w : Window) : FragmentKinds :=
  w.head.foldl (fun ks f => ks.union (.only f.kind)) .empty

end Window

/-- The windows of the statements from `index` on, after those in `done`; none at all as soon as one of
them cannot be formed. -/
def windowsFrom? (source : Source) (count : Nat) (width lookbehind : UInt64) (index : Nat)
    (before : List Statement) (done : Array Window) : List Statement → Option (Array Window)
  | [] => some done
  | s :: after =>
    (Window.around? source count width lookbehind index before s after).bind fun w =>
      windowsFrom? source count width lookbehind (index + 1) (s :: before) (done.push w) after

end SourceAudit
