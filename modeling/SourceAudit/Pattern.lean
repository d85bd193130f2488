import SourceAudit.Unicode.CharSet

/-! Regular expressions as trees. -/
namespace SourceAudit

/-- What a look-around asks of the characters on both sides of a place. -/
inductive Look where
  | textStart
  | textEnd
  | lineStart
  | lineEnd
  /-- A line ends at a carriage return, a newline or the two together. -/
  | crlfLineStart
  | crlfLineEnd
  | wordBoundary (ascii : Bool)
  | notWordBoundary (ascii : Bool)
  | wordStart (ascii : Bool)
  | wordEnd (ascii : Bool)
  /-- No word character stands before. -/
  | wordStartHalf (ascii : Bool)
  /-- No word character stands behind. -/
  | wordEndHalf (ascii : Bool)
deriving DecidableEq, Repr

/-- A regular expression. The first branch of an alternative is preferred, and a greedy repetition
prefers to go on. -/
inductive Regex where
  | empty
  | set (s : CharSet)
  | look (l : Look)
  | seq (a b : Regex)
  | alt (a b : Regex)
  | rep (r : Regex) (least : Nat) (most : Option Nat) (greedy : Bool)
deriving Inhabited

namespace Regex

/-- Matches nothing at all. -/
def never : Regex := set CharSet.empty

/-- Some match may be empty. -/
def mayBeEmpty : Regex → Bool
  | empty => true
  | set _ => false
  | look _ => true
  | seq a b => a.mayBeEmpty && b.mayBeEmpty
  | alt a b => a.mayBeEmpty || b.mayBeEmpty
  | rep r least _ _ => least == 0 || r.mayBeEmpty

/-- Every match is empty. -/
def onlyEmpty : Regex → Bool
  | empty => true
  | set _ => false
  | look _ => true
  | seq a b => a.onlyEmpty && b.onlyEmpty
  | alt a b => a.onlyEmpty && b.onlyEmpty
  | rep r _ most _ => most == some 0 || r.onlyEmpty

/-- A repetition. Where every match is empty, once is as good as many times. -/
def times (r : Regex) (least : Nat) (most : Option Nat) (greedy : Bool) : Regex :=
  if most == some 0 then empty
  else if r.onlyEmpty then rep r (min least 1) (some 1) greedy
  else rep r least most greedy

/-- The number of steps the expression is unrolled to. -/
def size : Regex → Nat
  | empty => 1
  | set _ => 1
  | look _ => 1
  | seq a b => a.size + b.size
  | alt a b => a.size + b.size + 1
  | rep r least most _ => (r.size + 1) * max 1 (most.getD (least + 1))

def sequence : List Regex → Regex
  | [] => empty
  | [r] => r
  | r :: rs => seq r (sequence rs)

def alternatives : List Regex → Regex
  | [] => empty
  | [r] => r
  | r :: rs => alt r (alternatives rs)

end Regex
end SourceAudit
