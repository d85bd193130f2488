import SourceAudit.Unicode.Folding

/-! Sets of characters, held as sorted ranges of code points. -/
namespace SourceAudit

/-- Ranges of code points, both ends included, in order and with gaps between them. -/
structure CharSet where
  ranges : Array (Nat × Nat)
deriving Inhabited

namespace CharSet

def last : Nat := 0x10FFFF

def empty : CharSet := ⟨#[]⟩

def all : CharSet := ⟨#[(0, last)]⟩

/-- Joins ranges that touch or overlap; `rs` is ordered by the first ends. -/
def joinRanges (done : Array (Nat × Nat)) : List (Nat × Nat) → Array (Nat × Nat)
  | [] => done
  | (a, b) :: rs =>
    match done.back? with
    | some (c, d) =>
      if a ≤ d + 1 then joinRanges (done.pop.push (c, max d b)) rs
      else joinRanges (done.push (a, b)) rs
    | none => joinRanges (done.push (a, b)) rs

def ofRanges (rs : List (Nat × Nat)) : CharSet :=
  ⟨joinRanges #[] (rs.mergeSort fun a b => a.1 ≤ b.1)⟩

def singleton (c : Char) : CharSet := ⟨#[(c.toNat, c.toNat)]⟩

def union (a b : CharSet) : CharSet := ofRanges (a.ranges.toList ++ b.ranges.toList)

def unions (sets : List CharSet) : CharSet := ofRanges (sets.flatMap (·.ranges.toList))

/-- The gaps between the ranges, from `start` on. -/
def gaps (start : Nat) (done : Array (Nat × Nat)) : List (Nat × Nat) → Array (Nat × Nat)
  | [] => if start ≤ last then done.push (start, last) else done
  | (a, b) :: rs => gaps (b + 1) (if start < a then done.push (start, a - 1) else done) rs

def complement (s : CharSet) : CharSet := ⟨gaps 0 #[] s.ranges.toList⟩

def inter (a b : CharSet) : CharSet := (a.complement.union b.complement).complement

def diff (a b : CharSet) : CharSet := a.inter b.complement

/-- What is in exactly one of the two. -/
def symmDiff (a b : CharSet) : CharSet := (a.union b).diff (a.inter b)

/-- Searches the ranges from `lo` up to `hi` by halves. -/
def search (ranges : Array (Nat × Nat)) (n lo hi : Nat) : Bool :=
  if lo < hi then
    let mid := (lo + hi) / 2
    match ranges[mid]? with
    | none => false
    | some (a, b) =>
      if n < a then search ranges n lo mid
      else if b < n then search ranges n (mid + 1) hi
      else true
  else false
termination_by hi - lo

def containsCode (s : CharSet) (n : Nat) : Bool := search s.ranges n 0 s.ranges.size

def contains (s : CharSet) (c : Char) : Bool := s.containsCode c.toNat

def isEmpty (s : CharSet) : Bool := s.ranges.isEmpty

/-- Only characters below 128. -/
def isAscii (s : CharSet) : Bool := s.ranges.all fun r => r.2 < 128

/-! ### Tables -/

def hexValue? (c : Char) : Option Nat :=
  if c.isDigit then some (c.toNat - '0'.toNat)
  else if 'A' ≤ c ∧ c ≤ 'F' then some (c.toNat - 'A'.toNat + 10)
  else if 'a' ≤ c ∧ c ≤ 'f' then some (c.toNat - 'a'.toNat + 10)
  else none

/-- Every second code point from `low` to `high`. -/
def everySecond (low high : Nat) : List (Nat × Nat) :=
  (List.range ((high - low) / 2 + 1)).map fun i => (low + 2 * i, low + 2 * i)

/-- The ranges of one entry of a table. `low` is what stands before its mark, if it has one. -/
def entryRanges (low : Option (Nat × Char)) (high : Nat) : List (Nat × Nat) :=
  match low with
  | none => [(high, high)]
  | some (low, mark) => if mark == ':' then everySecond low high else [(low, high)]

/-- Reads entries such as `41-5A 61 100:12E`, the last of which takes every second code point. `low`
is the number before a mark that was read, and `n` the number being read. -/
def readRanges (done : List (Nat × Nat)) (low : Option (Nat × Char)) (n : Nat) :
    List Char → List (Nat × Nat)
  | [] => entryRanges low n ++ done
  | c :: cs =>
    if c == ' ' then readRanges (entryRanges low n ++ done) none 0 cs
    else if c == '-' || c == ':' then readRanges done (some (n, c)) 0 cs
    else readRanges done low (16 * n + (hexValue? c).getD 0) cs

def ofTable (lines : List String) : CharSet :=
  ofRanges (lines.flatMap fun line => readRanges [] none 0 line.toList)

/-- The set that a table lists under `name`. -/
def lookup (table : List (List String × List String)) (name : String) : Option CharSet :=
  (table.find? fun row => row.1.contains name).map fun row => ofTable row.2

/-! ### Letter case -/

/-- Classes of characters that differ only in case: each folded form with the characters that fold
to it. -/
def caseClasses : List (Nat × List Nat) :=
  let sorted := Unicode.Folding.pairs.mergeSort fun a b => a.2 ≤ b.2
  (sorted.foldl (fun (done : List (Nat × List Nat)) (p : Nat × Nat) =>
    match done with
    | (target, sources) :: more =>
      if target = p.2 then (target, p.1 :: sources) :: more else (p.2, [p.1]) :: done
    | [] => [(p.2, [p.1])]) []).reverse

/-- Adds every character that differs from a member only in case. -/
def foldCase (s : CharSet) : CharSet :=
  let added := caseClasses.filter fun (target, sources) =>
    s.containsCode target || sources.any s.containsCode
  ofRanges (s.ranges.toList ++ added.flatMap fun (target, sources) =>
    (target, target) :: sources.map fun n => (n, n))

/-- Adds the other case of every letter below 128. -/
def foldAscii (s : CharSet) : CharSet :=
  let letters := (List.range 26).filter fun i => s.containsCode (65 + i) || s.containsCode (97 + i)
  ofRanges (s.ranges.toList ++ letters.flatMap fun i => [(65 + i, 65 + i), (97 + i, 97 + i)])

end CharSet
end SourceAudit
