import SourceAudit.Pattern
import SourceAudit.Unicode.Derived

/-! Searching with a regular expression. The expression is unrolled into steps, and all ways through
the steps are followed side by side, in order of preference. The leftmost match is found, and among
those the one that the expression prefers. -/
namespace SourceAudit

namespace Look

def isWord (ascii : Bool) (c : Option Char) : Bool :=
  c.any fun c =>
    if c.toNat < 128 then c.isAlphanum || c == '_' else !ascii && CharSet.wordChars.contains c

/-- The look holds between the characters `before` and `after`. -/
def holds (before after : Option Char) : Look → Bool
  | textStart => before.isNone
  | textEnd => after.isNone
  | lineStart => before.isNone || before == some '\n'
  | lineEnd => after.isNone || after == some '\n'
  | crlfLineStart =>
    before.isNone || before == some '\n' || (before == some '\r' && after != some '\n')
  | crlfLineEnd =>
    after.isNone || after == some '\r' || (after == some '\n' && before != some '\r')
  | wordBoundary ascii => isWord ascii before != isWord ascii after
  | notWordBoundary ascii => isWord ascii before == isWord ascii after
  | wordStart ascii => !isWord ascii before && isWord ascii after
  | wordEnd ascii => isWord ascii before && !isWord ascii after
  | wordStartHalf ascii => !isWord ascii before
  | wordEndHalf ascii => !isWord ascii after

end Look

namespace Regex

/-- One step of an unrolled expression, with the index of the step after it. -/
inductive Step where
  | accept
  | set (s : CharSet) (next : Nat)
  | look (l : Look) (next : Nat)
  /-- Goes on at `first`, or else at `second`. -/
  | split (first second : Nat)
deriving Inhabited

/-- Adds steps that lead to `next` and returns their entry. -/
abbrev Emit := Nat → Array Step → Array Step × Nat

def emitStep (s : Step) (steps : Array Step) : Array Step × Nat := (steps.push s, steps.size)

def splitStep (greedy : Bool) (body next : Nat) : Step :=
  if greedy then .split body next else .split next body

def emitCopies (body : Emit) : Nat → Emit
  | 0, next, steps => (steps, next)
  | n + 1, next, steps =>
    let (steps, entry) := emitCopies body n next steps
    body entry steps

/-- Up to `n` copies, each of which is reached only through the one before. -/
def emitOptional (body : Emit) (greedy : Bool) : Nat → Emit
  | 0, next, steps => (steps, next)
  | n + 1, next, steps =>
    let (steps, inner) := emitOptional body greedy n next steps
    let (steps, entry) := body inner steps
    emitStep (splitStep greedy entry next) steps

/-- One or more: the entry of the body and the split behind it. -/
def emitPlus (body : Emit) (greedy : Bool) (next : Nat) (steps : Array Step) :
    Array Step × Nat × Nat :=
  let (steps, again) := emitStep .accept steps
  let (steps, entry) := body again steps
  (steps.setIfInBounds again (splitStep greedy entry next), entry, again)

def emitRep (body : Emit) (mayBeEmpty : Bool) (least : Nat) (most : Option Nat) (greedy : Bool) :
    Emit := fun next steps =>
  match most, least with
  | some most, least =>
    let (steps, entry) := emitOptional body greedy (most - least) next steps
    emitCopies body least entry steps
  | none, 0 =>
    let (steps, entry, again) := emitPlus body greedy next steps
    -- the split of the repetition may serve as entry only when no round is empty
    if mayBeEmpty then emitStep (splitStep greedy entry next) steps else (steps, again)
  | none, least + 1 =>
    let (steps, entry, _) := emitPlus body greedy next steps
    emitCopies body least entry steps

def emit : Regex → Emit
  | empty => fun next steps => (steps, next)
  | set s => fun next steps => emitStep (.set s next) steps
  | look l => fun next steps => emitStep (.look l next) steps
  | seq a b => fun next steps =>
    let (steps, entry) := emit b next steps
    emit a entry steps
  | alt a b => fun next steps =>
    let (steps, second) := emit b next steps
    let (steps, first) := emit a next steps
    emitStep (.split first second) steps
  | rep r least most greedy => emitRep (emit r) r.mayBeEmpty least most greedy

end Regex

/-- A regular expression made ready for searching. -/
structure Pattern where
  steps : Array Regex.Step
  start : Nat
deriving Inhabited

namespace Pattern

def ofRegex (r : Regex) : Pattern :=
  let (steps, start) := r.emit 0 #[.accept]
  ⟨steps, start⟩

/-- A way through the steps: the step it stands at, and the offset at which its match began. -/
structure Thread where
  step : Nat
  start : Nat
deriving Inhabited

/-- The threads of one place, in order of preference, with the steps already taken up. -/
structure Front where
  seen : Array Bool
  threads : Array Thread

/-- Follows `stack`, which holds steps in order of preference, up to steps that read a character or
accept. Each step is taken up once; `fuel` bounds the number of steps looked at. -/
def follow (p : Pattern) (before after : Option Char) (start : Nat) :
    Nat → List Nat → Front → Front
  | 0, _, front => front
  | _ + 1, [], front => front
  | fuel + 1, i :: stack, front =>
    if front.seen[i]?.getD true then follow p before after start fuel stack front
    else
      let front := { front with seen := front.seen.setIfInBounds i true }
      match p.steps[i]? with
      | none => follow p before after start fuel stack front
      | some (.look l next) =>
        follow p before after start fuel (if l.holds before after then next :: stack else stack) front
      | some (.split first second) =>
        follow p before after start fuel (first :: second :: stack) front
      | some _ =>
        follow p before after start fuel stack
          { front with threads := front.threads.push ⟨i, start⟩ }

def fuel (p : Pattern) : Nat := 2 * p.steps.size + 2

/-- The threads at a place: those that came here, and a new one if no match was found yet. -/
def frontAt (p : Pattern) (before after : Option Char) (pending : List Thread) (fresh : Option Nat) :
    Array Thread :=
  let front : Front := ⟨Array.replicate p.steps.size false, #[]⟩
  let front := pending.foldl (fun front t => p.follow before after t.start p.fuel [t.step] front) front
  (fresh.elim front fun start => p.follow before after start p.fuel [p.start] front).threads

/-- The threads before the first that accepts, and where that one began. -/
def cutAtAccept (p : Pattern) : List Thread → List Thread × Option Nat
  | [] => ([], none)
  | t :: ts =>
    match p.steps[t.step]? with
    | some .accept => ([], some t.start)
    | _ =>
      let (alive, found) := cutAtAccept p ts
      (t :: alive, found)

/-- Moves the threads over the character `c`. -/
def advance (p : Pattern) (c : Char) (threads : List Thread) : List Thread :=
  threads.filterMap fun t =>
    match (p.steps[t.step]? : Option Regex.Step) with
    | some (.set s next) => if s.contains c then some ⟨next, t.start⟩ else none
    | _ => none

/-- Searches the text `cs`, which starts at `offset` behind the character `before`. -/
def search (p : Pattern) (before : Option Char) (offset : Nat) (pending : List Thread)
    (best : Option (Nat × Nat)) (cs : List Char) : Option (Nat × Nat) :=
  let fresh := if best.isSome then none else some offset
  let (alive, found) := p.cutAtAccept (p.frontAt before cs.head? pending fresh).toList
  let best := (found.map (·, offset)).or best
  match cs with
  | [] => best
  | c :: rest =>
    if alive.isEmpty && best.isSome then best
    else search p (some c) (offset + c.utf8Size) (p.advance c alive) best rest

/-- The byte offsets of the leftmost match. -/
def find? (p : Pattern) (text : String) : Option (Nat × Nat) :=
  p.search none 0 [] none text.toList

def isMatch (p : Pattern) (text : String) : Bool := (p.find? text).isSome

end Pattern
end SourceAudit
