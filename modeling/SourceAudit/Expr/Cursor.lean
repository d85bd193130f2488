import SourceAudit.Expr.Reader

/-! Reading expressions by index. A cursor moves over an array of tokens, forward or past its end. Nothing
here says that its loops leave: each call and each turn of a loop takes a step, and a reading that has no
steps left has no result. A look at an index that is not there is a reading that fails. -/
namespace SourceAudit.Expr

/-- An index that is not one of the `size` tokens, or the start and end of no stretch of them. -/
structure OutOfRange where
  index : Nat
  size : Nat
deriving DecidableEq, Repr

/-- A reading gives a value or fails; `none` is a reading that is not done. -/
abbrev Reading := ExceptT OutOfRange Option

namespace Cursor

def undone {α : Type} : Reading α := ExceptT.mk none

variable (ts : Array Token)

/-- The token at `i`, which has to be there. -/
def tokenAt (i : Nat) : Reading Token :=
  match ts[i]? with
  | some t => pure t
  | none => throw ⟨i, ts.size⟩

/-- The token just before `i`. -/
def tokenBefore (i : Nat) : Reading Token :=
  if i = 0 then throw ⟨i, ts.size⟩ else tokenAt ts (i - 1)

/-- The tokens from `i` up to `j`, as far as there are any. -/
def between (i j : Nat) : List Token := (ts.toList.drop i).take (j - i)

/-- The tokens from `i` up to `j`, which have to be there. -/
def stretch (i j : Nat) : Reading (List Token) :=
  if i ≤ j ∧ j ≤ ts.size then pure (between ts i j) else throw ⟨j, ts.size⟩

/-- The tokens behind `i`, none when `i` is the last or past the end. -/
def behind (i : Nat) : List Token := ts.toList.drop (i + 1)

/-- Whether the line break at `i` ends an expression. -/
def breakEndsAt (place : Place) (i : Nat) : Reading Bool :=
  match place with
  | .brackets => pure false
  | .statement => do
    let before ← stretch ts 0 i
    pure (breakEnds (lastSignificant none before) (firstSignificant (behind ts i)))

/-- Adds the segments from `j` on to `path`, and returns the index behind them. -/
def segmentsAt (steps : Nat) (path : DottedPath) (j : Nat) : Reading (DottedPath × Nat) :=
  match steps with
  | 0 => undone
  | steps + 1 => do
    if j + 1 < ts.size then
      let mark ← tokenAt ts j
      let name ← tokenAt ts (j + 1)
      if isPathMark mark && name.isIdent then
        segmentsAt steps { path with more := path.more ++ [name] } (j + 2)
      else pure (path, j)
    else pure (path, j)

def pathAt (steps i : Nat) : Reading (DottedPath × Nat) := do
  let first ← tokenAt ts i
  segmentsAt ts steps ⟨first, []⟩ (i + 1)

/-- The index of the bracket of a call whose name ends before `j`, and whether it is a macro's. -/
def callOpenAt? (j : Nat) : Reading (Option (Nat × Bool)) :=
  match ts[j]? with
  | none => pure none
  | some t => do
    if t.isPunct "(" then pure (some (j, false))
    else if t.isPunct "!" && (behind ts j).head?.any Token.isOpen then
      let name ← tokenBefore ts j
      pure (if name.span.stop == t.span.start then some (j + 1, true) else none)
    else pure none

/-- The index of the closer of an open bracket, or of the end. -/
def groupEndAt (steps depth i : Nat) : Reading Nat :=
  match steps with
  | 0 => undone
  | steps + 1 => do
    if i < ts.size then
      let t ← tokenAt ts i
      if t.isOpen then groupEndAt steps (depth + 1) (i + 1)
      else if t.isClose then
        if depth ≤ 1 then pure i else groupEndAt steps (depth - 1) (i + 1)
      else groupEndAt steps depth (i + 1)
    else pure ts.size

mutual

/-- The items of the bracket at `i`, and the index of its closer or of the end. -/
def argsAt (steps depth i : Nat) : Reading (List Expr × Nat) :=
  match steps with
  | 0 => undone
  | steps + 1 => do
    if maxNesting ≤ depth then
      let close ← groupEndAt ts steps 0 i
      pure ([], close)
    else
      let t ← tokenAt ts i
      itemsAt steps depth (Token.closerOf t.text) [] (i + 1)
termination_by structural steps

def itemsAt (steps depth : Nat) (closer : String) (done : List Expr) (i : Nat) :
    Reading (List Expr × Nat) :=
  match steps with
  | 0 => undone
  | steps + 1 => do
    if i < ts.size then
      let t ← tokenAt ts i
      if t.isPunct closer then pure (done.reverse, i)
      else if t.isPunct "," || t.isPunct ";" || t.isNewline then
        itemsAt steps depth closer done (i + 1)
      else
        let (e, stop) ← exprAt steps .brackets (depth + 1) i
        let done := if e.isEmpty && e.keyword.isNone then done else e :: done
        -- a closer of another kind is passed over
        itemsAt steps depth closer done (if stop = i then i + 1 else stop)
    else pure (done.reverse, ts.size)
termination_by structural steps

/-- The expression at `start`, and the index at which it stops. -/
def exprAt (steps : Nat) (place : Place) (depth start : Nat) : Reading (Expr × Nat) :=
  match steps with
  | 0 => undone
  | steps + 1 => do
    let (d, stop) ← draftAt steps place depth {} start
    let taken ← stretch ts start (min stop ts.size)
    pure ((d.passed taken).finish ts[start]?, stop)
termination_by structural steps

/-- Turn after turn until the expression ends. -/
def draftAt (steps : Nat) (place : Place) (depth : Nat) (d : Draft) (i : Nat) :
    Reading (Draft × Nat) :=
  match steps with
  | 0 => undone
  | steps + 1 => do
    if i < ts.size then
      match ← turnAt steps place depth d i with
      | none => pure (d, i)
      | some (d, j) => draftAt steps place depth d j
    else pure (d, i)
termination_by structural steps

/-- One turn: nothing when the expression ends at `i`, or else the draft with what stands there, and the
index behind that. -/
def turnAt (steps : Nat) (place : Place) (depth : Nat) (d : Draft) (i : Nat) :
    Reading (Option (Draft × Nat)) :=
  match steps with
  | 0 => undone
  | steps + 1 => do
    let t ← tokenAt ts i
    match t.kind with
    | .newline =>
      let ends ← breakEndsAt ts place i
      pure (if ends then none else some (d, i + 1))
    | .punct =>
      if endsExpr t then pure none
      else if t.isOpen then
        let (items, close) ← argsAt steps depth i
        pure (some (d.absorb items, close + 1))
      else pure (some (d.mark place t (behind ts i), i + 1))
    | .literal interpolated =>
      let (op, stop) ← linksAt steps depth (.literal t.text interpolated) (i + 1)
      pure (some (d.push op, stop))
    | .number => pure (some (d.push .constant, i + 1))
    | .ident =>
      match plainWord? t (behind ts i) d with
      | some d => pure (some (d, i + 1))
      | none =>
        let (op, stop) ← wordAt steps depth i
        pure (some (d.push op, stop))
termination_by structural steps

/-- The operand whose name starts at `i`: a path or a call, with the links behind it. -/
def wordAt (steps depth i : Nat) : Reading (Operand × Nat) :=
  match steps with
  | 0 => undone
  | steps + 1 => do
    let (path, j) ← pathAt ts steps i
    match ← callOpenAt? ts j with
    | none => linksAt steps depth (.ident path.text) j
    | some (bracket, isMacro) =>
      let (args, close) ← argsAt steps depth bracket
      linksAt steps (depth + 1) (.call ⟨calleeText path.text isMacro, none, args⟩) (close + 1)
termination_by structural steps

/-- Link after link behind the operand `op`. -/
def linksAt (steps depth : Nat) (op : Operand) (i : Nat) : Reading (Operand × Nat) :=
  match steps with
  | 0 => undone
  | steps + 1 => do
    match ← linkAt steps depth op i with
    | none => pure (op, i)
    | some (depth, op, j) => linksAt steps depth op j
termination_by structural steps

/-- One link: nothing when there is none at `i`, or else the depth behind it, the operand that it makes
of `op` and the index behind it. -/
def linkAt (steps depth : Nat) (op : Operand) (i : Nat) : Reading (Option (Nat × Operand × Nat)) :=
  match steps with
  | 0 => undone
  | steps + 1 =>
    match ts[i]? with
    | none => pure none
    | some t => do
      if (t.isPunct "." || t.isPunct "?." || t.isPunct "::") &&
          (behind ts i).head?.any Token.isIdent then
        match ← callOpenAt? ts (i + 2) with
        | some (bracket, _) =>
          if maxNesting ≤ depth then
            let close ← groupEndAt ts steps 0 bracket
            pure (some (depth, op, close + 1))
          else
            let (args, close) ← argsAt steps depth bracket
            let name ← tokenAt ts (i + 1)
            pure (some (depth + 1, .call ⟨name.text, some op, args⟩, close + 1))
        | none => pure (if op.isCall then some (depth, op, i + 2) else none)
      else if t.isPunct "?" && op.isCall then pure (some (depth, op, i + 1))
      else if t.isPunct "[" && !op.isLiteral then
        let close ← groupEndAt ts steps 0 i
        pure (some (depth, op, close + 1))
      else pure none
termination_by structural steps

end

end Cursor
end SourceAudit.Expr
