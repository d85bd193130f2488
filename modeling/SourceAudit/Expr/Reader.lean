import SourceAudit.Expr
import SourceAudit.Token

/-! Reading expressions off a list of tokens. Brackets need not match: a bracket that is never closed
takes the rest of the tokens with it. Every reader returns how many tokens it passed, and nothing
when an open bracket ran to the end. -/
namespace SourceAudit.Expr

/-- Brackets and method chains nested more deeply than this are passed over unread. -/
def maxNesting : Nat := 256

/-- Where an expression stands. In brackets a line break means nothing; in a statement it may end the
expression. -/
inductive Place where
  | brackets
  | statement
deriving DecidableEq, Repr

/-- Whether a line break ends the statement, given the nearest tokens on both sides that are no line
breaks. -/
def breakEnds (before after : Option Token) : Bool :=
  match before, after with
  | some p, some n =>
    !((decide (p.kind = .punct) && Vocabulary.continuesAfter.contains p.text) ||
      (decide (n.kind = .punct) && Vocabulary.continuesBefore.contains n.text))
  | _, _ => true

def firstSignificant (ts : List Token) : Option Token := ts.find? (!·.isNewline)

/-- The last token of `ts` that is no line break, or else `before`. -/
def lastSignificant (before : Option Token) (ts : List Token) : Option Token :=
  ts.foldl (fun last t => if t.isNewline then last else some t) before

/-- The identifier `t`, with `rest` behind it, names a value. -/
def startsPath (t : Token) (rest : List Token) : Bool :=
  !Vocabulary.keywords.contains t.text ||
    (Vocabulary.pathWords.contains t.text &&
      rest.head?.any fun s => s.isPunct "." || s.isPunct "::" || s.isPunct "->")

def isPathMark (t : Token) : Bool :=
  t.isPunct "." || t.isPunct "::" || t.isPunct "?." || t.isPunct "->"

/-- The further segments of a path. -/
def segments : List Token → List Token
  | mark :: name :: rest => if isPathMark mark && name.isIdent then name :: segments rest else []
  | _ => []

/-- A dotted path: its first segment and the others. -/
structure DottedPath where
  first : Token
  more : List Token

namespace DottedPath

def read (t : Token) (rest : List Token) : DottedPath := ⟨t, segments rest⟩

def text (p : DottedPath) : String := ".".intercalate (p.first.text :: p.more.map Token.text)

/-- How many tokens the path takes. -/
def length (p : DottedPath) : Nat := 1 + 2 * p.more.length

def last (p : DottedPath) : Token := p.more.getLastD p.first

end DottedPath

/-- Whether a call's brackets start at the front of `ts`, and if so whether it is a macro's. An
exclamation mark makes a macro only when it touches the name, which ends at `nameEnd`. -/
def callOpen? (nameEnd : Nat) : List Token → Option Bool
  | [] => none
  | t :: rest =>
    if t.isPunct "(" then some false
    else if t.isPunct "!" && rest.head?.any Token.isOpen && nameEnd == t.span.start then some true
    else none

/-- Tokens between a name and the bracket of its call. -/
def callGap (isMacro : Bool) : Nat := if isMacro then 1 else 0

/-- How far away the closer of an open bracket is, whatever the kinds of the brackets between. -/
def groupEnd (depth passed : Nat) : List Token → Option Nat
  | [] => none
  | t :: ts =>
    if t.isOpen then groupEnd (depth + 1) (passed + 1) ts
    else if t.isClose then
      if depth ≤ 1 then some passed else groupEnd (depth - 1) (passed + 1) ts
    else groupEnd depth (passed + 1) ts

/-- What is known of an expression while it is read; the operands are in reverse. -/
structure Draft where
  operands : List Operand := []
  joined : Bool := false
  keyword : Option String := none
  /-- The last operand is a literal. -/
  afterLiteral : Bool := false
  /-- The last token read that is no line break. -/
  last : Option Token := none

namespace Draft

def push (d : Draft) (op : Operand) : Draft :=
  { d with operands := op :: d.operands, afterLiteral := op.isLiteral }

/-- Takes in the items of a bracket. -/
def absorb (d : Draft) (items : List Expr) : Draft :=
  { d with
    operands := items.foldl (fun ops e => e.operands.reverse ++ ops) d.operands
    joined := d.joined || items.any Expr.joined
    afterLiteral := false }

/-- An equals sign after a lone name inside brackets makes that name a keyword. -/
def nameKeyword (d : Draft) (place : Place) : Draft :=
  match place, d.keyword, d.operands with
  | .brackets, none, [.ident name] => { d with keyword := some name, operands := [] }
  | _, _, _ => d

/-- The effect of a mark that is no bracket and no separator. -/
def mark (d : Draft) (place : Place) (t : Token) (rest : List Token) : Draft :=
  if t.text == "+" || t.text == "+=" then { d with joined := true }
  else if t.text == "." then
    { d with joined := d.joined || d.afterLiteral || rest.head?.any Token.isLiteral }
  else if t.text == "%" then { d with joined := d.joined || d.afterLiteral }
  else if t.text == "=" then d.nameKeyword place
  else d

/-- Notes that `ts` was passed. -/
def passed (d : Draft) (ts : List Token) : Draft := { d with last := lastSignificant d.last ts }

def span (d : Draft) (first : Option Token) : Span :=
  match first, d.last with
  | some f, some l => ⟨f.span.start, l.span.stop⟩
  | _, _ => Span.zero

/-- The finished expression, whose first token is `first`. -/
def finish (d : Draft) (first : Option Token) : Expr :=
  ⟨d.operands.reverse, d.joined, d.keyword, d.span first⟩

end Draft

def endsExpr (t : Token) : Bool := t.isPunct "," || t.isPunct ";" || t.isClose

/-- What an identifier stands for when it does not begin a path: a fixed value, or nothing. -/
def plainWord? (t : Token) (rest : List Token) (d : Draft) : Option Draft :=
  if Vocabulary.constants.contains t.text then some (d.push .constant)
  else if startsPath t rest then none
  else some { d with afterLiteral := false }

def calleeText (path : String) (isMacro : Bool) : String := if isMacro then path ++ "!" else path

mutual

/-- The items of the bracket that starts at the front, with the distance of its closer. `room` is how
many levels may still be opened. -/
def readGroup (room : Nat) (ts : List Token) : List Expr × Option Nat :=
  match room, ts with
  | _, [] => ([], none)
  | 0, ts => ([], groupEnd 0 0 ts)
  | room + 1, t :: rest => readItems room (Token.closerOf t.text) [] 1 rest
termination_by 3 * ts.length

/-- The items up to the next `closer`; `done` holds those already read, in reverse, and `n` counts the
tokens since the bracket. A closer of another kind is passed over. -/
def readItems (room : Nat) (closer : String) (done : List Expr) (n : Nat) (ts : List Token) :
    List Expr × Option Nat :=
  match ts with
  | [] => (done.reverse, none)
  | t :: rest =>
    if t.isPunct closer then (done.reverse, some n)
    else if t.isPunct "," || t.isPunct ";" || t.isNewline then
      readItems room closer done (n + 1) rest
    else
      let (draft, stop) := readDraft room .brackets none {} 0 (t :: rest)
      let e := draft.finish (some t)
      let done := if e.isEmpty && e.keyword.isNone then done else e :: done
      match stop with
      | none => (done.reverse, none)
      | some k => readItems room closer done (n + max k 1) (rest.drop (k - 1))
termination_by 3 * ts.length + 2

/-- Reads one expression up to a separator of its own level. `before` is the last token before it that
is no line break, and `n` counts the tokens passed. -/
def readDraft (room : Nat) (place : Place) (before : Option Token) (d : Draft) (n : Nat)
    (ts : List Token) : Draft × Option Nat :=
  match ts with
  | [] => (d, some n)
  | t :: rest =>
    match t.kind with
    | .newline =>
      if place = .statement && breakEnds (d.last.or before) (firstSignificant rest) then (d, some n)
      else readDraft room place before d (n + 1) rest
    | .punct =>
      if endsExpr t then (d, some n)
      else if t.isOpen then
        let (items, close) := readGroup room (t :: rest)
        let d := d.absorb items
        match close with
        | none => (d.passed (t :: rest), none)
        | some k =>
          readDraft room place before (d.passed (t :: rest.take k)) (n + k + 1) (rest.drop k)
      else readDraft room place before ((d.mark place t rest).passed [t]) (n + 1) rest
    | .literal interpolated =>
      let (op, stop) := readLinks room (.literal t.text interpolated) 0 rest
      let d := d.push op
      match stop with
      | none => (d.passed (t :: rest), none)
      | some k =>
        readDraft room place before (d.passed (t :: rest.take k)) (n + k + 1) (rest.drop k)
    | .number => readDraft room place before ((d.push .constant).passed [t]) (n + 1) rest
    | .ident =>
      match plainWord? t rest d with
      | some d => readDraft room place before (d.passed [t]) (n + 1) rest
      | none =>
        let path := DottedPath.read t rest
        let after := rest.drop (path.length - 1)
        match callOpen? path.last.span.stop after with
        | none =>
          let (op, stop) := readLinks room (.ident path.text) 0 after
          let d := d.push op
          match stop with
          | none => (d.passed (t :: rest), none)
          | some k =>
            let m := path.length - 1 + k
            readDraft room place before (d.passed (t :: rest.take m)) (n + m + 1) (rest.drop m)
        | some isMacro =>
          let bracket := after.drop (callGap isMacro)
          let (args, close) := readGroup room bracket
          let call := Operand.call ⟨calleeText path.text isMacro, none, args⟩
          match close with
          | none => ((d.push call).passed (t :: rest), none)
          | some k =>
            let (op, stop) := readLinks (room - 1) call 0 (bracket.drop (k + 1))
            let d := d.push op
            match stop with
            | none => (d.passed (t :: rest), none)
            | some j =>
              let m := path.length - 1 + callGap isMacro + (k + 1) + j
              readDraft room place before (d.passed (t :: rest.take m)) (n + m + 1) (rest.drop m)
termination_by 3 * ts.length + 1

/-- The method calls, field accesses and indexings that follow the operand `op`. -/
def readLinks (room : Nat) (op : Operand) (n : Nat) (ts : List Token) : Operand × Option Nat :=
  match ts with
  | [] => (op, some n)
  | t :: rest =>
    match rest with
    | name :: after =>
      if (t.isPunct "." || t.isPunct "?." || t.isPunct "::") && name.isIdent then
        match callOpen? name.span.stop after with
        | some isMacro =>
          let bracket := after.drop (callGap isMacro)
          if room = 0 then
            match groupEnd 0 0 bracket with
            | none => (op, none)
            | some k =>
              readLinks room op (n + 2 + callGap isMacro + k + 1) (bracket.drop (k + 1))
          else
            let (args, close) := readGroup room bracket
            let call := Operand.call ⟨name.text, some op, args⟩
            match close with
            | none => (call, none)
            | some k =>
              readLinks (room - 1) call (n + 2 + callGap isMacro + k + 1) (bracket.drop (k + 1))
        | none => if op.isCall then readLinks room op (n + 2) after else (op, some n)
      else if t.isPunct "?" && op.isCall then readLinks room op (n + 1) (name :: after)
      else if t.isPunct "[" && !op.isLiteral then
        match groupEnd 0 0 (t :: name :: after) with
        | none => (op, none)
        | some k => readLinks room op (n + k + 1) ((name :: after).drop k)
      else (op, some n)
    | [] =>
      if t.isPunct "?" && op.isCall then (op, some (n + 1))
      else if t.isPunct "[" && !op.isLiteral then (op, none)
      else (op, some n)
termination_by 3 * ts.length

end

/-- How many levels may be opened below `depth`. -/
def roomAt (depth : Nat) : Nat := maxNesting - depth

/-- The expression at the front of `ts`, and how many tokens it takes. -/
def read (place : Place) (depth : Nat) (before : Option Token) (ts : List Token) :
    Expr × Option Nat :=
  let (draft, stop) := readDraft (roomAt depth) place before {} 0 ts
  (draft.finish ts.head?, stop)

/-- The arguments of the bracket at the front of `ts`, and the distance of its closer. -/
def readArgs (depth : Nat) (ts : List Token) : List Expr × Option Nat :=
  readGroup (roomAt depth) ts

end SourceAudit.Expr
