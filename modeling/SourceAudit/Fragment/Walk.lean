import SourceAudit.Expr.Reader
import SourceAudit.Fragment
import SourceAudit.Source
import SourceAudit.Token.Lexer

/-! The walk over a text's tokens that finds its fragments. A call is reported before the fragments of
its arguments, which the walk goes on to visit. -/
namespace SourceAudit

/-- What an open bracket is for. -/
inductive Bracket where
  | round
  | square
  /-- A brace around statements. -/
  | block
  /-- A brace around the items of an object or a composite literal. -/
  | items
deriving DecidableEq, Repr

def Bracket.isBrace : Bracket → Bool
  | block | items => true
  | round | square => false

/-- Where the walk stands. -/
structure Walk where
  /-- The tokens passed, the nearest first. -/
  before : List Token := []
  /-- How many tokens were passed. -/
  index : Nat := 0
  stmt : Nat := 0
  scope : Nat := 0
  /-- The open brackets, the innermost first. -/
  stack : List Bracket := []
  /-- The current statement has begun. -/
  begun : Bool := false
  /-- The current statement has a fragment. -/
  hasFragment : Bool := false
  /-- The current statement is a declaration. -/
  declares : Bool := false
  /-- The next path is the name of a function. -/
  expectsName : Bool := false
  /-- For the index of a call's closing bracket, the callee its chain began with. -/
  roots : List (Nat × String) := []

/-- One step of a walk: where it leads, what it found, and how many tokens it passed beyond the
first. -/
structure Walk.Step where
  walk : Walk
  found : Option Fragment := none
  more : Nat := 0

namespace Walk

def atStatementLevel (w : Walk) : Bool :=
  match w.stack with
  | [] => true
  | b :: _ => b.isBrace

def endStatement (w : Walk) : Walk :=
  { w with
    stmt := if w.begun then w.stmt + 1 else w.stmt
    begun := false
    hasFragment := false
    declares := false
    expectsName := false }

def push (w : Walk) (b : Bracket) : Walk := { w with stack := b :: w.stack }

/-- Closes the innermost bracket that fits, with everything opened inside it. -/
def close (w : Walk) (fits : Bracket → Bool) : Walk :=
  match w.stack.dropWhile (!fits ·) with
  | [] => w
  | _ :: outer => { w with stack := outer }

/-- The brace `t` opens a literal: it stands after a mark that wants a value, after `return`, or
right behind the name of a type. -/
def opensItems (w : Walk) (t : Token) : Bool :=
  match Expr.firstSignificant w.before with
  | none => false
  | some p =>
    match p.kind with
    | .punct => ["=", ":=", ":", "(", ",", "["].contains p.text
    | .ident =>
      p.text == "return" ||
        (p.span.stop == t.span.start && !Vocabulary.keywords.contains p.text)
    | _ => false

/-- Records a fragment that starts at `first` and ends at `stop`. -/
def emit (w : Walk) (kind : FragmentKind) (text : String) (first : Token) (stop : Nat)
    (args : List Expr) (chain : Option String) : Walk × Fragment :=
  ({ w with begun := true, hasFragment := true },
    { kind, text, line := first.line, column := first.column
      span := ⟨first.span.start, max stop first.span.stop⟩
      stmt := w.stmt, scope := w.scope, args, chain })

/-- The callee that began the chain which a name at the current place carries on. -/
def chainRoot? (w : Walk) : Option String :=
  match w.before with
  | [] => none
  | dot :: more =>
    if dot.isPunct "." || dot.isPunct "?." then
      let breaks := (more.takeWhile Token.isNewline).length
      if breaks < more.length then w.roots.lookup (w.index - 2 - breaks) else none
    else none

/-- How far behind the name of a declaration its `=` stands, past a type. `last` is the nearest token
passed that is no line break. -/
def declaredAt? (last : Token) (depth passed : Nat) : List Token → Option Nat
  | [] => none
  | t :: ts =>
    match t.kind with
    | .newline =>
      if depth = 0 ∧ Expr.breakEnds (some last) (Expr.firstSignificant ts) then none
      else declaredAt? last depth (passed + 1) ts
    | .punct =>
      if ["(", "[", "<"].contains t.text then declaredAt? t (depth + 1) (passed + 1) ts
      else if [")", "]", ">"].contains t.text then declaredAt? t (depth - 1) (passed + 1) ts
      else if depth = 0 ∧ (t.text == "=" || t.text == ":=") then some passed
      else if [";", "\x7b", "\x7d"].contains t.text then none
      else declaredAt? t depth (passed + 1) ts
    | _ => declaredAt? t depth (passed + 1) ts

/-- The current token starts an item of a brace. -/
def startsItem (w : Walk) : Bool :=
  match w.before with
  | [] => true
  | p :: _ => p.isNewline || p.isPunct "\x7b" || p.isPunct ","

/-- How far behind the path that ends with `last` its assigning mark stands; `after` follows the
path. -/
def assignedAt? (w : Walk) (last : Token) (after : List Token) : Option Nat :=
  match after with
  | [] => none
  | next :: _ =>
    if next.kind = .punct ∧ ["=", ":=", "+="].contains next.text ∧ w.atStatementLevel then some 0
    else if w.declares && !w.hasFragment && w.atStatementLevel then declaredAt? last 0 0 after
    else if next.isPunct ":" && w.stack.head?.any Bracket.isBrace && w.startsItem then some 0
    else none

def onCall (w : Walk) (t : Token) (path : Expr.DottedPath) (isMacro : Bool) (bracket : List Token) :
    Step :=
  let callee := Expr.calleeText path.text isMacro
  let chain := w.chainRoot?
  let depth := w.stack.length
  if Expr.maxNesting ≤ depth then
    let stop := (bracket.head?.map (·.span.stop)).getD 0
    let (w, f) := w.emit .call callee t stop [] chain
    ⟨w, some f, path.length - 1⟩
  else
    let (args, close) := Expr.readArgs depth bracket
    let closer := close.bind fun k => bracket[k]?
    let stop := ((closer.or bracket.getLast?).map (·.span.stop)).getD 0
    let roots :=
      match close with
      | some k => (w.index + path.length + Expr.callGap isMacro + k, chain.getD callee) :: w.roots
      | none => w.roots
    let (w, f) := { w with roots }.emit .call callee t stop args chain
    ⟨w, some f, path.length - 1⟩

def onAssignment (w : Walk) (t : Token) (path : Expr.DottedPath) (gap : Nat) (after : List Token) :
    Step :=
  let (value, _) := Expr.read .statement w.stack.length after[gap]? (after.drop (gap + 1))
  let (w, f) := w.emit .assignment path.text t value.span.stop [value] none
  ⟨w, some f, path.length + gap⟩

def onPath (w : Walk) (t : Token) (rest : List Token) : Step :=
  let path := Expr.DottedPath.read t rest
  let after := rest.drop (path.length - 1)
  let asName (w : Walk) : Step :=
    let (w, f) := w.emit .identifier path.text t path.last.span.stop [] none
    ⟨w, some f, path.length - 1⟩
  if w.expectsName then asName { w with expectsName := false }
  else
    match Expr.callOpen? path.last.span.stop after with
    | some isMacro => w.onCall t path isMacro (after.drop (Expr.callGap isMacro))
    | none =>
      match w.assignedAt? path.last after with
      | some gap => w.onAssignment t path gap after
      | none => asName w

def onIdent (w : Walk) (t : Token) (rest : List Token) : Step :=
  if Vocabulary.functionWords.contains t.text then
    { walk := { w with scope := w.scope + 1, expectsName := true, begun := true } }
  else if Vocabulary.declarationWords.contains t.text && !w.hasFragment then
    { walk := { w with declares := true, begun := true } }
  else if !Expr.startsPath t rest then { walk := { w with begun := true } }
  else w.onPath t rest

def onMark (w : Walk) (t : Token) : Walk :=
  match t.text with
  | ";" => if w.atStatementLevel then w.endStatement else w
  | "," => if w.stack.head? = some .items then w.endStatement else w
  | "(" => { w with expectsName := false }.push .round
  | "[" => w.push .square
  | "\x7b" =>
    let inner := w.push (if w.opensItems t then .items else .block)
    if w.atStatementLevel then inner.endStatement else inner
  | "\x7d" =>
    let outer := w.close Bracket.isBrace
    if outer.atStatementLevel then outer.endStatement else outer
  | ")" => w.close (· = .round)
  | "]" => w.close (· = .square)
  | _ => w

def step (w : Walk) (t : Token) (rest : List Token) : Step :=
  match t.kind with
  | .newline =>
    if w.atStatementLevel &&
        Expr.breakEnds (Expr.firstSignificant w.before) (Expr.firstSignificant rest) then
      { walk := w.endStatement }
    else { walk := w }
  | .punct => { walk := w.onMark t }
  | .literal _ =>
    let (w, f) := w.emit .stringLiteral t.text t t.span.stop [] none
    { walk := w, found := some f }
  | .number => { walk := { w with begun := true } }
  | .ident => w.onIdent t rest

/-- Notes that `ts` was passed. -/
def passed (w : Walk) (ts : List Token) : Walk :=
  { w with before := ts.reverse ++ w.before, index := w.index + ts.length }

/-- The fragments found from here on, after those in `done`. -/
def run (w : Walk) (done : Array Fragment) : List Token → Array Fragment
  | [] => done
  | t :: rest =>
    let s := w.step t rest
    run (s.walk.passed (t :: rest.take s.more)) (s.found.elim done done.push) (rest.drop s.more)
termination_by ts => ts.length

end Walk

/-- The fragments of a source text, in the order of their first bytes. -/
def Source.fragments (s : Source) : Array Fragment :=
  Walk.run {} #[] (tokenize s.language s.text).toList

end SourceAudit
