import SourceAudit.Span

/-! The tokens of a source text. -/
namespace SourceAudit

inductive TokenKind where
  | ident
  /-- A literal; `interpolated` when its body embeds expressions. -/
  | literal (interpolated : Bool)
  | number
  | punct
  /-- A line break, of which a run counts once. -/
  | newline
deriving DecidableEq, Repr, Inhabited

structure Token where
  kind : TokenKind
  /-- The body of a literal, without its quotes; otherwise what the source says. -/
  text : String
  span : Span
  line : Nat
  column : Nat
deriving DecidableEq, Repr, Inhabited

namespace Token

def isPunct (t : Token) (mark : String) : Bool :=
  decide (t.kind = .punct) && t.text == mark

def isIdent (t : Token) : Bool := decide (t.kind = .ident)

def isNewline (t : Token) : Bool := decide (t.kind = .newline)

def isLiteral (t : Token) : Bool :=
  match t.kind with
  | .literal _ => true
  | _ => false

/-- An opening bracket of any of the three kinds. -/
def isOpen (t : Token) : Bool :=
  t.isPunct "(" || t.isPunct "[" || t.isPunct "\x7b"

/-- A closing bracket of any of the three kinds. -/
def isClose (t : Token) : Bool :=
  t.isPunct ")" || t.isPunct "]" || t.isPunct "\x7d"

/-- The mark that closes an opening mark. -/
def closerOf (mark : String) : String :=
  if mark == "(" then ")" else if mark == "[" then "]" else "\x7d"

end Token
end SourceAudit
