import SourceAudit.Expr.Vocabulary
import SourceAudit.Span
import SourceAudit.Text

/-! Summaries of expressions: the operands an expression is made of, and whether they are spliced
together. Precedence, types and control flow are not kept. -/
namespace SourceAudit

mutual

/-- One operand of an expression. -/
inductive Operand where
  | literal (value : String) (interpolated : Bool)
  | ident (name : String)
  /-- A number, a truth value or a null. -/
  | constant
  | call (call : Call)

structure Call where
  /-- The dotted path of the callee; a macro's ends in an exclamation mark. -/
  callee : String
  /-- What a method is called on, when that is itself an operand. -/
  receiver : Option Operand
  args : List Expr

structure Expr where
  operands : List Operand
  /-- The operands are joined by a concatenating operator. -/
  joined : Bool
  /-- The name of a keyword argument. -/
  keyword : Option String
  span : Span

end

deriving instance Inhabited for Operand
deriving instance Inhabited for Call
deriving instance Inhabited for Expr

/-- The last segment of a dotted path, without the exclamation marks of a macro. -/
def lastSegment (path : String) : String :=
  String.ofList ((path.toList.reverse.dropWhile (· == '!')).takeWhile (· != '.')).reverse

def isBuilderPath (callee : String) : Bool := Vocabulary.builders.contains (lastSegment callee)
def isConversionPath (callee : String) : Bool :=
  Vocabulary.conversions.contains (lastSegment callee)

namespace Call

def name (c : Call) : String := lastSegment c.callee
def isBuilder (c : Call) : Bool := isBuilderPath c.callee
def isConversion (c : Call) : Bool := isConversionPath c.callee

end Call

/-! ### The one plain literal that a value is -/

mutual

def Operand.soleLiteral? : Operand → Option String
  | .literal value false => some value
  | .literal _ true => none
  | .ident _ => none
  | .constant => none
  | .call c => c.soleLiteral?

/-- A conversion of one plain literal, as receiver or as only argument. -/
def Call.soleLiteral? : Call → Option String
  | ⟨callee, some recv, []⟩ => if isConversionPath callee then recv.soleLiteral? else none
  | ⟨callee, none, [arg]⟩ => if isConversionPath callee then arg.soleLiteral? else none
  | _ => none

def Expr.soleLiteral? : Expr → Option String
  | ⟨[op], false, _, _⟩ => op.soleLiteral?
  | _ => none

end

/-- The format text of a call: a literal receiver, or a first argument that is a plain literal. -/
def Call.formatText? (c : Call) : Option String :=
  match c.receiver, c.args with
  | some (.literal value _), _ => some value
  | _, first :: _ => first.soleLiteral?
  | _, [] => none

def formatCaptures (c : Call) : Bool := c.formatText?.any fun text => hasBraceCapture text.toList

/-! ### Values that the source does not fix -/

mutual

def Operand.isDynamic : Operand → Bool
  | .literal _ interpolated => interpolated
  | .ident _ => true
  | .constant => false
  | .call c => c.isDynamic

/-- The result of an unknown call is not fixed; a builder or a conversion is as dynamic as its
pieces. -/
def Call.isDynamic : Call → Bool
  | ⟨callee, recv, args⟩ =>
    if isBuilderPath callee || isConversionPath callee then
      receiverDynamic recv || anyDynamic args || formatCaptures ⟨callee, recv, args⟩
    else true

def receiverDynamic : Option Operand → Bool
  | none => false
  | some op => op.isDynamic

def anyDynamic : List Expr → Bool
  | [] => false
  | e :: es => e.isDynamic || anyDynamic es

def Expr.isDynamic : Expr → Bool
  | ⟨operands, _, _, _⟩ => anyOperandDynamic operands

def anyOperandDynamic : List Operand → Bool
  | [] => false
  | op :: ops => op.isDynamic || anyOperandDynamic ops

end

/-! ### Texts with a dynamic piece spliced in -/

mutual

/-- An interpolated literal, or a call that splices. -/
def Operand.splices : Operand → Bool
  | .literal _ interpolated => interpolated
  | .ident _ => false
  | .constant => false
  | .call c => c.splices

def Call.splices : Call → Bool
  | ⟨callee, recv, args⟩ =>
    if isBuilderPath callee then (⟨callee, recv, args⟩ : Call).isDynamic
    else if isConversionPath callee then receiverSplices recv || anySplices args
    else false

def receiverSplices : Option Operand → Bool
  | none => false
  | some op => op.splices

def anySplices : List Expr → Bool
  | [] => false
  | e :: es => e.splices || anySplices es

/-- A concatenation with a dynamic operand, or an operand that splices. -/
def Expr.splices : Expr → Bool
  | ⟨operands, joined, keyword, span⟩ =>
    (joined && (⟨operands, joined, keyword, span⟩ : Expr).isDynamic) || anyOperandSplices operands

def anyOperandSplices : List Operand → Bool
  | [] => false
  | op :: ops => op.splices || anyOperandSplices ops

end

/-! ### The fixed text and the names of an expression -/

mutual

def Operand.literals : Operand → List String
  | .literal value _ => [value]
  | .ident _ => []
  | .constant => []
  | .call c => c.literals

/-- The literals that a builder or a conversion puts together, in order. -/
def Call.literals : Call → List String
  | ⟨callee, recv, args⟩ =>
    if isBuilderPath callee || isConversionPath callee then
      receiverLiterals recv ++ argLiterals args
    else []

def receiverLiterals : Option Operand → List String
  | none => []
  | some op => op.literals

def argLiterals : List Expr → List String
  | [] => []
  | e :: es => e.literals ++ argLiterals es

def Expr.literals : Expr → List String
  | ⟨operands, _, _, _⟩ => operandLiterals operands

def operandLiterals : List Operand → List String
  | [] => []
  | op :: ops => op.literals ++ operandLiterals ops

end

mutual

def Operand.idents : Operand → List String
  | .literal _ _ => []
  | .ident name => [name]
  | .constant => []
  | .call c => c.idents

def Call.idents : Call → List String
  | ⟨_, recv, args⟩ => receiverIdents recv ++ argIdents args

def receiverIdents : Option Operand → List String
  | none => []
  | some op => op.idents

def argIdents : List Expr → List String
  | [] => []
  | e :: es => e.idents ++ argIdents es

/-- Every variable named anywhere in the expression. -/
def Expr.idents : Expr → List String
  | ⟨operands, _, _, _⟩ => operandIdents operands

def operandIdents : List Operand → List String
  | [] => []
  | op :: ops => op.idents ++ operandIdents ops

end

mutual

/-- How deeply calls are nested in an operand. -/
def Operand.depth : Operand → Nat
  | .literal _ _ => 0
  | .ident _ => 0
  | .constant => 0
  | .call c => c.depth

def Call.depth : Call → Nat
  | ⟨_, recv, args⟩ => 1 + max (receiverDepth recv) (argsDepth args)

def receiverDepth : Option Operand → Nat
  | none => 0
  | some op => op.depth

def argsDepth : List Expr → Nat
  | [] => 0
  | e :: es => max e.depth (argsDepth es)

def Expr.depth : Expr → Nat
  | ⟨operands, _, _, _⟩ => operandsDepth operands

def operandsDepth : List Operand → Nat
  | [] => 0
  | op :: ops => max op.depth (operandsDepth ops)

end

namespace Operand

def isLiteral : Operand → Bool
  | literal _ _ => true
  | _ => false

def isCall : Operand → Bool
  | call _ => true
  | _ => false

end Operand

namespace Expr

def empty : Expr := ⟨[], false, none, Span.zero⟩

def isEmpty (e : Expr) : Bool := e.operands.isEmpty

/-- All literal text the expression is built from, with blanks between. -/
def template (e : Expr) : String := " ".intercalate e.literals

/-- The name, when the expression is a bare variable. -/
def ident? (e : Expr) : Option String :=
  match e.operands, e.joined with
  | [.ident name], false => some name
  | _, _ => none

end Expr
end SourceAudit
