import SourceAudit.Expr.Reader
import SourceAudit.Proofs.Operands
import SourceAudit.Token.Lexer

/-! Plain literals. A value that is one plain literal is that literal under any number of conversions.
Each question about such a value goes down through the conversions, and all of them come to the literal;
only the question whether it is dynamic takes notice of the conversions on its way. -/
namespace SourceAudit

/-- The plain literal `text` under any number of conversions, each of its receiver or of its only
argument. -/
inductive Operand.Converts (text : String) : Operand → Prop where
  | literal : Converts text (.literal text false)
  | receiver {callee : String} {op : Operand} (hcallee : isConversionPath callee = true)
      (h : Converts text op) : Converts text (.call ⟨callee, some op, []⟩)
  | argument {callee : String} {op : Operand} {keyword : Option String} {span : Span}
      (hcallee : isConversionPath callee = true) (h : Converts text op) :
      Converts text (.call ⟨callee, none, [⟨[op], false, keyword, span⟩]⟩)

theorem Operand.Converts.soleLiteral? {text : String} {op : Operand} (h : op.Converts text) :
    op.soleLiteral? = some text := by
  induction h with
  | literal => rfl
  | receiver hcallee _ ih => simp [Operand.soleLiteral?, Call.soleLiteral?, hcallee, ih]
  | argument hcallee _ ih =>
    simp [Operand.soleLiteral?, Call.soleLiteral?, Expr.soleLiteral?, hcallee, ih]

theorem Operand.converts_of_soleLiteral? {text : String} {op : Operand}
    (h : op.soleLiteral? = some text) : op.Converts text := by
  induction op using Operand.induction with
  | literal value interpolated =>
    cases interpolated with
    | false =>
      cases h
      exact .literal
    | true => cases h
  | ident name => cases h
  | constant => cases h
  | call callee receiver args hreceiver hargs =>
    rw [Operand.soleLiteral?] at h
    obtain ⟨hcallee, ⟨op, rfl, rfl, hop⟩ | ⟨e, rfl, rfl, he⟩⟩ := Call.soleLiteral?_eq_some h
    · exact .receiver hcallee (hreceiver op rfl hop)
    · obtain ⟨operands, joined, keyword, span⟩ := e
      obtain ⟨op, rfl, rfl, hop⟩ := Expr.soleLiteral?_eq_some he
      exact .argument hcallee (hargs _ List.mem_cons_self op List.mem_cons_self hop)

theorem Expr.soleLiteral?_eq_some_iff {e : Expr} {text : String} :
    e.soleLiteral? = some text ↔ ∃ op, e.operands = [op] ∧ e.joined = false ∧ op.Converts text := by
  constructor
  · intro h
    obtain ⟨op, hop, hjoined, hliteral⟩ := Expr.soleLiteral?_eq_some h
    exact ⟨op, hop, hjoined, Operand.converts_of_soleLiteral? hliteral⟩
  · obtain ⟨operands, joined, keyword, span⟩ := e
    rintro ⟨op, rfl, rfl, hop⟩
    rw [Expr.soleLiteral?, hop.soleLiteral?]

theorem isBuilderPath_of_isConversionPath {callee : String} (h : isConversionPath callee = true) :
    isBuilderPath callee = false := by
  have hwords : Vocabulary.conversions.all (!Vocabulary.builders.contains ·) = true := by decide
  rw [isConversionPath, List.contains_iff_mem] at h
  simpa [isBuilderPath] using List.all_eq_true.mp hwords _ h

namespace Operand.Converts

variable {text : String} {op : Operand}

theorem literals (h : op.Converts text) : op.literals = [text] := by
  induction h with
  | literal => rfl
  | receiver hcallee _ ih =>
    simp [Operand.literals, Call.literals, receiverLiterals, argLiterals, hcallee, ih]
  | argument hcallee _ ih =>
    simp [Operand.literals, Call.literals, receiverLiterals, argLiterals, Expr.literals,
      operandLiterals, hcallee, ih]

theorem idents (h : op.Converts text) : op.idents = [] := by
  induction h with
  | literal => rfl
  | receiver _ _ ih => simp [Operand.idents, Call.idents, receiverIdents, argIdents, ih]
  | argument _ _ ih =>
    simp [Operand.idents, Call.idents, receiverIdents, argIdents, Expr.idents, operandIdents, ih]

theorem splices (h : op.Converts text) : op.splices = false := by
  induction h with
  | literal => rfl
  | receiver hcallee _ ih =>
    have hbuilder := isBuilderPath_of_isConversionPath hcallee
    simp [Operand.splices, Call.splices_eq, Call.isBuilder, Call.isConversion, hbuilder, hcallee, ih]
  | argument hcallee _ ih =>
    have hbuilder := isBuilderPath_of_isConversionPath hcallee
    simp [Operand.splices, Call.splices_eq, Expr.splices_eq, Call.isBuilder, Call.isConversion,
      hbuilder, hcallee, ih]

theorem formatText?_argument (h : op.Converts text) (callee : String) (keyword : Option String)
    (span : Span) :
    (⟨callee, none, [⟨[op], false, keyword, span⟩]⟩ : Call).formatText? = some text :=
  h.soleLiteral?

/-- A conversion looks for a capture in the literal below it, like a builder in its format text: the
innermost one finds the literal, and the others pass on what it says. -/
theorem isDynamic (h : op.Converts text) :
    op.isDynamic = (op.isCall && hasBraceCapture text.toList) := by
  induction h with
  | literal => rfl
  | @receiver callee op hcallee h ih =>
    rw [Operand.isDynamic, Call.isDynamic_eq]
    simp only [Call.isConversion, hcallee, Bool.or_true, if_true, Option.any_some, ih, List.any_nil,
      Bool.or_false, Operand.isCall, Bool.true_and, formatCaptures]
    cases h <;> simp [Call.formatText?]
  | @argument callee op keyword span hcallee h ih =>
    rw [Operand.isDynamic, Call.isDynamic_eq, formatCaptures, h.formatText?_argument]
    simp only [Call.isConversion, hcallee, Bool.or_true, if_true, Option.any_none, Option.any_some,
      Expr.isDynamic_eq, List.any_cons, List.any_nil, ih, Bool.or_false, Bool.false_or,
      Operand.isCall, Bool.true_and]
    cases op.isCall <;> simp

end Operand.Converts

/-- What is asked of a plain literal comes down to the literal, whatever it is wrapped in: that is all the
text there is, no variable is named, and nothing is spliced. -/
theorem Expr.plain_literal_seen_through {e : Expr} {text : String} (h : e.soleLiteral? = some text) :
    e.template = text ∧ e.idents = [] ∧ e.splices = false := by
  obtain ⟨op, hop, hjoined, hconverts⟩ := soleLiteral?_eq_some_iff.mp h
  obtain ⟨operands, joined, keyword, span⟩ := e
  obtain rfl : operands = [op] := hop
  obtain rfl : joined = false := hjoined
  refine ⟨?_, ?_, ?_⟩
  · simp [template, Expr.literals, operandLiterals, hconverts.literals]
  · simp [Expr.idents, operandIdents, hconverts.idents]
  · simp [Expr.splices_eq, hconverts.splices]

def Expr.ofText (language : Language) (text : String) : Expr :=
  (read .statement 0 none (tokenize language text).toList).1

theorem Expr.plain_literal_seen_through_three_conversions :
    let e := Expr.ofText .python "bytes(str(\"k\".strip()))"
    e.soleLiteral? = some "k" ∧ e.template = "k" ∧ e.idents = [] ∧ e.splices = false := by
  intro e
  have hliteral : e.soleLiteral? = some "k" := by decide +kernel
  exact ⟨hliteral, plain_literal_seen_through hliteral⟩

/-- A plain literal counts as dynamic just when it is converted and names something in braces. -/
theorem Expr.plain_literal_dynamic_iff {e : Expr} {text : String} (h : e.soleLiteral? = some text) :
    e.isDynamic = true ↔
      (∃ c, e.operands = [.call c]) ∧ hasBraceCapture text.toList = true := by
  obtain ⟨op, hop, -, hconverts⟩ := soleLiteral?_eq_some_iff.mp h
  rw [isDynamic_eq, hop, List.any_cons, List.any_nil, Bool.or_false, hconverts.isDynamic,
    Bool.and_eq_true]
  cases hconverts <;> simp [Operand.isCall]

theorem Expr.plain_literal_dynamic_iff_doubled_braces :
    let e := Expr.ofText .rust "\"\x7b\x7bk\x7d\x7d\".to_string()"
    e.soleLiteral? = some "\x7b\x7bk\x7d\x7d" ∧ e.isDynamic = false := by
  intro e
  have hliteral : e.soleLiteral? = some "\x7b\x7bk\x7d\x7d" := by decide +kernel
  refine ⟨hliteral, ?_⟩
  rw [← Bool.not_eq_true, plain_literal_dynamic_iff hliteral]
  exact fun hcapture => absurd hcapture.2 (by decide)

/-- A text in braces that is converted, and so a plain literal, counts as dynamic. -/
theorem Expr.exists_dynamic_plain_literal :
    let e := Expr.ofText .rust "String::from(\"\x7bx\x7d\")"
    e.soleLiteral? = some "\x7bx\x7d" ∧ e.isDynamic = true := by
  decide +kernel

end SourceAudit
