import Mathlib
import SourceAudit.Proofs.Splicing

/-! Values that the source fixes. A fixed operand is not dynamic, so a statement that works on fixed values
alone breaks none of the rules on injected input. -/
namespace SourceAudit

/-- The value of the operand is written out in the source: a constant, a literal that embeds nothing, or
such values put together. -/
inductive Operand.IsFixed : Operand → Prop where
  | constant : IsFixed .constant
  | literal {value : String} (h : hasBraceCapture value.toList = false) :
      IsFixed (.literal value false)
  | call {c : Call} (hcallee : c.isBuilder = true ∨ c.isConversion = true)
      (hreceiver : ∀ op ∈ c.receiver, IsFixed op)
      (hargs : ∀ e ∈ c.args, ∀ op ∈ e.operands, IsFixed op) : IsFixed (.call c)

def Expr.IsFixed (e : Expr) : Prop := ∀ op ∈ e.operands, op.IsFixed

theorem Operand.IsFixed.hasBraceCapture_soleLiteral {op : Operand} (h : op.IsFixed) {text : String}
    (htext : op.soleLiteral? = some text) : hasBraceCapture text.toList = false := by
  induction h with
  | constant => cases htext
  | literal h =>
    cases htext
    exact h
  | call _ _ _ ihreceiver ihargs =>
    rw [Operand.soleLiteral?] at htext
    obtain ⟨-, ⟨op, hop, -, hliteral⟩ | ⟨e, -, he, hliteral⟩⟩ := Call.soleLiteral?_eq_some htext
    · exact ihreceiver op hop hliteral
    · obtain ⟨op, hop, -, hliteral⟩ := Expr.soleLiteral?_eq_some hliteral
      exact ihargs e (by simp [he]) op (by simp [hop]) hliteral

theorem Expr.IsFixed.hasBraceCapture_soleLiteral {e : Expr} (h : e.IsFixed) {text : String}
    (htext : e.soleLiteral? = some text) : hasBraceCapture text.toList = false := by
  obtain ⟨op, hop, -, hliteral⟩ := Expr.soleLiteral?_eq_some htext
  exact (h op (by simp [hop])).hasBraceCapture_soleLiteral hliteral

theorem formatCaptures_eq_false {c : Call} (hreceiver : ∀ op ∈ c.receiver, op.IsFixed)
    (hargs : ∀ e ∈ c.args, e.IsFixed) : formatCaptures c = false := by
  rw [formatCaptures, Option.any_eq_false]
  intro text htext
  obtain ⟨interpolated, hliteral⟩ | ⟨e, he, hliteral⟩ := Call.formatText?_eq_some htext
  · cases hreceiver _ hliteral with
    | literal h => exact h
  · exact (hargs e he).hasBraceCapture_soleLiteral hliteral

theorem Operand.IsFixed.isDynamic_eq_false {op : Operand} (h : op.IsFixed) :
    op.isDynamic = false := by
  induction h with
  | constant => rfl
  | literal => rfl
  | @call c hcallee hreceiver hargs ihreceiver ihargs =>
    have hpieces : (c.isBuilder || c.isConversion) = true := by simpa using hcallee
    have hreceiverFixed : c.receiver.any Operand.isDynamic = false := by
      rw [Option.any_eq_false]
      simpa using ihreceiver
    have hargsFixed : c.args.any Expr.isDynamic = false := by
      rw [List.any_eq_false]
      intro e he
      simpa [Expr.isDynamic_eq] using ihargs e he
    rw [Operand.isDynamic, Call.isDynamic_eq, if_pos hpieces, hreceiverFixed, hargsFixed,
      formatCaptures_eq_false hreceiver hargs]
    rfl

theorem Expr.IsFixed.isDynamic_eq_false {e : Expr} (h : e.IsFixed) : e.isDynamic = false := by
  rw [Expr.isDynamic_eq, List.any_eq_false]
  intro op hop
  simp [(h op hop).isDynamic_eq_false]

/-! ### The rules -/

def Fragment.IsFixed (f : Fragment) : Prop := ∀ e ∈ f.args, e.IsFixed

theorem Fragment.IsFixed.not_isUnfixed {f : Fragment} (h : f.IsFixed) : ¬f.IsUnfixed := by
  rintro (⟨e, he, hdynamic⟩ | ⟨-, hbuilder, hdynamic⟩)
  · rw [(h e he).isDynamic_eq_false] at hdynamic
    cases hdynamic
  · -- a builder of fixed pieces is itself fixed
    have hfixed : (Operand.call (SqlInjection.callOf f)).IsFixed :=
      .call (.inl hbuilder) (by simp [SqlInjection.callOf]) h
    have hnot : (SqlInjection.callOf f).isDynamic = false := hfixed.isDynamic_eq_false
    rw [hnot] at hdynamic
    cases hdynamic

section

variable {w : Window} (h : ∀ f ∈ w.head, f.IsFixed)

include h

theorem eq_none_of_isUnfixed {found : Option Hit} (hunfixed : ∀ hit, found = some hit → hit.IsUnfixed w) :
    found = none := by
  apply Option.eq_none_iff_forall_ne_some.mpr
  intro hit hsome
  obtain ⟨f, hf, -, hf'⟩ := hunfixed hit hsome
  exact (h f hf).not_isUnfixed hf'

theorem CommandInjection.matcher_eq_none {r : Rule} (hr : r ∈ rules) : r.matcher w = none :=
  eq_none_of_isUnfixed h fun _ => isUnfixed_of_hit hr

theorem SqlInjection.matcher_eq_none {r : Rule} (hr : r ∈ rules) : r.matcher w = none :=
  eq_none_of_isUnfixed h fun _ => isUnfixed_of_hit hr

theorem PathTraversal.matcher_eq_none {r : Rule} (hr : r ∈ rules) : r.matcher w = none :=
  eq_none_of_isUnfixed h fun _ => isUnfixed_of_hit hr

theorem RequestForgery.matcher_eq_none {r : Rule} (hr : r ∈ rules) : r.matcher w = none :=
  eq_none_of_isUnfixed h fun _ => isUnfixed_of_hit hr

end

/-- Where every operand that a statement passes on or assigns is fixed, no rule on commands, queries,
paths or requests fires. -/
theorem clean_of_fixed_operands (w : Window) (h : ∀ f ∈ w.head, ∀ e ∈ f.args, e.IsFixed) (rule : Rule)
    (hr : rule ∈ Registry.builtin.rules)
    (hcategory : rule.category ∈ [.commandInjection, .sqlInjection, .pathTraversal, .ssrf]) :
    rule.matcher w = none := by
  simp only [Registry.builtin, List.mem_append] at hr
  obtain ((((hr | hr) | hr) | hr) | hr) | hr := hr
  · exact CommandInjection.matcher_eq_none h hr
  · exact SqlInjection.matcher_eq_none h hr
  · exact PathTraversal.matcher_eq_none h hr
  · exact RequestForgery.matcher_eq_none h hr
  · simp only [HardcodedSecret.rules, List.mem_cons, List.not_mem_nil, or_false] at hr
    obtain rfl | rfl | rfl | rfl := hr <;> simp at hcategory
  · simp only [WeakCrypto.rules, List.mem_cons, List.not_mem_nil, or_false] at hr
    obtain rfl | rfl := hr <;> simp at hcategory

def Source.literalCommand : Source := ⟨⟨"n.py"⟩, .python, "exec(\"ls -\" + str(1))"⟩

theorem clean_of_fixed_operands_literal_command :
    ∃ w, Source.literalCommand.windowAt? 1 8 0 = some w ∧
      (∀ f ∈ w.head, ∀ e ∈ f.args, e.IsFixed) ∧
      ∀ rule ∈ CommandInjection.rules, rule.matcher w = none := by
  have hargs : (Source.literalCommand.windowAt? 1 8 0).map
      (fun w => w.head.flatMap fun f => f.args.flatMap Expr.operands) =
      some [.literal "ls -" false, .call ⟨"str", none, [⟨[.constant], false, none, ⟨18, 19⟩⟩]⟩,
        .constant] := by cbv
  obtain ⟨w, hw, hops⟩ := Option.map_eq_some_iff.mp hargs
  have hfixed : ∀ f ∈ w.head, ∀ e ∈ f.args, e.IsFixed := by
    intro f hf e he op hop
    have hmem : op ∈ w.head.flatMap fun f => f.args.flatMap Expr.operands :=
      List.mem_flatMap.mpr ⟨f, hf, List.mem_flatMap.mpr ⟨e, he, hop⟩⟩
    rw [hops] at hmem
    simp only [List.mem_cons, List.not_mem_nil, or_false] at hmem
    obtain rfl | rfl | rfl := hmem
    · exact .literal (by decide)
    · exact .call (.inr (by decide)) (by simp) (by simp [Operand.IsFixed.constant])
    · exact .constant
  refine ⟨w, hw, hfixed, ?_⟩
  intro rule hr
  apply clean_of_fixed_operands w hfixed rule
  · simp [Registry.builtin, hr]
  · simp only [CommandInjection.rules, List.mem_cons, List.not_mem_nil, or_false] at hr
    obtain rfl | rfl | rfl := hr <;> simp

end SourceAudit
