import SourceAudit.Proofs.Operands
import SourceAudit.Scan

/-! Splices. A text with a piece spliced in is never fixed in the source, however the piece is wrapped in
calls, so each rule on commands, queries, paths or requests points at a fragment with a value that the
source does not fix. -/
namespace SourceAudit

theorem Call.isDynamic_of_splices {c : Call} (h : c.splices = true) : c.isDynamic = true := by
  have hop : (Operand.call c).isDynamic = true := Operand.isDynamic_of_splices h
  exact hop

/-- Something that the fragment passes on, assigns or formats is not fixed in the source. -/
def Fragment.IsUnfixed (f : Fragment) : Prop :=
  (∃ e ∈ f.args, e.isDynamic = true) ∨
    f.isCall = true ∧ (SqlInjection.callOf f).isBuilder = true ∧
      (SqlInjection.callOf f).isDynamic = true

def Hit.IsUnfixed (hit : Hit) (w : Window) : Prop := ∃ f ∈ w.head, hit.span = f.span ∧ f.IsUnfixed

section

variable {f : Fragment} {p : Expr → Bool} (hp : ∀ e : Expr, p e = true → e.isDynamic = true)

include hp

theorem Fragment.isUnfixed_of_any {es : List Expr} (hes : ∀ e ∈ es, e ∈ f.args)
    (h : es.any p = true) : f.IsUnfixed := by
  obtain ⟨e, he, hpe⟩ := List.any_eq_true.mp h
  exact .inl ⟨e, hes e he, hp e hpe⟩

theorem Fragment.isUnfixed_of_value? (h : f.value?.any p = true) : f.IsUnfixed := by
  obtain ⟨e, he, hpe⟩ := (Option.any_eq_true _ _).mp h
  rw [value?, Option.ite_none_right_eq_some] at he
  exact .inl ⟨e, List.mem_of_head? he.2, hp e hpe⟩

theorem Fragment.isUnfixed_of_head?_positional (h : f.positional.head?.any p = true) :
    f.IsUnfixed := by
  obtain ⟨e, he, hpe⟩ := (Option.any_eq_true _ _).mp h
  exact .inl ⟨e, (List.mem_filter.mp (List.mem_of_head? he)).1, hp e hpe⟩

end

section

variable {w : Window} {hit : Hit}

theorem Hit.isUnfixed_of_find? {p : Fragment → Bool} {point : Fragment → Hit}
    (hspan : ∀ f, (point f).span = f.span) (hp : ∀ f, p f = true → f.IsUnfixed)
    (h : (w.head.find? p).map point = some hit) : hit.IsUnfixed w := by
  obtain ⟨f, hf, rfl⟩ := Option.map_eq_some_iff.mp h
  exact ⟨f, List.mem_of_find?_eq_some hf, hspan f, hp f (List.find?_some hf)⟩

theorem Hit.isUnfixed_of_builtThenUsed {built : Expr → Bool} {sink : Fragment → Bool}
    (hbuilt : ∀ e : Expr, built e = true → e.isDynamic = true)
    (h : builtThenUsed w built sink = some hit) : hit.IsUnfixed w := by
  obtain ⟨f, hf, rfl⟩ := Option.map_eq_some_iff.mp h
  have hhead := (List.mem_filter.mp (List.mem_of_find?_eq_some hf)).1
  have hused := List.find?_some hf
  rw [Bool.and_eq_true] at hused
  exact ⟨f, hhead, rfl, Fragment.isUnfixed_of_value? hbuilt hused.1⟩

theorem CommandInjection.isUnfixed_of_hit {r : Rule} (hr : r ∈ rules) (h : r.matcher w = some hit) :
    hit.IsUnfixed w := by
  simp only [rules, List.mem_cons, List.not_mem_nil, or_false] at hr
  obtain rfl | rfl | rfl := hr
  · apply Hit.isUnfixed_of_find? (fun _ => rfl) _ h
    intro f hf
    exact Fragment.isUnfixed_of_any (fun _ => Expr.isDynamic_of_splices) (fun _ => id)
      (Bool.and_eq_true_iff.mp hf).2
  · apply Hit.isUnfixed_of_find? (fun _ => rfl) _ h
    intro f hf
    exact Fragment.isUnfixed_of_head?_positional (fun _ => id) (Bool.and_eq_true_iff.mp hf).2
  · exact Hit.isUnfixed_of_builtThenUsed (fun _ => Expr.isDynamic_of_splices) h

theorem SqlInjection.isDynamic_of_isDynamicSql {e : Expr} (h : isDynamicSql e = true) :
    e.isDynamic = true :=
  Expr.isDynamic_of_splices (Bool.and_eq_true_iff.mp h).1

theorem SqlInjection.isUnfixed_of_formatsSql {f : Fragment} (h : formatsSql f = true) :
    f.IsUnfixed := by
  cases hkind : f.kind with
  | assignment =>
    rw [formatsSql, hkind] at h
    exact Fragment.isUnfixed_of_value? (fun _ => isDynamic_of_isDynamicSql) h
  | call =>
    simp only [formatsSql, hkind, Bool.and_eq_true] at h
    exact .inr ⟨decide_eq_true hkind, h.1.1, Call.isDynamic_of_splices h.1.2⟩
  | identifier | stringLiteral => simp [formatsSql, hkind] at h

theorem SqlInjection.isUnfixed_of_hit {r : Rule} (hr : r ∈ rules) (h : r.matcher w = some hit) :
    hit.IsUnfixed w := by
  simp only [rules, List.mem_cons, List.not_mem_nil, or_false] at hr
  obtain rfl | rfl | rfl := hr
  · apply Hit.isUnfixed_of_find? (fun _ => rfl) _ h
    intro f hf
    exact Fragment.isUnfixed_of_any (fun _ => isDynamic_of_isDynamicSql) (fun _ => id)
      (Bool.and_eq_true_iff.mp hf).2
  · exact Hit.isUnfixed_of_find? (fun _ => rfl) (fun _ => isUnfixed_of_formatsSql) h
  · exact Hit.isUnfixed_of_builtThenUsed (fun _ => isDynamic_of_isDynamicSql) h

theorem PathTraversal.isUnfixed_of_hit {r : Rule} (hr : r ∈ rules) (h : r.matcher w = some hit) :
    hit.IsUnfixed w := by
  simp only [rules, List.mem_cons, List.not_mem_nil, or_false] at hr
  obtain rfl | rfl := hr
  · simp only [openConcat, Option.ite_none_left_eq_some] at h
    apply Hit.isUnfixed_of_find? (fun _ => rfl) _ h.2
    intro f hf
    exact Fragment.isUnfixed_of_head?_positional (fun _ => Expr.isDynamic_of_splices)
      (Bool.and_eq_true_iff.mp hf).2
  · simp only [builtThenOpened, Option.ite_none_left_eq_some] at h
    apply Hit.isUnfixed_of_builtThenUsed _ h.2
    exact fun e he => Expr.isDynamic_of_splices (Bool.and_eq_true_iff.mp he).1

theorem RequestForgery.isUnfixed_of_hit {r : Rule} (hr : r ∈ rules) (h : r.matcher w = some hit) :
    hit.IsUnfixed w := by
  simp only [rules, List.mem_cons, List.not_mem_nil, or_false] at hr
  obtain rfl | rfl := hr
  · simp only [dynamicUrl, Option.ite_none_left_eq_some] at h
    apply Hit.isUnfixed_of_find? (fun _ => rfl) _ h.2
    intro f hf
    apply Fragment.isUnfixed_of_any (fun _ => Expr.isDynamic_of_splices) _
      (Bool.and_eq_true_iff.mp hf).2
    exact fun e he => (List.mem_filter.mp (List.mem_of_mem_take he)).1
  · simp only [builtThenRequested, Option.ite_none_left_eq_some] at h
    apply Hit.isUnfixed_of_builtThenUsed _ h.2
    exact fun e he => Expr.isDynamic_of_splices (Bool.and_eq_true_iff.mp he).1

end

theorem Registry.isUnfixed_of_hit {r : Rule} (hr : r ∈ builtin.rules)
    (hcategory : r.category ∈ [.commandInjection, .sqlInjection, .pathTraversal, .ssrf]) {w : Window}
    {hit : Hit} (h : r.matcher w = some hit) : hit.IsUnfixed w := by
  simp only [builtin, List.mem_append] at hr
  obtain ((((hr | hr) | hr) | hr) | hr) | hr := hr
  · exact CommandInjection.isUnfixed_of_hit hr h
  · exact SqlInjection.isUnfixed_of_hit hr h
  · exact PathTraversal.isUnfixed_of_hit hr h
  · exact RequestForgery.isUnfixed_of_hit hr h
  · simp only [HardcodedSecret.rules, List.mem_cons, List.not_mem_nil, or_false] at hr
    obtain rfl | rfl | rfl | rfl := hr <;> simp at hcategory
  · simp only [WeakCrypto.rules, List.mem_cons, List.not_mem_nil, or_false] at hr
    obtain rfl | rfl := hr <;> simp at hcategory

/-- Whatever splices is dynamic, an expression as well as a call. So where a rule on injected input fires,
the fragment it points at has a value that is not fixed in the source. -/
theorem splices_imply_dynamic :
    (∀ e : Expr, e.splices = true → e.isDynamic = true) ∧
    (∀ c : Call, c.splices = true → c.isDynamic = true) ∧
    ∀ rule ∈ Registry.builtin.rules,
      rule.category ∈ [.commandInjection, .sqlInjection, .pathTraversal, .ssrf] →
      ∀ (w : Window) (hit : Hit), rule.matcher w = some hit → hit.IsUnfixed w :=
  ⟨fun _ => Expr.isDynamic_of_splices, fun _ => Call.isDynamic_of_splices,
    fun _ hr hcategory _ _ => Registry.isUnfixed_of_hit hr hcategory⟩

theorem splices_imply_dynamic_converted_name :
    let c : Call := ⟨"str", none, [⟨[.literal "\x7bd\x7d" true], false, none, .zero⟩]⟩
    let e : Expr := ⟨[.literal "ls " false, .call c], true, none, .zero⟩
    (c.splices = true ∧ c.isDynamic = true) ∧ (e.splices = true ∧ e.isDynamic = true) ∧
    ∃ rule ∈ PathTraversal.rules, ∃ w,
      (Source.mk ⟨"n.py"⟩ .python "open(\"/d/\" + p)").windowAt? 1 8 0 = some w ∧
      ∃ hit, rule.matcher w = some hit ∧ hit.IsUnfixed w := by
  intro c e
  obtain ⟨hexpr, hcall, hrule⟩ := splices_imply_dynamic
  have hc : c.splices = true := by decide
  have he : e.splices = true := by decide
  have hopened : ∃ rule ∈ PathTraversal.rules,
      rule.hitAt? ⟨⟨"n.py"⟩, .python, "open(\"/d/\" + p)"⟩ 1 8 0 = some (some ⟨⟨0, 15⟩, none⟩) := by
    decide +kernel
  obtain ⟨rule, hr, hhit⟩ := hopened
  obtain ⟨w, hw, hm⟩ := Option.map_eq_some_iff.mp hhit
  refine ⟨⟨hc, hcall c hc⟩, ⟨he, hexpr e he⟩, rule, hr, w, hw, _, hm, ?_⟩
  apply hrule rule _ _ w _ hm
  · simp [Registry.builtin, hr]
  · simp only [PathTraversal.rules, List.mem_cons, List.not_mem_nil, or_false] at hr
    obtain rfl | rfl := hr <;> simp

end SourceAudit
