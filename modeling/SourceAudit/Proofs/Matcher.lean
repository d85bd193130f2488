import SourceAudit.Registry

/-! Where the built-in rules fire: each points at one fragment of the head, and that fragment is of a
kind the rule declares. -/
namespace SourceAudit

def Hit.CoversFragment (hit : Hit) (w : Window) (kinds : FragmentKinds) : Prop :=
  ∃ f ∈ w.head, hit.span = f.span ∧ kinds.contains f.kind = true

def Rule.PointsAtFragment (r : Rule) : Prop :=
  ∀ (w : Window) (hit : Hit), r.matcher w = some hit → hit.CoversFragment w r.kinds

@[simp] theorem Hit.span_of (f : Fragment) : (Hit.of f).span = f.span := rfl

@[simp] theorem Hit.span_withMessage (hit : Hit) (message : String) :
    (hit.withMessage message).span = hit.span := rfl

section

variable {w : Window} {hit : Hit} {kinds : FragmentKinds}

theorem coversFragment_of_find? {p : Fragment → Bool} {point : Fragment → Hit}
    (hspan : ∀ f, (point f).span = f.span)
    (hkind : ∀ f, p f = true → kinds.contains f.kind = true)
    (h : (w.head.find? p).map point = some hit) : hit.CoversFragment w kinds := by
  obtain ⟨f, hf, rfl⟩ := Option.map_eq_some_iff.mp h
  exact ⟨f, List.mem_of_find?_eq_some hf, hspan f, hkind f (List.find?_some hf)⟩

theorem coversFragment_of_filter_find? {sort p : Fragment → Bool} {point : Fragment → Hit}
    (hspan : ∀ f, (point f).span = f.span)
    (hkind : ∀ f, sort f = true → kinds.contains f.kind = true)
    (h : ((w.head.filter sort).find? p).map point = some hit) : hit.CoversFragment w kinds := by
  obtain ⟨f, hf, rfl⟩ := Option.map_eq_some_iff.mp h
  obtain ⟨hmem, hsort⟩ := List.mem_filter.mp (List.mem_of_find?_eq_some hf)
  exact ⟨f, hmem, hspan f, hkind f hsort⟩

theorem Fragment.contains_kind_of_isAssignment {f : Fragment} (h : f.isAssignment = true) :
    FragmentKinds.contains { assignment := true } f.kind = true := by
  rw [of_decide_eq_true h]
  rfl

theorem Fragment.contains_kind_of_isCall {f : Fragment} (h : f.isCall = true) :
    FragmentKinds.contains { call := true } f.kind = true := by
  rw [of_decide_eq_true h]
  rfl

theorem coversFragment_of_sink {sinks : List String} {p : Fragment → Bool}
    {point : Fragment → Hit} (hspan : ∀ f, (point f).span = f.span)
    (h : (w.head.find? fun f => f.isSink sinks && p f).map point = some hit) :
    hit.CoversFragment w { call := true } := by
  apply coversFragment_of_find? hspan _ h
  intro f hf
  simp only [Fragment.isSink, Bool.and_eq_true] at hf
  exact Fragment.contains_kind_of_isCall hf.1.1

theorem coversFragment_of_builtThenUsed {built : Expr → Bool} {sink : Fragment → Bool}
    (h : builtThenUsed w built sink = some hit) : hit.CoversFragment w { assignment := true } :=
  coversFragment_of_filter_find? (fun _ => rfl) (fun _ => Fragment.contains_kind_of_isAssignment) h

end

theorem CommandInjection.pointsAtFragment {r : Rule} (hr : r ∈ rules) : r.PointsAtFragment := by
  intro w hit h
  simp only [rules, List.mem_cons, List.not_mem_nil, or_false] at hr
  obtain rfl | rfl | rfl := hr
  · exact coversFragment_of_sink (fun _ => rfl) h
  · simp only [shellFlag, Bool.and_assoc] at h
    exact coversFragment_of_sink (fun _ => rfl) h
  · exact coversFragment_of_builtThenUsed h

theorem SqlInjection.pointsAtFragment {r : Rule} (hr : r ∈ rules) : r.PointsAtFragment := by
  intro w hit h
  simp only [rules, List.mem_cons, List.not_mem_nil, or_false] at hr
  obtain rfl | rfl | rfl := hr
  · exact coversFragment_of_sink (fun _ => rfl) h
  · apply coversFragment_of_find? (fun _ => rfl) _ h
    intro f hf
    cases hk : f.kind <;> simp_all [formatsSql, FragmentKinds.contains]
  · exact coversFragment_of_builtThenUsed h

theorem PathTraversal.pointsAtFragment {r : Rule} (hr : r ∈ rules) : r.PointsAtFragment := by
  intro w hit h
  simp only [rules, List.mem_cons, List.not_mem_nil, or_false] at hr
  obtain rfl | rfl := hr
  · simp only [openConcat, Option.ite_none_left_eq_some] at h
    exact coversFragment_of_sink (fun _ => rfl) h.2
  · simp only [builtThenOpened, Option.ite_none_left_eq_some] at h
    exact coversFragment_of_builtThenUsed h.2

theorem RequestForgery.pointsAtFragment {r : Rule} (hr : r ∈ rules) : r.PointsAtFragment := by
  intro w hit h
  simp only [rules, List.mem_cons, List.not_mem_nil, or_false] at hr
  obtain rfl | rfl := hr
  · simp only [dynamicUrl, Option.ite_none_left_eq_some] at h
    exact coversFragment_of_sink (fun _ => rfl) h.2
  · simp only [builtThenRequested, Option.ite_none_left_eq_some] at h
    exact coversFragment_of_builtThenUsed h.2

theorem HardcodedSecret.pointsAtFragment {r : Rule} (hr : r ∈ rules) : r.PointsAtFragment := by
  intro w hit h
  simp only [rules, List.mem_cons, List.not_mem_nil, or_false] at hr
  obtain rfl | rfl | rfl | rfl := hr
  · obtain ⟨a, ha, hhit⟩ := List.exists_of_findSome?_eq_some h
    obtain ⟨kind, -, rfl⟩ := Option.map_eq_some_iff.mp hhit
    obtain ⟨ha, hkind⟩ := List.mem_filter.mp ha
    exact ⟨a, ha, rfl, Fragment.contains_kind_of_isAssignment hkind⟩
  · apply coversFragment_of_find? (fun _ => rfl) _ h
    intro f hf
    simp only [Bool.and_eq_true, decide_eq_true_eq] at hf
    rw [hf.1]
    rfl
  · exact coversFragment_of_filter_find? (fun _ => rfl)
      (fun _ => Fragment.contains_kind_of_isAssignment) h
  · apply coversFragment_of_filter_find? (fun _ => rfl) _ h
    intro f hf
    exact Fragment.contains_kind_of_isAssignment (Bool.and_eq_true _ _ ▸ hf).1

theorem WeakCrypto.isCall_of_weakAlgorithm? {f : Fragment} {name : String}
    (h : weakAlgorithm? f = some name) : f.isCall = true := by
  by_cases hcall : f.isCall = true
  · exact hcall
  · simp [weakAlgorithm?, hcall] at h

theorem WeakCrypto.mem_head_of_weakCall? {w : Window} {f : Fragment} {name : String}
    (h : weakCall? w = some (f, name)) : f ∈ w.head ∧ f.isCall = true := by
  obtain ⟨g, hg, hname⟩ := List.exists_of_findSome?_eq_some h
  obtain ⟨_, hweak, heq⟩ := Option.map_eq_some_iff.mp hname
  cases heq
  exact ⟨hg, isCall_of_weakAlgorithm? hweak⟩

theorem WeakCrypto.pointsAtFragment {r : Rule} (hr : r ∈ rules) : r.PointsAtFragment := by
  intro w hit h
  simp only [rules, List.mem_cons, List.not_mem_nil, or_false] at hr
  obtain rfl | rfl := hr
  · simp only [weakHashCredential] at h
    split at h
    next => cases h
    next f name hf =>
      obtain ⟨hmem, hcall⟩ := mem_head_of_weakCall? hf
      split at h
      next =>
        cases h
        exact ⟨f, hmem, rfl, Fragment.contains_kind_of_isCall hcall⟩
      next => cases h
  · obtain ⟨⟨f, name⟩, hf, rfl⟩ := Option.map_eq_some_iff.mp h
    obtain ⟨hmem, hcall⟩ := mem_head_of_weakCall? hf
    exact ⟨f, hmem, rfl, Fragment.contains_kind_of_isCall hcall⟩

theorem Registry.pointsAtFragment_builtin {r : Rule} (hr : r ∈ builtin.rules) :
    r.PointsAtFragment := by
  simp only [builtin, List.mem_append] at hr
  obtain ((((hr | hr) | hr) | hr) | hr) | hr := hr
  · exact CommandInjection.pointsAtFragment hr
  · exact SqlInjection.pointsAtFragment hr
  · exact PathTraversal.pointsAtFragment hr
  · exact RequestForgery.pointsAtFragment hr
  · exact HardcodedSecret.pointsAtFragment hr
  · exact WeakCrypto.pointsAtFragment hr

end SourceAudit
