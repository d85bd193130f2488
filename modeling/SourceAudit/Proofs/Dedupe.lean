import SourceAudit.Proofs.Comparison

/-! Which findings survive when overlapping ones are thinned out. Main statement: a choice of findings
that always takes the preferred of two clashing ones may be made before or after the thinning. -/
namespace SourceAudit

open Std

section Sorting

variable {le : α → α → Bool} (trans : ∀ a b c, le a b → le b c → le a c)
  (total : ∀ a b, le a b || le b a)

include trans total

theorem mergeSort_cons_eq_filter (a : α) (l : List α) :
    (a :: l).mergeSort le =
      (l.mergeSort le).filter (fun b => !le a b) ++ a :: (l.mergeSort le).filter (le a) := by
  obtain ⟨small, large, hcons, hl, hsmall⟩ := List.mergeSort_cons trans total a l
  have hsorted := List.pairwise_mergeSort trans total (a :: l)
  rw [hcons, List.pairwise_append, List.pairwise_cons] at hsorted
  have hlarge : ∀ b ∈ large, le a b = true := hsorted.2.1.1
  rw [hcons, hl, List.filter_append, List.filter_append]
  rw [List.filter_eq_self.mpr hsmall, List.filter_eq_self.mpr hlarge]
  have hnone : large.filter (fun b => !le a b) = [] := by
    apply List.filter_eq_nil_iff.mpr
    intro b hb
    simp [hlarge b hb]
  have hnone' : small.filter (le a) = [] := by
    apply List.filter_eq_nil_iff.mpr
    intro b hb
    simpa using hsmall b hb
  rw [hnone, hnone', List.append_nil, List.nil_append]

/-- A stable sort of a part is that part of the sorted whole. -/
theorem filter_mergeSort (p : α → Bool) (l : List α) :
    (l.mergeSort le).filter p = (l.filter p).mergeSort le := by
  induction l with
  | nil => simp
  | cons a l ih =>
    have hcomm (q : α → Bool) :
        ((l.mergeSort le).filter q).filter p = ((l.filter p).mergeSort le).filter q := by
      rw [← ih, List.filter_filter, List.filter_filter]
      simp only [Bool.and_comm]
    by_cases h : p a = true
    · rw [mergeSort_cons_eq_filter trans total, List.filter_append, List.filter_cons_of_pos h,
        List.filter_cons_of_pos h, hcomm, hcomm, mergeSort_cons_eq_filter trans total]
    · obtain ⟨small, large, hcons, hl, -⟩ := List.mergeSort_cons trans total a l
      rw [List.filter_cons_of_neg h, ← ih, hcons, hl, List.filter_append, List.filter_append,
        List.filter_cons_of_neg h]

end Sorting

namespace Finding

/-- The choice takes the preferred of two clashing findings whenever it takes the other. -/
def TakesPreferred (p : Finding → Bool) : Prop :=
  ∀ a b, a.clashes b = true → (a.preference b).isLE = true → p b = true → p a = true

theorem pairwise_sorted (fs : List Finding) :
    (fs.mergeSort fun a b => (a.preference b).isLE).Pairwise fun a b =>
      (a.preference b).isLE = true :=
  List.pairwise_mergeSort (fun _ _ _ => TransCmp.isLE_trans) (isLE_total preference) fs

theorem mem_keep {kept : List Finding} {f g : Finding} (h : g ∈ keep kept f) :
    g = f ∨ g ∈ kept := by
  unfold keep at h
  split at h
  · exact .inr h
  · exact List.mem_cons.mp h

theorem mem_keep_of_mem {kept : List Finding} {k : Finding} (h : k ∈ kept) (f : Finding) :
    k ∈ keep kept f := by
  unfold keep
  split
  · exact h
  · exact List.mem_cons_of_mem f h

theorem mem_foldl_keep_of_mem {kept : List Finding} {k : Finding} (h : k ∈ kept) (fs : List Finding) :
    k ∈ fs.foldl keep kept := by
  induction fs generalizing kept with
  | nil => exact h
  | cons f fs ih => exact ih (mem_keep_of_mem h f)

/-- One step of the thinning, seen through a choice that would take every obstacle of what it takes. -/
theorem filter_keep {p : Finding → Bool} {kept : List Finding} {f : Finding}
    (hp : ∀ k ∈ kept, k.clashes f = true → p f = true → p k = true) :
    (keep kept f).filter p = if p f then keep (kept.filter p) f else kept.filter p := by
  by_cases hf : p f = true
  · have hany : (kept.filter p).any (·.clashes f) = kept.any (·.clashes f) := by
      rw [Bool.eq_iff_iff, List.any_eq_true, List.any_eq_true]
      constructor
      · rintro ⟨k, hk, hc⟩
        exact ⟨k, (List.mem_filter.mp hk).1, hc⟩
      · rintro ⟨k, hk, hc⟩
        exact ⟨k, List.mem_filter.mpr ⟨hk, hp k hk hc hf⟩, hc⟩
    rw [if_pos hf, keep, keep, hany]
    split
    · rfl
    · exact List.filter_cons_of_pos hf
  · rw [if_neg hf, keep]
    split
    · rfl
    · exact List.filter_cons_of_neg hf

theorem filter_foldl_keep {p : Finding → Bool} (hp : TakesPreferred p) (fs kept : List Finding)
    (hfs : fs.Pairwise fun a b => (a.preference b).isLE = true)
    (hkept : ∀ k ∈ kept, ∀ f ∈ fs, (k.preference f).isLE = true) :
    (fs.foldl keep kept).filter p = (fs.filter p).foldl keep (kept.filter p) := by
  induction fs generalizing kept with
  | nil => rfl
  | cons f fs ih =>
    have hstep : (keep kept f).filter p =
        if p f then keep (kept.filter p) f else kept.filter p := by
      apply filter_keep
      intro k hk hc
      exact hp k f hc (hkept k hk f List.mem_cons_self)
    -- whatever is kept so far still comes before all that is left
    have hnext : ∀ k ∈ keep kept f, ∀ g ∈ fs, (k.preference g).isLE = true := by
      intro k hk g hg
      obtain rfl | hk := mem_keep hk
      · exact List.rel_of_pairwise_cons hfs hg
      · exact hkept k hk g (List.mem_cons_of_mem f hg)
    rw [List.foldl_cons, ih _ hfs.tail hnext, hstep]
    by_cases hf : p f = true
    · rw [if_pos hf, List.filter_cons_of_pos hf, List.foldl_cons]
    · rw [if_neg hf, List.filter_cons_of_neg hf]

theorem filter_dedupe {p : Finding → Bool} (hp : TakesPreferred p) (fs : List Finding) :
    (dedupe fs).filter p = dedupe (fs.filter p) := by
  rw [dedupe, dedupe, List.filter_reverse]
  rw [filter_foldl_keep hp _ _ (pairwise_sorted fs) (by simp), List.filter_nil]
  rw [filter_mergeSort (fun _ _ _ => TransCmp.isLE_trans) (isLE_total preference)]

theorem reverse_keep_sublist (kept : List Finding) (f : Finding) :
    (keep kept f).reverse.Sublist (kept.reverse ++ [f]) := by
  unfold keep
  split
  · exact List.sublist_append_left _ _
  · simp

theorem reverse_foldl_keep_sublist (fs kept : List Finding) :
    (fs.foldl keep kept).reverse.Sublist (kept.reverse ++ fs) := by
  induction fs generalizing kept with
  | nil => simp
  | cons f fs ih =>
    rw [List.foldl_cons, List.append_cons]
    exact (ih _).trans ((reverse_keep_sublist kept f).append_right fs)

theorem dedupe_sublist (fs : List Finding) :
    (dedupe fs).Sublist (fs.mergeSort fun a b => (a.preference b).isLE) :=
  reverse_foldl_keep_sublist _ []

theorem mem_of_mem_dedupe {fs : List Finding} {f : Finding} (h : f ∈ dedupe fs) : f ∈ fs :=
  List.mem_mergeSort.mp ((dedupe_sublist fs).subset h)

theorem preference_of_clashes {a b : Finding} (hc : a.clashes b = true) :
    a.preference b =
      ((b.severity.compare a.severity).then <| (compare a.ruleId b.ruleId).then <|
        (compare a.span.start b.span.start).then <| compare a.span.stop b.span.stop) := by
  simp only [clashes, Bool.and_eq_true, decide_eq_true_eq] at hc
  obtain ⟨⟨hcategory, hpath⟩, -⟩ := hc
  have heq : a.category.compare b.category = .eq := by
    rw [hcategory]
    exact ReflCmp.compare_self
  rw [preference, heq, Path.compare_eq_iff_same.mpr hpath, Ordering.eq_then, Ordering.eq_then]

theorem severity_le_of_clashes {a b : Finding} (hc : a.clashes b = true)
    (h : (a.preference b).isLE = true) : b.severity ≤ a.severity := by
  rw [preference_of_clashes hc] at h
  exact Severity.isLE_compare.mp (Ordering.isLE_then_iff_and.mp h).1

end Finding
end SourceAudit
