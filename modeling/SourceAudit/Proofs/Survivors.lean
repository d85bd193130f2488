import Mathlib.Data.List.Pairwise
import Mathlib.Data.Multiset.AddSub
import Mathlib.Data.String.Basic
import SourceAudit.Proofs.Dedupe

/-! What is left when overlapping findings are thinned out. Main statements: no two of the kept findings
clash, and each dropped one clashes with a kept one that outranks it; a second thinning changes nothing;
and the order in which the findings came shows only where their keys tie. -/
namespace SourceAudit.Finding

open Std

/-! ### One step and a whole pass -/

theorem clashes_comm (a b : Finding) : a.clashes b = b.clashes a := by
  simp only [clashes, Path.same, Span.overlaps_comm a.span b.span, eq_comm]

theorem pairwise_keep {kept : List Finding} (h : kept.Pairwise fun a b => a.clashes b = false)
    (f : Finding) : (keep kept f).Pairwise fun a b => a.clashes b = false := by
  unfold keep
  split
  next => exact h
  next hnone =>
    refine List.pairwise_cons.mpr ⟨?_, h⟩
    intro k hk
    rw [clashes_comm]
    simpa using fun hc => hnone (List.any_eq_true.mpr ⟨k, hk, hc⟩)

theorem pairwise_foldl_keep {kept : List Finding} (h : kept.Pairwise fun a b => a.clashes b = false)
    (fs : List Finding) : (fs.foldl keep kept).Pairwise fun a b => a.clashes b = false := by
  induction fs generalizing kept with
  | nil => exact h
  | cons f fs ih => exact ih (pairwise_keep h f)

/-- A finding that is met more often than it is kept clashes with a kept one that was met before. -/
theorem exists_clash_of_dropped {f : Finding} (fs kept : List Finding)
    (hfs : fs.Pairwise fun a b => (a.preference b).isLE = true)
    (hkept : ∀ k ∈ kept, ∀ g ∈ fs, (k.preference g).isLE = true)
    (h : (fs.foldl keep kept).count f < kept.count f + fs.count f) :
    ∃ k ∈ fs.foldl keep kept, k.clashes f = true ∧ (k.preference f).isLE = true := by
  induction fs generalizing kept with
  | nil => simp at h
  | cons g fs ih =>
    rw [List.foldl_cons] at h ⊢
    by_cases hclash : ∃ k ∈ kept, k.clashes g = true
    · have hsame : keep kept g = kept := if_pos (List.any_eq_true.mpr hclash)
      rw [hsame] at h ⊢
      by_cases hg : g = f
      · obtain ⟨k, hk, hc⟩ := hclash
        subst hg
        exact ⟨k, mem_foldl_keep_of_mem hk fs, hc, hkept k hk g List.mem_cons_self⟩
      · apply ih kept hfs.tail (fun k hk b hb => hkept k hk b (List.mem_cons_of_mem g hb))
        rwa [List.count_cons_of_ne hg] at h
    · have hmore : keep kept g = g :: kept := if_neg (fun hany => hclash (List.any_eq_true.mp hany))
      rw [hmore] at h ⊢
      apply ih (g :: kept) hfs.tail
      · intro k hk b hb
        obtain rfl | hk := List.mem_cons.mp hk
        · exact List.rel_of_pairwise_cons hfs hb
        · exact hkept k hk b (List.mem_cons_of_mem g hb)
      · rw [List.count_cons] at h ⊢
        omega

theorem foldl_keep_of_pairwise (fs kept : List Finding)
    (h : fs.Pairwise fun a b => a.clashes b = false)
    (hkept : ∀ k ∈ kept, ∀ f ∈ fs, k.clashes f = false) :
    fs.foldl keep kept = fs.reverse ++ kept := by
  induction fs generalizing kept with
  | nil => rfl
  | cons f fs ih =>
    have hnone : kept.any (·.clashes f) = false := by
      rw [List.any_eq_false]
      intro k hk
      simp [hkept k hk f List.mem_cons_self]
    have hmore : keep kept f = f :: kept := if_neg (by simp [hnone])
    rw [List.foldl_cons, hmore, ih (f :: kept) h.tail, List.reverse_cons, List.append_assoc,
      List.singleton_append]
    intro k hk g hg
    obtain rfl | hk := List.mem_cons.mp hk
    · exact List.rel_of_pairwise_cons h hg
    · exact hkept k hk g (List.mem_cons_of_mem f hg)

/-! ### The thinning of a list -/

theorem dedupe_subperm (fs : List Finding) : (dedupe fs).Subperm fs :=
  (dedupe_sublist fs).subperm.trans (List.mergeSort_perm fs _).subperm

theorem pairwise_dedupe (fs : List Finding) :
    (dedupe fs).Pairwise fun a b => a.clashes b = false := by
  rw [dedupe, List.pairwise_reverse]
  apply (pairwise_foldl_keep .nil _).imp
  intro a b h
  rwa [clashes_comm]

theorem not_clashes_of_mem_dedupe {fs : List Finding} {a b : Finding} (ha : a ∈ dedupe fs)
    (hb : b ∈ dedupe fs) (hne : a ≠ b) : a.clashes b = false := by
  have : Std.Symm fun a b : Finding => a.clashes b = false := ⟨fun a b h => by rwa [clashes_comm]⟩
  exact (pairwise_dedupe fs).forall ha hb hne

theorem exists_clash_of_count_lt {fs : List Finding} {f : Finding}
    (h : (dedupe fs).count f < fs.count f) :
    ∃ k ∈ dedupe fs, k.clashes f = true ∧ (k.preference f).isLE = true := by
  have hcount : ((fs.mergeSort fun a b => (a.preference b).isLE).foldl keep []).count f <
      ([] : List Finding).count f + (fs.mergeSort fun a b => (a.preference b).isLE).count f := by
    rw [dedupe, List.count_reverse] at h
    rwa [List.count_nil, Nat.zero_add, (List.mergeSort_perm fs _).count_eq]
  obtain ⟨k, hk, hclash⟩ := exists_clash_of_dropped _ [] (pairwise_sorted fs) (by simp) hcount
  exact ⟨k, List.mem_reverse.mpr hk, hclash⟩

/-- Among findings of one category and path `k` comes first: it is worse, or as bad and of a rule with a
smaller id, or of the same rule and not later in the text. -/
def Outranks (k f : Finding) : Prop :=
  f.severity.rank < k.severity.rank ∨ f.severity = k.severity ∧
    (k.ruleId < f.ruleId ∨ k.ruleId = f.ruleId ∧
      (k.span.start < f.span.start ∨ k.span.start = f.span.start ∧ k.span.stop ≤ f.span.stop))

theorem isLE_preference_of_clashes {k f : Finding} (hc : k.clashes f = true) :
    (k.preference f).isLE = true ↔ k.Outranks f := by
  have hseverity : f.severity.rank = k.severity.rank ↔ f.severity = k.severity :=
    ⟨Severity.rank_injective, congrArg Severity.rank⟩
  rw [preference_of_clashes hc, Outranks]
  simp only [Ordering.isLE_then_iff_or, Severity.compare, compare_lt_iff_lt,
    LawfulEqCmp.compare_eq_iff_eq, Nat.isLE_compare, hseverity]

/-- Thinning keeps findings of the list, each no more often than it came. No two of them clash, and a
finding that is dropped, be it one of several alike, clashes with a kept one that outranks it. -/
theorem dedupe_keeps_outranking (fs : List Finding) :
    (dedupe fs : Multiset Finding) ≤ fs ∧
    ((dedupe fs).Pairwise fun a b => a.clashes b = false) ∧
    ∀ f ∈ (fs : Multiset Finding) - dedupe fs, ∃ k ∈ dedupe fs,
      k.clashes f = true ∧ k.Outranks f := by
  refine ⟨Multiset.coe_le.mpr (dedupe_subperm fs), pairwise_dedupe fs, ?_⟩
  intro f hf
  rw [Multiset.mem_sub, Multiset.coe_count, Multiset.coe_count] at hf
  obtain ⟨k, hk, hclash, hle⟩ := exists_clash_of_count_lt hf
  exact ⟨k, hk, hclash, (isLE_preference_of_clashes hclash).mp hle⟩

theorem dedupe_keeps_outranking_chain :
    let first : Finding := { (default : Finding) with severity := .high, span := ⟨0, 4⟩ }
    let middle : Finding := { (default : Finding) with severity := .medium, span := ⟨3, 8⟩ }
    let last : Finding := { (default : Finding) with severity := .low, span := ⟨7, 9⟩ }
    dedupe [first, middle, last] = [first, last] ∧
    ∃ k ∈ dedupe [first, middle, last], k.clashes middle = true ∧ k.Outranks middle := by
  intro first middle last
  have hkept : dedupe [first, middle, last] = [first, last] := by
    rw [dedupe, List.mergeSort_of_pairwise (by decide)]
    decide
  refine ⟨hkept, (dedupe_keeps_outranking [first, middle, last]).2.2 middle ?_⟩
  rw [hkept]
  decide

/-! ### Keys -/

/-- What the thinning looks at in a finding; of its path only the steps count. -/
@[ext]
structure Key where
  category : Category
  steps : List PathStep
  severity : Severity
  ruleId : String
  start : Nat
  stop : Nat

def key (f : Finding) : Key :=
  ⟨f.category, f.path.steps, f.severity, f.ruleId, f.span.start, f.span.stop⟩

namespace Key

def order (a b : Key) : Ordering :=
  (a.category.compare b.category).then <|
  (Path.compareSteps a.steps b.steps).then <|
  (b.severity.compare a.severity).then <|
  (compare a.ruleId b.ruleId).then <|
  (compare a.start b.start).then <|
  compare a.stop b.stop

def clashes (a b : Key) : Bool :=
  decide (a.category = b.category) && decide (a.steps = b.steps) &&
    Span.overlaps ⟨a.start, a.stop⟩ ⟨b.start, b.stop⟩

theorem eq_of_order {a b : Key} (h : a.order b = .eq) : a = b := by
  simp only [order, Category.compare, Severity.compare, Path.compareSteps_eq_compareLex,
    Ordering.then_eq_eq, LawfulEqCmp.compare_eq_iff_eq] at h
  obtain ⟨hcategory, hsteps, hseverity, hrule, hstart, hstop⟩ := h
  exact Key.ext (Category.rank_injective hcategory) hsteps
    (Severity.rank_injective hseverity.symm) hrule hstart hstop

end Key

theorem preference_eq_order (a b : Finding) : a.preference b = a.key.order b.key := rfl

theorem clashes_eq_clashes_key (a b : Finding) : a.clashes b = a.key.clashes b.key := rfl

theorem map_key_keep {kept kept' : List Finding} {f f' : Finding}
    (hkept : kept.map key = kept'.map key) (hf : f.key = f'.key) :
    (keep kept f).map key = (keep kept' f').map key := by
  have hany (l : List Finding) (g : Finding) :
      l.any (·.clashes g) = (l.map key).any (·.clashes g.key) := by
    rw [List.any_map]
    exact congrArg l.any (funext fun k => clashes_eq_clashes_key k g)
  unfold keep
  rw [hany, hany, hkept, hf]
  split
  · exact hkept
  · rw [List.map_cons, List.map_cons, hkept, hf]

theorem map_key_foldl_keep {fs fs' kept kept' : List Finding} (hfs : fs.map key = fs'.map key)
    (hkept : kept.map key = kept'.map key) :
    (fs.foldl keep kept).map key = (fs'.foldl keep kept').map key := by
  induction fs generalizing fs' kept kept' with
  | nil =>
    obtain rfl : fs' = [] := by simpa using hfs.symm
    exact hkept
  | cons f fs ih =>
    cases fs' with
    | nil => cases hfs
    | cons f' fs' =>
      obtain ⟨hf, hfs⟩ := List.cons.inj hfs
      rw [List.foldl_cons, List.foldl_cons]
      exact ih hfs (map_key_keep hkept hf)

theorem map_key_sorted_eq_of_perm {fs fs' : List Finding} (h : fs.Perm fs') :
    (fs.mergeSort fun a b => (a.preference b).isLE).map key =
      (fs'.mergeSort fun a b => (a.preference b).isLE).map key := by
  have hsorted (l : List Finding) : ((l.mergeSort fun a b => (a.preference b).isLE).map key).Pairwise
      fun a b => (a.order b).isLE = true :=
    List.pairwise_map.mpr (pairwise_sorted l)
  apply List.Perm.eq_of_pairwise _ (hsorted fs) (hsorted fs')
  · exact ((List.mergeSort_perm fs _).trans (h.trans (List.mergeSort_perm fs' _).symm)).map key
  · intro a b ha hb hab hba
    obtain ⟨f, -, rfl⟩ := List.mem_map.mp ha
    obtain ⟨g, -, rfl⟩ := List.mem_map.mp hb
    rw [← preference_eq_order] at hab hba
    have heq : f.preference g = .eq := OrientedCmp.isLE_antisymm hab hba
    rw [preference_eq_order] at heq
    exact Key.eq_of_order heq

theorem dedupe_of_sorted {fs : List Finding}
    (hsorted : fs.Pairwise fun a b => (a.preference b).isLE = true)
    (hclash : fs.Pairwise fun a b => a.clashes b = false) : dedupe fs = fs := by
  rw [dedupe, List.mergeSort_of_pairwise hsorted, foldl_keep_of_pairwise fs [] hclash (by simp),
    List.append_nil, List.reverse_reverse]

/-- A second thinning changes nothing, and a list in another order is thinned to the same keys in the
same order. -/
theorem dedupe_normal_form (fs : List Finding) :
    dedupe (dedupe fs) = dedupe fs ∧
    ∀ gs : List Finding, gs.Perm fs → (dedupe gs).map key = (dedupe fs).map key := by
  constructor
  · exact dedupe_of_sorted ((pairwise_sorted fs).sublist (dedupe_sublist fs)) (pairwise_dedupe fs)
  · intro gs hperm
    rw [dedupe, dedupe, List.map_reverse, List.map_reverse,
      map_key_foldl_keep (map_key_sorted_eq_of_perm hperm) rfl]

theorem dedupe_normal_form_two_spellings :
    let f : Finding := { (default : Finding) with path := ⟨"a/b"⟩, span := ⟨0, 1⟩ }
    let g : Finding := { (default : Finding) with path := ⟨"a//b"⟩, span := ⟨0, 1⟩ }
    dedupe [f, g] = [f] ∧ dedupe [g, f] = [g] ∧ dedupe (dedupe [f, g]) = dedupe [f, g] ∧
    [g, f].Perm [f, g] ∧ (dedupe [g, f]).map key = (dedupe [f, g]).map key := by
  intro f g
  have hsorted : dedupe [f, g] = [f] ∧ dedupe [g, f] = [g] := by
    rw [dedupe, dedupe, List.mergeSort_of_pairwise (by decide), List.mergeSort_of_pairwise (by decide)]
    decide
  obtain ⟨hagain, hperm⟩ := dedupe_normal_form [f, g]
  exact ⟨hsorted.1, hsorted.2, hagain, .swap f g [], hperm [g, f] (.swap f g [])⟩

end SourceAudit.Finding
