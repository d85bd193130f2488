import Mathlib.Data.String.Basic
import SourceAudit.Proofs.Comparison

/-! What a report makes of its outcomes. The list of findings, the counters and the answer whether a
threshold is reached are three views of the findings of all outcomes. Main statement: they agree with each
other and with the outcomes. -/
namespace SourceAudit

open Std

namespace Tally

variable {κ : Type} {cmp : κ → κ → Ordering}

def total (t : Tally κ) : Nat := t.foldr (fun entry n => entry.2 + n) 0

theorem total_zeros (keys : List κ) : (zeros keys).total = 0 := by
  induction keys with
  | nil => rfl
  | cons k keys ih => exact (Nat.zero_add _).trans ih

theorem total_bump (cmp : κ → κ → Ordering) (k : κ) (t : Tally κ) :
    (t.bump cmp k).total = t.total + 1 := by
  induction t with
  | nil => rfl
  | cons entry t ih =>
    obtain ⟨x, n⟩ := entry
    have hcons (m : Nat) (t : Tally κ) : total ((x, m) :: t) = m + total t := rfl
    rw [bump]
    cases cmp k x with
    | lt => exact Nat.add_comm 1 _
    | eq => rw [hcons, hcons, Nat.add_right_comm]
    | gt => rw [hcons, hcons, ih, Nat.add_assoc]

theorem total_ofList (cmp : κ → κ → Ordering) (keys ks : List κ) :
    (ofList cmp keys ks).total = ks.length := by
  have hrun (t : Tally κ) : (ks.foldl (fun t k => t.bump cmp k) t).total = t.total + ks.length := by
    induction ks generalizing t with
    | nil => rfl
    | cons k ks ih => rw [List.foldl_cons, ih, total_bump, List.length_cons, Nat.add_assoc, Nat.add_comm 1]
  rw [ofList, hrun, total_zeros, Nat.zero_add]

variable [DecidableEq κ] [OrientedCmp cmp] [LawfulEqCmp cmp] {keys : List κ}

theorem bump_map (hkeys : keys.Pairwise fun a b => cmp a b = .lt) {k : κ} (hk : k ∈ keys)
    (n : κ → Nat) :
    bump cmp k (keys.map fun x => (x, n x)) =
      keys.map fun x => (x, n x + if k = x then 1 else 0) := by
  induction keys with
  | nil => cases hk
  | cons x keys ih =>
    obtain ⟨hfirst, hkeys⟩ := List.pairwise_cons.mp hkeys
    rw [List.map_cons, List.map_cons, bump]
    by_cases heq : k = x
    · subst heq
      have hself : cmp k k = .eq := ReflCmp.compare_self
      -- the key occurs once, so the counts behind it stay
      have hrest : ∀ y ∈ keys, k ≠ y := by
        rintro y hy rfl
        cases hself.symm.trans (hfirst k hy)
      rw [hself, if_pos rfl]
      apply congrArg ((k, n k + 1) :: ·)
      apply List.map_congr_left
      intro y hy
      rw [if_neg (hrest y hy), Nat.add_zero]
    · have hmem : k ∈ keys := (List.mem_cons.mp hk).resolve_left heq
      have hgt : cmp k x = .gt := OrientedCmp.gt_of_lt (hfirst k hmem)
      rw [hgt, if_neg heq, Nat.add_zero]
      exact congrArg _ (ih hkeys hmem)

/-- If all that is counted has its key from the start, the keys stay and each count is exact. -/
theorem ofList_eq_map (hkeys : keys.Pairwise fun a b => cmp a b = .lt) {ks : List κ}
    (hks : ∀ k ∈ ks, k ∈ keys) :
    ofList cmp keys ks = keys.map fun k => (k, ks.count k) := by
  -- counting goes on from any counts
  have hrun (n : κ → Nat) :
      ks.foldl (fun t k => bump cmp k t) (keys.map fun x => (x, n x)) =
        keys.map fun x => (x, n x + ks.count x) := by
    induction ks generalizing n with
    | nil => rfl
    | cons k ks ih =>
      obtain ⟨hk, hks⟩ := List.forall_mem_cons.mp hks
      rw [List.foldl_cons, bump_map hkeys hk, ih hks]
      apply List.map_congr_left
      intro x _
      rw [List.count_cons, Nat.add_assoc, Nat.add_comm (List.count x ks)]
      simp only [beq_iff_eq]
  rw [ofList, zeros, hrun]
  simp only [Nat.zero_add]

theorem count_map {k : κ} (hk : k ∈ keys) (n : κ → Nat) :
    count (keys.map fun x => (x, n x)) k = n k := by
  induction keys with
  | nil => cases hk
  | cons x keys ih =>
    rw [count, List.map_cons, List.lookup_cons]
    by_cases heq : k = x
    · rw [beq_iff_eq.mpr heq, heq]
      rfl
    · rw [beq_eq_false_iff_ne.mpr heq]
      exact ih ((List.mem_cons.mp hk).resolve_left heq)

end Tally

instance : LawfulEqCmp Category.compare where
  eq_of_compare h := Category.rank_injective (LawfulEqCmp.eq_of_compare h)

instance : LawfulEqCmp Severity.compare where
  eq_of_compare h := Severity.rank_injective (LawfulEqCmp.eq_of_compare h)

theorem Severity.mem_all (s : Severity) : s ∈ all := by
  cases s <;> decide

namespace Finding

/-- `a` comes no later than `b` in a report: it is worse, or as bad and has the smaller path, or the same
path and stands further up, and so on with the column, the rule and the text. -/
def ListedBy (a b : Finding) : Prop :=
  b.severity.rank < a.severity.rank ∨ a.severity = b.severity ∧
    (a.path.compare b.path = .lt ∨ a.path.same b.path = true ∧
      (a.line < b.line ∨ a.line = b.line ∧
        (a.column < b.column ∨ a.column = b.column ∧
          (a.ruleId < b.ruleId ∨ a.ruleId = b.ruleId ∧ a.matchedText ≤ b.matchedText))))

theorem isLE_reportOrder {a b : Finding} : (a.reportOrder b).isLE = true ↔ a.ListedBy b := by
  have hseverity : b.severity.rank = a.severity.rank ↔ a.severity = b.severity :=
    ⟨fun h => (Severity.rank_injective h).symm, fun h => congrArg Severity.rank h.symm⟩
  have htext : (compare a.matchedText b.matchedText).isLE = true ↔ a.matchedText ≤ b.matchedText :=
    Ordering.ne_gt_iff_isLE.symm.trans compare_le_iff_le
  simp only [reportOrder, ListedBy, Ordering.isLE_then_iff_or, Severity.compare, compare_lt_iff_lt,
    LawfulEqCmp.compare_eq_iff_eq, Path.compare_eq_iff_same, hseverity, htext]

theorem ListedBy.severity_le {a b : Finding} (h : a.ListedBy b) : b.severity ≤ a.severity := by
  obtain h | ⟨h, -⟩ := h
  · exact Nat.le_of_lt h
  · exact Nat.le_of_eq (congrArg Severity.rank h.symm)

end Finding

namespace Report

variable (outcomes : List Outcome) (cancelled : Bool)

theorem findings_perm_build :
    (build outcomes cancelled).findings.Perm (outcomes.flatMap Outcome.findings) :=
  List.mergeSort_perm _ _

theorem pairwise_listedBy_build : (build outcomes cancelled).findings.Pairwise Finding.ListedBy := by
  apply (List.pairwise_mergeSort (fun _ _ _ => TransCmp.isLE_trans) (isLE_total _) _).imp
  exact Finding.isLE_reportOrder.mp

theorem ofList_findings_build {κ : Type} [DecidableEq κ] {cmp : κ → κ → Ordering} [OrientedCmp cmp]
    [LawfulEqCmp cmp] {keys : List κ} (hkeys : keys.Pairwise fun a b => cmp a b = .lt)
    (hall : ∀ k, k ∈ keys) (key : Finding → κ) :
    Tally.ofList cmp keys ((build outcomes cancelled).findings.map key) =
      keys.map fun k => (k, (outcomes.flatMap Outcome.findings).countP fun f => key f = k) := by
  rw [Tally.ofList_eq_map hkeys fun k _ => hall k]
  apply List.map_congr_left
  intro k _
  rw [List.count_eq_countP, List.countP_map, (findings_perm_build outcomes cancelled).countP_eq]
  rfl

theorem byCategory_build :
    (build outcomes cancelled).summary.byCategory =
      Category.all.map fun c => (c, (outcomes.flatMap Outcome.findings).countP (·.category = c)) :=
  ofList_findings_build outcomes cancelled (by decide) Category.mem_all Finding.category

theorem bySeverity_build :
    (build outcomes cancelled).summary.bySeverity =
      Severity.all.reverse.map fun s =>
        (s, (outcomes.flatMap Outcome.findings).countP (·.severity = s)) :=
  ofList_findings_build outcomes cancelled (by decide) (fun s => List.mem_reverse.mpr s.mem_all)
    Finding.severity

theorem total_build :
    (build outcomes cancelled).summary.total = (outcomes.flatMap Outcome.findings).length :=
  (findings_perm_build outcomes cancelled).length_eq

theorem reaches_iff {r : Report} {threshold : Severity} :
    r.reaches threshold = true ↔ ∃ f ∈ r.findings, threshold ≤ f.severity := by
  simp only [reaches, List.any_eq_true, decide_eq_true_eq]

theorem reaches_iff_count (threshold : Severity) :
    (build outcomes cancelled).reaches threshold = true ↔
      ∃ s, threshold ≤ s ∧ 0 < (build outcomes cancelled).summary.bySeverity.count s := by
  have hcount (s : Severity) : (build outcomes cancelled).summary.bySeverity.count s =
      (outcomes.flatMap Outcome.findings).countP (·.severity = s) := by
    rw [bySeverity_build]
    exact Tally.count_map (List.mem_reverse.mpr s.mem_all) _
  simp only [reaches_iff, hcount, List.countP_pos_iff, decide_eq_true_eq,
    (findings_perm_build outcomes cancelled).mem_iff]
  constructor
  · rintro ⟨f, hf, hle⟩
    exact ⟨f.severity, hle, f, hf, rfl⟩
  · rintro ⟨s, hle, f, hf, rfl⟩
    exact ⟨f, hf, hle⟩

theorem reaches_iff_head {r : Report} (h : r.findings.Pairwise Finding.ListedBy)
    (threshold : Severity) :
    r.reaches threshold = true ↔ ∃ f, r.findings.head? = some f ∧ threshold ≤ f.severity := by
  rw [reaches_iff]
  cases hfindings : r.findings with
  | nil => simp
  | cons first fs =>
    rw [hfindings] at h
    constructor
    · rintro ⟨f, hf, hle⟩
      refine ⟨first, rfl, ?_⟩
      obtain rfl | hf := List.mem_cons.mp hf
      · exact hle
      · exact Nat.le_trans hle ((List.pairwise_cons.mp h).1 f hf).severity_le
    · rintro ⟨f, hhead, hle⟩
      exact ⟨f, List.mem_of_mem_head? hhead, hle⟩

/-- A report lists the findings of all outcomes in order. Its counters have an entry for each category and
each severity, with the number of such findings, and add up to the total. It reaches a threshold just when
some severity from there on was counted, and just when the first finding is that bad. -/
theorem aggregation_exact :
    let all := outcomes.flatMap Outcome.findings
    let r := build outcomes cancelled
    r.findings.Perm all ∧ r.findings.Pairwise Finding.ListedBy ∧
      r.summary.byCategory = Category.all.map (fun c => (c, all.countP (·.category = c))) ∧
      r.summary.bySeverity = Severity.all.reverse.map (fun s => (s, all.countP (·.severity = s))) ∧
      r.summary.byCategory.total = r.summary.total ∧
      r.summary.bySeverity.total = r.summary.total ∧
      r.summary.total = all.length ∧
      ∀ threshold,
        (r.reaches threshold = true ↔ ∃ s, threshold ≤ s ∧ 0 < r.summary.bySeverity.count s) ∧
        (r.reaches threshold = true ↔
          ∃ f, r.findings.head? = some f ∧ threshold ≤ f.severity) := by
  intro all r
  have hsorted : r.findings.Pairwise Finding.ListedBy := pairwise_listedBy_build outcomes cancelled
  refine ⟨findings_perm_build outcomes cancelled, hsorted, byCategory_build outcomes cancelled,
    bySeverity_build outcomes cancelled, ?_, ?_, total_build outcomes cancelled,
    fun threshold => ⟨reaches_iff_count outcomes cancelled threshold, reaches_iff_head hsorted threshold⟩⟩
  · exact (Tally.total_ofList _ _ _).trans (List.length_map _)
  · exact (Tally.total_ofList _ _ _).trans (List.length_map _)

end Report
end SourceAudit
