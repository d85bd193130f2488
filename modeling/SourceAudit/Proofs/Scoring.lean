import Mathlib
import SourceAudit.Risk

/-! The risk score in exact numbers. But for the hardcoded secrets of low severity every penalty is a whole
number of half points. Such penalties add up without any rounding as far as it matters: a sum that is too
large to be exact is beyond all that a score or a share can tell apart. Main statement: the assessment does
not depend on the order of the findings, gets no better with one finding more, and gives the score and the
shares of the exact penalty. -/
namespace SourceAudit

/-! ### Where rounding changes nothing -/

theorem roundDiv_of_dvd {n d : Nat} (hd : 0 < d) (h : d ∣ n) : roundDiv n d = n / d := by
  have hrest : n % d = 0 := Nat.mod_eq_zero_of_dvd h
  simp only [roundDiv, hrest]
  exact if_neg (by omega)

theorem div_le_roundDiv (n d : Nat) : n / d ≤ roundDiv n d := by
  simp only [roundDiv]
  split
  · exact Nat.le_succ _
  · exact Nat.le_refl _

theorem nearestBinary_eq (n : Nat) :
    nearestBinary n = roundDiv n (2 ^ (n.log2 + 1 - 53)) * 2 ^ (n.log2 + 1 - 53) := rfl

theorem nearestBinary_of_dvd {n k : Nat} (hdvd : 2 ^ k ∣ n) (hlt : n < 2 ^ (k + 53)) :
    nearestBinary n = n := by
  have hunit : 2 ^ (n.log2 + 1 - 53) ∣ n := by
    by_cases hn : n = 0
    · rw [hn]
      exact Nat.dvd_zero _
    · have hlog : n.log2 < k + 53 := (Nat.log2_lt hn).mpr hlt
      exact (Nat.pow_dvd_pow 2 (by omega)).trans hdvd
  rw [nearestBinary_eq, roundDiv_of_dvd (Nat.two_pow_pos _) hunit, Nat.div_mul_cancel hunit]

theorem two_pow_le_nearestBinary {n k : Nat} (h : 2 ^ k ≤ n) : 2 ^ k ≤ nearestBinary n := by
  have hn : n ≠ 0 := by
    have := Nat.two_pow_pos k
    omega
  have hk : k ≤ n.log2 := (Nat.le_log2 hn).mpr h
  generalize hj : n.log2 + 1 - 53 = j
  have hsplit : n.log2 = n.log2 - j + j := by omega
  calc 2 ^ k ≤ 2 ^ n.log2 := Nat.pow_le_pow_right Nat.two_pos hk
    _ = 2 ^ (n.log2 - j) * 2 ^ j := by rw [← Nat.pow_add, ← hsplit]
    _ ≤ n / 2 ^ j * 2 ^ j := by
      apply Nat.mul_le_mul_right
      rw [Nat.le_div_iff_mul_le (Nat.two_pow_pos j), ← Nat.pow_add, ← hsplit]
      exact Nat.log2_self_le hn
    _ ≤ nearestBinary n := by
      rw [nearestBinary_eq, hj]
      exact Nat.mul_le_mul_right _ (div_le_roundDiv n _)

namespace Risk

/-! ### Penalties in half points -/

/-- The penalty of the finding is a whole number of half points. -/
def CountsHalves (f : Finding) : Prop := ¬ (f.category = .hardcodedSecret ∧ f.severity = .low)

instance : DecidablePred CountsHalves := fun _ => inferInstanceAs (Decidable (¬ _))

def halves (f : Finding) : Nat := severityWeight f.severity * categoryWeight f.category / 50

def halfPoint : Nat := 2 ^ 51

/-- From here on sums need not be exact. -/
def exactLimit : Nat := 2 ^ 104

def totalHalves (fs : List Finding) : Nat := (fs.map halves).sum

theorem totalHalves_cons (f : Finding) (fs : List Finding) :
    totalHalves (f :: fs) = halves f + totalHalves fs := List.sum_cons

/-- Of the weights only those of a hardcoded secret of low severity do not multiply to half points. -/
theorem weights_exact {c : Category} {s : Severity} (h : ¬ (c = .hardcodedSecret ∧ s = .low)) :
    nearestBinary (ofTenths (severityWeight s) * ofTenths (categoryWeight c) / one) =
        severityWeight s * categoryWeight c / 50 * halfPoint ∧
      severityWeight s * categoryWeight c / 50 * 50 = severityWeight s * categoryWeight c := by
  cases c <;> cases s <;> first | exact absurd ⟨rfl, rfl⟩ h | decide +kernel

theorem penalty_eq {f : Finding} (h : CountsHalves f) : penalty f = halves f * halfPoint :=
  (weights_exact h).1

theorem halves_mul {f : Finding} (h : CountsHalves f) :
    halves f * 50 = severityWeight f.severity * categoryWeight f.category :=
  (weights_exact h).2

/-- A number of half points is rounded only when it is beyond the limit, and then stays there. -/
theorem min_nearestBinary (n : Nat) :
    min (nearestBinary (n * halfPoint)) exactLimit = min (n * halfPoint) exactLimit := by
  by_cases hlt : n * halfPoint < exactLimit
  · have hexact : nearestBinary (n * halfPoint) = n * halfPoint :=
      nearestBinary_of_dvd (Nat.dvd_mul_left (2 ^ 51) n) hlt
    rw [hexact]
  · have hle : exactLimit ≤ nearestBinary (n * halfPoint) :=
      two_pow_le_nearestBinary (Nat.le_of_not_lt hlt)
    omega

theorem min_addPenalty {sum n : Nat} {f : Finding} (h : CountsHalves f)
    (hsum : min sum exactLimit = min (n * halfPoint) exactLimit) :
    min (addPenalty sum f) exactLimit = min ((n + halves f) * halfPoint) exactLimit := by
  rw [addPenalty, penalty_eq h]
  by_cases hlt : n * halfPoint < exactLimit
  · have hexact : sum = n * halfPoint := by omega
    rw [hexact, ← Nat.add_mul, min_nearestBinary]
  · have hle : exactLimit ≤ sum + halves f * halfPoint := by omega
    have hrounded : exactLimit ≤ nearestBinary (sum + halves f * halfPoint) :=
      two_pow_le_nearestBinary hle
    rw [Nat.add_mul]
    omega

theorem min_total {fs : List Finding} (h : ∀ f ∈ fs, CountsHalves f) :
    min (total fs) exactLimit = min (totalHalves fs * halfPoint) exactLimit := by
  -- from any sum that is known up to the limit
  have hrun (sum n : Nat) (hsum : min sum exactLimit = min (n * halfPoint) exactLimit) :
      min (fs.foldl addPenalty sum) exactLimit = min ((n + totalHalves fs) * halfPoint) exactLimit := by
    induction fs generalizing sum n with
    | nil => exact hsum
    | cons f fs ih =>
      obtain ⟨hf, hfs⟩ := List.forall_mem_cons.mp h
      rw [List.foldl_cons, ih hfs _ _ (min_addPenalty hf hsum), totalHalves_cons, Nat.add_assoc]
  have hall := hrun 0 0 rfl
  rwa [Nat.zero_add] at hall

theorem one_eq : one = 2 * halfPoint := rfl

theorem halfPoint_pos : 0 < halfPoint := Nat.two_pow_pos 51

theorem roundUp_mul_halfPoint (n : Nat) : roundUp (n * halfPoint) = (n + 1) / 2 := by
  have hhalf : one / 2 = halfPoint := rfl
  rw [roundUp, hhalf, one_eq, ← Nat.succ_mul, Nat.mul_div_mul_right _ _ halfPoint_pos]

theorem score_eq {fs : List Finding} (h : ∀ f ∈ fs, CountsHalves f) :
    score fs = (200 - totalHalves fs + 1) / 2 := by
  have hwhole : 200 * halfPoint < exactLimit := by decide
  have hleft : 100 * one - total fs = (200 - totalHalves fs) * halfPoint := by
    have hsum := min_total h
    rw [one_eq, Nat.sub_mul]
    omega
  have hexact : nearestBinary ((200 - totalHalves fs) * halfPoint) =
      (200 - totalHalves fs) * halfPoint := by
    apply nearestBinary_of_dvd (Nat.dvd_mul_left (2 ^ 51) _)
    exact Nat.lt_of_le_of_lt (Nat.mul_le_mul_right _ (Nat.sub_le _ _)) hwhole
  rw [score, hleft, hexact, roundUp_mul_halfPoint]

theorem min_roundUp {m n : Nat} (h : min m exactLimit = min n exactLimit) :
    min (roundUp m) (Nat.pow 2 32 - 1) = min (roundUp n) (Nat.pow 2 32 - 1) := by
  by_cases hlt : n < exactLimit
  · obtain rfl : m = n := by omega
    rfl
  · have hlimit : (Nat.pow 2 32 - 1) * one ≤ exactLimit := by decide
    have hbeyond {k : Nat} (hk : exactLimit ≤ k) : Nat.pow 2 32 - 1 ≤ roundUp k := by
      have hone : 0 < one := Nat.two_pow_pos 52
      rw [roundUp, Nat.le_div_iff_mul_le hone]
      omega
    rw [Nat.min_eq_right (hbeyond (by omega)), Nat.min_eq_right (hbeyond (by omega))]

def contribution (fs : List Finding) (c : Category) : Nat :=
  min (roundUp (total (fs.filter (·.category = c)))) (Nat.pow 2 32 - 1)

theorem contribution_eq {fs : List Finding} (h : ∀ f ∈ fs, CountsHalves f) (c : Category) :
    contribution fs c =
      min ((totalHalves (fs.filter (·.category = c)) + 1) / 2) (Nat.pow 2 32 - 1) := by
  have hown : ∀ f ∈ fs.filter (·.category = c), CountsHalves f :=
    fun f hf => h f (List.mem_of_mem_filter hf)
  rw [contribution, min_roundUp (min_total hown), roundUp_mul_halfPoint]

theorem shareOf_eq (fs : List Finding) (c : Category) :
    shareOf fs c =
      if fs.countP (·.category = c) = 0 then none
      else some ⟨c, fs.countP (·.category = c), contribution fs c⟩ := by
  simp only [shareOf, List.isEmpty_iff_length_eq_zero, ← List.countP_eq_length_filter]
  rfl

/-! ### Order, exact values and one finding more -/

theorem totalHalves_perm {fs gs : List Finding} (h : fs.Perm gs) : totalHalves fs = totalHalves gs :=
  (h.map halves).sum_eq

theorem assess_perm {fs gs : List Finding} (h : ∀ f ∈ fs, CountsHalves f) (hperm : gs.Perm fs) :
    assess gs = assess fs := by
  have hgs : ∀ f ∈ gs, CountsHalves f := fun f hf => h f (hperm.mem_iff.mp hf)
  have hscore : score gs = score fs := by rw [score_eq hgs, score_eq h, totalHalves_perm hperm]
  have hshare : shareOf gs = shareOf fs := by
    funext c
    rw [shareOf_eq, shareOf_eq, hperm.countP_eq, contribution_eq hgs, contribution_eq h,
      totalHalves_perm (hperm.filter _)]
  rw [assess, assess, breakdown, breakdown, hscore, hshare]

namespace Grade

def rank : Grade → Nat
  | a => 0
  | b => 1
  | c => 2
  | d => 3
  | f => 4

theorem rank_ofScore_le {m n : Nat} (h : m ≤ n) : (ofScore n).rank ≤ (ofScore m).rank := by
  unfold ofScore
  repeat' split
  all_goals first | decide | omega

end Grade

theorem score_cons_le {fs : List Finding} (h : ∀ f ∈ fs, CountsHalves f) {f : Finding}
    (hf : CountsHalves f) : score (f :: fs) ≤ score fs := by
  rw [score_eq (List.forall_mem_cons.mpr ⟨hf, h⟩), score_eq h, totalHalves_cons]
  omega

def exactPenalty (fs : List Finding) : ℚ :=
  (fs.map fun f => (severityWeight f.severity / 10 : ℚ) * (categoryWeight f.category / 10 : ℚ)).sum

theorem exactPenalty_eq {fs : List Finding} (h : ∀ f ∈ fs, CountsHalves f) :
    exactPenalty fs = (totalHalves fs : ℚ) / 2 := by
  induction fs with
  | nil => simp [exactPenalty, totalHalves]
  | cons f fs ih =>
    obtain ⟨hf, hfs⟩ := List.forall_mem_cons.mp h
    have hweights : (halves f : ℚ) * 50 = severityWeight f.severity * categoryWeight f.category := by
      exact_mod_cast halves_mul hf
    have hrest := ih hfs
    rw [exactPenalty] at hrest ⊢
    rw [List.map_cons, List.sum_cons, hrest, totalHalves_cons, Nat.cast_add]
    linarith

theorem round_halves (n : Nat) : round ((n : ℚ) / 2) = ((n + 1) / 2 : Nat) := by
  have hsum : (n : ℚ) / 2 + 1 / 2 = ((n + 1 : Nat) : ℚ) / (2 : Nat) := by
    push_cast
    ring
  rw [round_eq, hsum, Rat.floor_natCast_div_natCast]
  rfl

theorem score_eq_round {fs : List Finding} (h : ∀ f ∈ fs, CountsHalves f) :
    (score fs : ℤ) = round (max 0 (min 100 (100 - exactPenalty fs))) := by
  have hclamp : max 0 (min 100 (100 - (totalHalves fs : ℚ) / 2)) =
      ((200 - totalHalves fs : Nat) : ℚ) / 2 := by
    have hpos : (0 : ℚ) ≤ totalHalves fs := Nat.cast_nonneg _
    obtain hle | hle := Nat.le_total (totalHalves fs) 200
    · have hcast : (totalHalves fs : ℚ) ≤ 200 := by exact_mod_cast hle
      rw [Nat.cast_sub hle, min_eq_right (by linarith), max_eq_right (by linarith)]
      push_cast
      ring
    · have hcast : (200 : ℚ) ≤ totalHalves fs := by exact_mod_cast hle
      have hnone : min 100 (100 - (totalHalves fs : ℚ) / 2) ≤ 0 :=
        (min_le_right _ _).trans (by linarith)
      rw [max_eq_left hnone, Nat.sub_eq_zero_of_le hle, Nat.cast_zero, zero_div]
  rw [exactPenalty_eq h, hclamp, round_halves, score_eq h]

/-! ### The shares -/

def shares (fs : List Finding) : List Share := Category.all.filterMap (shareOf fs)

theorem breakdown_perm (fs : List Finding) : (breakdown fs).Perm (shares fs) :=
  List.mergeSort_perm _ _

theorem shareOf_eq_some_iff {fs : List Finding} {c : Category} {s : Share} :
    shareOf fs c = some s ↔ (∃ f ∈ fs, f.category = c) ∧
      s = ⟨c, fs.countP (·.category = c), contribution fs c⟩ := by
  have hpresent : fs.countP (·.category = c) ≠ 0 ↔ ∃ f ∈ fs, f.category = c := by
    simp [List.countP_eq_zero]
  rw [shareOf_eq, ← hpresent]
  split
  next hnone => simp [hnone]
  next hsome =>
    rw [Option.some.injEq, eq_comm]
    exact (and_iff_right hsome).symm

def Share.Before (s t : Share) : Prop :=
  t.contribution < s.contribution ∨
    s.contribution = t.contribution ∧ s.category.rank < t.category.rank

theorem pairwise_rank_shares (fs : List Finding) :
    (shares fs).Pairwise fun s t => s.category.rank < t.category.rank := by
  have hall : Category.all.Pairwise fun c d => c.rank < d.rank := by decide
  refine hall.filterMap _ ?_
  intro c d hcd s hs t ht
  obtain ⟨-, rfl⟩ := shareOf_eq_some_iff.mp hs
  obtain ⟨-, rfl⟩ := shareOf_eq_some_iff.mp ht
  exact hcd

theorem mem_shares_iff {fs : List Finding} {s : Share} :
    s ∈ shares fs ↔ (∃ f ∈ fs, f.category = s.category) ∧
      s = ⟨s.category, fs.countP (·.category = s.category), contribution fs s.category⟩ := by
  rw [shares, List.mem_filterMap]
  constructor
  · rintro ⟨c, -, hs⟩
    obtain ⟨hpresent, rfl⟩ := shareOf_eq_some_iff.mp hs
    exact ⟨hpresent, rfl⟩
  · intro hs
    exact ⟨s.category, s.category.mem_all, shareOf_eq_some_iff.mpr hs⟩

theorem sum_countP_category (fs : List Finding) :
    (Category.all.map fun c => fs.countP (·.category = c)).sum = fs.length := by
  induction fs with
  | nil => rfl
  | cons f fs ih =>
    have hone : (Category.all.map fun c => if f.category = c then 1 else 0).sum = 1 := by
      cases f.category <;> rfl
    simp only [List.countP_cons, List.sum_map_add, ih, decide_eq_true_eq, hone, List.length_cons]

theorem sum_count_shares (fs : List Finding) : ((shares fs).map Share.count).sum = fs.length := by
  have hsum (cs : List Category) : ((cs.filterMap (shareOf fs)).map Share.count).sum =
      (cs.map fun c => fs.countP (·.category = c)).sum := by
    induction cs with
    | nil => rfl
    | cons c cs ih =>
      rw [List.map_cons, List.sum_cons, ← ih]
      by_cases hnone : fs.countP (·.category = c) = 0
      · rw [List.filterMap_cons_none (by rw [shareOf_eq, if_pos hnone]), hnone, Nat.zero_add]
      · rw [List.filterMap_cons_some (by rw [shareOf_eq, if_neg hnone]), List.map_cons, List.sum_cons]
  exact (hsum _).trans (sum_countP_category fs)

theorem nodup_shares (fs : List Finding) : ((shares fs).map Share.category).Nodup := by
  rw [List.nodup_iff_pairwise_ne, List.pairwise_map]
  apply (pairwise_rank_shares fs).imp
  intro s t h heq
  exact Nat.ne_of_lt h (congrArg Category.rank heq)

theorem not_sublist_swap {l : List Share} (hl : l.Nodup) {s t : Share} (h : [s, t].Sublist l) :
    ¬ [t, s].Sublist l := by
  induction l with
  | nil => cases h
  | cons x l ih =>
    obtain ⟨hx, hl⟩ := List.nodup_cons.mp hl
    intro hswap
    cases h with
    | cons _ h =>
      cases hswap with
      | cons _ hswap => exact ih hl h hswap
      | cons_cons _ hswap => exact hx (h.subset (by simp))
    | cons_cons _ h =>
      cases hswap with
      | cons _ hswap => exact hx (hswap.subset (by simp))
      | cons_cons _ hswap => exact hx (h.subset (by simp))

theorem sublist_or_swap {l : List Share} {s t : Share} (hs : s ∈ l) (ht : t ∈ l) (hne : s ≠ t) :
    [s, t].Sublist l ∨ [t, s].Sublist l := by
  obtain ⟨before, after, rfl⟩ := List.append_of_mem hs
  obtain hbefore | hafter := List.mem_append.mp ht
  · right
    exact (List.singleton_sublist.mpr hbefore).append (List.singleton_sublist.mpr List.mem_cons_self)
  · left
    have hlater : t ∈ after := (List.mem_cons.mp hafter).resolve_left hne.symm
    exact ((List.singleton_sublist.mpr hlater).cons_cons s).trans (List.sublist_append_right _ _)

theorem pairwise_before_breakdown (fs : List Finding) : (breakdown fs).Pairwise Share.Before := by
  have htrans (s t u : Share) (hst : decide (t.contribution ≤ s.contribution) = true)
      (htu : decide (u.contribution ≤ t.contribution) = true) :
      decide (u.contribution ≤ s.contribution) = true := by
    rw [decide_eq_true_eq] at hst htu ⊢
    exact htu.trans hst
  have htotal (s t : Share) : (decide (t.contribution ≤ s.contribution) ||
      decide (s.contribution ≤ t.contribution)) = true := by
    rw [Bool.or_eq_true, decide_eq_true_eq, decide_eq_true_eq]
    exact Nat.le_total _ _
  have hsize : (breakdown fs).Pairwise fun s t => t.contribution ≤ s.contribution :=
    (List.pairwise_mergeSort htrans htotal (shares fs)).imp of_decide_eq_true
  have hnodup : (breakdown fs).Nodup :=
    (breakdown_perm fs).nodup_iff.mpr ((nodup_shares fs).of_map Share.category)
  rw [List.pairwise_iff_forall_sublist] at hsize ⊢
  intro s t hst
  obtain hlt | heq := Nat.lt_or_eq_of_le (hsize hst)
  · exact .inl hlt
  · have hne : s ≠ t := by simpa using hnodup.sublist hst
    have hs : s ∈ shares fs := (breakdown_perm fs).mem_iff.mp (hst.subset (by simp))
    have ht : t ∈ shares fs := (breakdown_perm fs).mem_iff.mp (hst.subset (by simp))
    obtain hkeep | hswap := sublist_or_swap hs ht hne
    · exact .inr ⟨heq.symm, List.pairwise_iff_forall_sublist.mp (pairwise_rank_shares fs) hkeep⟩
    · have hstable := List.pair_sublist_mergeSort htrans htotal (decide_eq_true heq.ge) hswap
      exact absurd hstable (not_sublist_swap hnodup hst)

theorem contribution_eq_round {fs : List Finding} (h : ∀ f ∈ fs, CountsHalves f) (c : Category) :
    (contribution fs c : ℤ) =
      min (round (exactPenalty (fs.filter (·.category = c)))) (2 ^ 32 - 1) := by
  have hown : ∀ f ∈ fs.filter (·.category = c), CountsHalves f :=
    fun f hf => h f (List.mem_of_mem_filter hf)
  rw [contribution_eq h, exactPenalty_eq hown, round_halves, Nat.cast_min]
  rfl

/-- For findings whose penalties are whole numbers of half points the assessment does not depend on their
order, and with one more of them the score does not rise and the grade gets no better. The score is a
hundred points less the exact penalty, kept between nothing and a hundred and rounded half up. There is
one share for each category that was found, with the number of its findings and its rounded penalty; the
larger come first, and equal ones in the order of categories. -/
theorem assessment_order_free_and_monotone {fs : List Finding} (h : ∀ f ∈ fs, CountsHalves f) :
    (∀ gs, gs.Perm fs → assess gs = assess fs) ∧
      (∀ f gs, CountsHalves f → gs.Perm (f :: fs) →
        (assess gs).score ≤ (assess fs).score ∧
          (assess fs).grade.rank ≤ (assess gs).grade.rank) ∧
      ((assess fs).score : ℤ) = round (max 0 (min 100 (100 - exactPenalty fs))) ∧
      ((assess fs).breakdown.map Share.category).Nodup ∧
      (∀ c, c ∈ (assess fs).breakdown.map Share.category ↔ ∃ f ∈ fs, f.category = c) ∧
      (∀ s ∈ (assess fs).breakdown,
        s.count = fs.countP (·.category = s.category) ∧
          (s.contribution : ℤ) =
            min (round (exactPenalty (fs.filter (·.category = s.category)))) (2 ^ 32 - 1)) ∧
      ((assess fs).breakdown.map Share.count).sum = fs.length ∧
      (assess fs).breakdown.Pairwise Share.Before := by
  have hperm : (assess fs).breakdown.Perm (shares fs) := breakdown_perm fs
  refine ⟨fun gs => assess_perm h, ?_, score_eq_round h, ?_, ?_, ?_, ?_, pairwise_before_breakdown fs⟩
  · intro f gs hf hgs
    have hmore : ∀ g ∈ f :: fs, CountsHalves g := List.forall_mem_cons.mpr ⟨hf, h⟩
    rw [assess_perm hmore hgs]
    exact ⟨score_cons_le h hf, Grade.rank_ofScore_le (score_cons_le h hf)⟩
  · exact (hperm.map Share.category).nodup_iff.mpr (nodup_shares fs)
  · intro c
    rw [(hperm.map Share.category).mem_iff, List.mem_map]
    constructor
    · rintro ⟨s, hs, rfl⟩
      exact (mem_shares_iff.mp hs).1
    · intro hc
      exact ⟨⟨c, fs.countP (·.category = c), contribution fs c⟩, mem_shares_iff.mpr ⟨hc, rfl⟩, rfl⟩
  · intro s hs
    obtain ⟨-, hshare⟩ := mem_shares_iff.mp (hperm.mem_iff.mp hs)
    refine ⟨congrArg Share.count hshare, ?_⟩
    rw [← contribution_eq_round h, congrArg Share.contribution hshare]
  · exact (hperm.map Share.count).sum_eq.trans (sum_count_shares fs)

def weighing (c : Category) (s : Severity) : Finding :=
  { (default : Finding) with category := c, severity := s }

theorem assessment_order_free_and_monotone_three :
    let fs := [weighing .commandInjection .critical, weighing .ssrf .high, weighing .weakCrypto .low]
    (∀ f ∈ fs, CountsHalves f) ∧ score fs = 46 ∧ exactPenalty fs = 54.5 ∧
      assess fs.reverse = assess fs ∧
      (46 : ℤ) = round (max 0 (min 100 (100 - exactPenalty fs))) ∧
      ((assess fs).breakdown.map Share.count).sum = 3 := by
  intro fs
  have hfs : ∀ f ∈ fs, CountsHalves f := by decide
  have hscore : score fs = 46 := by decide +kernel
  have hexact : exactPenalty fs = 54.5 := by
    norm_num [fs, exactPenalty, weighing, severityWeight, categoryWeight]
  obtain ⟨horder, -, hround, -, -, -, hcount, -⟩ := assessment_order_free_and_monotone hfs
  refine ⟨hfs, hscore, hexact, horder _ (List.reverse_perm fs), ?_, hcount⟩
  rw [← hround]
  exact congrArg Nat.cast hscore.symm

end Risk
end SourceAudit
