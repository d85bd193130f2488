import SourceAudit.Proofs.IndexedWindows

/-! Grouping fragments into statements. Neighbours that carry one number are taken together and others are
not, so the statements cut the fragments into stretches without gap or overlap. Where the numbers are only
counted up, with whatever gaps, two fragments share a stretch just when they carry the same number. -/
namespace SourceAudit

namespace Stretch

def Holds (r : Stretch) (i : Nat) : Prop := r.start ≤ i ∧ i < r.stop

/-- The stretches are not empty, and follow each other from `start` to `stop` without gap or overlap. -/
inductive Cut : (start stop : Nat) → List Stretch → Prop where
  | nil (stop : Nat) : Cut stop stop []
  | cons {start middle stop : Nat} {rs : List Stretch} : start < middle → Cut middle stop rs →
      Cut start stop (⟨start, middle⟩ :: rs)

end Stretch

namespace Statement

theorem cut_stretches (start : Nat) (ss : List Statement) :
    Stretch.Cut start (start + (ss.flatMap fragments).length) (stretches start ss) := by
  induction ss generalizing start with
  | nil => exact .nil start
  | cons s ss ih =>
    have hpos : 0 < s.fragments.length := Nat.succ_pos _
    rw [List.flatMap_cons, List.length_append, ← Nat.add_assoc]
    exact .cons (Nat.lt_add_of_pos_right hpos) (ih _)

/-! ### What the statements hold -/

def IsUniform (s : Statement) : Prop := ∀ f ∈ s.fragments, f.stmt = s.first.stmt

theorem isUniform_insertFragment {f : Fragment} {ss : List Statement} (h : ∀ s ∈ ss, s.IsUniform) :
    ∀ s ∈ insertFragment f ss, s.IsUniform := by
  have hsingle : (⟨f, []⟩ : Statement).IsUniform := by simp [IsUniform, fragments]
  cases ss with
  | nil => simpa [insertFragment] using hsingle
  | cons s ss =>
    rw [List.forall_mem_cons] at h
    rw [insertFragment]
    split
    next hsame =>
      refine List.forall_mem_cons.mpr ⟨?_, h.2⟩
      intro g hg
      obtain rfl | hg := List.mem_cons.mp hg
      · rfl
      · exact (h.1 g hg).trans hsame.symm
    next => exact List.forall_mem_cons.mpr ⟨hsingle, List.forall_mem_cons.mpr h⟩

theorem pairwise_insertFragment {f : Fragment} {ss : List Statement}
    (h : ss.Pairwise fun s t => s.first.stmt < t.first.stmt) (hf : ∀ s ∈ ss, f.stmt ≤ s.first.stmt) :
    (insertFragment f ss).Pairwise fun s t => s.first.stmt < t.first.stmt := by
  cases ss with
  | nil => exact List.pairwise_singleton _ _
  | cons s ss =>
    obtain ⟨hs, hss⟩ := List.pairwise_cons.mp h
    rw [insertFragment]
    split
    next hsame => exact List.pairwise_cons.mpr ⟨fun t ht => hsame ▸ hs t ht, hss⟩
    next hother =>
      have hlt : f.stmt < s.first.stmt := Nat.lt_of_le_of_ne (hf s List.mem_cons_self) hother
      refine List.pairwise_cons.mpr ⟨List.forall_mem_cons.mpr ⟨hlt, ?_⟩, h⟩
      exact fun t ht => Nat.lt_trans hlt (hs t ht)

end Statement

theorem isUniform_of_mem_statements (fs : List Fragment) : ∀ s ∈ statements fs, s.IsUniform := by
  induction fs with
  | nil => simp
  | cons f fs ih => exact Statement.isUniform_insertFragment ih

theorem first_mem_of_mem_statements {fs : List Fragment} {s : Statement} (hs : s ∈ statements fs) :
    s.first ∈ fs := by
  rw [← flatMap_fragments_statements fs]
  exact List.mem_flatMap.mpr ⟨s, hs, List.mem_cons_self⟩

theorem pairwise_lt_statements {fs : List Fragment} (horder : fs.Pairwise fun f g => f.stmt ≤ g.stmt) :
    (statements fs).Pairwise fun s t => s.first.stmt < t.first.stmt := by
  induction fs with
  | nil => exact .nil
  | cons f fs ih =>
    obtain ⟨hf, hfs⟩ := List.pairwise_cons.mp horder
    apply Statement.pairwise_insertFragment (ih hfs)
    exact fun s hs => hf s.first (first_mem_of_mem_statements hs)

/-! ### Places -/

section

variable {ss : List Statement} {i k : Nat}

theorem exists_fragmentsBefore_le (hk : i < fragmentsBefore ss k) :
    ∃ l < k, fragmentsBefore ss l ≤ i ∧ i < fragmentsBefore ss (l + 1) := by
  induction k with
  | zero => simp [fragmentsBefore, fragmentsBetween, List.extract] at hk
  | succ k ih =>
    by_cases hlt : i < fragmentsBefore ss k
    · obtain ⟨l, hl, hholds⟩ := ih hlt
      exact ⟨l, by omega, hholds⟩
    · exact ⟨k, Nat.lt_succ_self k, by omega, hk⟩

theorem extract_fragmentsBefore {s : Statement} (hs : ss[k]? = some s) :
    (ss.flatMap Statement.fragments).extract (fragmentsBefore ss k) (fragmentsBefore ss (k + 1)) =
      s.fragments := by
  have hpart := part?_fragmentsBefore (Nat.le_succ k) (List.getElem?_eq_some_iff.mp hs).1
  rw [Nat.succ_eq_add_one, fragmentsBetween_single hs] at hpart
  exact (Option.ite_none_right_eq_some.mp hpart).2 |> Option.some.inj

theorem mem_stretches_iff {r : Stretch} :
    r ∈ Statement.stretches 0 ss ↔
      ∃ k s, ss[k]? = some s ∧ ⟨fragmentsBefore ss k, fragmentsBefore ss (k + 1)⟩ = r := by
  simp only [List.mem_iff_getElem?, getElem?_stretches, Option.map_eq_some_iff, Nat.zero_add]

end

theorem stmt_eq_of_fragmentsBefore_le {fs : List Fragment} {i k : Nat} {s : Statement}
    (hs : (statements fs)[k]? = some s) (hi : i < fs.length) (hle : fragmentsBefore (statements fs) k ≤ i)
    (hlt : i < fragmentsBefore (statements fs) (k + 1)) : fs[i].stmt = s.first.stmt := by
  have hfragments := extract_fragmentsBefore hs
  rw [flatMap_fragments_statements] at hfragments
  apply isUniform_of_mem_statements fs s (List.mem_of_getElem? hs)
  rw [← hfragments]
  apply List.mem_of_getElem? (i := i - fragmentsBefore (statements fs) k)
  rw [List.extract, List.getElem?_take_of_lt (by omega), List.getElem?_drop, Nat.add_sub_cancel' hle,
    List.getElem?_eq_getElem hi]

theorem exists_statement_around {fs : List Fragment} {i : Nat} (hi : i < fs.length) :
    ∃ k s, (statements fs)[k]? = some s ∧ fs[i].stmt = s.first.stmt ∧
      fragmentsBefore (statements fs) k ≤ i ∧ i < fragmentsBefore (statements fs) (k + 1) := by
  have hall : fragmentsBefore (statements fs) (statements fs).length = fs.length := by
    rw [fragmentsBefore, fragmentsBetween_all, flatMap_fragments_statements]
  obtain ⟨k, hk, hle, hlt⟩ := exists_fragmentsBefore_le (hall.symm ▸ hi)
  have hs := List.getElem?_eq_getElem hk
  exact ⟨k, _, hs, stmt_eq_of_fragmentsBefore_le hs hi hle hlt, hle, hlt⟩

theorem index_eq_of_stmt_eq {fs : List Fragment} (horder : fs.Pairwise fun f g => f.stmt ≤ g.stmt)
    {k l : Nat} {s t : Statement} (hs : (statements fs)[k]? = some s) (ht : (statements fs)[l]? = some t)
    (hsame : s.first.stmt = t.first.stmt) : k = l := by
  obtain ⟨hk, rfl⟩ := List.getElem?_eq_some_iff.mp hs
  obtain ⟨hl, rfl⟩ := List.getElem?_eq_some_iff.mp ht
  have hlt := List.pairwise_iff_getElem.mp (pairwise_lt_statements horder)
  obtain hkl | rfl | hlk := Nat.lt_trichotomy k l
  · exact absurd hsame (Nat.ne_of_lt (hlt k l hk hl hkl))
  · rfl
  · exact absurd hsame.symm (Nat.ne_of_lt (hlt l k hl hk hlk))

/-- The statements cut the fragments into stretches that are not empty and follow each other from the first
fragment to the last, and each holds the fragments of its stretch. Where the numbers of statements are only
counted up, two fragments are in one stretch just when they carry the same number. -/
theorem statements_cut_fragments {fs : List Fragment} (horder : fs.Pairwise fun f g => f.stmt ≤ g.stmt) :
    let rs := Statement.stretches 0 (statements fs)
    Stretch.Cut 0 fs.length rs ∧
      (statements fs).map Statement.fragments = rs.map (fun r => fs.extract r.start r.stop) ∧
      ∀ (i j : Nat) (hi : i < fs.length) (hj : j < fs.length),
        (∃ r ∈ rs, r.Holds i ∧ r.Holds j) ↔ fs[i].stmt = fs[j].stmt := by
  intro rs
  have hflat := flatMap_fragments_statements fs
  refine ⟨?_, ?_, ?_⟩
  · have hcut := Statement.cut_stretches 0 (statements fs)
    rwa [hflat, Nat.zero_add] at hcut
  · apply List.ext_getElem?
    intro k
    rw [List.getElem?_map, List.getElem?_map, getElem?_stretches, Option.map_map]
    cases hs : (statements fs)[k]? with
    | none => rfl
    | some s =>
      have hextract := extract_fragmentsBefore hs
      rw [hflat] at hextract
      simp [hextract]
  · intro i j hi hj
    constructor
    · rintro ⟨r, hr, hri, hrj⟩
      obtain ⟨k, s, hs, rfl⟩ := mem_stretches_iff.mp hr
      rw [stmt_eq_of_fragmentsBefore_le hs hi hri.1 hri.2, stmt_eq_of_fragmentsBefore_le hs hj hrj.1 hrj.2]
    · intro hsame
      obtain ⟨k, s, hs, hsi, hki⟩ := exists_statement_around hi
      obtain ⟨l, t, ht, htj, hlj⟩ := exists_statement_around hj
      obtain rfl : k = l := index_eq_of_stmt_eq horder hs ht (by rw [← hsi, hsame, htj])
      exact ⟨_, mem_stretches_iff.mpr ⟨k, s, hs, rfl⟩, hki, hlj⟩

/-- A number between two calls takes up the number of a statement, and leaves no fragment. -/
def Source.bareNumber : Source := ⟨⟨"n.go"⟩, .go, "a(b)\n1\nc(d)"⟩

theorem statements_cut_fragments_gap :
    let fs := Source.bareNumber.fragments.toList
    let rs := Statement.stretches 0 (statements fs)
    fs.map Fragment.stmt = [0, 0, 2, 2] ∧ (fs.Pairwise fun f g => f.stmt ≤ g.stmt) ∧
      rs = [⟨0, 2⟩, ⟨2, 4⟩] ∧ Stretch.Cut 0 4 rs ∧
      (∃ r ∈ rs, r.Holds 2 ∧ r.Holds 3) ∧ ¬∃ r ∈ rs, r.Holds 1 ∧ r.Holds 2 := by
  intro fs rs
  have hstmts : fs.map Fragment.stmt = [0, 0, 2, 2] := by decide +kernel
  have horder : fs.Pairwise fun f g => f.stmt ≤ g.stmt := by
    have hpairs : (fs.map Fragment.stmt).Pairwise (· ≤ ·) := by
      rw [hstmts]
      decide
    exact List.pairwise_map.mp hpairs
  have hlength : fs.length = 4 := by decide +kernel
  have hstmt (i : Nat) (hi : i < fs.length) : [0, 0, 2, 2][i]? = some fs[i].stmt := by
    rw [← hstmts, List.getElem?_map, List.getElem?_eq_getElem hi, Option.map_some]
  obtain ⟨hcut, -, hiff⟩ := statements_cut_fragments horder
  refine ⟨hstmts, horder, by decide +kernel, hlength ▸ hcut, ?_, ?_⟩
  · apply (hiff 2 3 (by omega) (by omega)).mpr
    exact Option.some.inj ((hstmt 2 _).symm.trans (hstmt 3 _))
  · refine mt (hiff 1 2 (by omega) (by omega)).mp fun hsame => ?_
    exact absurd ((hstmt 1 _).trans ((congrArg some hsame).trans (hstmt 2 _).symm)) (by decide)

end SourceAudit
