import Mathlib.Data.List.Forall2
import Mathlib.Data.List.Lex
import Mathlib.Data.String.Basic
import SourceAudit.Proofs.LineColumn
import SourceAudit.Render.Sarif

/-! The rules of a SARIF log. Each result names its rule twice, by id and by its place among the
descriptors. Main statement: both name the same rule, whatever rules the registry knows. -/
namespace SourceAudit

def BytesLt : List UInt8 → List UInt8 → Prop := List.Lex fun a b => a.toNat < b.toNat

theorem bytesLt_ofNat_cons {m n : Nat} (hm : m < 256) (hn : n < 256) {xs ys : List UInt8} :
    BytesLt (UInt8.ofNat m :: xs) (UInt8.ofNat n :: ys) ↔ m < n ∨ m = n ∧ BytesLt xs ys := by
  rw [BytesLt, List.cons_lex_cons_iff, ← UInt8.toNat_inj, UInt8.toNat_ofNat', UInt8.toNat_ofNat',
    Nat.mod_eq_of_lt hm, Nat.mod_eq_of_lt hn]

theorem bytesLt_encode_append {c d : Char} (h : c < d) (xs ys : List UInt8) :
    BytesLt (String.utf8EncodeChar c ++ xs) (String.utf8EncodeChar d ++ ys) := by
  have hlt : c.val.toNat < d.val.toNat := h
  have hbound : d.val.toNat < 1114112 := by
    obtain hd | hd := d.valid <;> omega
  unfold String.utf8EncodeChar
  generalize c.val.toNat = v at hlt
  generalize d.val.toNat = w at hlt hbound
  have hlead (n : Nat) (hn : n < 1114112) : n / 262144 % 8 = n / 262144 := by omega
  -- what the four bytes of the longest characters hold, from the highest bits on
  have hparts : v / 262144 < w / 262144 ∨ v / 262144 = w / 262144 ∧
      (v / 4096 % 64 < w / 4096 % 64 ∨ v / 4096 % 64 = w / 4096 % 64 ∧ v % 4096 < w % 4096) := by
    omega
  dsimp only
  rw [hlead v (by omega), hlead w hbound]
  -- characters of different lengths differ in their first byte
  split_ifs <;>
    simp (disch := omega) only [List.cons_append, List.nil_append, bytesLt_ofNat_cons] <;> omega

theorem bytesLt_utf8Bytes {cs ds : List Char} (h : List.Lex (· < ·) cs ds) :
    BytesLt (utf8Bytes cs) (utf8Bytes ds) := by
  induction h with
  | @nil d ds =>
    obtain ⟨b, bs, hbytes⟩ := List.exists_cons_of_ne_nil (String.utf8EncodeChar_ne_nil (c := d))
    have hcons : utf8Bytes (d :: ds) = String.utf8EncodeChar d ++ utf8Bytes ds := rfl
    rw [hcons, hbytes]
    exact List.Lex.nil
  | cons _ ih => exact ih.append_left _ _
  | rel hlt => exact bytesLt_encode_append hlt _ _

theorem bytesLt_toUTF8 {s t : String} (h : s < t) :
    BytesLt s.toUTF8.data.toList t.toUTF8.data.toList := by
  rw [toList_data_toUTF8, toList_data_toUTF8]
  exact bytesLt_utf8Bytes (String.lt_iff.mp h)

theorem pairwise_insertDistinct {s : String} {xs : List String} (h : xs.Pairwise (· < ·)) :
    (insertDistinct s xs).Pairwise (· < ·) := by
  induction xs with
  | nil => exact List.pairwise_singleton _ _
  | cons x xs ih =>
    obtain ⟨hx, hxs⟩ := List.pairwise_cons.mp h
    rw [insertDistinct]
    split
    next hlt =>
      apply List.pairwise_cons.mpr ⟨_, h⟩
      intro y hy
      obtain rfl | hy := List.mem_cons.mp hy
      · exact hlt
      · exact String.lt_trans hlt (hx y hy)
    next hnot =>
      split
      · exact h
      next hne =>
        apply List.pairwise_cons.mpr ⟨_, ih hxs⟩
        intro y hy
        obtain rfl | hy := mem_insertDistinct.mp hy
        · exact lt_of_le_of_ne (not_lt.mp hnot) (Ne.symm hne)
        · exact hx y hy

theorem pairwise_distinct (texts : List String) : (distinct texts).Pairwise (· < ·) := by
  induction texts with
  | nil => exact List.Pairwise.nil
  | cons s ss ih => exact pairwise_insertDistinct ih

section Lookup

variable {xs : Array String} (hxs : xs.toList.Pairwise (· < ·))

include hxs

theorem getElem_lt_getElem_iff {i j : Nat} (hi : i < xs.size) (hj : j < xs.size) :
    xs[i] < xs[j] ↔ i < j := by
  have hmono {i j : Nat} (hi : i < xs.size) (hj : j < xs.size) (hij : i < j) : xs[i] < xs[j] :=
    List.pairwise_iff_getElem.mp hxs i j hi hj hij
  refine ⟨fun hlt => ?_, hmono hi hj⟩
  by_contra hnot
  obtain hji | rfl := Nat.lt_or_eq_of_le (Nat.le_of_not_lt hnot)
  · exact lt_asymm hlt (hmono hj hi hji)
  · exact lt_irrefl _ hlt

theorem bisect_getElem {k : Nat} (hk : k < xs.size) {base size : Nat} (h : base + size ≤ xs.size)
    (hbase : base ≤ k) (hstop : k < base + size) : bisect xs xs[k] base size h = k := by
  generalize hs : xs[k] = s
  fun_induction bisect xs s base size h with
  | case1 base size h hsize half hmid hlt ih =>
    subst hs
    have := (getElem_lt_getElem_iff hxs hk hmid).mp hlt
    exact ih hbase (by omega)
  | case2 base size h hsize half hmid hnot ih =>
    subst hs
    have := mt (getElem_lt_getElem_iff hxs hk hmid).mpr hnot
    exact ih (by omega) (by omega)
  | case3 base size h hsize => omega

theorem placeOf?_getElem {k : Nat} (hk : k < xs.size) : placeOf? xs xs[k] = some k := by
  have hplace := bisect_getElem hxs hk (Nat.le_of_eq (Nat.zero_add _)) (Nat.zero_le _) (by omega)
  rw [placeOf?, hplace, if_pos (Array.getElem?_eq_getElem hk)]

end Lookup

namespace Sarif

theorem id_describe (registry : Registry) (f : Finding) : (describe registry f).id = f.ruleId := by
  unfold describe
  split <;> rfl

theorem ruleIds_firsts {fs : List Finding} {ids : List String}
    (hids : ∀ id ∈ ids, id ∈ fs.map Finding.ruleId) :
    (ids.filterMap fun id => fs.find? (·.ruleId == id)).map Finding.ruleId = ids := by
  induction ids with
  | nil => rfl
  | cons id ids ih =>
    obtain ⟨hid, hids⟩ := List.forall_mem_cons.mp hids
    obtain ⟨g, hg, hgid⟩ := List.mem_map.mp hid
    cases hfind : fs.find? (·.ruleId == id) with
    | none => exact absurd (beq_iff_eq.mpr hgid) (List.find?_eq_none.mp hfind g hg)
    | some f =>
      have hf := List.find?_some hfind
      simp only [List.filterMap_cons, hfind, List.map_cons, ih hids, beq_iff_eq.mp hf]

theorem ids_descriptors (r : Report) (registry : Registry) :
    (build r registry).descriptors.map Descriptor.id = firedIds r := by
  have hids : ∀ id ∈ firedIds r, id ∈ r.findings.map Finding.ruleId := fun _ => mem_distinct.mp
  have hdescribe : Descriptor.id ∘ describe registry = Finding.ruleId := funext (id_describe registry)
  rw [build, List.map_map, hdescribe, ruleIds_firsts hids]

theorem placeOf?_firedIds {r : Report} {f : Finding} (hf : f ∈ r.findings) :
    ∃ k, placeOf? (firedIds r).toArray f.ruleId = some k ∧ (firedIds r)[k]? = some f.ruleId := by
  have hid : f.ruleId ∈ firedIds r := mem_distinct.mpr (List.mem_map_of_mem hf)
  obtain ⟨k, hk, hget⟩ := List.getElem_of_mem hid
  have hsorted : (firedIds r).toArray.toList.Pairwise (· < ·) := pairwise_distinct _
  have hplace := placeOf?_getElem hsorted hk
  rw [List.getElem_toArray, hget] at hplace
  exact ⟨k, hplace, List.getElem?_eq_some_iff.mpr ⟨hk, hget⟩⟩

/-- The descriptors have the ids of the rules that fired, each once and in the order of their bytes. There
is one result for each finding, in the order of the report; the search for its rule succeeds, and the
descriptor at the place that it gives has the id of the finding. -/
theorem rule_indices_resolve (r : Report) (registry : Registry) :
    let log := build r registry
    (∀ id, id ∈ log.descriptors.map Descriptor.id ↔ id ∈ r.findings.map Finding.ruleId) ∧
    log.descriptors.Pairwise (fun d e => BytesLt d.id.toUTF8.data.toList e.id.toUTF8.data.toList) ∧
    List.Forall₂ (fun f x => x.finding = f ∧
        placeOf? (firedIds r).toArray f.ruleId = some x.ruleIndex ∧
        ∃ d, log.descriptors[x.ruleIndex]? = some d ∧ d.id = f.ruleId)
      r.findings log.results := by
  intro log
  have hids : log.descriptors.map Descriptor.id = firedIds r := ids_descriptors r registry
  refine ⟨?_, ?_, ?_⟩
  · intro id
    rw [hids]
    exact mem_distinct
  · have hsorted : (log.descriptors.map Descriptor.id).Pairwise (· < ·) := by
      rw [hids]
      exact pairwise_distinct _
    exact (List.pairwise_map.mp hsorted).imp bytesLt_toUTF8
  · apply List.forall₂_map_right_iff.mpr
    apply List.forall₂_same.mpr
    intro f hf
    obtain ⟨k, hplace, hget⟩ := placeOf?_firedIds hf
    rw [← hids, List.getElem?_map, Option.map_eq_some_iff] at hget
    rw [hplace]
    exact ⟨rfl, rfl, hget⟩

end Sarif
end SourceAudit
