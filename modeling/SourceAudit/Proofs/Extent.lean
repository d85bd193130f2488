import Mathlib
import SourceAudit.Proofs.FragmentOrder
import SourceAudit.Proofs.Reach

/-! What a window takes in. Its head is one statement; before it stand as many whole statements of the
same function as the lookbehind allows, after it as many as the width allows, with no gap between. -/
namespace SourceAudit

def fragmentsBetween (ss : List Statement) (i j : Nat) : List Fragment :=
  (ss.extract i j).flatMap Statement.fragments

section

variable {ss : List Statement} {i j k : Nat}

theorem fragmentsBetween_append (hij : i ≤ j) (hjk : j ≤ k) :
    fragmentsBetween ss i j ++ fragmentsBetween ss j k = fragmentsBetween ss i k := by
  have hcount : k - i = (j - i) + (k - j) := by omega
  have hplace : i + (j - i) = j := by omega
  rw [fragmentsBetween, fragmentsBetween, fragmentsBetween, ← List.flatMap_append, List.extract,
    List.extract, List.extract, hcount, List.take_add, List.drop_drop, hplace]

theorem fragmentsBetween_single {s : Statement} (h : ss[i]? = some s) :
    fragmentsBetween ss i (i + 1) = s.fragments := by
  obtain ⟨hi, rfl⟩ := List.getElem?_eq_some_iff.mp h
  rw [fragmentsBetween, List.extract, List.drop_eq_getElem_cons hi, Nat.add_sub_cancel_left]
  exact List.append_nil _

theorem fragmentsBetween_all (ss : List Statement) :
    fragmentsBetween ss 0 ss.length = ss.flatMap Statement.fragments := by
  simp [fragmentsBetween]

end

namespace Window

/-- The window shows the statements from `first` up to, and without, `last`, with the one at `index` as
its head. -/
structure Shows (w : Window) (ss : List Statement) (first index last : Nat) : Prop where
  first_le : first ≤ index
  lt_last : index < last
  last_le : last ≤ ss.length
  head : ss[index]? = some w.statement
  preceding : w.preceding = fragmentsBetween ss first index
  rest : w.rest = fragmentsBetween ss (index + 1) last

theorem Shows.fragments_eq {w : Window} {fs : List Fragment} {first index last : Nat}
    (h : w.Shows (statements fs) first index last) :
    fs = fragmentsBetween (statements fs) 0 first ++ w.preceding ++ w.head ++ w.rest ++
      fragmentsBetween (statements fs) last (statements fs).length := by
  have hfirst := h.first_le
  have hlast := h.lt_last
  rw [h.preceding, h.rest, Window.head, ← fragmentsBetween_single h.head,
    fragmentsBetween_append (Nat.zero_le first) hfirst,
    fragmentsBetween_append (Nat.zero_le index) (Nat.le_succ index),
    fragmentsBetween_append (Nat.zero_le _) hlast, fragmentsBetween_append (Nat.zero_le _) h.last_le,
    fragmentsBetween_all, flatMap_fragments_statements]

/-! ### Looking back -/

def lookedBack (ss : List Statement) (lookbehind index : Nat) (s : Statement) : Nat :=
  (((ss.take index).reverse.take lookbehind).takeWhile (·.scope == s.scope)).length

section

variable {ss : List Statement} {lookbehind index : Nat} {s : Statement}

theorem lookedBack_le : lookedBack ss lookbehind index s ≤ min lookbehind index := by
  have hle := (List.takeWhile_prefix (·.scope == s.scope)
    (l := (ss.take index).reverse.take lookbehind)).length_le
  simp only [List.length_take, List.length_reverse] at hle
  rw [lookedBack]
  omega

theorem preceding_among (source : Source) (width lookbehind : UInt64) (hindex : index ≤ ss.length) :
    (among source ss width lookbehind index s).preceding =
      fragmentsBetween ss (index - lookedBack ss lookbehind.toNat index s) index := by
  -- the nearest statements, in the order of the text, are the last ones before the head
  have hnearest := List.prefix_iff_eq_take.mp ((List.takeWhile_prefix (·.scope == s.scope)).trans
    (List.take_prefix lookbehind.toNat (ss.take index).reverse))
  have hlast : (((ss.take index).reverse.take lookbehind.toNat).takeWhile
      (·.scope == s.scope)).reverse =
      (ss.take index).drop (index - lookedBack ss lookbehind.toNat index s) := by
    rw [hnearest, List.reverse_take, List.reverse_reverse, List.length_reverse, List.length_take,
      Nat.min_eq_left hindex]
    rfl
  rw [among, around, hlast, List.drop_take]
  rfl

theorem eq_false_of_getElem?_takeWhile {p : Statement → Bool} {ss : List Statement} {s : Statement}
    (h : ss[(ss.takeWhile p).length]? = some s) : p s = false := by
  induction ss with
  | nil => simp at h
  | cons a ss ih =>
    cases ha : p a with
    | true =>
      simp only [List.takeWhile_cons, ha, if_true, List.length_cons, List.getElem?_cons_succ] at h
      exact ih h
    | false =>
      simp only [List.takeWhile_cons, ha, Bool.false_eq_true, if_false, List.length_nil,
        List.getElem?_cons_zero, Option.some.injEq] at h
      exact h ▸ ha

theorem lookedBack_maximal (hindex : index ≤ ss.length)
    (h : lookedBack ss lookbehind index s < min lookbehind index) :
    ∃ s', ss[index - lookedBack ss lookbehind index s - 1]? = some s' ∧ s'.scope ≠ s.scope := by
  let near := (ss.take index).reverse.take lookbehind
  generalize hback : lookedBack ss lookbehind index s = back at h ⊢
  have hplace : near[back]? = ss[index - back - 1]? := by
    have hlength : back < (ss.take index).length := by
      rw [List.length_take]
      omega
    have hfromEnd : index - 1 - back = index - back - 1 := by omega
    rw [List.getElem?_take_of_lt (by omega), List.getElem?_reverse hlength, List.length_take,
      Nat.min_eq_left hindex, hfromEnd, List.getElem?_take_of_lt (by omega)]
  have hlt : index - back - 1 < ss.length := by omega
  refine ⟨_, List.getElem?_eq_getElem hlt, ?_⟩
  have hstop : near[(near.takeWhile (·.scope == s.scope)).length]? = some ss[index - back - 1] := by
    have hlength : (near.takeWhile (·.scope == s.scope)).length = back := hback
    rw [hlength, hplace, List.getElem?_eq_getElem hlt]
  simpa using eq_false_of_getElem?_takeWhile hstop

/-- Functions are only counted up, so what stands between two statements of one function belongs to that
function. -/
theorem scope_eq_of_mem_preceding {fs : List Fragment}
    (horder : fs.Pairwise fun f g => f.scope ≤ g.scope) (hs : (statements fs)[index]? = some s)
    (source : Source) (width lookbehind : UInt64) :
    ∀ f ∈ (among source (statements fs) width lookbehind index s).preceding, f.scope = s.scope := by
  intro f hf
  obtain ⟨s', hs', hf'⟩ := List.mem_flatMap.mp hf
  rw [List.mem_reverse] at hs'
  have hsame : s'.scope = s.scope := by simpa using List.mem_takeWhile_imp hs'
  have hbefore : s' ∈ (statements fs).take index :=
    List.mem_reverse.mp (List.mem_of_mem_take ((List.takeWhile_sublist _).mem hs'))
  obtain ⟨hindex, rfl⟩ := List.getElem?_eq_some_iff.mp hs
  rw [← flatMap_fragments_statements fs, List.pairwise_flatMap] at horder
  obtain ⟨hwithin, hacross⟩ := horder
  have hfirst : s'.scope ≤ f.scope := by
    have hpairs := hwithin s' (List.mem_of_mem_take hbefore)
    obtain rfl | hmore := List.mem_cons.mp hf'
    · exact Nat.le_refl _
    · exact List.rel_of_pairwise_cons hpairs hmore
  have hhead : f.scope ≤ (statements fs)[index].scope := by
    rw [← List.take_append_drop index (statements fs), List.pairwise_append] at hacross
    apply hacross.2.2 s' hbefore _ _ f hf' _ List.mem_cons_self
    rw [List.drop_eq_getElem_cons hindex]
    exact List.mem_cons_self
  omega

end

/-! ### Looking ahead -/

theorem restCount_eq {index count : Nat} {width : UInt64} (hindex : index < count)
    (hcount : count < UInt64.size) (hfits : fits index width = true) :
    restCount index count width = min (index + max width.toNat 1) count - (index + 1) := by
  have hword : count.toUInt64.toNat = count := UInt64.toNat_ofNat_of_lt' hcount
  rw [restCount, toNat_lastIndex hfits, hword]
  simp only [UInt64.size] at hcount ⊢
  omega

theorem rest_among {ss : List Statement} (source : Source) {width : UInt64} (lookbehind : UInt64)
    {index : Nat} (s : Statement) (hindex : index < ss.length) (hcount : ss.length < UInt64.size)
    (hfits : fits index width = true) :
    (among source ss width lookbehind index s).rest =
      fragmentsBetween ss (index + 1) (min (index + max width.toNat 1) ss.length) := by
  rw [among, around, restCount_eq hindex hcount hfits]
  rfl

end Window

/-! ### Texts that memory holds -/

theorem length_statements_le (fs : List Fragment) : (statements fs).length ≤ fs.length := by
  induction fs with
  | nil => simp
  | cons f fs ih =>
    have hinsert (ss : List Statement) : (Statement.insertFragment f ss).length ≤ ss.length + 1 := by
      cases ss with
      | nil => simp [Statement.insertFragment]
      | cons s ss =>
        simp only [Statement.insertFragment]
        split <;> simp
    have hle := hinsert (statements fs)
    rw [statements_cons, List.length_cons]
    omega

theorem Source.length_fragments_le (source : Source) : source.fragments.toList.length ≤ source.size := by
  have hnodup : (source.fragments.toList.map (·.span.start)).Nodup := by
    rw [List.nodup_iff_pairwise_ne, List.pairwise_map]
    exact source.pairwise_start_fragments.imp Nat.ne_of_lt
  have hsubset : source.fragments.toList.map (·.span.start) ⊆ List.range source.size := by
    intro start hstart
    obtain ⟨f, hf, rfl⟩ := List.mem_map.mp hstart
    have hstands := stands_of_mem_fragments hf
    have hstop := hstands.isBorder_stop.le_utf8Length
    rw [utf8Length_toList] at hstop
    exact List.mem_range.mpr (Nat.lt_of_lt_of_le hstands.start_lt_stop hstop)
  simpa using (List.subperm_of_subset hnodup hsubset).length_le

/-- The window of a statement is there whenever a machine word holds its end. It is a stretch of the text:
at most as many whole statements as the lookbehind says, all of them in the function of the head, then the
head, then the statements up to the width or to the end of the text. Nothing that the lookbehind allows is
left out but for another function. -/
theorem Source.window_takes_in_neighbours (source : Source) (hsize : source.size < UInt64.size)
    (width lookbehind : UInt64) {index : Nat}
    (hindex : index < (statements source.fragments.toList).length)
    (hfits : Window.fits index width = true) :
    let ss := statements source.fragments.toList
    ∃ w first, source.windowAt? width lookbehind index = some w ∧
      w.Shows ss first index (min (index + max width.toNat 1) ss.length) ∧
      (∃ before after, source.fragments.toList = before ++ w.preceding ++ w.head ++ w.rest ++ after) ∧
      index - first ≤ lookbehind.toNat ∧
      (∀ f ∈ w.preceding, f.scope = w.anchor.scope) ∧
      (index - first = min lookbehind.toNat index ∨
        ∃ s, 0 < first ∧ ss[first - 1]? = some s ∧ s.scope ≠ w.anchor.scope) := by
  intro ss
  have hcount : ss.length < UInt64.size :=
    Nat.lt_of_le_of_lt ((length_statements_le _).trans source.length_fragments_le) hsize
  have hs : ss[index]? = some ss[index] := List.getElem?_eq_getElem hindex
  have hback : Window.lookedBack ss lookbehind.toNat index ss[index] ≤ min lookbehind.toNat index :=
    Window.lookedBack_le
  have hshows : (Window.among source ss width lookbehind index ss[index]).Shows ss
      (index - Window.lookedBack ss lookbehind.toNat index ss[index]) index
      (min (index + max width.toNat 1) ss.length) := by
    refine ⟨Nat.sub_le _ _, ?_, Nat.min_le_right _ _, hs, ?_, ?_⟩
    · exact Nat.lt_min.mpr ⟨by omega, hindex⟩
    · exact Window.preceding_among source width lookbehind (Nat.le_of_lt hindex)
    · exact Window.rest_among source lookbehind ss[index] hindex hcount hfits
  have horder : source.fragments.toList.Pairwise fun f g => f.scope ≤ g.scope := by
    rw [toList_fragments]
    exact (Walk.pairwise_counts_fragments _ _).imp And.right
  refine ⟨_, _, ?_, hshows, ⟨_, _, hshows.fragments_eq⟩, by omega, ?_, ?_⟩
  · rw [windowAt?_eq, if_pos hfits, hs]
    rfl
  · exact Window.scope_eq_of_mem_preceding horder hs source width lookbehind
  · obtain hall | hless := Nat.eq_or_lt_of_le hback
    · left
      omega
    · right
      obtain ⟨s, hs', hscope⟩ := Window.lookedBack_maximal (Nat.le_of_lt hindex) hless
      exact ⟨s, by omega, hs', hscope⟩

def Source.twoFunctions : Source :=
  ⟨⟨"n.py"⟩, .python, "def a():\n x = 1\ndef b():\n y = 2\n z(y)"⟩

theorem Source.window_takes_in_neighbours_two_functions :
    let ss := statements twoFunctions.fragments.toList
    twoFunctions.size < UInt64.size ∧ 4 < ss.length ∧ Window.fits 4 1 = true ∧
      ∃ w first, twoFunctions.windowAt? 1 8 4 = some w ∧ w.Shows ss first 4 (min (4 + max 1 1) ss.length) ∧
        (w.preceding.map Fragment.text = ["b", "y"]) ∧ ∀ f ∈ w.preceding, f.scope = w.anchor.scope := by
  intro ss
  have hsize : twoFunctions.size < UInt64.size := by decide
  have hindex : 4 < ss.length := by decide +kernel
  have hfits : Window.fits 4 1 = true := by decide
  have htexts : (twoFunctions.windowAt? 1 8 4).map (·.preceding.map Fragment.text) =
      some ["b", "y"] := by decide +kernel
  obtain ⟨w, first, hw, hshows, -, -, hscope, -⟩ :=
    twoFunctions.window_takes_in_neighbours hsize 1 8 hindex hfits
  rw [hw, Option.map_some, Option.some.injEq] at htexts
  exact ⟨hsize, hindex, hfits, w, first, hw, hshows, htexts, hscope⟩

/-- With the greatest width that the options accept a second statement has no window: no machine word holds
its end. -/
theorem Source.exists_statement_without_window :
    let source : Source := ⟨⟨"n.py"⟩, .python, "a\nb"⟩
    1 < (statements source.fragments.toList).length ∧
      source.windowAt? 18446744073709551615 8 1 = none := by
  decide +kernel

end SourceAudit
