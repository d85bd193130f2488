import SourceAudit.Proofs.Extent

/-! Windows by index. A window can be reckoned from the places of statements among the fragments, in
machine words, where a sum may be too large and an index out of range. Main statement: this gives the
window of the statement, unless no machine word holds the sum of the index and the width, and nothing else
can go wrong. -/
namespace SourceAudit

/-! ### Machine words -/

namespace Word

def add? (a b : UInt64) : Option UInt64 :=
  if a.toNat + b.toNat < UInt64.size then some (a + b) else none

def sub? (a b : UInt64) : Option UInt64 := if b ≤ a then some (a - b) else none

def monus (a b : UInt64) : UInt64 := if b ≤ a then a - b else 0

theorem toNat_monus (a b : UInt64) : (monus a b).toNat = a.toNat - b.toNat := by
  unfold monus
  split
  next hle => exact UInt64.toNat_sub_of_le _ _ hle
  next hlt =>
    have hlt : a.toNat < b.toNat := UInt64.lt_iff_toNat_lt.mp (UInt64.not_le.mp hlt)
    rw [Nat.sub_eq_zero_of_le (Nat.le_of_lt hlt)]
    rfl

end Word

def part? (xs : List α) (i j : Nat) : Option (List α) :=
  if i ≤ j ∧ j ≤ xs.length then some (xs.extract i j) else none

structure Stretch where
  start : Nat
  stop : Nat
deriving DecidableEq, Repr

def Statement.stretches (start : Nat) : List Statement → List Stretch
  | [] => []
  | s :: ss =>
    ⟨start, start + s.fragments.length⟩ :: stretches (start + s.fragments.length) ss

namespace Window

def lastIndex? (index width count : UInt64) : Option UInt64 := do
  let stop ← Word.add? index (max width 1)
  Word.sub? (min stop count) 1

/-- Goes back over statements, the nearest first, as long as they are in the scope, and gives the place of
the first fragment that was reached. -/
def lookBack? (fs : List Fragment) (scope start : Nat) : List Stretch → Option Nat
  | [] => some start
  | r :: rs => do
    let f ← fs[r.start]?
    if f.scope == scope then lookBack? fs scope r.start rs else some start

/-- The window of the statement at `index`, reckoned from the places of statements among the fragments.
There is none when a sum is too large or an index out of range. -/
def ofIndex? (source : Source) (fs : List Fragment) (index width lookbehind : UInt64) :
    Option Window := do
  let rs := Statement.stretches 0 (statements fs)
  let head ← rs[index.toNat]?
  let last ← lastIndex? index width rs.length.toUInt64
  let final ← rs[last.toNat]?
  let anchor ← fs[head.start]?
  let before ← part? rs (Word.monus index lookbehind).toNat index.toNat
  let start ← lookBack? fs anchor.scope head.start before.reverse
  let rest ← part? fs head.stop final.stop
  let preceding ← part? fs start head.start
  match ← part? fs head.start head.stop with
  | [] => none
  | first :: more => some { source, statement := ⟨first, more⟩, rest, preceding }

/-! ### The last statement -/

theorem lastIndex?_eq_none {index width count : UInt64} (hfits : fits index.toNat width = false) :
    lastIndex? index width count = none := by
  have hmax : (max width 1).toNat = max width.toNat 1 := UInt64.toNat_max width 1
  have hsum : Word.add? index (max width 1) = none := by
    rw [Word.add?, hmax, if_neg (of_decide_eq_false hfits)]
  rw [lastIndex?, hsum]
  rfl

/-- Where the sum of index and width fits, no step leaves the machine words, and the last statement is the
same as in whole numbers. -/
theorem exists_lastIndex? {index width count : UInt64} (hindex : index.toNat < count.toNat)
    (hfits : fits index.toNat width = true) :
    ∃ last, lastIndex? index width count = some last ∧
      last.toNat = min (index.toNat + max width.toNat 1) count.toNat - 1 := by
  have hmax : (max width 1).toNat = max width.toNat 1 := UInt64.toNat_max width 1
  have hlt : index.toNat + (max width 1).toNat < UInt64.size := by
    rw [hmax]
    exact of_decide_eq_true hfits
  have hsum : Word.add? index (max width 1) = some (index + max width 1) := if_pos hlt
  have hstop : (min (index + max width 1) count).toNat =
      min (index.toNat + max width.toNat 1) count.toNat := by
    rw [UInt64.toNat_min, UInt64.toNat_add, Nat.mod_eq_of_lt hlt, hmax]
  have hone : (1 : UInt64) ≤ min (index + max width 1) count := by
    rw [UInt64.le_iff_toNat_le, hstop, UInt64.toNat_one]
    omega
  refine ⟨min (index + max width 1) count - 1, ?_, ?_⟩
  · rw [lastIndex?, hsum]
    exact if_pos hone
  · rw [UInt64.toNat_sub_of_le _ _ hone, hstop]
    rfl

end Window

/-! ### Where statements stand among the fragments -/

section

variable {ss : List Statement} {i j : Nat}

def fragmentsBefore (ss : List Statement) (i : Nat) : Nat := (fragmentsBetween ss 0 i).length

theorem fragmentsBefore_add (ss : List Statement) (hij : i ≤ j) :
    fragmentsBefore ss i + (fragmentsBetween ss i j).length = fragmentsBefore ss j := by
  rw [fragmentsBefore, fragmentsBefore, ← List.length_append, fragmentsBetween_append (Nat.zero_le i) hij]

theorem getElem?_stretches (start : Nat) (ss : List Statement) (i : Nat) :
    (Statement.stretches start ss)[i]? =
      ss[i]?.map fun _ => ⟨start + fragmentsBefore ss i, start + fragmentsBefore ss (i + 1)⟩ := by
  induction ss generalizing start i with
  | nil => simp [Statement.stretches]
  | cons s ss ih =>
    cases i with
    | zero => simp [Statement.stretches, fragmentsBefore, fragmentsBetween, List.extract]
    | succ i =>
      have hcons (k : Nat) :
          fragmentsBefore (s :: ss) (k + 1) = s.fragments.length + fragmentsBefore ss k := by
        simp [fragmentsBefore, fragmentsBetween, List.extract]
      rw [Statement.stretches, List.getElem?_cons_succ, ih, hcons, hcons, Nat.add_assoc,
        Nat.add_assoc]
      rfl

theorem length_stretches (start : Nat) (ss : List Statement) :
    (Statement.stretches start ss).length = ss.length := by
  induction ss generalizing start with
  | nil => rfl
  | cons s ss ih => simp [Statement.stretches, ih]

theorem flatMap_fragments_eq (hij : i ≤ j) (hj : j ≤ ss.length) :
    ss.flatMap Statement.fragments =
      fragmentsBetween ss 0 i ++ (fragmentsBetween ss i j ++ fragmentsBetween ss j ss.length) := by
  rw [fragmentsBetween_append hij hj, fragmentsBetween_append (Nat.zero_le i) (hij.trans hj),
    fragmentsBetween_all]

theorem part?_fragmentsBefore (hij : i ≤ j) (hj : j ≤ ss.length) :
    part? (ss.flatMap Statement.fragments) (fragmentsBefore ss i) (fragmentsBefore ss j) =
      some (fragmentsBetween ss i j) := by
  have hstart := fragmentsBefore_add ss hij
  have hend := fragmentsBefore_add ss hj
  have hlength : fragmentsBefore ss ss.length = (ss.flatMap Statement.fragments).length := by
    rw [fragmentsBefore, fragmentsBetween_all]
  have hcount : fragmentsBefore ss j - fragmentsBefore ss i = (fragmentsBetween ss i j).length := by
    omega
  rw [part?, if_pos ⟨by omega, by omega⟩, List.extract, hcount, flatMap_fragments_eq hij hj,
    fragmentsBefore, List.drop_left' rfl, List.take_left' rfl]

theorem getElem?_fragmentsBefore {s : Statement} (hs : ss[i]? = some s) :
    (ss.flatMap Statement.fragments)[fragmentsBefore ss i]? = some s.first := by
  obtain ⟨hi, -⟩ := List.getElem?_eq_some_iff.mp hs
  rw [flatMap_fragments_eq (Nat.le_succ i) hi, fragmentsBetween_single hs, fragmentsBefore,
    List.getElem?_append_right (Nat.le_refl _), Nat.sub_self]
  rfl

theorem stretches_extract_succ {s : Statement} (hij : i ≤ j) (hs : ss[j]? = some s) :
    (Statement.stretches 0 ss).extract i (j + 1) =
      (Statement.stretches 0 ss).extract i j ++ [⟨fragmentsBefore ss j, fragmentsBefore ss (j + 1)⟩] := by
  have hcount : j + 1 - i = (j - i) + 1 := by omega
  rw [List.extract, List.extract, hcount, List.take_add_one, List.getElem?_drop,
    Nat.add_sub_cancel' hij, getElem?_stretches, hs]
  simp

theorem part?_stretches (hij : i ≤ j) (hj : j ≤ ss.length) :
    part? (Statement.stretches 0 ss) i j = some ((Statement.stretches 0 ss).extract i j) :=
  if_pos ⟨hij, by rwa [length_stretches]⟩

end

namespace Window

variable {ss : List Statement} {index : Nat}

theorem lookBack?_stretches (s : Statement) (k : Nat) (hindex : index ≤ ss.length) :
    lookBack? (ss.flatMap Statement.fragments) s.scope (fragmentsBefore ss index)
        ((Statement.stretches 0 ss).extract (index - k) index).reverse =
      some (fragmentsBefore ss (index - lookedBack ss k index s)) := by
  induction k generalizing index with
  | zero => simp [lookBack?, lookedBack, List.extract]
  | succ k ih =>
    cases index with
    | zero => simp [lookBack?, lookedBack, List.extract]
    | succ j =>
      have hj : j < ss.length := hindex
      have hs : ss[j]? = some ss[j] := List.getElem?_eq_getElem hj
      have hplace : j + 1 - (k + 1) = j - k := by omega
      have hback : lookedBack ss (k + 1) (j + 1) s =
          if ss[j].scope == s.scope then lookedBack ss k j s + 1 else 0 := by
        have hreverse : (ss.take (j + 1)).reverse = ss[j] :: (ss.take j).reverse := by
          rw [List.take_add_one, hs, Option.toList_some, List.reverse_append]
          rfl
        rw [lookedBack, hreverse, List.take_succ_cons, List.takeWhile_cons]
        split <;> rfl
      rw [hplace, stretches_extract_succ (Nat.sub_le j k) hs, List.reverse_append,
        List.reverse_singleton, List.singleton_append, lookBack?, getElem?_fragmentsBefore hs, hback]
      by_cases hscope : (ss[j].scope == s.scope) = true
      · have hstep : j + 1 - (lookedBack ss k j s + 1) = j - lookedBack ss k j s := by omega
        rw [if_pos hscope, hstep, ← ih (Nat.le_of_lt hj)]
        exact if_pos hscope
      · rw [if_neg hscope]
        exact if_neg hscope

theorem length_statements_lt {fs : List Fragment} (h : fs.length < UInt64.size) :
    (statements fs).length < UInt64.size :=
  Nat.lt_of_le_of_lt (length_statements_le fs) h

theorem ofIndex?_eq_none (source : Source) (fs : List Fragment) {index width : UInt64}
    (lookbehind : UInt64) (hfits : fits index.toNat width = false) :
    ofIndex? source fs index width lookbehind = none := by
  simp only [ofIndex?, lastIndex?_eq_none hfits, Option.bind_eq_bind, Option.bind_none]
  cases (Statement.stretches 0 (statements fs))[index.toNat]? <;> rfl

theorem fits_of_ofIndex? {source : Source} {fs : List Fragment} {index width lookbehind : UInt64}
    {w : Window} (h : ofIndex? source fs index width lookbehind = some w) :
    fits index.toNat width = true := by
  cases hfits : fits index.toNat width with
  | true => rfl
  | false =>
    rw [ofIndex?_eq_none source fs lookbehind hfits] at h
    cases h

theorem ofIndex?_eq_some (source : Source) {fs : List Fragment} (hfs : fs.length < UInt64.size)
    {index width : UInt64} (lookbehind : UInt64) (hindex : index.toNat < (statements fs).length)
    (hfits : fits index.toNat width = true) :
    ofIndex? source fs index width lookbehind =
      some (among source (statements fs) width lookbehind index.toNat (statements fs)[index.toNat]) := by
  have hcount := length_statements_lt hfs
  have hword : (statements fs).length.toUInt64.toNat = (statements fs).length :=
    UInt64.toNat_ofNat_of_lt' hcount
  unfold ofIndex?
  have hflat := flatMap_fragments_statements fs
  generalize statements fs = ss at *
  subst hflat
  have hs : ss[index.toNat]? = some ss[index.toNat] := List.getElem?_eq_getElem hindex
  obtain ⟨last, hlast, hlastNat⟩ := exists_lastIndex? (hword.symm ▸ hindex) hfits
  rw [hword] at hlastNat
  have hstop : last.toNat + 1 = min (index.toNat + max width.toNat 1) ss.length := by omega
  have hfinal : ss[last.toNat]? = some ss[last.toNat] := List.getElem?_eq_getElem (by omega)
  have hown := part?_fragmentsBefore (Nat.le_succ index.toNat) hindex
  rw [Nat.succ_eq_add_one, fragmentsBetween_single hs] at hown
  simp only [length_stretches, getElem?_stretches, hs, hlast, hfinal, Option.map_some,
    Option.bind_eq_bind, Option.bind_some, Nat.zero_add, getElem?_fragmentsBefore hs, Word.toNat_monus,
    part?_stretches (Nat.sub_le index.toNat lookbehind.toNat) (Nat.le_of_lt hindex)]
  have hscope : ss[index.toNat].first.scope = ss[index.toNat].scope := rfl
  rw [hscope, lookBack?_stretches _ _ (Nat.le_of_lt hindex), Option.bind_some,
    part?_fragmentsBefore (by omega) (by omega), Option.bind_some,
    part?_fragmentsBefore (Nat.sub_le _ _) (by omega), hown]
  -- what was cut out are the parts of the window
  rw [hstop, ← rest_among source lookbehind ss[index.toNat] hindex hcount hfits,
    ← preceding_among source width lookbehind (Nat.le_of_lt hindex)]
  rfl

end Window

theorem Source.windowAt?_eq_ofIndex? (source : Source) (hsize : source.size < UInt64.size)
    (width lookbehind index : UInt64) :
    source.windowAt? width lookbehind index.toNat =
      Window.ofIndex? source source.fragments.toList index width lookbehind := by
  rw [windowAt?_eq]
  cases hfits : Window.fits index.toNat width with
  | false => rw [Window.ofIndex?_eq_none source _ lookbehind hfits, if_neg Bool.false_ne_true]
  | true =>
    rw [if_pos rfl]
    by_cases hindex : index.toNat < (statements source.fragments.toList).length
    · have hfs := Nat.lt_of_le_of_lt source.length_fragments_le hsize
      rw [Window.ofIndex?_eq_some source hfs lookbehind hindex hfits,
        List.getElem?_eq_getElem hindex]
      rfl
    · have hnone : (statements source.fragments.toList)[index.toNat]? = none :=
        List.getElem?_eq_none (Nat.le_of_not_lt hindex)
      simp only [Window.ofIndex?, getElem?_stretches, hnone]
      rfl

namespace Options

theorem one_le_width_of_validate {o o' : Options} (h : o.validate = .ok o') :
    1 ≤ o'.windowWidth.toNat := by
  unfold validate at h
  split at h
  next => cases h
  next hwidth =>
    split at h
    next => cases h
    next =>
      cases h
      exact Nat.one_le_iff_ne_zero.mpr fun hzero => hwidth (UInt64.toNat_inj.mp hzero)

/-- With options that were accepted, and over fragments that memory holds, a window is reckoned without
leaving the machine words and without an index out of range just when a word holds the sum of the index and
the width. It is then the window of the statement, and its last statement is the one that whole numbers
give. -/
theorem window_in_range_iff {o o' : Options} (ho : o.validate = .ok o') (source : Source)
    {fs : List Fragment} (hfs : fs.length < UInt64.size) {index : UInt64}
    (hindex : index.toNat < (statements fs).length) :
    let ss := statements fs
    let width := o'.windowWidth.toNat
    ((∃ w, Window.ofIndex? source fs index o'.windowWidth o'.guardLookbehind = some w) ↔
        index.toNat + width < UInt64.size) ∧
      ∀ w, Window.ofIndex? source fs index o'.windowWidth o'.guardLookbehind = some w →
        w = .among source ss o'.windowWidth o'.guardLookbehind index.toNat ss[index.toNat] ∧
        ∃ last, Window.lastIndex? index o'.windowWidth ss.length.toUInt64 = some last ∧
          last.toNat = min (index.toNat + width) ss.length - 1 ∧
          w.rest = fragmentsBetween ss (index.toNat + 1) (last.toNat + 1) := by
  intro ss width
  have hmax : max width 1 = width := Nat.max_eq_left (one_le_width_of_validate ho)
  have hfits : Window.fits index.toNat o'.windowWidth = true ↔ index.toNat + width < UInt64.size := by
    rw [Window.fits, decide_eq_true_eq]
    exact iff_of_eq (congrArg (index.toNat + · < UInt64.size) hmax)
  refine ⟨⟨?_, ?_⟩, ?_⟩
  · rintro ⟨w, hw⟩
    exact hfits.mp (Window.fits_of_ofIndex? hw)
  · intro hlt
    exact ⟨_, Window.ofIndex?_eq_some source hfs _ hindex (hfits.mpr hlt)⟩
  · intro w hw
    have hsum := Window.fits_of_ofIndex? hw
    rw [Window.ofIndex?_eq_some source hfs _ hindex hsum, Option.some.injEq] at hw
    subst hw
    have hlt : index.toNat < ss.length := hindex
    have hcount : ss.length < UInt64.size := Window.length_statements_lt hfs
    have hword : ss.length.toUInt64.toNat = ss.length := UInt64.toNat_ofNat_of_lt' hcount
    obtain ⟨last, hlast, hlastNat⟩ := Window.exists_lastIndex? (hword.symm ▸ hindex) hsum
    rw [hword] at hlastNat
    refine ⟨rfl, last, hlast, by rw [hlastNat, ← hmax], ?_⟩
    rw [Window.rest_among source _ _ hindex hcount hsum, hlastNat, Nat.sub_add_cancel (by omega)]

def widest : Options where
  windowWidth := 18446744073709551615
  guardLookbehind := 18446744073709551615

theorem window_in_range_iff_widest :
    let source : Source := ⟨⟨"n.py"⟩, .python, "a\nb"⟩
    let fs := source.fragments.toList
    widest.validate = .ok widest ∧ fs.length < UInt64.size ∧ 0 < (statements fs).length ∧
      ∃ w, Window.ofIndex? source fs 0 widest.windowWidth widest.guardLookbehind = some w ∧
        ∃ last, Window.lastIndex? 0 widest.windowWidth (statements fs).length.toUInt64 = some last ∧
          last.toNat = 1 := by
  intro source fs
  have ho : widest.validate = .ok widest := rfl
  have hcount : (statements fs).length = 2 := by decide +kernel
  have hfs : fs.length < UInt64.size := by decide +kernel
  have hindex : (0 : UInt64).toNat < (statements fs).length := by
    rw [hcount]
    decide
  obtain ⟨hiff, hwindow⟩ := window_in_range_iff ho source hfs hindex
  obtain ⟨w, hw⟩ := hiff.mpr (by decide)
  obtain ⟨-, last, hlast, hlastNat, -⟩ := hwindow w hw
  refine ⟨ho, hfs, hindex, w, hw, last, hlast, ?_⟩
  rw [hlastNat, hcount]
  rfl

/-- With the widest windows there is no machine word for the end of the second one, although in whole
numbers it ends with the last statement. -/
theorem exists_window_out_of_range :
    ∃ (o : Options) (source : Source) (index : UInt64), o.validate = .ok o ∧
      index.toNat < (statements source.fragments.toList).length ∧
      Window.lastIndex? index o.windowWidth (statements source.fragments.toList).length.toUInt64 = none ∧
      Window.ofIndex? source source.fragments.toList index o.windowWidth o.guardLookbehind = none := by
  refine ⟨widest, ⟨⟨"n.py"⟩, .python, "a\nb"⟩, 1, rfl, by decide +kernel, ?_, ?_⟩
  · exact Window.lastIndex?_eq_none (by decide)
  · exact Window.ofIndex?_eq_none _ _ _ (by decide)

end Options
end SourceAudit
