import Mathlib.Order.Bounds.Basic
import SourceAudit.Proofs.Position

/-! Slices at any offsets. A slice starts at the last border that is not behind its first offset, and stops
at the first border that is not before its second one. Both searches come to an end inside the text, and
the borders that they find can be cut at. -/
namespace SourceAudit

theorem isValid_iff_isBorder {text : String} {n : Nat} :
    String.Pos.Raw.IsValid text ⟨n⟩ ↔ IsBorder text.toList n := by
  constructor
  · intro h
    obtain ⟨before, after, rfl, hn⟩ := String.Pos.Raw.isValid_iff_exists_append.mp h
    refine ⟨before.toList, after.toList, String.toList_append, ?_⟩
    rw [utf8Length_toList]
    exact congrArg String.Pos.Raw.byteIdx hn
  · exact IsBorder.isValid

theorem isBorder_zero (text : List Char) : IsBorder text 0 := ⟨[], text, rfl, rfl⟩

theorem isBorder_utf8ByteSize (text : String) : IsBorder text.toList text.utf8ByteSize :=
  ⟨text.toList, [], (List.append_nil _).symm, (utf8Length_toList text).symm⟩

/-! ### Looking for a border byte by byte -/

instance (text : String) (n : Nat) : Decidable (IsBorder text.toList n) :=
  decidable_of_iff _ isValid_iff_isBorder

def borderBelow? (text : String) (n : Nat) : Option Nat :=
  if IsBorder text.toList n then some n
  else
    match n with
    | 0 => none
    | n + 1 => borderBelow? text n

/-- Goes on from `n` to a border. It fails behind the end of the text, where none is left. -/
def borderAbove? (text : String) (n : Nat) : Option Nat :=
  if IsBorder text.toList n then some n
  else if n < text.utf8ByteSize then borderAbove? text (n + 1)
  else none
termination_by text.utf8ByteSize - n

theorem exists_borderBelow? (text : String) (n : Nat) :
    ∃ m, borderBelow? text n = some m ∧
      IsGreatest {k | IsBorder text.toList k ∧ k ≤ n} m := by
  induction n with
  | zero =>
    have hzero := isBorder_zero text.toList
    exact ⟨0, by rw [borderBelow?, if_pos hzero], ⟨hzero, Nat.le_refl 0⟩, fun k hk => hk.2⟩
  | succ n ih =>
    rw [borderBelow?]
    split
    next h => exact ⟨n + 1, rfl, ⟨h, Nat.le_refl _⟩, fun k hk => hk.2⟩
    next h =>
      obtain ⟨m, hm, ⟨hborder, hle⟩, hgreatest⟩ := ih
      refine ⟨m, hm, ⟨hborder, Nat.le_succ_of_le hle⟩, fun k ⟨hk, hkn⟩ => hgreatest ⟨hk, ?_⟩⟩
      have hne : k ≠ n + 1 := by
        rintro rfl
        exact h hk
      omega

theorem exists_borderAbove? (text : String) {n : Nat} (hn : n ≤ text.utf8ByteSize) :
    ∃ m, borderAbove? text n = some m ∧ IsLeast {k | IsBorder text.toList k ∧ n ≤ k} m := by
  fun_induction borderAbove? text n with
  | case1 n h => exact ⟨n, rfl, ⟨h, Nat.le_refl n⟩, fun k hk => hk.2⟩
  | case2 n h hlt ih =>
    obtain ⟨m, hm, ⟨hborder, hle⟩, hleast⟩ := ih hlt
    refine ⟨m, hm, ⟨hborder, Nat.le_of_succ_le hle⟩, fun k ⟨hk, hnk⟩ => hleast ⟨hk, ?_⟩⟩
    have hne : n ≠ k := by
      rintro rfl
      exact h hk
    exact Nat.lt_of_le_of_ne hnk hne
  | case3 n h hge =>
    -- the end of the text is a border
    obtain rfl : n = text.utf8ByteSize := by omega
    exact absurd (isBorder_utf8ByteSize text) h

def cut? (text : String) (start stop : Nat) : Option String :=
  if h : IsBorder text.toList start ∧ IsBorder text.toList stop ∧ start ≤ stop then
    some (text.extract ⟨⟨start⟩, h.1.isValid⟩ ⟨⟨stop⟩, h.2.1.isValid⟩)
  else none

/-- The slice as it is found step by step, with every step that could fail. -/
def Source.slice? (s : Source) (start stop : Nat) : Option String := do
  let first := min start s.size
  let last := max first (min stop s.size)
  cut? s.text (← borderBelow? s.text first) (← borderAbove? s.text last)

/-! ### What is cut out -/

def StandsAt (text : String) (start stop : Nat) (part : String) : Prop :=
  ∃ before after, text.toList = before ++ part.toList ++ after ∧ start = utf8Length before ∧
    stop = utf8Length (before ++ part.toList)

theorem prefix_of_utf8Length_le {before front text : List Char} (hbefore : before <+: text)
    (hfront : front <+: text) (h : utf8Length before ≤ utf8Length front) : before <+: front := by
  obtain hprefix | ⟨more, rfl⟩ := List.prefix_or_prefix_of_prefix hbefore hfront
  · exact hprefix
  · have hmore : more = [] := by
      by_contra hne
      have := utf8Length_pos hne
      rw [utf8Length_append] at h
      omega
    exact ⟨[], by rw [hmore, List.append_nil, List.append_nil]⟩

theorem extract_toByteArray_middle (before mid after : List Char) :
    (String.ofList (before ++ mid ++ after)).toByteArray.extract (utf8Length before)
      (utf8Length (before ++ mid)) = (String.ofList mid).toByteArray := by
  have hbefore : utf8Length before = (String.ofList before).toByteArray.size + 0 := rfl
  have hmid : utf8Length (before ++ mid) =
      (String.ofList before).toByteArray.size + (String.ofList mid).toByteArray.size :=
    utf8Length_append before mid
  rw [List.append_assoc, String.ofList_append, String.ofList_append, String.toByteArray_append,
    String.toByteArray_append, hbefore, hmid, ByteArray.extract_append_size_add,
    ByteArray.extract_append_eq_left rfl]

theorem standsAt_of_cut? {text part : String} {start stop : Nat}
    (h : cut? text start stop = some part) : StandsAt text start stop part := by
  unfold cut? at h
  split at h
  next hcut =>
    have hbytes : text.toByteArray.extract start stop = part.toByteArray :=
      congrArg String.toByteArray (Option.some.inj h)
    obtain ⟨⟨before, back, hback, rfl⟩, ⟨front, after, hafter, rfl⟩, hle⟩ := hcut
    obtain ⟨mid, rfl⟩ : before <+: front :=
      prefix_of_utf8Length_le ⟨back, hback.symm⟩ ⟨after, hafter.symm⟩ hle
    have htext : text = String.ofList (before ++ mid ++ after) := by
      rw [← hafter, String.ofList_toList]
    have hpart : part = String.ofList mid := by
      rw [htext, extract_toByteArray_middle] at hbytes
      exact String.toByteArray_inj.mp hbytes.symm
    rw [hpart, StandsAt, String.toList_ofList]
    exact ⟨before, after, hafter, rfl, rfl⟩
  next => cases h

/-! ### The borders of a slice -/

theorem isGreatest_offset_posLE (text : String) (n : Nat) :
    IsGreatest {k | IsBorder text.toList k ∧ k ≤ n} (text.posLE ⟨n⟩).offset.byteIdx := by
  refine ⟨⟨isValid_iff_isBorder.mp (text.posLE ⟨n⟩).isValid, String.offset_posLE_le⟩, ?_⟩
  rintro k ⟨hk, hle⟩
  exact String.le_posLE_iff (p := ⟨⟨k⟩, hk.isValid⟩).mpr hle

theorem isLeast_offset_posGE (text : String) (n : Nat) (h : (⟨n⟩ : String.Pos.Raw) ≤ text.rawEndPos) :
    IsLeast {k | IsBorder text.toList k ∧ n ≤ k} (text.posGE ⟨n⟩ h).offset.byteIdx := by
  refine ⟨⟨isValid_iff_isBorder.mp (text.posGE ⟨n⟩ h).isValid, String.le_offset_posGE⟩, ?_⟩
  rintro k ⟨hk, hle⟩
  exact String.posGE_le_iff (q := ⟨⟨k⟩, hk.isValid⟩).mpr hle

namespace Source

variable (s : Source) (start stop : Nat)

theorem exists_borders : ∃ first last,
    (borderBelow? s.text (min start s.size) = some first ∧
      borderAbove? s.text (max (min start s.size) (min stop s.size)) = some last) ∧
    IsGreatest {n | IsBorder s.text.toList n ∧ n ≤ min start s.size} first ∧
    IsLeast {n | IsBorder s.text.toList n ∧ max (min start s.size) (min stop s.size) ≤ n} last ∧
    cut? s.text first last = some (s.slice start stop) := by
  obtain ⟨first, hfirst, hgreatest⟩ := exists_borderBelow? s.text (min start s.size)
  obtain ⟨last, hlast, hleast⟩ := exists_borderAbove? s.text (clamp_le s.text start stop)
  refine ⟨first, last, ⟨hfirst, hlast⟩, hgreatest, hleast, ?_⟩
  obtain rfl := hgreatest.unique (isGreatest_offset_posLE s.text (min start s.size))
  obtain rfl := hleast.unique (isLeast_offset_posGE s.text _ (clamp_le s.text start stop))
  have hle : (s.text.posLE ⟨min start s.size⟩).offset.byteIdx ≤
      (s.text.posGE _ (clamp_le s.text start stop)).offset.byteIdx :=
    calc
      _ ≤ min start s.size := hgreatest.1.2
      _ ≤ max (min start s.size) (min stop s.size) := Nat.le_max_left _ _
      _ ≤ _ := hleast.1.2
  rw [cut?, dif_pos ⟨hgreatest.1.1, hleast.1.1, hle⟩]
  rfl

theorem slice?_eq_some : s.slice? start stop = some (s.slice start stop) := by
  obtain ⟨first, last, ⟨hfirst, hlast⟩, -, -, hcut⟩ := s.exists_borders start stop
  simp only [slice?, hfirst, hlast, Option.bind_eq_bind, Option.bind_some, hcut]

variable {s start stop} in
theorem standsAt_slice (hstart : IsBorder s.text.toList start) (hstop : IsBorder s.text.toList stop)
    (hle : start ≤ stop) : StandsAt s.text start stop (s.slice start stop) := by
  have hsize : stop ≤ s.size := by
    have hin := hstop.le_utf8Length
    rwa [utf8Length_toList] at hin
  obtain ⟨first, last, -, hgreatest, hleast, hcut⟩ := s.exists_borders start stop
  rw [Nat.min_eq_left (Nat.le_trans hle hsize)] at hgreatest hleast
  rw [Nat.min_eq_left hsize, Nat.max_eq_right hle] at hleast
  obtain rfl := hgreatest.unique ⟨⟨hstart, Nat.le_refl start⟩, fun n hn => hn.2⟩
  obtain rfl := hleast.unique ⟨⟨hstop, Nat.le_refl stop⟩, fun n hn => hn.2⟩
  exact standsAt_of_cut? hcut

variable {s start stop} in
theorem utf8ByteSize_slice (hstart : IsBorder s.text.toList start)
    (hstop : IsBorder s.text.toList stop) (hle : start ≤ stop) :
    (s.slice start stop).utf8ByteSize = stop - start := by
  obtain ⟨before, after, -, hbefore, hpart⟩ := standsAt_slice hstart hstop hle
  rw [utf8Length_append, utf8Length_toList] at hpart
  omega

/-- Whatever the offsets, a slice is found without a failure. It stands in the text from the last border
that is not behind the first offset to the first border that is not before the second, where both offsets are
pulled back to the end of the text and the second is raised to the first. Between two borders in order it is
just the part that was asked for. -/
theorem slice_spans_nearest_borders :
    s.slice? start stop = some (s.slice start stop) ∧
    (∃ first last,
      IsGreatest {n | IsBorder s.text.toList n ∧ n ≤ min start s.size} first ∧
      IsLeast {n | IsBorder s.text.toList n ∧ max (min start s.size) (min stop s.size) ≤ n} last ∧
      StandsAt s.text first last (s.slice start stop)) ∧
    (start ≤ stop → IsBorder s.text.toList start → IsBorder s.text.toList stop →
      StandsAt s.text start stop (s.slice start stop)) := by
  refine ⟨s.slice?_eq_some start stop, ?_, fun hle hstart hstop => standsAt_slice hstart hstop hle⟩
  obtain ⟨first, last, -, hgreatest, hleast, hcut⟩ := s.exists_borders start stop
  exact ⟨first, last, hgreatest, hleast, standsAt_of_cut? hcut⟩

def mixedWidths : Source := ⟨⟨"n.py"⟩, .python, "aé😀b"⟩

theorem slice_spans_nearest_borders_mixed :
    IsBorder mixedWidths.text.toList 1 ∧ IsBorder mixedWidths.text.toList 7 ∧
      StandsAt mixedWidths.text 1 7 (mixedWidths.slice 1 7) := by
  have hstart : IsBorder mixedWidths.text.toList 1 := ⟨['a'], ['é', '😀', 'b'], by decide, by decide⟩
  have hstop : IsBorder mixedWidths.text.toList 7 := ⟨['a', 'é', '😀'], ['b'], by decide, by decide⟩
  exact ⟨hstart, hstop, (slice_spans_nearest_borders mixedWidths 1 7).2.2 (by decide) hstart hstop⟩

-- both offsets inside one character, in order and out of order
example : (ofText ⟨"n.py"⟩ "aé😀b").slice 4 5 = "😀" ∧ (ofText ⟨"n.py"⟩ "aé😀b").slice 4 1 = "😀" := by
  decide +kernel

end Source
end SourceAudit
