import Mathlib.Data.List.Induction
import SourceAudit.Source

/-! Places in a text, by byte, and by line and column. Walking over characters and counting them gives
the same place, and of two different places the later one is later in line and column too. -/
namespace SourceAudit

def utf8Length (cs : List Char) : Nat := (String.ofList cs).utf8ByteSize

@[simp] theorem utf8Length_nil : utf8Length [] = 0 := rfl

@[simp] theorem utf8Length_append (xs ys : List Char) :
    utf8Length (xs ++ ys) = utf8Length xs + utf8Length ys := by
  rw [utf8Length, String.ofList_append, String.utf8ByteSize_append]
  rfl

@[simp] theorem utf8Length_cons (c : Char) (cs : List Char) :
    utf8Length (c :: cs) = c.utf8Size + utf8Length cs := by
  rw [← List.singleton_append, utf8Length_append, utf8Length, ← String.singleton_eq_ofList,
    String.utf8ByteSize_singleton]

@[simp] theorem utf8Length_toList (s : String) : utf8Length s.toList = s.utf8ByteSize := by
  rw [utf8Length, String.ofList_toList]

theorem utf8Length_pos {cs : List Char} (h : cs ≠ []) : 0 < utf8Length cs := by
  obtain ⟨c, cs, rfl⟩ := List.exists_cons_of_ne_nil h
  have := c.utf8Size_pos
  rw [utf8Length_cons]
  omega

def IsBorder (text : List Char) (n : Nat) : Prop :=
  ∃ before after, text = before ++ after ∧ n = utf8Length before

theorem IsBorder.le_utf8Length {text : List Char} {n : Nat} (h : IsBorder text n) :
    n ≤ utf8Length text := by
  obtain ⟨before, after, rfl, rfl⟩ := h
  rw [utf8Length_append]
  omega

theorem IsBorder.isValid {s : String} {n : Nat} (h : IsBorder s.toList n) :
    String.Pos.Raw.IsValid s ⟨n⟩ := by
  obtain ⟨before, after, htext, rfl⟩ := h
  apply String.Pos.Raw.isValid_iff_exists_append.mpr
  refine ⟨String.ofList before, String.ofList after, ?_, ?_⟩
  · rw [← String.ofList_append, ← htext, String.ofList_toList]
  · rfl

namespace Position

theorem offset_next (p : Position) (c : Char) : (p.next c).offset = p.offset + c.utf8Size := by
  unfold next
  split
  next h =>
    rw [h]
    rfl
  next => rfl

theorem offset_advance (p : Position) (cs : List Char) :
    (p.advance cs).offset = p.offset + utf8Length cs := by
  induction cs generalizing p with
  | nil => rfl
  | cons c cs ih =>
    rw [advance_cons, ih, offset_next, utf8Length_cons]
    omega

theorem line_advance (p : Position) (cs : List Char) :
    (p.advance cs).line = p.line + cs.count '\n' := by
  induction cs generalizing p with
  | nil => rfl
  | cons c cs ih =>
    rw [advance_cons, ih, List.count_cons]
    by_cases h : c = '\n'
    · simp [next, h]
      omega
    · simp [next, h]

theorem column_advance (p : Position) (cs : List Char) :
    (p.advance cs).column =
      (if '\n' ∈ cs then 1 else p.column) + (cs.reverse.takeWhile (· ≠ '\n')).length := by
  induction cs using List.reverseRecOn with
  | nil => simp
  | append_singleton cs c ih =>
    rw [advance_append, advance_cons, advance_nil]
    by_cases h : c = '\n'
    · simp [next, h]
    · simp [next, h, ih, Ne.symm h]
      omega

def IsIn (p : Position) (text : List Char) : Prop :=
  ∃ before after, text = before ++ after ∧ p = start.advance before

theorem IsIn.isBorder {p : Position} {text : List Char} (h : p.IsIn text) :
    IsBorder text p.offset := by
  obtain ⟨before, after, htext, rfl⟩ := h
  refine ⟨before, after, htext, ?_⟩
  rw [offset_advance]
  exact Nat.zero_add _

/-- A place is known by counting what stands before it: the line breaks, and the characters since the
last of them. -/
theorem isIn_iff {p : Position} {text : List Char} :
    p.IsIn text ↔ ∃ before after, text = before ++ after ∧ p.offset = utf8Length before ∧
      p.line = 1 + before.count '\n' ∧
      p.column = 1 + (before.reverse.takeWhile (· ≠ '\n')).length := by
  have hadvance (before : List Char) : start.advance before =
      ⟨utf8Length before, 1 + before.count '\n',
        1 + (before.reverse.takeWhile (· ≠ '\n')).length⟩ := by
    have ho := offset_advance start before
    have hl := line_advance start before
    have hc := column_advance start before
    simp only [start, Nat.zero_add, ite_self] at ho hl hc
    rw [← ho, ← hl, ← hc]
    rfl
  constructor
  · rintro ⟨before, after, htext, rfl⟩
    rw [hadvance]
    exact ⟨before, after, htext, rfl, rfl, rfl⟩
  · rintro ⟨before, after, htext, ho, hl, hc⟩
    refine ⟨before, after, htext, ?_⟩
    rw [hadvance, ← ho, ← hl, ← hc]

/-- Earlier for a reader, who goes by lines and columns. -/
def Before (p q : Position) : Prop :=
  p.line < q.line ∨ p.line = q.line ∧ p.column < q.column

theorem Before.trans {p q r : Position} (hpq : p.Before q) (hqr : q.Before r) : p.Before r := by
  unfold Before at *
  omega

theorem before_next (p : Position) (c : Char) : p.Before (p.next c) := by
  unfold Before next
  split
  · exact .inl (Nat.lt_succ_self _)
  · exact .inr ⟨rfl, Nat.lt_succ_self _⟩

theorem before_advance (p : Position) {cs : List Char} (h : cs ≠ []) : p.Before (p.advance cs) := by
  induction cs generalizing p with
  | nil => contradiction
  | cons c cs ih =>
    rw [advance_cons]
    by_cases hcs : cs = []
    · rw [hcs]
      exact before_next p c
    · exact (before_next p c).trans (ih _ hcs)

theorem before_of_offset_lt {p q : Position} {text : List Char} (hp : p.IsIn text)
    (hq : q.IsIn text) (h : p.offset < q.offset) : p.Before q := by
  obtain ⟨before, after, htext, rfl⟩ := hp
  obtain ⟨before', after', htext', rfl⟩ := hq
  rw [offset_advance, offset_advance] at h
  obtain ⟨more, rfl⟩ | ⟨more, rfl⟩ :=
    List.prefix_or_prefix_of_prefix (⟨after, htext.symm⟩ : before <+: text) ⟨after', htext'.symm⟩
  · rw [advance_append]
    apply before_advance
    rintro rfl
    simp at h
  · rw [utf8Length_append] at h
    omega

end Position
end SourceAudit
