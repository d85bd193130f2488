import Mathlib.Data.List.Basic
import SourceAudit.Rule.RequestForgery

/-! The words of a name. A name is read from left to right with at most one word open. Nothing is dropped
and nothing is read twice, so the words are known by their ends: between two letters or digits one word ends
just where something else stands between them, or a capital follows a small letter or a digit. -/
namespace SourceAudit.RequestForgery

def isSmall (c : Char) : Bool := c.isLower || c.isDigit

theorem isAlphanum_eq (c : Char) : c.isAlphanum = (c.isUpper || c.isLower || c.isDigit) := rfl

theorem isAlphanum_of_isSmall {c : Char} (h : isSmall c = true) : c.isAlphanum = true := by
  rw [isAlphanum_eq, Bool.or_assoc, Bool.or_eq_true]
  exact .inr h

theorem isLower_toLower {c : Char} (h : c.isUpper = true) : c.toLower.isLower = true := by
  have hc : c.val ≥ 'A'.val ∧ c.val ≤ 'Z'.val := of_decide_eq_true h
  have hval : c.toLower.val = c.val + 32 := congrArg Char.val (dif_pos hc)
  have hlower : c.toLower.isLower =
    (decide (c.toLower.val ≥ 'a'.val) && decide (c.toLower.val ≤ 'z'.val)) := rfl
  simp only [ge_iff_le, UInt32.le_iff_toNat_le] at hc hlower
  have hsum : (c.val + 32).toNat = c.val.toNat + 32 := by
    rw [UInt32.toNat_add, Nat.mod_eq_of_lt]
    · rfl
    · exact Nat.lt_of_le_of_lt (Nat.add_le_add_right hc.2 _) (by decide)
  rw [hlower, hval, hsum, Bool.and_eq_true, decide_eq_true_eq, decide_eq_true_eq]
  exact ⟨Nat.add_le_add_right hc.1 32, Nat.add_le_add_right hc.2 32⟩

theorem isSmall_toLower {c : Char} (h : c.isAlphanum = true) : isSmall c.toLower = true := by
  cases hupper : c.isUpper with
  | true => rw [isSmall, isLower_toLower hupper, Bool.true_or]
  | false =>
    have hsame : c.toLower = c := dif_neg (of_decide_eq_false hupper)
    rw [isAlphanum_eq, hupper, Bool.false_or] at h
    rwa [hsame]

def lettersOf (cs : List Char) : List Char := (cs.filter Char.isAlphanum).map Char.toLower

theorem lettersOf_append (xs ys : List Char) :
    lettersOf (xs ++ ys) = lettersOf xs ++ lettersOf ys := by
  simp [lettersOf]

theorem lettersOf_eq_nil {cs : List Char} (h : ∀ c ∈ cs, c.isAlphanum = false) :
    lettersOf cs = [] := by
  simpa [lettersOf] using h

theorem isSmall_of_mem_lettersOf {c : Char} {cs : List Char} (h : c ∈ lettersOf cs) :
    isSmall c = true := by
  obtain ⟨d, hd, rfl⟩ := List.mem_map.mp h
  exact isSmall_toLower (List.mem_filter.mp hd).2

/-! ### Reading character by character -/

structure Reading where
  /-- The words that have ended. -/
  done : List (List Char)
  /-- The open word, in reverse. -/
  word : List Char
  afterLower : Bool

namespace Reading

def start : Reading := ⟨[], [], false⟩

def close (r : Reading) : List (List Char) :=
  if r.word.isEmpty then r.done else r.done ++ [r.word.reverse]

def read (r : Reading) (c : Char) : Reading :=
  if !c.isAlphanum then ⟨r.close, [], false⟩
  else if c.isUpper && r.afterLower then ⟨r.done ++ [r.word.reverse], [c.toLower], isSmall c⟩
  else ⟨r.done, c.toLower :: r.word, isSmall c⟩

theorem close_foldl_read (cs : List Char) (r : Reading) :
    (cs.foldl read r).close = r.done ++ wordsFrom r.word r.afterLower cs := by
  induction cs generalizing r with
  | nil =>
    rw [List.foldl_nil, close, wordsFrom]
    split
    next => rw [List.append_nil]
    next => rfl
  | cons c cs ih =>
    rw [List.foldl_cons, ih, read, wordsFrom]
    split
    · simp only [close]
      split
      · rfl
      · rw [List.append_assoc, List.singleton_append]
    · split
      · rw [List.append_assoc, List.singleton_append]
        rfl
      · rfl

theorem flatten_close (r : Reading) : r.close.flatten = r.done.flatten ++ r.word.reverse := by
  unfold close
  split
  next h => rw [List.isEmpty_iff.mp h, List.reverse_nil, List.append_nil]
  next => rw [List.flatten_append, List.flatten_singleton]

theorem read_other {r : Reading} {c : Char} (hc : c.isAlphanum = false) :
    r.read c = ⟨r.close, [], false⟩ := by
  simp [read, hc]

theorem read_letter {r : Reading} {c : Char} (hc : c.isAlphanum = true)
    (hsame : ¬(c.isUpper = true ∧ r.afterLower = true)) :
    r.read c = ⟨r.done, c.toLower :: r.word, isSmall c⟩ := by
  rw [← Bool.and_eq_true] at hsame
  simp [read, hc, hsame]

structure Sound (r : Reading) (seen : List Char) : Prop where
  joined : r.done.flatten ++ r.word.reverse = lettersOf seen
  filled : [] ∉ r.done
  word_ne_nil : r.word ≠ [] ↔ seen.getLast?.any Char.isAlphanum = true
  afterLower : r.afterLower = seen.getLast?.any isSmall

theorem sound_start : start.Sound [] where
  joined := rfl
  filled := List.not_mem_nil
  word_ne_nil := by decide
  afterLower := rfl

section

variable {r : Reading} {seen : List Char}

/-- A small letter or a digit leaves its word open, so that a capital behind it ends no empty word. -/
theorem Sound.word_ne_nil_of_afterLower (h : r.Sound seen) (hlower : r.afterLower = true) :
    r.word ≠ [] := by
  rw [h.afterLower, Option.any_eq_true] at hlower
  obtain ⟨c, hc, hsmall⟩ := hlower
  rw [h.word_ne_nil, Option.any_eq_true]
  exact ⟨c, hc, isAlphanum_of_isSmall hsmall⟩

theorem Sound.read_capital (h : r.Sound seen) {c : Char} (hc : c.isAlphanum = true)
    (hnew : c.isUpper = true ∧ r.afterLower = true) :
    r.read c = ⟨r.close, [c.toLower], isSmall c⟩ := by
  have hopen : ¬r.word.isEmpty = true :=
    mt List.isEmpty_iff.mp (h.word_ne_nil_of_afterLower hnew.2)
  rw [close, if_neg hopen]
  simp [Reading.read, hc, hnew]

theorem Sound.nil_notMem_close (h : r.Sound seen) : [] ∉ r.close := by
  unfold close
  split
  next => exact h.filled
  next hword =>
    rw [List.mem_append, List.mem_singleton, not_or]
    refine ⟨h.filled, fun hnil => hword ?_⟩
    rw [List.reverse_eq_nil_iff.mp hnil.symm, List.isEmpty_nil]

theorem Sound.flatten_close_eq (h : r.Sound seen) : r.close.flatten = lettersOf seen := by
  rw [flatten_close, h.joined]

theorem Sound.read (h : r.Sound seen) (c : Char) : (r.read c).Sound (seen ++ [c]) := by
  have hlast : (seen ++ [c]).getLast? = some c := List.getLast?_concat
  cases hc : c.isAlphanum with
  | false =>
    have hnone : lettersOf [c] = [] := lettersOf_eq_nil (by simpa using hc)
    have hother : isSmall c = false := by
      rw [← Bool.not_eq_true] at hc ⊢
      exact mt isAlphanum_of_isSmall hc
    rw [read_other hc]
    refine ⟨?_, h.nil_notMem_close, by simp [hlast, hc], by simp [hlast, hother]⟩
    rw [lettersOf_append, hnone, h.flatten_close_eq, List.reverse_nil]
  | true =>
    have hletter : lettersOf [c] = [c.toLower] := by simp [lettersOf, hc]
    by_cases hnew : c.isUpper = true ∧ r.afterLower = true
    · rw [h.read_capital hc hnew]
      refine ⟨?_, h.nil_notMem_close, by simp [hlast, hc], by simp [hlast]⟩
      rw [lettersOf_append, hletter, h.flatten_close_eq, List.reverse_singleton]
    · rw [read_letter hc hnew]
      refine ⟨?_, h.filled, by simp [hlast, hc], by simp [hlast]⟩
      rw [lettersOf_append, hletter, ← h.joined, List.reverse_cons, List.append_assoc]

theorem Sound.foldl (h : r.Sound seen) (cs : List Char) : (cs.foldl Reading.read r).Sound (seen ++ cs) := by
  induction cs generalizing r seen with
  | nil => rwa [List.append_nil]
  | cons c cs ih =>
    have hrest := ih (h.read c)
    rwa [List.append_assoc, List.singleton_append] at hrest

end

theorem foldl_read_gap {r : Reading} {c : Char} {gap : List Char}
    (h : ∀ d ∈ c :: gap, d.isAlphanum = false) :
    (c :: gap).foldl read r = ⟨r.close, [], false⟩ := by
  induction gap generalizing r c with
  | nil => exact read_other (h c List.mem_cons_self)
  | cons d gap ih =>
    rw [List.foldl_cons, read_other (h c List.mem_cons_self),
      ih fun e he => h e (List.mem_cons_of_mem _ he)]
    rfl

end Reading

theorem sound_of_text (cs : List Char) : (cs.foldl Reading.read .start).Sound cs :=
  Reading.sound_start.foldl cs

theorem wordsFrom_eq_close (cs : List Char) :
    wordsFrom [] false cs = (cs.foldl Reading.read .start).close :=
  (Reading.close_foldl_read cs .start).symm

theorem flatten_wordsFrom (cs : List Char) : (wordsFrom [] false cs).flatten = lettersOf cs := by
  rw [wordsFrom_eq_close, (sound_of_text cs).flatten_close_eq]

/-! ### Where a word ends -/

structure Neighbours (cs before : List Char) (a : Char) (gap : List Char) (b : Char)
    (after : List Char) : Prop where
  eq : cs = before ++ a :: (gap ++ b :: after)
  left : a.isAlphanum = true
  right : b.isAlphanum = true
  gap : ∀ c ∈ gap, c.isAlphanum = false

/-- Something else stands between the two, or the second is a capital behind a small letter or a digit. -/
def Breaks (a : Char) (gap : List Char) (b : Char) : Prop :=
  gap ≠ [] ∨ ((a.isLower = true ∨ a.isDigit = true) ∧ b.isUpper = true)

theorem exists_wordsFrom_eq_cons {word : List Char} (hword : word ≠ []) (afterLower : Bool)
    (cs : List Char) : ∃ more ws, wordsFrom word afterLower cs = (word.reverse ++ more) :: ws := by
  have hopen : ¬word.isEmpty = true := mt List.isEmpty_iff.mp hword
  induction cs generalizing word afterLower with
  | nil =>
    rw [wordsFrom, if_neg hopen]
    exact ⟨[], [], by rw [List.append_nil]⟩
  | cons c cs ih =>
    rw [wordsFrom]
    split
    · exact ⟨[], _, by rw [List.append_nil]⟩
    · split
      · exact ⟨[], _, by rw [List.append_nil]⟩
      · obtain ⟨more, ws, hrest⟩ := ih (List.cons_ne_nil c.toLower word) (c.isLower || c.isDigit) nofun
        refine ⟨c.toLower :: more, ws, ?_⟩
        rw [hrest, List.reverse_cons, List.append_assoc, List.singleton_append]

theorem flatten_ne_of_inside {done front back ws : List (List Char)} {word more : List Char}
    (hword : word ≠ []) (hmore : more ≠ []) (h : done ++ (word ++ more) :: ws = front ++ back) :
    front.flatten ≠ done.flatten ++ word := by
  intro hflat
  obtain ⟨mid, rfl, hmid⟩ | ⟨mid, rfl, -⟩ := List.append_eq_append_iff.mp h
  · rw [List.flatten_append, List.append_cancel_left_eq] at hflat
    cases mid with
    | nil => exact hword hflat.symm
    | cons w mid =>
      obtain ⟨rfl, -⟩ := List.cons.inj hmid
      rw [List.flatten_cons, List.append_assoc, List.append_right_eq_self] at hflat
      exact hmore (List.append_eq_nil_iff.mp hflat).1
  · rw [List.flatten_append, List.append_assoc, List.self_eq_append_right] at hflat
    exact hword (List.append_eq_nil_iff.mp hflat).2

section

variable {cs before gap after : List Char} {a b : Char} {r : Reading}

theorem Neighbours.eq_append (h : Neighbours cs before a gap b after) :
    cs = (before ++ [a]) ++ ((gap ++ [b]) ++ after) := by
  simp [h.eq]

theorem Neighbours.lettersOf_eq (h : Neighbours cs before a gap b after) :
    lettersOf cs = lettersOf (before ++ [a]) ++ lettersOf (b :: after) := by
  rw [h.eq_append, lettersOf_append, List.append_assoc, lettersOf_append gap, lettersOf_eq_nil h.gap]
  rfl

theorem Neighbours.wordsFrom_eq (h : Neighbours cs before a gap b after)
    (hr : (gap ++ [b]).foldl Reading.read ((before ++ [a]).foldl Reading.read .start) = r) :
    wordsFrom [] false cs = r.done ++ wordsFrom r.word r.afterLower after := by
  calc
    wordsFrom [] false cs = (cs.foldl Reading.read .start).close := wordsFrom_eq_close cs
    _ = (after.foldl Reading.read r).close := by
      rw [h.eq_append, List.foldl_append, List.foldl_append (l := gap ++ [b]), hr]
    _ = r.done ++ wordsFrom r.word r.afterLower after := Reading.close_foldl_read after r

theorem Reading.Sound.word_ne_nil_of_left (hr : r.Sound (before ++ [a])) (ha : a.isAlphanum = true) :
    r.word ≠ [] := by
  rw [hr.word_ne_nil, List.getLast?_concat]
  exact ha

theorem Reading.Sound.afterLower_iff (hr : r.Sound (before ++ [a])) :
    r.afterLower = true ↔ a.isLower = true ∨ a.isDigit = true := by
  rw [hr.afterLower, List.getLast?_concat, ← Bool.or_eq_true]
  rfl

theorem Reading.Sound.foldl_read_of_breaks (hr : r.Sound (before ++ [a]))
    (h : Neighbours cs before a gap b after) (hbreaks : Breaks a gap b) :
    (gap ++ [b]).foldl Reading.read r = ⟨r.close, [b.toLower], isSmall b⟩ := by
  cases gap with
  | nil =>
    obtain hgap | ⟨hsmall, hupper⟩ := hbreaks
    · exact absurd rfl hgap
    · exact hr.read_capital h.right ⟨hupper, hr.afterLower_iff.mpr hsmall⟩
  | cons c gap =>
    rw [List.foldl_append, Reading.foldl_read_gap h.gap]
    exact Reading.read_letter h.right (by simp)

theorem Reading.Sound.foldl_read_of_not_breaks (hr : r.Sound (before ++ [a]))
    (h : Neighbours cs before a gap b after) (hbreaks : ¬Breaks a gap b) :
    (gap ++ [b]).foldl Reading.read r = ⟨r.done, b.toLower :: r.word, isSmall b⟩ := by
  obtain ⟨hgap, hsame⟩ := not_or.mp hbreaks
  obtain rfl := not_ne_iff.mp hgap
  rw [← hr.afterLower_iff, and_comm] at hsame
  exact Reading.read_letter h.right hsame

theorem exists_wordsFrom_eq_append_iff (h : Neighbours cs before a gap b after) :
    (∃ front back, wordsFrom [] false cs = front ++ back ∧ front.flatten = lettersOf (before ++ [a]) ∧
      back.flatten = lettersOf (b :: after)) ↔ Breaks a gap b := by
  have hr := sound_of_text (before ++ [a])
  constructor
  · rintro ⟨front, back, hwords, hfront, -⟩
    by_contra hbreaks
    rw [h.wordsFrom_eq (hr.foldl_read_of_not_breaks h hbreaks)] at hwords
    -- the word that is open at the first character goes on with the second
    obtain ⟨more, ws, hopen⟩ := exists_wordsFrom_eq_cons (List.cons_ne_nil b.toLower
      ((before ++ [a]).foldl Reading.read .start).word) (isSmall b) after
    rw [hopen, List.reverse_cons, List.append_assoc] at hwords
    refine flatten_ne_of_inside ?_ (by simp) hwords (hfront.trans hr.joined.symm)
    exact mt List.reverse_eq_nil_iff.mp (hr.word_ne_nil_of_left h.left)
  · intro hbreaks
    have hwords := h.wordsFrom_eq (hr.foldl_read_of_breaks h hbreaks)
    refine ⟨_, _, hwords, hr.flatten_close_eq, ?_⟩
    have hall := flatten_wordsFrom cs
    rw [hwords, List.flatten_append, hr.flatten_close_eq, h.lettersOf_eq] at hall
    exact List.append_cancel_left hall

end

/-! ### Words as texts -/

/-- The first words hold all letters and digits of `left`, and the others all those of `right`. -/
def DividesAt (words : List String) (left right : List Char) : Prop :=
  ∃ front back, words = front ++ back ∧ String.join front = String.ofList (lettersOf left) ∧
    String.join back = String.ofList (lettersOf right)

theorem join_map_ofList (ws : List (List Char)) :
    String.join (ws.map String.ofList) = String.ofList ws.flatten := by
  induction ws with
  | nil => rfl
  | cons w ws ih =>
    rw [List.map_cons, String.join_cons, ih, List.flatten_cons, String.ofList_append]

theorem dividesAt_map_ofList_iff {ws : List (List Char)} {left right : List Char} :
    DividesAt (ws.map String.ofList) left right ↔
      ∃ front back, ws = front ++ back ∧ front.flatten = lettersOf left ∧
        back.flatten = lettersOf right := by
  constructor
  · rintro ⟨_, _, hwords, hfront, hback⟩
    obtain ⟨front, back, hws, rfl, rfl⟩ := List.map_eq_append_iff.mp hwords
    rw [join_map_ofList, String.ofList_inj] at hfront hback
    exact ⟨front, back, hws, hfront, hback⟩
  · rintro ⟨front, back, rfl, hfront, hback⟩
    refine ⟨front.map String.ofList, back.map String.ofList, List.map_append, ?_, ?_⟩
    · rw [join_map_ofList, hfront]
    · rw [join_map_ofList, hback]

/-- The words of a name are not empty and are made of small letters and digits. Put together they are its
letters and digits in lower case and in order, and between two neighbours among these one word ends just
at a break. -/
theorem nameWords_split_letters (name : String) :
    "" ∉ nameWords name ∧
    (∀ w ∈ nameWords name, ∀ c ∈ w.toList, c.isLower = true ∨ c.isDigit = true) ∧
    String.join (nameWords name) = String.ofList (lettersOf name.toList) ∧
    ∀ before a gap b after, Neighbours name.toList before a gap b after →
      (DividesAt (nameWords name) (before ++ [a]) (b :: after) ↔ Breaks a gap b) := by
  refine ⟨?_, ?_, ?_, fun before a gap b after h => ?_⟩
  · intro hempty
    obtain ⟨w, hw, hnil⟩ := List.mem_map.mp hempty
    obtain rfl : w = [] := String.ofList_inj.mp hnil
    rw [wordsFrom_eq_close] at hw
    exact (sound_of_text name.toList).nil_notMem_close hw
  · intro _ hword c hc
    obtain ⟨w, hw, rfl⟩ := List.mem_map.mp hword
    rw [String.toList_ofList] at hc
    have hletter : c ∈ lettersOf name.toList := by
      rw [← flatten_wordsFrom]
      exact List.mem_flatten_of_mem hw hc
    exact Bool.or_eq_true_iff.mp (isSmall_of_mem_lettersOf hletter)
  · rw [nameWords, join_map_ofList, flatten_wordsFrom]
  · rw [nameWords, dividesAt_map_ofList_iff, exists_wordsFrom_eq_append_iff h]

theorem nameWords_split_letters_mixed :
    Neighbours "URLs2Go".toList ['U', 'R', 'L', 's'] '2' [] 'G' ['o'] ∧
    DividesAt (nameWords "URLs2Go") ['U', 'R', 'L', 's', '2'] ['G', 'o'] ∧
    Neighbours "URLs2Go".toList ['U', 'R'] 'L' [] 's' ['2', 'G', 'o'] ∧
    ¬DividesAt (nameWords "URLs2Go") ['U', 'R', 'L'] ['s', '2', 'G', 'o'] := by
  have hdivides := (nameWords_split_letters "URLs2Go").2.2.2
  have hcapital : Neighbours "URLs2Go".toList ['U', 'R', 'L', 's'] '2' [] 'G' ['o'] :=
    ⟨by decide, by decide, by decide, nofun⟩
  have hsmall : Neighbours "URLs2Go".toList ['U', 'R'] 'L' [] 's' ['2', 'G', 'o'] :=
    ⟨by decide, by decide, by decide, nofun⟩
  refine ⟨hcapital, (hdivides _ _ _ _ _ hcapital).mpr ?_, hsmall, mt (hdivides _ _ _ _ _ hsmall).mp ?_⟩
  · exact .inr ⟨.inr (by decide), by decide⟩
  · rintro (hgap | ⟨-, hupper⟩)
    · exact hgap rfl
    · exact absurd hupper (by decide)

example : nameWords "ALLOWED_HOSTS.isUrlOk" = ["allowed", "hosts", "is", "url", "ok"] := by decide

end SourceAudit.RequestForgery
