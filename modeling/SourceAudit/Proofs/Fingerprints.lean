import Mathlib
import SourceAudit.Finding
import SourceAudit.Unicode.Derived

/-! What a fingerprint tells apart. The bytes that are hashed hold the rule, the path and the words of the
quoted text, one after the other. Main statement: where the rule and the path have no NUL in them, these
bytes can be taken apart again, so that two findings share them just when they share all three. -/
namespace SourceAudit

/-! ### White space -/

def CharSet.blankRanges : List (Nat × Nat) :=
  [(0x9, 0xD), (0x20, 0x20), (0x85, 0x85), (0xA0, 0xA0), (0x1680, 0x1680), (0x2000, 0x200A),
    (0x2028, 0x2029), (0x202F, 0x202F), (0x205F, 0x205F), (0x3000, 0x3000)]

theorem CharSet.sort_blankRanges :
    (blankRanges.reverse.mergeSort fun a b => a.1 ≤ b.1) = blankRanges := by
  have htrans (a b c : Nat × Nat) (hab : decide (a.1 ≤ b.1) = true)
      (hbc : decide (b.1 ≤ c.1) = true) : decide (a.1 ≤ c.1) = true := by
    rw [decide_eq_true_eq] at hab hbc ⊢
    exact hab.trans hbc
  have htotal (a b : Nat × Nat) : (decide (a.1 ≤ b.1) || decide (b.1 ≤ a.1)) = true := by
    rw [Bool.or_eq_true, decide_eq_true_eq, decide_eq_true_eq]
    exact Nat.le_total _ _
  have hperm : (blankRanges.reverse.mergeSort fun a b => a.1 ≤ b.1).Perm blankRanges :=
    (List.mergeSort_perm _ _).trans (List.reverse_perm _)
  have hties : ∀ a ∈ blankRanges, ∀ b ∈ blankRanges, a.1 = b.1 → a = b := by decide
  apply List.Perm.eq_of_pairwise _ (List.pairwise_mergeSort htrans htotal _) (by decide) hperm
  intro a b ha hb hab hba
  apply hties a (hperm.mem_iff.mp ha) b hb
  exact Nat.le_antisymm (of_decide_eq_true hab) (of_decide_eq_true hba)

theorem CharSet.ranges_whiteSpace : whiteSpace.ranges = blankRanges.toArray := by
  -- a table is read from its end, so the ranges come in reverse
  have hread : (Unicode.Property.ranges.find? fun row => row.1.contains "whitespace").map
      (fun row => row.2.flatMap fun line => readRanges [] none 0 line.toList) =
      some blankRanges.reverse := by decide +kernel
  obtain ⟨row, hrow, hranges⟩ := Option.map_eq_some_iff.mp hread
  rw [whiteSpace, listed, lookup, hrow, Option.map_some, Option.getD_some, ofTable, hranges, ofRanges,
    sort_blankRanges]
  rfl

theorem isBlank_eq_contains_whiteSpace (c : Char) : isBlank c = CharSet.whiteSpace.contains c := by
  rw [CharSet.contains, CharSet.containsCode, CharSet.ranges_whiteSpace, Bool.eq_iff_iff]
  unfold isBlank
  generalize c.toNat = n
  simp [CharSet.search, CharSet.blankRanges]
  split_ifs <;> omega

/-! ### Words -/

def wordsOf (text : String) : List (List Char) :=
  (text.toList.splitOnP CharSet.whiteSpace.contains).filter (!·.isEmpty)

theorem blankWords_eq (cs : List Char) :
    blankWords cs = (cs.splitOnP isBlank).filter (!·.isEmpty) := by
  induction cs with
  | nil => rfl
  | cons c cs ih =>
    unfold blankWords wordsCons
    rw [ih, List.splitOnP_cons_eq_if_modifyHead]
    by_cases hc : isBlank c = true
    · rw [if_pos hc, if_pos hc, List.filter_cons_of_neg (by simp)]
    · rw [if_neg hc, if_neg hc]
      cases cs with
      | nil => simp
      | cons d cs =>
        rw [List.splitOnP_cons_eq_if_modifyHead]
        by_cases hd : isBlank d = true
        · -- the blank leaves an empty piece, which the character before it fills
          rw [if_pos hd, List.filter_cons_of_neg (by simp), List.modifyHead_cons,
            List.filter_cons_of_pos (by simp)]
          cases (cs.splitOnP isBlank).filter (!·.isEmpty) <;> simp [hd]
        · obtain ⟨w, ws, hws⟩ := List.exists_cons_of_ne_nil (List.splitOnP_ne_nil isBlank cs)
          rw [if_neg hd, hws, List.modifyHead_cons, List.modifyHead_cons,
            List.filter_cons_of_pos (by simp), List.filter_cons_of_pos (by simp)]
          simp [hd]

theorem wordsOf_eq (text : String) : wordsOf text = blankWords text.toList := by
  rw [wordsOf, blankWords_eq, ← funext isBlank_eq_contains_whiteSpace]

theorem isBlank_eq_false_of_mem_splitOnP {cs w : List Char} (hw : w ∈ cs.splitOnP isBlank) :
    ∀ c ∈ w, isBlank c = false := by
  induction cs generalizing w with
  | nil =>
    obtain rfl : w = [] := by simpa using hw
    simp
  | cons d cs ih =>
    rw [List.splitOnP_cons_eq_if_modifyHead] at hw
    by_cases hd : isBlank d = true
    · rw [if_pos hd] at hw
      obtain rfl | hw := List.mem_cons.mp hw
      · simp
      · exact ih hw
    · obtain ⟨v, vs, hvs⟩ := List.exists_cons_of_ne_nil (List.splitOnP_ne_nil isBlank cs)
      rw [if_neg hd, hvs, List.modifyHead_cons] at hw
      rw [hvs] at ih
      obtain rfl | hw := List.mem_cons.mp hw
      · exact List.forall_mem_cons.mpr ⟨eq_false_of_ne_true hd, ih List.mem_cons_self⟩
      · exact ih (List.mem_cons_of_mem v hw)

/-! ### Taking the parts out again -/

theorem append_cons_inj {a : Char} {xs ys as bs : List Char} (hx : a ∉ xs) (hy : a ∉ ys) :
    xs ++ a :: as = ys ++ a :: bs ↔ xs = ys ∧ as = bs := by
  induction xs generalizing ys with
  | nil =>
    cases ys with
    | nil => simp
    | cons y ys =>
      have hne : a ≠ y := List.ne_of_not_mem_cons hy
      simp [hne]
  | cons x xs ih =>
    cases ys with
    | nil =>
      have hne : x ≠ a := (List.ne_of_not_mem_cons hx).symm
      simp [hne]
    | cons y ys =>
      have htail := ih (List.not_mem_of_not_mem_cons hx) (List.not_mem_of_not_mem_cons hy)
      simp only [List.cons_append, List.cons.injEq, htail, and_assoc]

/-- Words that hold no space can be told from the text in which a space follows each. -/
theorem flatMap_spaced_inj {ws vs : List (List Char)} (hws : ∀ w ∈ ws, ' ' ∉ w)
    (hvs : ∀ v ∈ vs, ' ' ∉ v) (h : ws.flatMap (· ++ [' ']) = vs.flatMap (· ++ [' '])) : ws = vs := by
  induction ws generalizing vs with
  | nil => cases vs <;> simp_all
  | cons w ws ih =>
    cases vs with
    | nil => simp at h
    | cons v vs =>
      obtain ⟨hw, hws⟩ := List.forall_mem_cons.mp hws
      obtain ⟨hv, hvs⟩ := List.forall_mem_cons.mp hvs
      simp only [List.flatMap_cons, List.append_assoc, List.singleton_append] at h
      obtain ⟨hfirst, hrest⟩ := (append_cons_inj hw hv).mp h
      rw [hfirst, ih hws hvs hrest]

namespace Finding

/-- The bytes that the fingerprint of a finding is the hash of. -/
def hashed (f : Finding) : ByteArray :=
  (String.ofList (fingerprintText f.ruleId f.path f.matchedText.toList)).toUTF8

theorem fingerprint_ofHit (rule : Rule) (w : Window) (hit : Hit) :
    (ofHit rule w hit).fingerprint =
      String.ofList ((Digest.hex (ofHit rule w hit).hashed).take 32) := by
  simp only [hashed, ofHit, fingerprintOf, String.toList_ofList]

def NulFree (f : Finding) : Prop := '\x00' ∉ f.ruleId.toList ∧ '\x00' ∉ f.path.text.toList

instance : DecidablePred NulFree := fun _ => inferInstanceAs (Decidable (_ ∧ _))

theorem fingerprintText_inj {id id' : String} {path path' : Path} {matched matched' : List Char}
    (hid : '\x00' ∉ id.toList) (hid' : '\x00' ∉ id'.toList) (hpath : '\x00' ∉ path.text.toList)
    (hpath' : '\x00' ∉ path'.text.toList) :
    fingerprintText id path matched = fingerprintText id' path' matched' ↔
      id = id' ∧ path.text = path'.text ∧ blankWords matched = blankWords matched' := by
  have hspace (cs : List Char) : ∀ w ∈ blankWords cs, ' ' ∉ w := by
    intro w hw hmem
    rw [blankWords_eq] at hw
    have hblank := isBlank_eq_false_of_mem_splitOnP (List.mem_of_mem_filter hw) ' ' hmem
    cases hblank.symm.trans (by decide : isBlank ' ' = true)
  simp only [fingerprintText, List.append_assoc, List.cons_append, append_cons_inj hid hid',
    append_cons_inj hpath hpath', String.toList_inj]
  refine and_congr_right fun _ => and_congr_right fun _ => ⟨?_, fun h => by rw [h]⟩
  exact flatMap_spaced_inj (hspace matched) (hspace matched')

/-- A fingerprint is the hash of bytes that stand for the rule, the path and the words of the quoted text,
and for nothing else: two findings without a NUL in rule or path share these bytes just when they share all
three, however the words are spaced. -/
theorem hashed_eq_iff_same_words {a b : Finding} (ha : a.NulFree) (hb : b.NulFree) :
    (∀ rule w hit, (ofHit rule w hit).fingerprint =
      String.ofList ((Digest.hex (ofHit rule w hit).hashed).take 32)) ∧
    (a.hashed = b.hashed ↔
      a.ruleId = b.ruleId ∧ a.path.text = b.path.text ∧
        wordsOf a.matchedText = wordsOf b.matchedText) := by
  refine ⟨fingerprint_ofHit, ?_⟩
  rw [hashed, hashed, String.toUTF8_eq_toByteArray, String.toUTF8_eq_toByteArray,
    String.toByteArray_inj, String.ofList_inj, fingerprintText_inj ha.1 hb.1 ha.2 hb.2,
    wordsOf_eq, wordsOf_eq]

def respaced (matched : String) : Finding :=
  { (default : Finding) with ruleId := "r", path := ⟨"a.py"⟩, matchedText := matched }

theorem hashed_eq_iff_same_words_respaced :
    let a := respaced "x\x00y  =\n1"
    let b := respaced " x\x00y\u3000= 1"
    a.NulFree ∧ b.NulFree ∧ a.matchedText ≠ b.matchedText ∧ a.hashed = b.hashed := by
  intro a b
  have ha : a.NulFree := by decide
  have hb : b.NulFree := by decide
  have hwords : wordsOf a.matchedText = wordsOf b.matchedText := by
    rw [wordsOf_eq, wordsOf_eq]
    decide +kernel
  exact ⟨ha, hb, by decide, (hashed_eq_iff_same_words ha hb).2.mpr ⟨rfl, rfl, hwords⟩⟩

end Finding
end SourceAudit
