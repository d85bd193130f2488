import Mathlib.Algebra.Ring.Parity
import SourceAudit.Text

/-! Captures in the text of a literal. Opening braces are passed in pairs, so only a run of an odd number of
them leaves one over that can open a capture. -/
namespace SourceAudit

theorem isNameStart_iff {c : Char} :
    isNameStart c = true ↔ ('A' ≤ c ∧ c ≤ 'Z') ∨ ('a' ≤ c ∧ c ≤ 'z') ∨ c = '_' := by
  have hupper : c.isUpper = decide ('A' ≤ c ∧ c ≤ 'Z') := rfl
  have hlower : c.isLower = (decide ('a' ≤ c) && decide (c ≤ 'z')) := rfl
  have halpha : isNameStart c = (c.isUpper || c.isLower || c == '_') := rfl
  simp only [halpha, hupper, hlower, Bool.or_eq_true, Bool.and_eq_true, decide_eq_true_eq, beq_iff_eq,
    or_assoc]

theorem ne_of_isNameStart {c : Char} (h : isNameStart c = true) : c ≠ '{' := by
  rintro rfl
  exact absurd h (by decide)

/-- The text has a run of `n` opening braces between `before` and `after`, and none next to it. -/
structure BraceRun (cs before : List Char) (n : Nat) (after : List Char) : Prop where
  eq : cs = before ++ (List.replicate n '{' ++ after)
  before : before.getLast? ≠ some '{'
  after : after.head? ≠ some '{'

namespace BraceRun

variable {cs before after : List Char} {b d : Char} {n : Nat}

theorem cons_iff :
    BraceRun (b :: cs) (d :: before) n after ↔
      d = b ∧ BraceRun cs before n after ∧ (before = [] → b ≠ '{') := by
  have hlast : (d :: before).getLast? ≠ some '{' ↔
      before.getLast? ≠ some '{' ∧ (before = [] → d ≠ '{') := by
    cases before <;> simp
  constructor
  · rintro ⟨heq, hbefore, hafter⟩
    obtain ⟨rfl, htail⟩ := List.cons.inj heq
    obtain ⟨hbefore, hfirst⟩ := hlast.mp hbefore
    exact ⟨rfl, ⟨htail, hbefore, hafter⟩, hfirst⟩
  · rintro ⟨rfl, ⟨heq, hbefore, hafter⟩, hfirst⟩
    exact ⟨congrArg (d :: ·) heq, hlast.mpr ⟨hbefore, hfirst⟩, hafter⟩

theorem cons_nil_iff :
    BraceRun (b :: cs) [] (n + 1) after ↔ b = '{' ∧ BraceRun cs [] n after := by
  constructor
  · rintro ⟨heq, hbefore, hafter⟩
    obtain ⟨rfl, htail⟩ := List.cons.inj heq
    exact ⟨rfl, htail, hbefore, hafter⟩
  · rintro ⟨rfl, heq, hbefore, hafter⟩
    exact ⟨congrArg ('{' :: ·) heq, hbefore, hafter⟩

end BraceRun

def HasOddRun (cs : List Char) : Prop :=
  ∃ before n c after, BraceRun cs before n (c :: after) ∧ Odd n ∧ isNameStart c = true

theorem hasOddRun_pair_iff (cs : List Char) : HasOddRun ('{' :: '{' :: cs) ↔ HasOddRun cs := by
  constructor
  · rintro ⟨before, n, c, after, hrun, hodd, hc⟩
    obtain _ | ⟨d, _ | ⟨e, before⟩⟩ := before
    · obtain _ | _ | n := n
      · exact absurd hodd (by decide)
      · -- a single brace has a name behind it, not another brace
        have hone := (BraceRun.cons_nil_iff.mp hrun).2.eq
        exact absurd (List.cons.inj hone).1.symm (ne_of_isNameStart hc)
      · have hrun := (BraceRun.cons_nil_iff.mp (BraceRun.cons_nil_iff.mp hrun).2).2
        have hodd : Odd n := (Nat.odd_add (n := 2)).mp hodd |>.mpr even_two
        exact ⟨[], n, c, after, hrun, hodd, hc⟩
    · exact absurd rfl ((BraceRun.cons_iff.mp hrun).2.2 rfl)
    · have hrun := (BraceRun.cons_iff.mp (BraceRun.cons_iff.mp hrun).2.1).2.1
      exact ⟨before, n, c, after, hrun, hodd, hc⟩
  · rintro ⟨before, n, c, after, hrun, hodd, hc⟩
    obtain _ | ⟨d, before⟩ := before
    · refine ⟨[], n + 2, c, after, ?_, Nat.odd_add.mpr (iff_of_true hodd even_two), hc⟩
      exact BraceRun.cons_nil_iff.mpr ⟨rfl, BraceRun.cons_nil_iff.mpr ⟨rfl, hrun⟩⟩
    · refine ⟨'{' :: '{' :: d :: before, n, c, after, ?_, hodd, hc⟩
      exact BraceRun.cons_iff.mpr ⟨rfl, BraceRun.cons_iff.mpr ⟨rfl, hrun, nofun⟩, nofun⟩

/-- A character that is not the first of a pair stands alone: it is a brace with a name behind it, or it is
no part of a run that matters. -/
theorem hasOddRun_cons_iff {b : Char} {cs : List Char} (hsingle : b = '{' → cs.head? ≠ some '{') :
    HasOddRun (b :: cs) ↔ (b = '{' ∧ cs.head?.any isNameStart = true) ∨ HasOddRun cs := by
  constructor
  · rintro ⟨before, n, c, after, hrun, hodd, hc⟩
    obtain _ | ⟨d, before⟩ := before
    · obtain _ | _ | n := n
      · exact absurd hodd (by decide)
      · obtain ⟨rfl, htail⟩ := BraceRun.cons_nil_iff.mp hrun
        rw [htail.eq]
        exact .inl ⟨rfl, hc⟩
      · obtain ⟨rfl, htail⟩ := BraceRun.cons_nil_iff.mp hrun
        rw [htail.eq] at hsingle
        exact absurd rfl (hsingle rfl)
    · exact .inr ⟨before, n, c, after, (BraceRun.cons_iff.mp hrun).2.1, hodd, hc⟩
  · rintro (⟨rfl, hname⟩ | ⟨before, n, c, after, hrun, hodd, hc⟩)
    · cases cs with
      | nil => cases hname
      | cons c after =>
        have hother : c ≠ '{' := ne_of_isNameStart hname
        exact ⟨[], 1, c, after, ⟨rfl, nofun, fun h => hother (Option.some.inj h)⟩, odd_one, hname⟩
    · refine ⟨b :: before, n, c, after, BraceRun.cons_iff.mpr ⟨rfl, hrun, ?_⟩, hodd, hc⟩
      -- with nothing between, the brace would be the first of a pair
      rintro rfl rfl
      obtain _ | n := n
      · exact absurd hodd (by decide)
      · rw [hrun.eq] at hsingle
        exact hsingle rfl rfl

theorem hasBraceCapture_iff_hasOddRun (cs : List Char) : hasBraceCapture cs = true ↔ HasOddRun cs := by
  fun_induction hasBraceCapture cs with
  | case1 =>
    refine iff_of_false Bool.false_ne_true ?_
    rintro ⟨before, n, c, after, hrun, -, -⟩
    simpa using hrun.eq
  | case2 cs ih => rw [ih, hasOddRun_pair_iff]
  | case3 c cs hpair ih =>
    rw [Bool.or_eq_true, Bool.and_eq_true, beq_iff_eq, ih, hasOddRun_cons_iff]
    rintro rfl hhead
    obtain ⟨after, rfl⟩ := List.head?_eq_some_iff.mp hhead
    exact hpair after rfl rfl

/-- A text has a capture just when it has a maximal run of an odd number of opening braces right before an
ASCII letter or an underscore. -/
theorem hasBraceCapture_iff_odd_run (text : String) :
    hasBraceCapture text.toList = true ↔
      ∃ before n c after, BraceRun text.toList before n (c :: after) ∧ Odd n ∧
        (('A' ≤ c ∧ c ≤ 'Z') ∨ ('a' ≤ c ∧ c ≤ 'z') ∨ c = '_') := by
  simp only [← isNameStart_iff]
  exact hasBraceCapture_iff_hasOddRun text.toList

example : hasBraceCapture ['{', '{', '{', 'x'] = true ∧ hasBraceCapture ['{', '{', 'x'] = false := by decide

end SourceAudit
