import Mathlib.Data.List.Basic
import SourceAudit.Expr.Cursor
import SourceAudit.Proofs.Reading

/-! What the cursor sees and where it lands. At each index it sees what stands at the front of the tokens
that are left, so it can be compared with reading these off a list: it lands where that reading stops. -/
namespace SourceAudit.Expr

namespace Cursor

section Ahead

variable {ts : Array Token} {i : Nat}

theorem getElem?_of_drop {t : Token} {rest : List Token} (h : ts.toList.drop i = t :: rest) :
    ts[i]? = some t := by
  rw [← Array.getElem?_toList, ← List.head?_drop, h]
  rfl

theorem lt_size_of_drop {t : Token} {rest : List Token} (h : ts.toList.drop i = t :: rest) :
    i < ts.size :=
  (Array.getElem?_eq_some_iff.mp (getElem?_of_drop h)).1

theorem behind_of_drop {t : Token} {rest : List Token} (h : ts.toList.drop i = t :: rest) :
    behind ts i = rest := by
  rw [behind, ← List.drop_drop, h]
  rfl

theorem drop_add_of_drop {t : Token} {rest : List Token} (h : ts.toList.drop i = t :: rest)
    (k : Nat) : ts.toList.drop (i + k + 1) = rest.drop k := by
  rw [Nat.add_assoc, ← List.drop_drop, h, List.drop_succ_cons]

theorem size_le_of_drop (h : ts.toList.drop i = []) : ts.size ≤ i := List.drop_eq_nil_iff.mp h

theorem tokenAt_of_drop {t : Token} {rest : List Token} (h : ts.toList.drop i = t :: rest) :
    tokenAt ts i = pure t := by
  rw [tokenAt, getElem?_of_drop h]

theorem breakEndsAt_of_lt (place : Place) (h : i < ts.size) :
    breakEndsAt ts place i = pure (decide (place = .statement) &&
      breakEnds (lastSignificant none (ts.toList.take i)) (firstSignificant (behind ts i))) := by
  cases place with
  | brackets => rfl
  | statement =>
    have hrange : 0 ≤ i ∧ i ≤ ts.size := ⟨Nat.zero_le i, Nat.le_of_lt h⟩
    rw [breakEndsAt, stretch, if_pos hrange, pure_bind]
    rfl

theorem callOpenAt?_of_drop {name : Token} (hname : ts[i]? = some name) {us : List Token}
    (h : ts.toList.drop (i + 1) = us) :
    callOpenAt? ts (i + 1) = pure ((callOpen? name.span.stop us).map fun isMacro =>
      (i + 1 + callGap isMacro, isMacro)) := by
  cases us with
  | nil =>
    rw [callOpenAt?, Array.getElem?_eq_none (size_le_of_drop h)]
    rfl
  | cons t rest =>
    have hbefore : tokenBefore ts (i + 1) = pure name := by
      simp only [tokenBefore, Nat.add_one_ne_zero, if_false, Nat.add_one_sub_one, tokenAt, hname]
    rw [callOpenAt?, getElem?_of_drop h, behind_of_drop h, callOpen?, hbefore]
    by_cases hparen : t.isPunct "(" = true
    · simp only [if_pos hparen]
      rfl
    · by_cases hmacro : (t.isPunct "!" && rest.head?.any Token.isOpen) = true
      · simp only [if_neg hparen, hmacro, Bool.true_and, if_true, pure_bind]
        split <;> rfl
      · simp only [if_neg hparen, hmacro, Bool.false_and, Bool.false_eq_true, if_false]
        rfl

theorem segmentsAt_of_drop (steps : Nat) (path : DottedPath) (i : Nat) (us : List Token)
    (h : ts.toList.drop i = us) (hsteps : us.length < steps) :
    segmentsAt ts steps path i =
      pure (⟨path.first, path.more ++ segments us⟩, i + 2 * (segments us).length) := by
  obtain ⟨steps, rfl⟩ := Nat.exists_eq_add_one_of_ne_zero (Nat.ne_zero_of_lt hsteps)
  match us with
  | mark :: name :: rest =>
    have hname : ts.toList.drop (i + 1) = name :: rest := drop_add_of_drop h 0
    have hrest : ts.toList.drop (i + 2) = rest := drop_add_of_drop hname 0
    simp only [List.length_cons] at hsteps
    rw [segmentsAt, if_pos (lt_size_of_drop hname), tokenAt_of_drop h, pure_bind,
      tokenAt_of_drop hname, pure_bind, segments]
    by_cases hsegment : (isPathMark mark && name.isIdent) = true
    · have hcount : i + 2 + 2 * (segments rest).length = i + 2 * (name :: segments rest).length := by
        rw [List.length_cons]
        omega
      rw [if_pos hsegment, if_pos hsegment, segmentsAt_of_drop steps _ (i + 2) rest hrest (by omega),
        List.append_assoc, hcount]
      rfl
    · rw [if_neg hsegment, if_neg hsegment, List.append_nil]
      rfl
  | [t] =>
    have hend := size_le_of_drop (drop_add_of_drop h 0)
    rw [segmentsAt, if_neg (Nat.not_lt.mpr hend), segments, List.append_nil]
    · rfl
    · simp
  | [] =>
    have hend := size_le_of_drop h
    rw [segmentsAt, if_neg (by omega), segments, List.append_nil]
    · rfl
    · simp
termination_by steps

theorem getElem?_getLastD_segments {first : Token} (i : Nat) (us : List Token)
    (hfirst : ts[i]? = some first) (h : ts.toList.drop (i + 1) = us) :
    ts[i + 2 * (segments us).length]? = some ((segments us).getLastD first) := by
  match us with
  | mark :: name :: rest =>
    have hname : ts.toList.drop (i + 2) = name :: rest := drop_add_of_drop h 0
    rw [segments]
    by_cases hsegment : (isPathMark mark && name.isIdent) = true
    · have hcount : i + 2 * (name :: segments rest).length = i + 2 + 2 * (segments rest).length := by
        rw [List.length_cons]
        omega
      rw [if_pos hsegment, List.getLastD_cons, hcount]
      exact getElem?_getLastD_segments (i + 2) rest (getElem?_of_drop hname) (drop_add_of_drop hname 0)
    · rw [if_neg hsegment]
      exact hfirst
  | [t] => exact hfirst
  | [] => exact hfirst
termination_by us.length

theorem pathAt_of_drop {t : Token} {rest : List Token} (h : ts.toList.drop i = t :: rest)
    {steps : Nat} (hsteps : rest.length < steps) :
    pathAt ts steps i = pure (DottedPath.read t rest, i + 2 * (segments rest).length + 1) := by
  rw [pathAt, tokenAt_of_drop h, pure_bind,
    segmentsAt_of_drop steps _ _ rest (drop_add_of_drop h 0) hsteps, Nat.add_right_comm]
  rfl

end Ahead

/-- The cursor has come from `i` to `j`, which is as far from `base` as `stop` says. Without a distance
it has come to `limit`, where nothing is left. -/
def Lands (limit base i : Nat) : Option Nat → Nat → Prop
  | some k, j => i ≤ j ∧ j = base + k ∧ j < limit
  | none, j => i ≤ j ∧ j = limit

namespace Lands

variable {limit base i j : Nat} {stop : Option Nat}

theorem mono {i' : Nat} (hle : i' ≤ i) (h : Lands limit base i stop j) :
    Lands limit base i' stop j := by
  cases stop with
  | none => exact ⟨Nat.le_trans hle h.1, h.2⟩
  | some k => exact ⟨Nat.le_trans hle h.1, h.2⟩

theorem map {base' : Nat} {f : Nat → Nat} (hf : ∀ k, base + k = base' + f k)
    (h : Lands limit base i stop j) : Lands limit base' i (stop.map f) j := by
  cases stop with
  | none => exact h
  | some k => exact ⟨h.1, h.2.1.trans (hf k), h.2.2⟩

theorem unique {j' : Nat} (h : Lands limit base i stop j) (h' : Lands limit base i stop j') :
    j = j' := by
  cases stop with
  | none => exact h.2.trans h'.2.symm
  | some k => exact h.2.1.trans h'.2.1.symm

theorem next (h : Lands limit base i stop j) : Lands (limit + 1) (base + 1) (i + 1) stop (j + 1) := by
  cases stop with
  | none => exact ⟨Nat.succ_le_succ h.1, congrArg (· + 1) h.2⟩
  | some k =>
    obtain ⟨hle, rfl, hlt⟩ := h
    exact ⟨Nat.succ_le_succ hle, by omega, Nat.succ_lt_succ hlt⟩

theorem bounds (h : Lands limit base i stop j) :
    i ≤ j ∧ j ≤ limit ∧ stop = if j < limit then some (j - base) else none := by
  cases stop with
  | none =>
    obtain ⟨hle, rfl⟩ := h
    exact ⟨hle, Nat.le_refl j, (if_neg (Nat.lt_irrefl j)).symm⟩
  | some k =>
    obtain ⟨hle, rfl, hlt⟩ := h
    rw [if_pos hlt, Nat.add_sub_cancel_left]
    exact ⟨hle, Nat.le_of_lt hlt, rfl⟩

end Lands

def Agrees {α : Type} (limit base i : Nat) (read : α × Option Nat) (reading : Reading (α × Nat)) :
    Prop :=
  ∃ j, reading = pure (read.1, j) ∧ Lands limit base i read.2 j

theorem Agrees.mono {α : Type} {limit base i i' : Nat} {read : α × Option Nat}
    {reading : Reading (α × Nat)} (hle : i' ≤ i) (h : Agrees limit base i read reading) :
    Agrees limit base i' read reading := by
  obtain ⟨j, hat, hland⟩ := h
  exact ⟨j, hat, hland.mono hle⟩

/-- Where the cursor lands does not depend on the steps it is given. -/
theorem exists_landing {α : Type} {limit base i enough : Nat} {read : α × Option Nat}
    {reading : Nat → Reading (α × Nat)}
    (h : ∀ steps, enough ≤ steps → Agrees limit base i read (reading steps)) :
    ∃ j, (∀ steps, enough ≤ steps → reading steps = pure (read.1, j)) ∧
      Lands limit base i read.2 j := by
  obtain ⟨j, -, hland⟩ := h enough (Nat.le_refl _)
  refine ⟨j, fun steps hsteps => ?_, hland⟩
  obtain ⟨j', hat, hland'⟩ := h steps hsteps
  rw [hat, hland.unique hland']

variable (ts : Array Token)

theorem passed_between_self (d : Draft) (i : Nat) : d.passed (between ts i (i + 0)) = d := by
  rw [between, Nat.add_zero, Nat.sub_self]
  rfl

theorem between_next {start i : Nat} (hle : start ≤ i) {t : Token} {rest : List Token}
    (h : ts.toList.drop i = t :: rest) (m : Nat) :
    between ts start i ++ t :: rest.take m = between ts start (i + m + 1) := by
  have hlength : i + m + 1 - start = (i - start) + (m + 1) := by omega
  rw [between, between, hlength, List.take_add, List.drop_drop, Nat.add_sub_cancel' hle, h,
    List.take_succ_cons]

theorem between_of_size_le {start i : Nat} (h : ts.size ≤ i) :
    between ts start i = ts.toList.drop start := by
  apply List.take_of_length_le
  rw [List.length_drop, Array.length_toList]
  omega

theorem between_rest {start i : Nat} (hle : start ≤ i) :
    between ts start i ++ ts.toList.drop i = ts.toList.drop start := by
  have hdrop : ts.toList.drop i = (ts.toList.drop start).drop (i - start) := by
    rw [List.drop_drop, Nat.add_sub_cancel' hle]
  rw [between, hdrop, List.take_append_drop]

theorem take_append_between {start i : Nat} (hle : start ≤ i) :
    ts.toList.take start ++ between ts start i = ts.toList.take i := by
  conv_rhs => rw [← Nat.add_sub_cancel' hle, List.take_add]
  rfl

theorem groupEndAt_of_drop (steps depth base passed : Nat) {us : List Token}
    (h : ts.toList.drop (base + passed) = us) (hle : base + passed ≤ ts.size)
    (hsteps : us.length < steps) :
    ∃ close, groupEndAt ts steps depth (base + passed) = pure close ∧
      Lands ts.size base (base + passed) (groupEnd depth passed us) close := by
  induction us generalizing steps depth passed with
  | nil =>
    obtain ⟨steps, rfl⟩ := Nat.exists_eq_add_one_of_ne_zero (Nat.ne_zero_of_lt hsteps)
    rw [groupEndAt, if_neg (Nat.not_lt.mpr (size_le_of_drop h)), groupEnd]
    exact ⟨ts.size, rfl, hle, rfl⟩
  | cons t us ih =>
    obtain ⟨steps, rfl⟩ := Nat.exists_eq_add_one_of_ne_zero (Nat.ne_zero_of_lt hsteps)
    have hlt := lt_size_of_drop h
    have hnext (depth : Nat) : ∃ close, groupEndAt ts steps depth (base + passed + 1) = pure close ∧
        Lands ts.size base (base + passed) (groupEnd depth (passed + 1) us) close := by
      obtain ⟨close, hclose, hland⟩ := ih steps depth (passed + 1) (drop_add_of_drop h 0) hlt
        (Nat.lt_of_succ_lt_succ hsteps)
      exact ⟨close, hclose, hland.mono (Nat.le_succ _)⟩
    rw [groupEndAt, if_pos hlt, tokenAt_of_drop h, pure_bind, groupEnd]
    split
    · exact hnext (depth + 1)
    · split
      · split
        · exact ⟨_, rfl, Nat.le_refl _, rfl, hlt⟩
        · exact hnext (depth - 1)
      · exact hnext depth

theorem groupEndAt_of_open {i : Nat} {t : Token} {rest : List Token}
    (h : ts.toList.drop i = t :: rest) (hopen : t.isOpen = true) {steps : Nat}
    (hsteps : rest.length + 1 < steps) :
    ∃ close, groupEndAt ts steps 0 i = pure close ∧
      Lands ts.size i (i + 1) (groupEnd 0 0 (t :: rest)) close := by
  obtain ⟨steps, rfl⟩ := Nat.exists_eq_add_one_of_ne_zero (Nat.ne_zero_of_lt hsteps)
  have hlt := lt_size_of_drop h
  rw [groupEndAt, if_pos hlt, tokenAt_of_drop h, pure_bind, if_pos hopen, groupEnd, if_pos hopen]
  exact groupEndAt_of_drop ts steps 1 i 1 (drop_add_of_drop h 0) hlt (Nat.lt_of_succ_lt_succ hsteps)

end Cursor
end SourceAudit.Expr
