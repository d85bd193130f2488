import SourceAudit.Proofs.Searching

/-! Empty matches. An expression of which no match may be empty is unrolled to steps that accept nothing
before a character is read, so the pattern is never found in an empty place. -/
namespace SourceAudit

namespace Regex

def Step.silent : Step → List Nat
  | accept | set _ _ => []
  | look _ next => [next]
  | split first second => [first, second]

/-- Steps were added to `old`, with an `entry`. None of them accepts, and silent moves from the entry go
through added steps, at most up to `next`. -/
structure Adds (old : Array Step) (next : Nat) (steps : Array Step) (entry : Nat) : Prop where
  size_le : old.size ≤ steps.size
  getElem?_old : ∀ i < old.size, steps[i]? = old[i]?
  entry_new : entry = next ∨ old.size ≤ entry ∧ entry < steps.size
  ne_accept : ∀ i step, old.size ≤ i → steps[i]? = some step → step ≠ .accept
  silent_new : ∀ i step, old.size ≤ i → steps[i]? = some step → ∀ j ∈ step.silent,
    j = next ∨ old.size ≤ j ∧ j < steps.size

theorem silent_splitStep {greedy : Bool} {body next j : Nat}
    (h : j ∈ (splitStep greedy body next).silent) : j = body ∨ j = next := by
  cases greedy <;> simp [splitStep, Step.silent] at h <;> omega

theorem splitStep_ne_accept (greedy : Bool) (body next : Nat) :
    splitStep greedy body next ≠ .accept := by
  cases greedy <;> simp [splitStep]

namespace Adds

variable {old mid steps : Array Step} {next between entry : Nat}

theorem refl (old : Array Step) (next : Nat) : Adds old next old next where
  size_le := Nat.le_refl _
  getElem?_old _ _ := rfl
  entry_new := .inl rfl
  ne_accept i step hi hstep := by simp [Array.getElem?_eq_none hi] at hstep
  silent_new i step hi hstep := by simp [Array.getElem?_eq_none hi] at hstep

theorem trans (h : Adds old next mid between) {next' : Nat} (hnext : next' = next ∨ next' = between)
    (h' : Adds mid next' steps entry) : Adds old next steps entry where
  size_le := Nat.le_trans h.size_le h'.size_le
  getElem?_old i hi := by
    rw [h'.getElem?_old i (Nat.lt_of_lt_of_le hi h.size_le), h.getElem?_old i hi]
  entry_new := by
    have := h.entry_new
    have := h'.entry_new
    have := h.size_le
    have := h'.size_le
    omega
  ne_accept i step hi hstep := by
    by_cases hmid : i < mid.size
    · rw [h'.getElem?_old i hmid] at hstep
      exact h.ne_accept i step hi hstep
    · exact h'.ne_accept i step (Nat.le_of_not_lt hmid) hstep
  silent_new i step hi hstep j hj := by
    have hentry := h.entry_new
    have hsize := h.size_le
    have hsize' := h'.size_le
    by_cases hmid : i < mid.size
    · rw [h'.getElem?_old i hmid] at hstep
      have := h.silent_new i step hi hstep j hj
      omega
    · have := h'.silent_new i step (Nat.le_of_not_lt hmid) hstep j hj
      omega

theorem push (h : Adds old next mid between) {step : Step} (haccept : step ≠ .accept)
    (hsilent : ∀ j ∈ step.silent, j = next ∨ old.size ≤ j ∧ j < mid.size) :
    Adds old next (mid.push step) mid.size where
  size_le := by
    have := h.size_le
    rw [Array.size_push]
    omega
  getElem?_old i hi := by
    have hmid := Nat.lt_of_lt_of_le hi h.size_le
    rw [Array.getElem?_push_lt hmid, ← h.getElem?_old i hi, Array.getElem?_eq_getElem hmid]
  entry_new := by
    have := h.size_le
    rw [Array.size_push]
    omega
  ne_accept i other hi hother := by
    rw [Array.getElem?_push] at hother
    split at hother
    · cases hother
      exact haccept
    · exact h.ne_accept i other hi hother
  silent_new i other hi hother j hj := by
    rw [Array.size_push]
    rw [Array.getElem?_push] at hother
    split at hother
    · cases hother
      have := hsilent j hj
      omega
    · have := h.silent_new i other hi hother j hj
      omega

theorem push_split (h : Adds old next mid entry) (greedy : Bool) :
    Adds old next (mid.push (splitStep greedy entry next)) mid.size := by
  apply h.push (splitStep_ne_accept _ _ _)
  intro j hj
  obtain rfl | rfl := silent_splitStep hj
  · exact h.entry_new
  · exact .inl rfl

/-- A loop: a place is kept for its split, the body leads back there, and the split is filled in. -/
theorem fill_split (h : Adds (old.push .accept) old.size mid entry) (greedy : Bool) (next : Nat) :
    Adds old next (mid.setIfInBounds old.size (splitStep greedy entry next)) entry := by
  have hsize := h.size_le
  have hentry := h.entry_new
  rw [Array.size_push] at hsize hentry
  have hat : (mid.setIfInBounds old.size (splitStep greedy entry next))[old.size]? =
      some (splitStep greedy entry next) := Array.getElem?_setIfInBounds_self_of_lt (by omega)
  have helse {i : Nat} (hi : i ≠ old.size) :
      (mid.setIfInBounds old.size (splitStep greedy entry next))[i]? = mid[i]? :=
    Array.getElem?_setIfInBounds_ne (Ne.symm hi)
  constructor
  · rw [Array.size_setIfInBounds]
    omega
  · intro i hi
    have hi' : i < (old.push .accept).size := by
      rw [Array.size_push]
      omega
    rw [helse (Nat.ne_of_lt hi), h.getElem?_old i hi', Array.getElem?_push_lt hi,
      Array.getElem?_eq_getElem hi]
  · rw [Array.size_setIfInBounds]
    omega
  · intro i step hi hstep
    by_cases hsplit : i = old.size
    · rw [hsplit, hat] at hstep
      cases hstep
      exact splitStep_ne_accept _ _ _
    · rw [helse hsplit] at hstep
      refine h.ne_accept i step ?_ hstep
      rw [Array.size_push]
      omega
  · intro i step hi hstep j hj
    rw [Array.size_setIfInBounds]
    by_cases hsplit : i = old.size
    · rw [hsplit, hat] at hstep
      cases hstep
      have := silent_splitStep hj
      omega
    · rw [helse hsplit] at hstep
      have hnew := h.silent_new i step (by rw [Array.size_push]; omega) hstep j hj
      rw [Array.size_push] at hnew
      omega

end Adds

/-! ### Unrolling -/

def AddsTo (body : Emit) : Prop :=
  ∀ next steps, Adds steps next (body next steps).1 (body next steps).2

section

variable {body : Emit} (hbody : AddsTo body)

include hbody

theorem addsTo_emitCopies (n : Nat) : AddsTo (emitCopies body n) := by
  induction n with
  | zero => exact fun next steps => .refl steps next
  | succ n ih => exact fun next steps => (ih next steps).trans (.inr rfl) (hbody _ _)

theorem addsTo_emitOptional (greedy : Bool) (n : Nat) : AddsTo (emitOptional body greedy n) := by
  induction n with
  | zero => exact fun next steps => .refl steps next
  | succ n ih =>
    exact fun next steps => ((ih next steps).trans (.inr rfl) (hbody _ _)).push_split greedy

theorem adds_emitPlus (greedy : Bool) (next : Nat) (steps : Array Step) :
    Adds steps next (emitPlus body greedy next steps).1 (emitPlus body greedy next steps).2.1 :=
  (hbody steps.size (steps.push .accept)).fill_split greedy next

theorem adds_emitPlus_again (greedy : Bool) (next : Nat) (steps : Array Step) :
    Adds steps next (emitPlus body greedy next steps).1 (emitPlus body greedy next steps).2.2 := by
  refine { adds_emitPlus hbody greedy next steps with entry_new := .inr ?_ }
  have hsize := (hbody steps.size (steps.push .accept)).size_le
  simp only [emitPlus, emitStep, Array.size_setIfInBounds, Array.size_push] at hsize ⊢
  omega

theorem addsTo_emitRep (mayBeEmpty : Bool) (least : Nat) (most : Option Nat) (greedy : Bool) :
    AddsTo (emitRep body mayBeEmpty least most greedy) := by
  intro next steps
  cases most with
  | some most =>
    exact (addsTo_emitOptional hbody greedy _ next steps).trans (.inr rfl)
      (addsTo_emitCopies hbody least _ _)
  | none =>
    have hloop := adds_emitPlus hbody greedy next steps
    cases least with
    | zero =>
      simp only [emitRep]
      split
      · exact hloop.push_split greedy
      · exact adds_emitPlus_again hbody greedy next steps
    | succ least => exact hloop.trans (.inr rfl) (addsTo_emitCopies hbody least _ _)

end

theorem addsTo_emit (r : Regex) : AddsTo r.emit := by
  induction r with
  | empty => exact fun next steps => .refl steps next
  | set s => exact fun next steps => (Adds.refl steps next).push (by simp) (by simp [Step.silent])
  | look l => exact fun next steps => (Adds.refl steps next).push (by simp) (by simp [Step.silent])
  | seq a b iha ihb => exact fun next steps => (ihb next steps).trans (.inr rfl) (iha _ _)
  | alt a b iha ihb =>
    intro next steps
    have hsecond := ihb next steps
    have hfirst := iha next (b.emit next steps).1
    apply (hsecond.trans (.inl rfl) hfirst).push (by simp)
    intro j hj
    have := hfirst.entry_new
    have := hfirst.size_le
    have := hsecond.entry_new
    have := hsecond.size_le
    obtain rfl | rfl : j = (a.emit next (b.emit next steps).1).2 ∨ j = (b.emit next steps).2 := by
      simpa [Step.silent] using hj
    all_goals omega
  | rep r least most greedy ih => exact addsTo_emitRep ih _ _ _ _

/-! ### Expressions without an empty match -/

/-- Silent moves stay among the steps in `inside`, and none of these accepts. -/
def Traps (steps : Array Step) (inside : Nat → Prop) : Prop :=
  ∀ i, inside i → ∃ step, steps[i]? = some step ∧ step ≠ .accept ∧ ∀ j ∈ step.silent, inside j

def Stuck (steps : Array Step) (i : Nat) : Prop := ∃ inside, Traps steps inside ∧ inside i

theorem traps_stuck (steps : Array Step) : Traps steps (Stuck steps) := by
  rintro i ⟨inside, htraps, hi⟩
  obtain ⟨step, hstep, haccept, hsilent⟩ := htraps i hi
  exact ⟨step, hstep, haccept, fun j hj => ⟨inside, htraps, hsilent j hj⟩⟩

theorem Stuck.ne_accept {steps : Array Step} {i : Nat} (h : Stuck steps i) :
    steps[i]? ≠ some .accept := by
  obtain ⟨step, hstep, haccept, -⟩ := traps_stuck steps i h
  rw [hstep]
  simpa using haccept

theorem Stuck.of_mem_silent {steps : Array Step} {i j : Nat} {step : Step} (h : Stuck steps i)
    (hstep : steps[i]? = some step) (hj : j ∈ step.silent) : Stuck steps j := by
  obtain ⟨step', hstep', -, hsilent⟩ := traps_stuck steps i h
  rw [hstep] at hstep'
  cases hstep'
  exact hsilent j hj

theorem Stuck.mono {old steps : Array Step} {i : Nat} (h : Stuck old i)
    (hold : ∀ i < old.size, steps[i]? = old[i]?) : Stuck steps i := by
  refine ⟨Stuck old, fun j hj => ?_, h⟩
  obtain ⟨step, hstep, hmoves⟩ := traps_stuck old j hj
  obtain ⟨hlt, -⟩ := Array.getElem?_eq_some_iff.mp hstep
  exact ⟨step, (hold j hlt).trans hstep, hmoves⟩

theorem Stuck.of_step {steps : Array Step} {i : Nat} {step : Step} (hstep : steps[i]? = some step)
    (haccept : step ≠ .accept) (hsilent : ∀ j ∈ step.silent, Stuck steps j) : Stuck steps i := by
  refine ⟨fun j => j = i ∨ Stuck steps j, ?_, .inl rfl⟩
  rintro j (rfl | hj)
  · exact ⟨step, hstep, haccept, fun k hk => .inr (hsilent k hk)⟩
  · obtain ⟨step, hstep, haccept, hsilent⟩ := traps_stuck steps j hj
    exact ⟨step, hstep, haccept, fun k hk => .inr (hsilent k hk)⟩

theorem Adds.stuck {old steps : Array Step} {next entry : Nat} (h : Adds old next steps entry)
    (hnext : Stuck old next) : Stuck steps entry := by
  have hnext' := hnext.mono h.getElem?_old
  refine ⟨fun i => Stuck steps i ∨ old.size ≤ i ∧ i < steps.size, ?_, ?_⟩
  · rintro i (hi | ⟨hge, hlt⟩)
    · obtain ⟨step, hstep, haccept, hsilent⟩ := traps_stuck steps i hi
      exact ⟨step, hstep, haccept, fun j hj => .inl (hsilent j hj)⟩
    · have hstep := Array.getElem?_eq_getElem hlt
      refine ⟨_, hstep, h.ne_accept i _ hge hstep, fun j hj => ?_⟩
      obtain rfl | hnew := h.silent_new i _ hge hstep j hj
      · exact .inl hnext'
      · exact .inr hnew
  · obtain rfl | hnew := h.entry_new
    · exact .inl hnext'
    · exact .inr hnew

section

variable {body : Emit} (hbody : AddsTo body)
  (hstuck : ∀ next steps, Stuck (body next steps).1 (body next steps).2)

include hbody hstuck

theorem stuck_emitPlus (greedy : Bool) (next : Nat) (steps : Array Step) :
    Stuck (emitPlus body greedy next steps).1 (emitPlus body greedy next steps).2.1 := by
  have hadds := hbody steps.size (steps.push .accept)
  refine ⟨Stuck (body steps.size (steps.push .accept)).1, fun j hj => ?_, hstuck _ _⟩
  obtain ⟨step, hstep, haccept, hsilent⟩ := traps_stuck _ j hj
  -- the place kept for the split accepts until the split is filled in, so it is not among these
  have hne : steps.size ≠ j := by
    rintro rfl
    rw [hadds.getElem?_old _ (by simp), Array.getElem?_push_size] at hstep
    cases hstep
    exact haccept rfl
  exact ⟨step, (Array.getElem?_setIfInBounds_ne hne).trans hstep, haccept, hsilent⟩

theorem stuck_emitRep (mayBeEmpty : Bool) {least : Nat} (hleast : least ≠ 0) (most : Option Nat)
    (greedy : Bool) (next : Nat) (steps : Array Step) :
    Stuck (emitRep body mayBeEmpty least most greedy next steps).1
      (emitRep body mayBeEmpty least most greedy next steps).2 := by
  obtain ⟨least, rfl⟩ := Nat.exists_eq_succ_of_ne_zero hleast
  cases most with
  | some most => exact hstuck _ _
  | none =>
    cases least with
    | zero => exact stuck_emitPlus hbody hstuck greedy next steps
    | succ least => exact hstuck _ _

end

theorem stuck_emit {r : Regex} (h : r.mayBeEmpty = false) (next : Nat) (steps : Array Step) :
    Stuck (r.emit next steps).1 (r.emit next steps).2 := by
  induction r generalizing next steps with
  | empty => cases h
  | set s => exact .of_step Array.getElem?_push_size (by simp) (by simp [Step.silent])
  | look l => cases h
  | seq a b iha ihb =>
    obtain ha | hb := Bool.and_eq_false_iff.mp h
    · exact iha ha _ _
    · exact (addsTo_emit a _ _).stuck (ihb hb next steps)
  | alt a b iha ihb =>
    obtain ⟨ha, hb⟩ := Bool.or_eq_false_iff.mp h
    have hfirst := iha ha next (b.emit next steps).1
    have hsecond := (ihb hb next steps).mono (addsTo_emit a next _).getElem?_old
    have hold (step : Step) (i : Nat) (hi : i < (a.emit next (b.emit next steps).1).1.size) :
        ((a.emit next (b.emit next steps).1).1.push step)[i]? =
          (a.emit next (b.emit next steps).1).1[i]? := by
      rw [Array.getElem?_push_lt hi, Array.getElem?_eq_getElem hi]
    apply Stuck.of_step Array.getElem?_push_size (by simp)
    intro j hj
    obtain rfl | rfl : j = (a.emit next (b.emit next steps).1).2 ∨ j = (b.emit next steps).2 := by
      simpa [Step.silent] using hj
    · exact hfirst.mono (hold _)
    · exact hsecond.mono (hold _)
  | rep r least most greedy ih =>
    obtain ⟨hleast, hr⟩ := Bool.or_eq_false_iff.mp h
    exact stuck_emitRep (addsTo_emit r) (ih hr) _ (by simpa using hleast) _ _ _ _

end Regex

namespace Pattern

/-! ### Searching -/

theorem not_accept_of_mem_follow (p : Pattern) (before after : Option Char) (start fuel : Nat)
    (stack : List Nat) (front : Front) (hstack : ∀ i ∈ stack, Regex.Stuck p.steps i) :
    ∀ t ∈ (p.follow before after start fuel stack front).threads,
      t ∈ front.threads ∨ p.steps[t.step]? ≠ some .accept := by
  fun_induction follow p before after start fuel stack front with
  | case1 => exact fun t ht => .inl ht
  | case2 => exact fun t ht => .inl ht
  | case3 _ _ _ _ _ ih => exact ih (List.forall_mem_cons.mp hstack).2
  | case4 _ _ _ _ _ _ _ ih => exact ih (List.forall_mem_cons.mp hstack).2
  | case5 _ i stack _ _ _ l next hstep ih =>
    obtain ⟨hi, hstack⟩ := List.forall_mem_cons.mp hstack
    have hnext : Regex.Stuck p.steps next := hi.of_mem_silent hstep (by simp [Regex.Step.silent])
    apply ih
    split
    · exact List.forall_mem_cons.mpr ⟨hnext, hstack⟩
    · exact hstack
  | case6 _ i stack _ _ _ first second hstep ih =>
    obtain ⟨hi, hstack⟩ := List.forall_mem_cons.mp hstack
    have hfirst : Regex.Stuck p.steps first := hi.of_mem_silent hstep (by simp [Regex.Step.silent])
    have hsecond : Regex.Stuck p.steps second := hi.of_mem_silent hstep (by simp [Regex.Step.silent])
    apply ih
    exact List.forall_mem_cons.mpr ⟨hfirst, List.forall_mem_cons.mpr ⟨hsecond, hstack⟩⟩
  | case7 _ i stack _ _ _ _ _ _ _ ih =>
    obtain ⟨hi, hstack⟩ := List.forall_mem_cons.mp hstack
    intro t ht
    obtain ht | ht := ih hstack t ht
    · obtain ht | rfl := Array.mem_push.mp ht
      · exact .inl ht
      · exact .inr hi.ne_accept
    · exact .inr ht

theorem start_lt_of_mem_frontAt {p : Pattern} (hp : Regex.Stuck p.steps p.start)
    {before after : Option Char} {offset : Nat} {pending : List Thread} {fresh : Option Nat}
    (hpending : ∀ t ∈ pending, t.start < offset) :
    ∀ t ∈ p.frontAt before after pending fresh, p.steps[t.step]? = some .accept → t.start < offset := by
  let empty : Front := ⟨Array.replicate p.steps.size false, #[]⟩
  have hempty : ∀ t ∈ empty.threads, t.start < offset := by simp [empty]
  have hcame := forall_start_foldl_follow p before after (· < offset) hpending hempty
  unfold frontAt
  cases fresh with
  | none => exact fun t ht _ => hcame t ht
  | some start =>
    intro t ht haccept
    have hstack : ∀ i ∈ [p.start], Regex.Stuck p.steps i := by simpa using hp
    obtain ht | ht := not_accept_of_mem_follow _ _ _ _ _ _ _ hstack t ht
    · exact hcame t ht
    · exact absurd haccept ht

theorem start_lt_of_cutAtAccept {p : Pattern} {offset : Nat} {ts : List Thread}
    (hts : ∀ t ∈ ts, p.steps[t.step]? = some .accept → t.start < offset) :
    ∀ s ∈ (p.cutAtAccept ts).2, s < offset := by
  induction ts with
  | nil => simp [cutAtAccept]
  | cons t ts ih =>
    rw [cutAtAccept]
    split
    next haccept => simpa using hts t List.mem_cons_self haccept
    next => exact ih fun u hu => hts u (List.mem_cons_of_mem t hu)

theorem start_lt_at_place {p : Pattern} (hp : Regex.Stuck p.steps p.start) (before after : Option Char)
    {offset : Nat} {pending : List Thread} (fresh : Option Nat) {best : Option (Nat × Nat)}
    (hpending : ∀ t ∈ pending, t.start < offset) (hbest : ∀ r ∈ best, r.1 < r.2) :
    ∀ r ∈ ((p.cutAtAccept (p.frontAt before after pending fresh).toList).2.map (·, offset)).or best,
      r.1 < r.2 := by
  intro r hr
  obtain hr | ⟨-, hr⟩ := Option.or_eq_some_iff.mp hr
  · obtain ⟨s, hs, rfl⟩ := Option.map_eq_some_iff.mp hr
    refine start_lt_of_cutAtAccept (fun t ht => ?_) s hs
    exact start_lt_of_mem_frontAt hp hpending t (Array.mem_toList_iff.mp ht)
  · exact hbest r hr

theorem search_start_lt_stop {p : Pattern} (hp : Regex.Stuck p.steps p.start) (before : Option Char)
    (offset : Nat) (pending : List Thread) (best : Option (Nat × Nat)) (cs : List Char)
    (hpending : ∀ t ∈ pending, t.start < offset) (hbest : ∀ r ∈ best, r.1 < r.2 ∧ r.2 ≤ offset) :
    ∀ r ∈ p.search before offset pending best cs, r.1 < r.2 := by
  induction cs generalizing before offset pending best with
  | nil =>
    rw [search]
    exact start_lt_at_place hp before none _ hpending fun r hr => (hbest r hr).1
  | cons c cs ih =>
    obtain ⟨halive, hbounds⟩ := bounds_at_place p before (some c)
      (fun t ht => Nat.le_of_lt (hpending t ht))
      (fun r hr => ⟨Nat.le_of_lt (hbest r hr).1, (hbest r hr).2⟩)
    have hfound := start_lt_at_place hp before (some c) (if best.isSome then none else some offset)
      hpending fun r hr => (hbest r hr).1
    rw [search]
    dsimp only [List.head?_cons] at halive hbounds hfound ⊢
    generalize p.cutAtAccept _ = cut at halive hbounds hfound ⊢
    split
    · exact hfound
    · -- one character further on every thread began before the place
      have hsize := c.utf8Size_pos
      apply ih
      · intro t ht
        have := start_le_of_mem_advance halive t ht
        omega
      · intro r hr
        have := (hbounds r hr).2
        exact ⟨hfound r hr, by omega⟩

theorem start_lt_stop_of_find? {r : Regex} (h : r.mayBeEmpty = false) {text : String}
    {start stop : Nat} (hfind : (ofRegex r).find? text = some (start, stop)) : start < stop :=
  search_start_lt_stop (Regex.stuck_emit h 0 #[.accept]) none 0 [] none text.toList (by simp) (by simp)
    (start, stop) hfind

end Pattern
end SourceAudit
