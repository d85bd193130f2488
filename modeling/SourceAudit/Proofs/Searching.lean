import SourceAudit.Pattern.Machine
import SourceAudit.Proofs.Position

/-! A pattern is found only inside the text that is searched: no thread claims to have begun later than
the place it has reached. -/
namespace SourceAudit.Pattern

theorem mem_threads_follow (p : Pattern) (before after : Option Char) (start fuel : Nat)
    (stack : List Nat) (front : Front) :
    ∀ t ∈ (p.follow before after start fuel stack front).threads,
      t ∈ front.threads ∨ t.start = start := by
  fun_induction follow p before after start fuel stack front with
  | case1 => exact fun t ht => .inl ht
  | case2 => exact fun t ht => .inl ht
  | case3 _ _ _ _ _ ih => exact ih
  | case4 _ _ _ _ _ _ _ ih => exact ih
  | case5 _ _ _ _ _ _ _ _ _ ih => exact ih
  | case6 _ _ _ _ _ _ _ _ _ ih => exact ih
  | case7 _ _ _ _ _ _ _ _ _ _ ih =>
    intro t ht
    obtain ht | ht := ih t ht
    · obtain ht | rfl := Array.mem_push.mp ht
      · exact .inl ht
      · exact .inr rfl
    · exact .inr ht

theorem forall_start_foldl_follow (p : Pattern) (before after : Option Char) (began : Nat → Prop)
    {pending : List Thread} {front : Front} (hpending : ∀ t ∈ pending, began t.start)
    (hfront : ∀ t ∈ front.threads, began t.start) :
    ∀ t ∈ (pending.foldl (fun front t => p.follow before after t.start p.fuel [t.step] front)
      front).threads, began t.start := by
  induction pending generalizing front with
  | nil => exact hfront
  | cons u us ih =>
    apply ih (fun t ht => hpending t (List.mem_cons_of_mem u ht))
    intro t ht
    obtain ht | ht := mem_threads_follow p before after u.start p.fuel [u.step] front t ht
    · exact hfront t ht
    · rw [ht]
      exact hpending u List.mem_cons_self

theorem start_le_of_mem_frontAt {p : Pattern} {before after : Option Char} {offset : Nat}
    {pending : List Thread} {fresh : Option Nat} (hpending : ∀ t ∈ pending, t.start ≤ offset)
    (hfresh : ∀ s ∈ fresh, s ≤ offset) :
    ∀ t ∈ p.frontAt before after pending fresh, t.start ≤ offset := by
  let empty : Front := ⟨Array.replicate p.steps.size false, #[]⟩
  have hempty : ∀ t ∈ empty.threads, t.start ≤ offset := by simp [empty]
  have hcame := forall_start_foldl_follow p before after (· ≤ offset) hpending hempty
  unfold frontAt
  cases fresh with
  | none => exact hcame
  | some start =>
    intro t ht
    obtain ht | ht := mem_threads_follow _ _ _ _ _ _ _ t ht
    · exact hcame t ht
    · rw [ht]
      exact hfresh start rfl

theorem start_le_cutAtAccept {p : Pattern} {offset : Nat} {ts : List Thread}
    (hts : ∀ t ∈ ts, t.start ≤ offset) :
    (∀ t ∈ (p.cutAtAccept ts).1, t.start ≤ offset) ∧ ∀ s ∈ (p.cutAtAccept ts).2, s ≤ offset := by
  induction ts with
  | nil => simp [cutAtAccept]
  | cons t ts ih =>
    have ht := hts t List.mem_cons_self
    obtain ⟨halive, hfound⟩ := ih fun u hu => hts u (List.mem_cons_of_mem t hu)
    rw [cutAtAccept]
    split
    · simpa using ht
    · exact ⟨List.forall_mem_cons.mpr ⟨ht, halive⟩, hfound⟩

theorem start_le_of_mem_advance {p : Pattern} {c : Char} {offset : Nat} {ts : List Thread}
    (hts : ∀ t ∈ ts, t.start ≤ offset) : ∀ t ∈ p.advance c ts, t.start ≤ offset := by
  intro t ht
  obtain ⟨u, hu, hstep⟩ := List.mem_filterMap.mp ht
  split at hstep
  · split at hstep
    · cases hstep
      exact hts u hu
    · cases hstep
  · cases hstep

theorem bounds_at_place (p : Pattern) (before after : Option Char) {offset : Nat}
    {pending : List Thread} {best : Option (Nat × Nat)}
    (hpending : ∀ t ∈ pending, t.start ≤ offset) (hbest : ∀ r ∈ best, r.1 ≤ r.2 ∧ r.2 ≤ offset) :
    let fresh := if best.isSome then none else some offset
    let cut := p.cutAtAccept (p.frontAt before after pending fresh).toList
    (∀ t ∈ cut.1, t.start ≤ offset) ∧
      ∀ r ∈ (cut.2.map (·, offset)).or best, r.1 ≤ r.2 ∧ r.2 ≤ offset := by
  intro fresh cut
  have hfresh : ∀ s ∈ fresh, s ≤ offset := by
    intro s hs
    simp only [fresh] at hs
    split at hs
    · cases hs
    · cases hs
      exact Nat.le_refl _
  have hthreads : ∀ t ∈ (p.frontAt before after pending fresh).toList, t.start ≤ offset :=
    fun t ht => start_le_of_mem_frontAt hpending hfresh t (Array.mem_toList_iff.mp ht)
  obtain ⟨halive, hfound⟩ := start_le_cutAtAccept (p := p) hthreads
  refine ⟨halive, ?_⟩
  intro r hr
  obtain hr | ⟨-, hr⟩ := Option.or_eq_some_iff.mp hr
  · obtain ⟨s, hs, rfl⟩ := Option.map_eq_some_iff.mp hr
    exact ⟨hfound s hs, Nat.le_refl _⟩
  · exact hbest r hr

theorem search_bounds (p : Pattern) (before : Option Char) (offset : Nat) (pending : List Thread)
    (best : Option (Nat × Nat)) (cs : List Char) (hpending : ∀ t ∈ pending, t.start ≤ offset)
    (hbest : ∀ r ∈ best, r.1 ≤ r.2 ∧ r.2 ≤ offset) :
    ∀ r ∈ p.search before offset pending best cs, r.1 ≤ r.2 ∧ r.2 ≤ offset + utf8Length cs := by
  induction cs generalizing before offset pending best with
  | nil =>
    rw [search]
    exact (bounds_at_place p before none hpending hbest).2
  | cons c cs ih =>
    obtain ⟨halive, hbest'⟩ := bounds_at_place p before (some c) hpending hbest
    rw [search]
    dsimp only [List.head?_cons] at halive hbest' ⊢
    generalize p.cutAtAccept _ = cut at halive hbest' ⊢
    rw [utf8Length_cons]
    intro r hr
    split at hr
    · have := hbest' r hr
      omega
    · -- the bounds still hold one character further on
      have hpending' : ∀ t ∈ p.advance c cut.1, t.start ≤ offset + c.utf8Size := by
        intro t ht
        exact Nat.le_trans (start_le_of_mem_advance halive t ht) (Nat.le_add_right _ _)
      have hbest'' : ∀ r ∈ (cut.2.map (·, offset)).or best, r.1 ≤ r.2 ∧ r.2 ≤ offset + c.utf8Size := by
        intro r hr
        have := hbest' r hr
        omega
      have := ih _ _ _ _ hpending' hbest'' r hr
      omega

theorem find?_bounds {p : Pattern} {text : String} {start stop : Nat}
    (h : p.find? text = some (start, stop)) : start ≤ stop ∧ stop ≤ text.utf8ByteSize := by
  have hsearch := search_bounds p none 0 [] none text.toList (by simp) (by simp) (start, stop) h
  rwa [Nat.zero_add, utf8Length_toList] at hsearch

end SourceAudit.Pattern
