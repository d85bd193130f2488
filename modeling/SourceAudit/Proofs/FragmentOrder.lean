import SourceAudit.Proofs.Walking

/-! The order of fragments. A walk only counts its statements and functions up, and what it finds carries
the counts of the moment, so fragments come in the order of their bytes, statements and functions. -/
namespace SourceAudit

namespace Walk

structure Precedes (w v : Walk) : Prop where
  stmt_le : w.stmt ≤ v.stmt
  scope_le : w.scope ≤ v.scope

namespace Precedes

theorem refl (w : Walk) : w.Precedes w := ⟨Nat.le_refl _, Nat.le_refl _⟩

theorem trans {u v w : Walk} (huv : u.Precedes v) (hvw : v.Precedes w) : u.Precedes w :=
  ⟨Nat.le_trans huv.stmt_le hvw.stmt_le, Nat.le_trans huv.scope_le hvw.scope_le⟩

end Precedes

theorem precedes_endStatement (w : Walk) : w.Precedes w.endStatement := by
  refine ⟨?_, Nat.le_refl _⟩
  unfold endStatement
  dsimp only
  split <;> omega

theorem precedes_close (w : Walk) (fits : Bracket → Bool) : w.Precedes (w.close fits) := by
  unfold close
  split
  · exact .refl w
  · exact ⟨Nat.le_refl _, Nat.le_refl _⟩

theorem precedes_onMark (w : Walk) (t : Token) : w.Precedes (w.onMark t) := by
  have hpush (b : Bracket) : w.Precedes (w.push b) := ⟨Nat.le_refl _, Nat.le_refl _⟩
  unfold onMark
  split
  · split
    · exact precedes_endStatement w
    · exact .refl w
  · split
    · exact precedes_endStatement w
    · exact .refl w
  · exact ⟨Nat.le_refl _, Nat.le_refl _⟩
  · exact hpush _
  · dsimp only
    split
    · exact (hpush _).trans (precedes_endStatement _)
    · exact hpush _
  · dsimp only
    split
    · exact (precedes_close w _).trans (precedes_endStatement _)
    · exact precedes_close w _
  · exact precedes_close w _
  · exact precedes_close w _
  · exact .refl w

/-- The step goes on from `w`, and what it finds is counted as `w` counts. -/
structure Follows (w : Walk) (s : Step) : Prop where
  precedes : w.Precedes s.walk
  found : ∀ f, s.found = some f → f.stmt = w.stmt ∧ f.scope = w.scope

theorem follows_of_precedes {w v : Walk} (h : w.Precedes v) : w.Follows { walk := v } :=
  ⟨h, by simp⟩

theorem follows_emit {w v : Walk} (hstmt : v.stmt = w.stmt) (hscope : v.scope = w.scope)
    (kind : FragmentKind) (text : String) (first : Token) (stop : Nat) (args : List Expr)
    (chain : Option String) (more : Nat) :
    w.Follows ⟨(v.emit kind text first stop args chain).1,
      some (v.emit kind text first stop args chain).2, more⟩ := by
  constructor
  · exact ⟨Nat.le_of_eq hstmt.symm, Nat.le_of_eq hscope.symm⟩
  · intro f hf
    cases hf
    exact ⟨hstmt, hscope⟩

theorem follows_step (w : Walk) (t : Token) (rest : List Token) : w.Follows (w.step t rest) := by
  have htakes := takes_step w t rest
  generalize w.step t rest = s at htakes ⊢
  cases htakes with
  | newline _ hwalk =>
    obtain rfl | rfl := hwalk
    · exact follows_of_precedes (.refl _)
    · exact follows_of_precedes (precedes_endStatement w)
  | mark => exact follows_of_precedes (precedes_onMark w t)
  | function => exact follows_of_precedes ⟨Nat.le_refl _, Nat.le_succ _⟩
  | number | declaration | keyword => exact follows_of_precedes ⟨Nat.le_refl _, Nat.le_refl _⟩
  | literal | name | assignment => exact follows_emit (by rfl) (by rfl) ..
  | call =>
    unfold onCall
    dsimp only
    split
    · exact follows_emit (by rfl) (by rfl) ..
    · exact follows_emit (by rfl) (by rfl) ..

theorem counts_le_of_mem_fragments (w : Walk) (ts : List Token) :
    ∀ f ∈ w.fragments ts, w.stmt ≤ f.stmt ∧ w.scope ≤ f.scope := by
  fun_induction fragments w ts with
  | case1 => simp
  | case2 w t rest s ih =>
    have hstep := follows_step w t rest
    intro f hf
    obtain hf | hf := List.mem_append.mp hf
    · obtain ⟨hstmt, hscope⟩ := hstep.found f (Option.mem_toList.mp hf)
      omega
    · obtain ⟨hstmt, hscope⟩ := ih f hf
      exact ⟨Nat.le_trans hstep.precedes.stmt_le hstmt,
        Nat.le_trans hstep.precedes.scope_le hscope⟩

theorem pairwise_counts_fragments (w : Walk) (ts : List Token) :
    (w.fragments ts).Pairwise fun f g => f.stmt ≤ g.stmt ∧ f.scope ≤ g.scope := by
  fun_induction fragments w ts with
  | case1 => exact .nil
  | case2 w t rest s ih =>
    have hstep := follows_step w t rest
    apply List.pairwise_append.mpr
    refine ⟨?_, ih, ?_⟩
    · cases s.found <;> simp
    · -- what is found now has the counts of `w`, and later counts start from those of the next walk
      intro f hf g hg
      obtain ⟨hstmt, hscope⟩ := hstep.found f (Option.mem_toList.mp hf)
      obtain ⟨hstmt', hscope'⟩ := counts_le_of_mem_fragments _ _ g hg
      rw [hstmt, hscope]
      exact ⟨Nat.le_trans hstep.precedes.stmt_le hstmt',
        Nat.le_trans hstep.precedes.scope_le hscope'⟩

end Walk

/-- The fragments of any text come in the order of their first bytes, and neither their statements nor
their functions are counted down. Each covers a nonempty stretch of the text between borders of
characters, and its line and column are those of its first byte. -/
theorem Source.fragments_in_order (s : Source) :
    (s.fragments.toList.Pairwise fun f g =>
      f.span.start < g.span.start ∧ f.stmt ≤ g.stmt ∧ f.scope ≤ g.scope) ∧
    ∀ f ∈ s.fragments.toList,
      f.span.start < f.span.stop ∧ f.span.stop ≤ s.size ∧
      IsBorder s.text.toList f.span.start ∧ IsBorder s.text.toList f.span.stop ∧
      ∃ before after, s.text.toList = before ++ after ∧ f.span.start = utf8Length before ∧
        f.line = 1 + before.count '\n' ∧
        f.column = 1 + (before.reverse.takeWhile (· ≠ '\n')).length := by
  constructor
  · have hcounts := Walk.pairwise_counts_fragments {} (tokenize s.language s.text).toList
    rw [← toList_fragments] at hcounts
    exact s.pairwise_start_fragments.and hcounts
  · intro f hf
    have hstands := stands_of_mem_fragments hf
    have hsize := hstands.isBorder_stop.le_utf8Length
    rw [utf8Length_toList] at hsize
    exact ⟨hstands.start_lt_stop, hsize, hstands.isIn.isBorder, hstands.isBorder_stop,
      Position.isIn_iff.mp hstands.isIn⟩

end SourceAudit
