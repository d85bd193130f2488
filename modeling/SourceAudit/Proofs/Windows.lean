import SourceAudit.Proofs.Completion
import SourceAudit.Proofs.Walking

/-! Where windows stand. The heads of a text's windows are its fragments, one after the other, and the
span of a head is the smallest that holds the head's fragments. -/
namespace SourceAudit

structure Span.IsHull (s : Span) (fs : List Fragment) : Prop where
  start_le : ∀ f ∈ fs, s.start ≤ f.span.start
  le_stop : ∀ f ∈ fs, f.span.stop ≤ s.stop
  start_eq : ∃ f ∈ fs, s.start = f.span.start
  stop_eq : ∃ f ∈ fs, s.stop = f.span.stop

theorem Span.isHull_singleton (f : Fragment) : f.span.IsHull [f] := by
  constructor <;> simp

theorem Span.IsHull.cover {s : Span} {fs : List Fragment} (h : s.IsHull fs) (f : Fragment) :
    (s.cover f.span).IsHull (fs ++ [f]) where
  start_le := by
    intro g hg
    rw [start_cover]
    obtain hg | rfl : g ∈ fs ∨ g = f := by simpa using hg
    · exact Nat.le_trans (Nat.min_le_left _ _) (h.start_le g hg)
    · exact Nat.min_le_right _ _
  le_stop := by
    intro g hg
    rw [stop_cover]
    obtain hg | rfl : g ∈ fs ∨ g = f := by simpa using hg
    · exact Nat.le_trans (h.le_stop g hg) (Nat.le_max_left _ _)
    · exact Nat.le_max_right _ _
  start_eq := by
    obtain ⟨g, hg, hstart⟩ := h.start_eq
    rw [start_cover]
    by_cases hle : s.start ≤ f.span.start
    · exact ⟨g, List.mem_append_left _ hg, by omega⟩
    · exact ⟨f, by simp, by omega⟩
  stop_eq := by
    obtain ⟨g, hg, hstop⟩ := h.stop_eq
    rw [stop_cover]
    by_cases hle : f.span.stop ≤ s.stop
    · exact ⟨g, List.mem_append_left _ hg, by omega⟩
    · exact ⟨f, by simp, by omega⟩

theorem Span.IsHull.foldl_cover {s : Span} {fs : List Fragment} (h : s.IsHull fs)
    (gs : List Fragment) : (gs.foldl (fun s f => s.cover f.span) s).IsHull (fs ++ gs) := by
  induction gs generalizing s fs with
  | nil => rwa [List.append_nil]
  | cons g gs ih =>
    rw [List.foldl_cons, List.append_cons]
    exact ih (h.cover g)

theorem Window.isHull_headSpan (w : Window) : w.headSpan.IsHull w.head :=
  (Span.isHull_singleton w.anchor).foldl_cover w.statement.more

theorem Window.mem_fragments_of_mem_context {source : Source} {fs : List Fragment}
    {width lookbehind : UInt64} {index : Nat} {s : Statement} {f : Fragment}
    (hs : (statements fs)[index]? = some s)
    (hf : f ∈ (among source (statements fs) width lookbehind index s).context) : f ∈ fs := by
  rw [← flatMap_fragments_statements fs, List.mem_flatMap]
  obtain hbefore | hhead := List.mem_append.mp hf
  · obtain ⟨s', hs', hf'⟩ := List.mem_flatMap.mp hbefore
    have hnear := (List.takeWhile_sublist _).mem (List.mem_reverse.mp hs')
    exact ⟨s', List.mem_of_mem_take (List.mem_reverse.mp (List.mem_of_mem_take hnear)), hf'⟩
  · exact ⟨s, List.mem_of_getElem? hs, hhead⟩

namespace Scanner

variable {s : Scanner} {source : Source} {ws : List Window}

theorem source_of_mem_windows? (hws : s.windows? source = some ws) {w : Window} (hw : w ∈ ws) :
    w.source = source := by
  obtain ⟨_, hat⟩ := Source.exists_windowAt?_of_mem hws hw
  exact Source.source_of_windowAt? hat

theorem flatMap_head_windows? (hws : s.windows? source = some ws) :
    ws.flatMap Window.head = source.fragments.toList := by
  calc ws.flatMap Window.head
      = (ws.map Window.statement).flatMap Statement.fragments := by
        rw [List.flatMap_map]
        rfl
    _ = source.fragments.toList := by
        rw [Source.map_statement_of_windows? hws, flatMap_fragments_statements]

theorem stands_of_mem_head (hws : s.windows? source = some ws) {w : Window} {f : Fragment}
    (hw : w ∈ ws) (hf : f ∈ w.head) : source.Stands f := by
  apply Source.stands_of_mem_fragments
  rw [← flatMap_head_windows? hws]
  exact List.mem_flatMap.mpr ⟨w, hw, hf⟩

theorem start_headSpan (hws : s.windows? source = some ws) {w : Window} (hw : w ∈ ws) :
    w.headSpan.start = w.anchor.span.start := by
  have horder := source.pairwise_start_fragments
  rw [← flatMap_head_windows? hws, List.pairwise_flatMap] at horder
  obtain ⟨f, hf, hstart⟩ := w.isHull_headSpan.start_eq
  obtain rfl | hmore := List.mem_cons.mp hf
  · exact hstart
  · -- no other fragment of the head starts as early as the first
    have hlt := List.rel_of_pairwise_cons (horder.1 w hw) hmore
    have hle := w.isHull_headSpan.start_le w.anchor w.anchor_mem_head
    simp only [Window.anchor] at hle ⊢
    omega

theorem pairwise_before_anchor (hws : s.windows? source = some ws) :
    ws.Pairwise fun v w => v.anchor.position.Before w.anchor.position := by
  have horder := source.pairwise_start_fragments
  rw [← flatMap_head_windows? hws, List.pairwise_flatMap] at horder
  apply horder.2.imp_of_mem
  intro v w hv hw h
  have hlt := h v.anchor v.anchor_mem_head w.anchor w.anchor_mem_head
  exact Position.before_of_offset_lt (stands_of_mem_head hws hv v.anchor_mem_head).isIn
    (stands_of_mem_head hws hw w.anchor_mem_head).isIn hlt

end Scanner
end SourceAudit
