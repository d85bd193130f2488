import SourceAudit.Proofs.Lexing
import SourceAudit.Proofs.Reading
import SourceAudit.Proofs.Steps

/-! Where fragments stand. Each starts with a token of its own and ends with one, and the walk finds
them in the order of their first tokens, whatever the brackets do. -/
namespace SourceAudit

def Fragment.position (f : Fragment) : Position := ⟨f.span.start, f.line, f.column⟩

structure Fragment.Spans (f : Fragment) (t : Token) (ts : List Token) : Prop where
  position : f.position = t.position
  stop : ∃ u ∈ ts, f.span.stop = u.span.stop
  le_stop : t.span.stop ≤ f.span.stop

theorem Fragment.Spans.mono {f : Fragment} {t : Token} {ts us : List Token} (h : f.Spans t ts)
    (hsub : ts ⊆ us) : f.Spans t us where
  position := h.position
  stop := by
    obtain ⟨u, hu, hstop⟩ := h.stop
    exact ⟨u, hsub hu, hstop⟩
  le_stop := h.le_stop

/-- An end that was never set, or that of one of the tokens. -/
def EndsIn (stop : Nat) (ts : List Token) : Prop := stop = 0 ∨ ∃ u ∈ ts, stop = u.span.stop

theorem EndsIn.mono {stop : Nat} {ts us : List Token} (h : EndsIn stop ts) (hsub : ts ⊆ us) :
    EndsIn stop us := by
  obtain h | ⟨u, hu, h⟩ := h
  · exact .inl h
  · exact .inr ⟨u, hsub hu, h⟩

theorem endsIn_of_mem {t : Token} {ts : List Token} (h : t ∈ ts) : EndsIn t.span.stop ts :=
  .inr ⟨t, h, rfl⟩

theorem endsIn_getD {o : Option Token} {ts : List Token} (h : ∀ t, o = some t → t ∈ ts) :
    EndsIn ((o.map (·.span.stop)).getD 0) ts := by
  cases o with
  | none => exact .inl rfl
  | some t => exact endsIn_of_mem (h t rfl)

namespace Expr

theorem segments_subset (ts : List Token) : segments ts ⊆ ts := by
  fun_induction segments ts with
  | case1 mark name rest _ ih =>
    intro t ht
    obtain rfl | ht := List.mem_cons.mp ht
    · simp
    · exact List.mem_cons_of_mem _ (List.mem_cons_of_mem _ (ih ht))
  | case2 => exact List.nil_subset _
  | case3 => exact List.nil_subset _

theorem last_mem_of_subset (t : Token) {rest us : List Token} (hsub : segments rest ⊆ us) :
    (DottedPath.read t rest).last ∈ t :: us := by
  rw [DottedPath.last, DottedPath.read, List.getLastD_eq_getLast?]
  cases h : (segments rest).getLast? with
  | none => simp
  | some u => exact List.mem_cons_of_mem t (hsub (List.mem_of_getLast? h))

theorem last_mem (t : Token) (rest : List Token) : (DottedPath.read t rest).last ∈ t :: rest :=
  last_mem_of_subset t (segments_subset rest)

end Expr

namespace Walk

theorem spans_emit (w : Walk) (kind : FragmentKind) (text : String) {first : Token} {stop : Nat}
    {ts : List Token} (args : List Expr) (chain : Option String) (hfirst : first ∈ ts)
    (hstop : EndsIn stop ts) : (w.emit kind text first stop args chain).2.Spans first ts where
  position := rfl
  stop := by
    change ∃ u ∈ ts, max stop first.span.stop = u.span.stop
    obtain rfl | ⟨u, hu, rfl⟩ := hstop
    · exact ⟨first, hfirst, by omega⟩
    · by_cases h : first.span.stop ≤ u.span.stop
      · exact ⟨u, hu, by omega⟩
      · exact ⟨first, hfirst, by omega⟩
  le_stop := Nat.le_max_right _ _

theorem spans_onCall {w : Walk} {t : Token} {path : Expr.DottedPath} {isMacro : Bool}
    {bracket ts : List Token} {f : Fragment} (ht : t ∈ ts) (hsub : bracket ⊆ ts)
    (h : (w.onCall t path isMacro bracket).found = some f) : f.Spans t ts := by
  unfold onCall at h
  dsimp only at h
  split at h
  · cases h
    apply spans_emit _ _ _ _ _ ht
    apply endsIn_getD
    exact fun u hu => hsub (List.mem_of_head? hu)
  · cases h
    apply spans_emit _ _ _ _ _ ht
    apply endsIn_getD
    intro u hu
    obtain hu | ⟨-, hu⟩ := Option.or_eq_some_iff.mp hu
    · obtain ⟨k, -, hk⟩ := Option.bind_eq_some_iff.mp hu
      exact hsub (List.mem_of_getElem? hk)
    · exact hsub (List.mem_of_getLast? hu)

theorem spans_onAssignment {w : Walk} {t : Token} {path : Expr.DottedPath} {gap : Nat}
    {after ts : List Token} {f : Fragment} (ht : t ∈ ts) (hsub : after ⊆ ts)
    (h : (w.onAssignment t path gap after).found = some f) : f.Spans t ts := by
  cases h
  apply spans_emit _ _ _ _ _ ht
  have hread := Expr.stop_span_read .statement w.stack.length after[gap]? (after.drop (gap + 1))
  exact EndsIn.mono hread (fun u hu => hsub (List.drop_subset _ _ hu))

theorem spans_step {w : Walk} {t : Token} {rest : List Token} {f : Fragment}
    (h : (w.step t rest).found = some f) : f.Spans t (t :: rest) := by
  have ht : t ∈ t :: rest := List.mem_cons_self
  have hafter : Expr.behindPath t rest ⊆ t :: rest := fun u hu =>
    List.mem_cons_of_mem t (List.drop_subset _ rest hu)
  have htakes := takes_step w t rest
  generalize w.step t rest = s at h htakes
  cases htakes with
  | newline | mark | number | function | declaration | keyword => cases h
  | literal =>
    cases h
    exact spans_emit _ _ _ _ _ ht (endsIn_of_mem ht)
  | name =>
    cases h
    exact spans_emit _ _ _ _ _ ht (endsIn_of_mem (Expr.last_mem t rest))
  | call => exact spans_onCall ht (fun u hu => hafter (List.drop_subset _ _ hu)) h
  | assignment => exact spans_onAssignment ht hafter h

def fragments (w : Walk) : List Token → List Fragment
  | [] => []
  | t :: rest =>
    let s := w.step t rest
    s.found.toList ++ fragments (s.walk.passed (t :: rest.take s.more)) (rest.drop s.more)
termination_by ts => ts.length

theorem toList_run (w : Walk) (done : Array Fragment) (ts : List Token) :
    (w.run done ts).toList = done.toList ++ w.fragments ts := by
  fun_induction run w done ts with
  | case1 => simp [fragments]
  | case2 w done t rest s ih =>
    rw [ih, fragments]
    cases (w.step t rest).found <;> simp [s]

theorem spans_fragments (w : Walk) (ts : List Token) :
    ∀ f ∈ w.fragments ts, ∃ t ∈ ts, f.Spans t ts := by
  fun_induction fragments w ts with
  | case1 => simp
  | case2 w t rest s ih =>
    intro f hf
    obtain hf | hf := List.mem_append.mp hf
    · exact ⟨t, List.mem_cons_self, spans_step (Option.mem_toList.mp hf)⟩
    · have hsub : rest.drop s.more ⊆ t :: rest := fun u hu =>
        List.mem_cons_of_mem t (List.drop_subset _ _ hu)
      obtain ⟨u, hu, hspans⟩ := ih f hf
      exact ⟨u, hsub hu, hspans.mono hsub⟩

theorem pairwise_fragments (w : Walk) (ts : List Token)
    (hts : ts.Pairwise fun t u => t.span.start < u.span.start) :
    (w.fragments ts).Pairwise fun f g => f.span.start < g.span.start := by
  fun_induction fragments w ts with
  | case1 => exact .nil
  | case2 w t rest s ih =>
    have hdrop := List.drop_subset s.more rest
    apply List.pairwise_append.mpr
    refine ⟨?_, ih (hts.tail.sublist (List.drop_sublist _ _)), ?_⟩
    · cases s.found <;> simp
    · -- what is found now starts at `t`, what is found later at a token behind it
      intro f hf g hg
      have hft := congrArg (·.offset) (spans_step (Option.mem_toList.mp hf)).position
      obtain ⟨u, hu, hspans⟩ := spans_fragments _ _ g hg
      have hgu := congrArg (·.offset) hspans.position
      have htu := List.rel_of_pairwise_cons hts (hdrop hu)
      simp only [Fragment.position, Token.position] at hft hgu
      omega

end Walk

namespace Source

theorem toList_fragments (s : Source) :
    s.fragments.toList = Walk.fragments {} (tokenize s.language s.text).toList := by
  rw [fragments, Walk.toList_run]
  rfl

theorem pairwise_start_fragments (s : Source) :
    s.fragments.toList.Pairwise fun f g => f.span.start < g.span.start := by
  rw [toList_fragments]
  apply Walk.pairwise_fragments
  apply (pairwise_tokenize s.language s.text).imp_of_mem
  intro t u ht _ htu
  exact Nat.lt_of_lt_of_le (standsIn_of_mem_tokenize ht).start_lt_stop htu

structure Stands (s : Source) (f : Fragment) : Prop where
  isIn : f.position.IsIn s.text.toList
  start_lt_stop : f.span.start < f.span.stop
  isBorder_stop : IsBorder s.text.toList f.span.stop

theorem stands_of_mem_fragments {s : Source} {f : Fragment} (h : f ∈ s.fragments.toList) :
    s.Stands f := by
  rw [toList_fragments] at h
  obtain ⟨t, ht, hspans⟩ := Walk.spans_fragments _ _ f h
  obtain ⟨u, hu, hstop⟩ := hspans.stop
  have htstands := standsIn_of_mem_tokenize ht
  have hstart := congrArg (·.offset) hspans.position
  have hlt := htstands.start_lt_stop
  have hle := hspans.le_stop
  refine ⟨hspans.position ▸ htstands.isIn, ?_, hstop ▸ (standsIn_of_mem_tokenize hu).isBorder_stop⟩
  simp only [Fragment.position, Token.position] at hstart
  omega

end Source
end SourceAudit
