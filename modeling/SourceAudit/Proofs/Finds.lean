import SourceAudit.Proofs.Thinning
import SourceAudit.Proofs.Walking

/-! Where a walk stood when it found a fragment. Each find keeps the walk and the tokens that were left, so
that a fragment can be set against the brackets around it: what is assigned stands in no round or square
bracket, and a name between the brackets of a call lies inside the span of the call. -/
namespace SourceAudit

def Token.Before (t u : Token) : Prop := t.span.start < u.span.start ∧ t.span.stop ≤ u.span.stop

theorem pairwise_before_tokenize (language : Language) (text : String) :
    (tokenize language text).toList.Pairwise Token.Before := by
  apply (pairwise_tokenize language text).imp_of_mem
  intro t u ht hu htu
  have hstart := (standsIn_of_mem_tokenize ht).start_lt_stop
  have hstop := (standsIn_of_mem_tokenize hu).start_lt_stop
  exact ⟨by omega, by omega⟩

section

variable {ts : List Token} (hts : ts.Pairwise Token.Before)
include hts

theorem eq_of_start_eq {t u : Token} (ht : t ∈ ts) (hu : u ∈ ts) (h : t.span.start = u.span.start) :
    t = u := by
  obtain ⟨i, hi, rfl⟩ := List.getElem_of_mem ht
  obtain ⟨j, hj, rfl⟩ := List.getElem_of_mem hu
  have hpairs := List.pairwise_iff_getElem.mp hts
  obtain hlt | rfl | hgt := Nat.lt_trichotomy i j
  · exact absurd h (Nat.ne_of_lt (hpairs i j hi hj hlt).1)
  · rfl
  · exact absurd h (Nat.ne_of_gt (hpairs j i hj hi hgt).1)

theorem eq_of_suffix {t : Token} {us vs : List Token} (hus : t :: us <:+ ts) (hvs : t :: vs <:+ ts) :
    us = vs := by
  have hself {us vs : List Token} (hvs : t :: vs <:+ ts) (h : t :: us <:+ t :: vs) : us = vs := by
    obtain h | h := List.suffix_cons_iff.mp h
    · exact List.cons.inj h |>.2
    · have hbefore := List.rel_of_pairwise_cons (hts.sublist hvs.sublist) (h.mem List.mem_cons_self)
      exact absurd hbefore.1 (Nat.lt_irrefl _)
  obtain h | h := List.suffix_or_suffix_of_suffix hus hvs
  · exact hself hvs h
  · exact (hself hus h).symm

theorem stop_le_getLast? {t u : Token} (ht : t ∈ ts) (hu : ts.getLast? = some u) :
    t.span.stop ≤ u.span.stop := by
  obtain ⟨init, rfl⟩ := List.getLast?_eq_some_iff.mp hu
  obtain ht | rfl : t ∈ init ∨ t = u := by simpa using ht
  · exact ((List.pairwise_append.mp hts).2.2 t ht u List.mem_cons_self).2
  · exact Nat.le_refl _

end

theorem Expr.segments_subset_of_isClose {k : Token} (hk : k.isClose = true) (ts rest : List Token) :
    segments (ts ++ k :: rest) ⊆ ts := by
  obtain _ | ⟨mark, _ | ⟨name, ts⟩⟩ := ts
  · simp [segments_close hk]
  · simp [segments, Token.isIdent, kind_of_isClose hk]
  · rw [List.cons_append, List.cons_append, segments]
    split
    · intro u hu
      obtain rfl | hu := List.mem_cons.mp hu
      · simp
      · have hmem := segments_subset_of_isClose hk ts rest hu
        simp [hmem]
    · exact List.nil_subset _

namespace Walk

/-! ### What a step finds -/

inductive Yields (w : Walk) (t : Token) (rest : List Token) : Fragment → Prop where
  | literal : Yields w t rest (w.emit .stringLiteral t.text t t.span.stop [] none).2
  | name : Yields w t rest
      (w.emit .identifier (Expr.DottedPath.read t rest).text t
        (Expr.DottedPath.read t rest).last.span.stop [] none).2
  | call {isMacro : Bool} {f : Fragment}
      (hopen : Expr.callOpen? (Expr.DottedPath.read t rest).last.span.stop (Expr.behindPath t rest) =
        some isMacro)
      (hfound : (w.onCall t (.read t rest) isMacro
        ((Expr.behindPath t rest).drop (Expr.callGap isMacro))).found = some f) : Yields w t rest f
  | assignment {gap : Nat} {f : Fragment}
      (hgap : w.assignedAt? (Expr.DottedPath.read t rest).last (Expr.behindPath t rest) = some gap)
      (hfound : (w.onAssignment t (.read t rest) gap (Expr.behindPath t rest)).found = some f) :
      Yields w t rest f

section

variable {w : Walk} {t : Token} {rest : List Token} {f : Fragment}

theorem yields_step (h : (w.step t rest).found = some f) : w.Yields t rest f := by
  have htakes := takes_step w t rest
  generalize w.step t rest = s at h htakes
  cases htakes with
  | newline | mark | number | function | declaration | keyword => cases h
  | literal =>
    cases h
    exact .literal
  | name =>
    cases h
    exact .name
  | call _ _ hopen => exact .call hopen h
  | assignment _ _ hgap => exact .assignment hgap h

theorem kind_onCall {path : Expr.DottedPath} {isMacro : Bool} {bracket : List Token}
    (h : (w.onCall t path isMacro bracket).found = some f) : f.kind = .call := by
  obtain ⟨g, hfound, hkind, -⟩ := exists_found_onCall w t path isMacro bracket
  rw [h] at hfound
  exact (Option.some.inj hfound) ▸ hkind

theorem kind_onAssignment {path : Expr.DottedPath} {gap : Nat} {after : List Token}
    (h : (w.onAssignment t path gap after).found = some f) : f.kind = .assignment := by
  cases h
  rfl

theorem stop_le_stop_onCall {path : Expr.DottedPath} {isMacro : Bool} {bracket : List Token} {u : Token}
    (hdepth : w.stack.length < Expr.maxNesting)
    (h : (w.onCall t path isMacro bracket).found = some f)
    (hu : ((Expr.readArgs w.stack.length bracket).2.bind fun k => bracket[k]?).or bracket.getLast? =
      some u) : u.span.stop ≤ f.span.stop := by
  unfold onCall at h
  dsimp only at h
  rw [if_neg (Nat.not_le.mpr hdepth)] at h
  cases h
  change _ ≤ max (Option.getD (Option.map _ (Option.or _ _)) 0) _
  rw [hu]
  exact Nat.le_max_left _ _

/-- Every way to assign asks for the level of statements, where the items of braces stand too. -/
theorem atStatementLevel_of_assignedAt? {last : Token} {after : List Token} {gap : Nat}
    (h : w.assignedAt? last after = some gap) : w.atStatementLevel = true := by
  unfold assignedAt? at h
  split at h
  · cases h
  · split at h
    next hmark => exact hmark.2.2
    next =>
      split at h
      next hdeclares => exact (Bool.and_eq_true_iff.mp hdeclares).2
      next =>
        split at h
        next hkey =>
          unfold atStatementLevel
          cases hstack : w.stack with
          | nil => rfl
          | cons b outer => simpa [hstack] using (Bool.and_eq_true_iff.mp
              (Bool.and_eq_true_iff.mp hkey).1).2
        next => cases h

theorem Yields.atStatementLevel (h : w.Yields t rest f) (hkind : f.kind = .assignment) :
    w.atStatementLevel = true := by
  cases h with
  | literal => cases hkind
  | name => cases hkind
  | call _ hfound =>
    rw [kind_onCall hfound] at hkind
    cases hkind
  | assignment hgap _ => exact atStatementLevel_of_assignedAt? hgap

theorem Yields.stop_name (h : w.Yields t rest f) (hkind : f.kind = .identifier) :
    f.span.stop = max (Expr.DottedPath.read t rest).last.span.stop t.span.stop := by
  cases h with
  | literal => cases hkind
  | name => rfl
  | call _ hfound =>
    rw [kind_onCall hfound] at hkind
    cases hkind
  | assignment _ hfound =>
    rw [kind_onAssignment hfound] at hkind
    cases hkind

theorem Yields.onCall (h : w.Yields t rest f) (hkind : f.kind = .call) :
    ∃ isMacro,
      Expr.callOpen? (Expr.DottedPath.read t rest).last.span.stop (Expr.behindPath t rest) =
        some isMacro ∧
      (w.onCall t (.read t rest) isMacro
        ((Expr.behindPath t rest).drop (Expr.callGap isMacro))).found = some f := by
  cases h with
  | literal => cases hkind
  | name => cases hkind
  | call hopen hfound => exact ⟨_, hopen, hfound⟩
  | assignment _ hfound =>
    rw [kind_onAssignment hfound] at hkind
    cases hkind

end

/-! ### All finds of a walk -/

/-- A fragment, with the walk as it stood there and the tokens that were left. -/
structure Find where
  walk : Walk
  token : Token
  rest : List Token
  fragment : Fragment
  found : (walk.step token rest).found = some fragment

def finds (w : Walk) : List Token → List Find
  | [] => []
  | t :: rest =>
    let s := w.step t rest
    s.found.attach.toList.map (fun f => ⟨w, t, rest, f.1, f.2⟩) ++
      finds (s.walk.passed (t :: rest.take s.more)) (rest.drop s.more)
termination_by ts => ts.length

def findsHere (w : Walk) (t : Token) (rest : List Token) : List Find :=
  (w.step t rest).found.attach.toList.map fun f => ⟨w, t, rest, f.1, f.2⟩

theorem mem_findsHere {w : Walk} {t : Token} {rest : List Token} {d : Find} :
    d ∈ w.findsHere t rest ↔ d.walk = w ∧ d.token = t ∧ d.rest = rest := by
  constructor
  · intro hd
    obtain ⟨f, -, rfl⟩ := List.mem_map.mp hd
    exact ⟨rfl, rfl, rfl⟩
  · rintro ⟨rfl, rfl, rfl⟩
    exact List.mem_map.mpr ⟨⟨d.fragment, d.found⟩, Option.mem_toList.mpr (Option.mem_attach _ _), rfl⟩

theorem finds_cons (w : Walk) (t : Token) (rest : List Token) :
    w.finds (t :: rest) = w.findsHere t rest ++
      ((w.step t rest).walk.passed (t :: rest.take (w.step t rest).more)).finds
        (rest.drop (w.step t rest).more) := by
  rw [finds]
  rfl

theorem map_fragment_finds (w : Walk) (ts : List Token) :
    (w.finds ts).map Find.fragment = w.fragments ts := by
  fun_induction finds w ts with
  | case1 => simp [fragments]
  | case2 w t rest s ih =>
    rw [List.map_append, ih, fragments, List.map_map, ← Option.toList_map]
    congr 2
    exact Option.attach_map_subtype_val s.found

theorem suffix_of_mem_finds (w : Walk) (ts : List Token) :
    ∀ d ∈ w.finds ts, d.token :: d.rest <:+ ts := by
  fun_induction finds w ts with
  | case1 => simp
  | case2 w t rest s ih =>
    intro d hd
    obtain hd | hd := List.mem_append.mp hd
    · obtain ⟨f, -, rfl⟩ := List.mem_map.mp hd
      exact List.suffix_refl _
    · exact (ih d hd).trans ((List.drop_suffix _ _).trans (List.suffix_cons _ _))

namespace Find

theorem yields (d : Find) : d.walk.Yields d.token d.rest d.fragment := yields_step d.found

theorem start_fragment (d : Find) : d.fragment.span.start = d.token.span.start :=
  congrArg (·.offset) (spans_step d.found).position

def bracket (c : Find) : List Token :=
  let after := Expr.behindPath c.token c.rest
  match Expr.callOpen? (Expr.DottedPath.read c.token c.rest).last.span.stop after with
  | some isMacro => after.drop (Expr.callGap isMacro)
  | none => []

/-- The tokens between the brackets of the call. A bracket that is never closed holds all that is left. A
call that is nested too deeply to be read has no arguments. -/
def arguments (c : Find) : List Token :=
  if Expr.maxNesting ≤ c.walk.stack.length then []
  else
    match (Expr.readArgs c.walk.stack.length c.bracket).2 with
    | some k => (c.bracket.take k).tail
    | none => c.bracket.tail

def Encloses (c : Find) (f : Fragment) : Prop := ∃ u ∈ c.arguments, f.span.start = u.span.start

instance (c : Find) (f : Fragment) : Decidable (c.Encloses f) :=
  inferInstanceAs (Decidable (∃ u ∈ c.arguments, f.span.start = u.span.start))

theorem bracket_suffix (c : Find) : c.bracket <:+ c.rest := by
  unfold bracket
  dsimp only
  split
  · exact (List.drop_suffix _ _).trans (List.drop_suffix _ _)
  · exact List.nil_suffix

theorem arguments_subset (c : Find) : c.arguments ⊆ c.bracket := by
  unfold arguments
  split
  · exact List.nil_subset _
  · split
    · exact fun u hu => List.mem_of_mem_take (List.mem_of_mem_tail hu)
    · exact fun u hu => List.mem_of_mem_tail hu

theorem exists_open_bracket {c : Find} (hkind : c.fragment.kind = .call) :
    ∃ o inside, c.bracket = o :: inside ∧ o.isOpen = true := by
  obtain ⟨isMacro, hopen, -⟩ := c.yields.onCall hkind
  obtain ⟨o, inside, hbracket, ho, -⟩ := Expr.exists_open_of_callOpen? hopen
  exact ⟨o, inside, by simp only [bracket, hopen, hbracket], ho⟩

theorem stop_le_stop_call {c : Find} (hkind : c.fragment.kind = .call)
    (hdepth : c.walk.stack.length < Expr.maxNesting) {u : Token}
    (hu : ((Expr.readArgs c.walk.stack.length c.bracket).2.bind fun k => c.bracket[k]?).or
      c.bracket.getLast? = some u) : u.span.stop ≤ c.fragment.span.stop := by
  obtain ⟨isMacro, hopen, hfound⟩ := c.yields.onCall hkind
  simp only [bracket, hopen] at hu
  exact stop_le_stop_onCall hdepth hfound hu

theorem split_of_mem_arguments {c : Find} (hcall : c.fragment.kind = .call)
    (hpairs : c.rest.Pairwise Token.Before) {t : Token} (ht : t ∈ c.arguments) :
    ∃ after left, t :: (after ++ left) <:+ c.rest ∧ Expr.segments (after ++ left) ⊆ after ∧
      ∀ v ∈ t :: after, v.span.stop ≤ c.fragment.span.stop := by
  obtain ⟨o, inside, hbracket, ho⟩ := exists_open_bracket hcall
  have hsuffix : inside <:+ c.rest := (List.suffix_cons o inside).trans (hbracket ▸ c.bracket_suffix)
  unfold arguments at ht
  split at ht
  next => cases ht
  next hdepth =>
    have hstop {u : Token} := stop_le_stop_call hcall (Nat.lt_of_not_le hdepth) (u := u)
    rw [hbracket] at ht hstop
    split at ht
    next k hk =>
      -- closed: the path has to end before the closer, and the call ends with it
      rw [hk] at hstop
      obtain ⟨j, close, left, rfl, hdrop, hclose⟩ := Expr.close_of_readGroup ho hk
      obtain ⟨before, after, htake⟩ := List.append_of_mem (show t ∈ inside.take j from ht)
      have hinside : inside = before ++ t :: (after ++ close :: left) := by
        rw [← List.take_append_drop j inside, hdrop, htake, List.append_assoc, List.cons_append]
      have hhere := List.IsSuffix.trans ⟨before, hinside.symm⟩ hsuffix
      refine ⟨after, close :: left, hhere, Expr.segments_subset_of_isClose hclose after left, ?_⟩
      intro v hv
      have horder : ((t :: after) ++ close :: left).Pairwise Token.Before := hpairs.sublist hhere.sublist
      have hbefore := (List.pairwise_append.mp horder).2.2 v hv close List.mem_cons_self
      have hcloser : inside[j]? = some close := by rw [← List.head?_drop, hdrop, List.head?_cons]
      exact Nat.le_trans hbefore.2 (hstop (by simp [hcloser]))
    next hk =>
      -- never closed: the call goes on to the last token
      rw [hk] at hstop
      obtain ⟨before, after, hinside⟩ := List.append_of_mem (show t ∈ inside from ht)
      have hhere := List.IsSuffix.trans ⟨before, hinside.symm⟩ hsuffix
      refine ⟨after, [], by rwa [List.append_nil], ?_, ?_⟩
      · rw [List.append_nil]
        exact Expr.segments_subset after
      · intro v hv
        obtain ⟨u, hu⟩ : ∃ u, (t :: after).getLast? = some u := ⟨_, List.getLast?_cons⟩
        have hlast : (o :: inside).getLast? = some u := by
          rw [hinside, ← List.cons_append, List.getLast?_append, hu, Option.some_or]
        exact Nat.le_trans (stop_le_getLast? (hpairs.sublist hhere.sublist) hv hu)
          (hstop (by simp [hlast]))

theorem Encloses.within {ts : List Token} (hts : ts.Pairwise Token.Before) {c d : Find}
    (hc : c.token :: c.rest <:+ ts) (hd : d.token :: d.rest <:+ ts)
    (hcall : c.fragment.kind = .call) (hname : d.fragment.kind = .identifier)
    (h : c.Encloses d.fragment) :
    c.fragment.span.start < d.fragment.span.start ∧ d.fragment.span.stop ≤ c.fragment.span.stop := by
  obtain ⟨u, hu, hstart⟩ := h
  have hbehind : u ∈ c.rest := c.bracket_suffix.mem (c.arguments_subset hu)
  obtain rfl : d.token = u := eq_of_start_eq hts (hd.mem List.mem_cons_self)
    (hc.mem (List.mem_cons_of_mem _ hbehind)) (d.start_fragment ▸ hstart)
  have hpairs := hts.sublist hc.sublist
  constructor
  · rw [c.start_fragment, d.start_fragment]
    exact (List.rel_of_pairwise_cons hpairs hbehind).1
  · obtain ⟨after, left, hhere, hsegments, hstop⟩ := split_of_mem_arguments hcall hpairs.of_cons hu
    rw [d.yields.stop_name hname,
      eq_of_suffix hts hd (hhere.trans ((List.suffix_cons _ _).trans hc))]
    exact Nat.max_le.mpr ⟨hstop _ (Expr.last_mem_of_subset _ hsegments), hstop _ List.mem_cons_self⟩

end Find
end Walk

def Source.finds (source : Source) : List Walk.Find :=
  Walk.finds {} (tokenize source.language source.text).toList

theorem Source.map_fragment_finds (source : Source) :
    source.finds.map Walk.Find.fragment = source.fragments.toList := by
  rw [finds, Walk.map_fragment_finds, toList_fragments]

theorem Source.exists_find {source : Source} {f : Fragment} (h : f ∈ source.fragments.toList) :
    ∃ d ∈ source.finds, d.fragment = f := by
  rwa [← map_fragment_finds, List.mem_map] at h

end SourceAudit
