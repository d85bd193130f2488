import SourceAudit.Fragment.Walk

/-! What one step of a walk can do, said once: which walk it leads to, what it finds and how many tokens it
passes. -/
namespace SourceAudit

def Expr.behindPath (t : Token) (rest : List Token) : List Token :=
  rest.drop ((DottedPath.read t rest).length - 1)

namespace Walk

inductive Takes (w : Walk) (t : Token) (rest : List Token) : Step → Prop where
  | newline {v : Walk} (hkind : t.kind = .newline) (hwalk : v = w ∨ v = w.endStatement) :
      Takes w t rest { walk := v }
  | mark (hkind : t.kind = .punct) : Takes w t rest { walk := w.onMark t }
  | literal {interpolated : Bool} (hkind : t.kind = .literal interpolated) :
      Takes w t rest
        { walk := (w.emit .stringLiteral t.text t t.span.stop [] none).1
          found := some (w.emit .stringLiteral t.text t t.span.stop [] none).2 }
  | number (hkind : t.kind = .number) : Takes w t rest { walk := { w with begun := true } }
  | function (hkind : t.kind = .ident) (hword : t.text ∈ Vocabulary.functionWords) :
      Takes w t rest { walk := { w with scope := w.scope + 1, expectsName := true, begun := true } }
  | declaration (hkind : t.kind = .ident) (hword : t.text ∈ Vocabulary.declarationWords) :
      Takes w t rest { walk := { w with declares := true, begun := true } }
  | keyword (hkind : t.kind = .ident) (hword : t.text ∈ Vocabulary.keywords) :
      Takes w t rest { walk := { w with begun := true } }
  | name (hkind : t.kind = .ident) :
      Takes w t rest
        { walk := ({ w with expectsName := false }.emit .identifier (Expr.DottedPath.read t rest).text t
            (Expr.DottedPath.read t rest).last.span.stop [] none).1
          found := some (w.emit .identifier (Expr.DottedPath.read t rest).text t
            (Expr.DottedPath.read t rest).last.span.stop [] none).2
          more := (Expr.DottedPath.read t rest).length - 1 }
  | call {isMacro : Bool} (hkind : t.kind = .ident) (hexpects : w.expectsName = false)
      (hopen : Expr.callOpen? (Expr.DottedPath.read t rest).last.span.stop (Expr.behindPath t rest) =
        some isMacro) :
      Takes w t rest
        (w.onCall t (.read t rest) isMacro ((Expr.behindPath t rest).drop (Expr.callGap isMacro)))
  | assignment {gap : Nat} (hkind : t.kind = .ident) (hexpects : w.expectsName = false)
      (hgap : w.assignedAt? (Expr.DottedPath.read t rest).last (Expr.behindPath t rest) = some gap) :
      Takes w t rest (w.onAssignment t (.read t rest) gap (Expr.behindPath t rest))

theorem takes_onPath (w : Walk) {t : Token} (rest : List Token) (hkind : t.kind = .ident) :
    w.Takes t rest (w.onPath t rest) := by
  unfold onPath
  dsimp only
  split
  next => exact .name hkind
  next hexpects =>
    have hexpects := Bool.eq_false_iff.mpr hexpects
    have hname : { w with expectsName := false } = w := by rw [← hexpects]
    split
    next hopen => exact .call hkind hexpects hopen
    next =>
      split
      next hgap => exact .assignment hkind hexpects hgap
      next =>
        have htakes := @Takes.name w t rest hkind
        rwa [hname] at htakes

theorem takes_onIdent (w : Walk) {t : Token} (rest : List Token) (hkind : t.kind = .ident) :
    w.Takes t rest (w.onIdent t rest) := by
  unfold onIdent
  split
  next hword => exact .function hkind (List.contains_iff_mem.mp hword)
  next =>
  split
  next hword => exact .declaration hkind (List.contains_iff_mem.mp (Bool.and_eq_true_iff.mp hword).1)
  next =>
  split
  next hstarts =>
    refine .keyword hkind ?_
    simp only [Expr.startsPath, Bool.not_or, Bool.not_not, Bool.and_eq_true] at hstarts
    exact List.contains_iff_mem.mp hstarts.1
  next => exact takes_onPath w rest hkind

theorem takes_step (w : Walk) (t : Token) (rest : List Token) : w.Takes t rest (w.step t rest) := by
  unfold step
  split
  next hkind =>
    split
    next => exact .newline hkind (.inr rfl)
    next => exact .newline hkind (.inl rfl)
  next hkind => exact .mark hkind
  next hkind => exact .literal hkind
  next hkind => exact .number hkind
  next hkind => exact takes_onIdent w rest hkind

/-! ### The mark of an assignment -/

/-- A mark that assigns stands behind `between`, with `value` behind it, and no semicolon and no brace
comes before it. -/
structure AssignsAt (ts between : List Token) (mark : Token) (value : List Token) : Prop where
  tokens : ts = between ++ mark :: value
  mark : mark.isPunct "=" = true ∨ mark.isPunct ":=" = true
  free : ∀ u ∈ between, u.kind = .punct → u.text ∉ [";", "\x7b", "\x7d"]

theorem AssignsAt.cons {ts between value : List Token} {mark t : Token} (h : AssignsAt ts between mark value)
    (ht : t.kind = .punct → t.text ∉ [";", "\x7b", "\x7d"]) :
    AssignsAt (t :: ts) (t :: between) mark value where
  tokens := congrArg (t :: ·) h.tokens
  mark := h.mark
  free := List.forall_mem_cons.mpr ⟨ht, h.free⟩

theorem declaredAt?_eq_some {last : Token} {depth passed k : Nat} {ts : List Token}
    (h : declaredAt? last depth passed ts = some k) :
    ∃ between mark value, AssignsAt ts between mark value ∧ k = passed + between.length := by
  have hnext {t : Token} {ts : List Token} {passed : Nat}
      (ht : t.kind = .punct → t.text ∉ [";", "\x7b", "\x7d"])
      (ih : ∃ between mark value, AssignsAt ts between mark value ∧ k = passed + 1 + between.length) :
      ∃ between mark value, AssignsAt (t :: ts) between mark value ∧ k = passed + between.length := by
    obtain ⟨between, mark, value, hassigns, rfl⟩ := ih
    exact ⟨t :: between, mark, value, hassigns.cons ht, by rw [List.length_cons]; omega⟩
  fun_induction declaredAt? last depth passed ts with
  | case1 => cases h
  | case2 => cases h
  | case3 last depth passed t ts hkind _ ih => exact hnext (by simp [hkind]) (ih h)
  | case4 last depth passed t ts hkind hopen ih =>
    refine hnext (fun _ hmem => ?_) (ih h)
    simp only [List.contains_iff_mem, List.mem_cons, List.not_mem_nil, or_false] at hopen hmem
    grind
  | case5 last depth passed t ts hkind _ hclose ih =>
    refine hnext (fun _ hmem => ?_) (ih h)
    simp only [List.contains_iff_mem, List.mem_cons, List.not_mem_nil, or_false] at hclose hmem
    grind
  | case6 last depth passed t ts hkind _ _ hmark =>
    cases h
    refine ⟨[], t, ts, ⟨rfl, ?_, by simp⟩, rfl⟩
    simpa [Token.isPunct, hkind] using hmark.2
  | case7 => cases h
  | case8 last depth passed t ts hkind _ _ _ hfree ih =>
    refine hnext (fun _ hmem => hfree (List.contains_iff_mem.mpr hmem)) (ih h)
  | case9 last depth passed t ts hnewline hpunct ih => exact hnext (fun hkind => absurd hkind hpunct) (ih h)

theorem kind_of_isPunct {t : Token} {mark : String} (h : t.isPunct mark = true) : t.kind = .punct :=
  of_decide_eq_true (Bool.and_eq_true_iff.mp h).1

theorem text_of_isPunct {t : Token} {mark : String} (h : t.isPunct mark = true) : t.text = mark :=
  eq_of_beq (Bool.and_eq_true_iff.mp h).2

theorem assignedAt?_eq_some {w : Walk} {last : Token} {after : List Token} {gap : Nat}
    (h : w.assignedAt? last after = some gap) :
    ∃ between mark value, after = between ++ mark :: value ∧ gap = between.length ∧ mark.kind = .punct ∧
      mark.text ∈ ["=", ":=", "+=", ":"] ∧
      (between ≠ [] → w.declares = true ∧ w.hasFragment = false ∧ AssignsAt after between mark value ∧
        declaredAt? last 0 0 after = some gap) := by
  unfold assignedAt? at h
  split at h
  · cases h
  next next more =>
    split at h
    next hmark =>
      cases h
      have htext : next.text ∈ ["=", ":=", "+="] ++ [":"] :=
        List.mem_append_left _ (List.contains_iff_mem.mp hmark.2.1)
      exact ⟨[], next, more, rfl, rfl, hmark.1, htext, by simp⟩
    next =>
    split at h
    next hdeclares =>
      simp only [Bool.and_eq_true, Bool.not_eq_true'] at hdeclares
      obtain ⟨between, mark, value, hassigns, rfl⟩ := declaredAt?_eq_some h
      rw [Nat.zero_add] at h ⊢
      have htext : mark.text ∈ ["=", ":="] ++ ["+=", ":"] := by
        refine List.mem_append_left _ ?_
        obtain hmark | hmark := hassigns.mark
        · simp [text_of_isPunct hmark]
        · simp [text_of_isPunct hmark]
      exact ⟨between, mark, value, hassigns.tokens, rfl, hassigns.mark.elim kind_of_isPunct kind_of_isPunct,
        htext, fun _ => ⟨hdeclares.1.1, hdeclares.1.2, hassigns, h⟩⟩
    next =>
    split at h
    next hkey =>
      cases h
      have hcolon := (Bool.and_eq_true_iff.mp (Bool.and_eq_true_iff.mp hkey).1).1
      exact ⟨[], next, more, rfl, rfl, kind_of_isPunct hcolon, by simp [text_of_isPunct hcolon], by simp⟩
    next => cases h

/-! ### Calls -/

/-- What a call notes for the chain it may begin or carry on: the index of its closing bracket and the callee
at the root. -/
def rootOfCall (w : Walk) (path : Expr.DottedPath) (isMacro : Bool) (bracket : List Token) :
    List (Nat × String) :=
  if Expr.maxNesting ≤ w.stack.length then []
  else
    ((Expr.readArgs w.stack.length bracket).2.map fun k =>
      (w.index + path.length + Expr.callGap isMacro + k,
        w.chainRoot?.getD (Expr.calleeText path.text isMacro))).toList

def calling (w : Walk) (path : Expr.DottedPath) (isMacro : Bool) (bracket : List Token) : Walk :=
  { w with roots := w.rootOfCall path isMacro bracket ++ w.roots, begun := true, hasFragment := true }

theorem eq_of_mem_rootOfCall {w : Walk} {path : Expr.DottedPath} {isMacro : Bool} {bracket : List Token}
    {e : Nat × String} (h : e ∈ w.rootOfCall path isMacro bracket) :
    ∃ k, (Expr.readArgs w.stack.length bracket).2 = some k ∧
      e = (w.index + path.length + Expr.callGap isMacro + k,
        w.chainRoot?.getD (Expr.calleeText path.text isMacro)) := by
  unfold rootOfCall at h
  split at h
  next => cases h
  next =>
    obtain ⟨k, hk, he⟩ := Option.map_eq_some_iff.mp (Option.mem_toList.mp h)
    exact ⟨k, hk, he.symm⟩

section

variable (w : Walk) (t : Token) (path : Expr.DottedPath) (isMacro : Bool) (bracket : List Token)

theorem walk_onCall : (w.onCall t path isMacro bracket).walk = w.calling path isMacro bracket := by
  unfold onCall calling rootOfCall
  dsimp only
  split
  next => rfl
  next =>
    cases (Expr.readArgs w.stack.length bracket).2 with
    | none => rfl
    | some k => rfl

theorem more_onCall : (w.onCall t path isMacro bracket).more = path.length - 1 := by
  unfold onCall
  dsimp only
  split <;> rfl

theorem exists_found_onCall :
    ∃ f, (w.onCall t path isMacro bracket).found = some f ∧ f.kind = .call ∧
      f.text = Expr.calleeText path.text isMacro ∧ f.chain = w.chainRoot? ∧
      f.span.start = t.span.start := by
  unfold onCall
  dsimp only
  split <;> exact ⟨_, rfl, rfl, rfl, rfl, rfl⟩

end

end Walk
end SourceAudit
