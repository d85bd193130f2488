import SourceAudit.Proofs.Brackets

/-! Token lists that differ only in line breaks. A line break may be left out when the token before it is
not read together with the tokens behind it; every look ahead from a token then finds the same. -/
namespace SourceAudit.Expr

def significant (ts : List Token) : List Token := ts.filter (!·.isNewline)

theorem significant_append (ts us : List Token) :
    significant (ts ++ us) = significant ts ++ significant us := List.filter_append ..

theorem significant_of_isNewline {t : Token} (h : t.isNewline = true) (ts : List Token) :
    significant (t :: ts) = significant ts := List.filter_cons_of_neg (by simp [h])

theorem significant_of_not_isNewline {t : Token} (h : t.isNewline = false) (ts : List Token) :
    significant (t :: ts) = t :: significant ts := List.filter_cons_of_pos (by simp [h])

def isSuffixMark (t : Token) : Bool := t.isPunct "?" || t.isPunct "["

def startsLink (isCall : Bool) : List Token → Bool
  | mark :: name :: after =>
    isLinkMark mark && name.isIdent && (isCall || (callOpen? name.span.stop after).isSome)
  | _ => false

/-- The token `p` is read together with the tokens right behind it. -/
def carriesOn (p : Token) (after : List Token) : Bool :=
  match p.kind with
  | .ident =>
    (Vocabulary.pathWords.contains p.text && after.head?.any isPathMark) || !(segments after).isEmpty ||
      (callOpen? p.span.stop after).isSome || after.head?.any isSuffixMark
  | .literal _ => startsLink false after
  | .punct =>
    if p.isClose || p.isPunct "?" then startsLink true after || after.head?.any isSuffixMark
    else
      (isPathMark p && after.head?.any Token.isIdent) ||
        (p.isPunct "." && after.head?.any Token.isLiteral) ||
        (p.isPunct "!" && after.head?.any Token.isOpen)
  | _ => false

/-- `us` is `ts` with some line breaks left out, none of which parts tokens that are read together. `p`
is the last token before that is no line break. -/
inductive Thins : Option Token → List Token → List Token → Prop where
  | nil {p : Option Token} : Thins p [] []
  | keep {p : Option Token} {t : Token} {ts us : List Token} :
      Thins (lastSignificant p [t]) ts us → Thins p (t :: ts) (t :: us)
  | leave {p : Option Token} {t : Token} {ts us : List Token} : t.isNewline = true →
      p.any (carriesOn · (significant ts)) = false → Thins p ts us → Thins p (t :: ts) us

theorem lastSignificant_cons (p : Option Token) (t : Token) (ts : List Token) :
    lastSignificant p (t :: ts) = lastSignificant (lastSignificant p [t]) ts := rfl

theorem lastSignificant_of_isNewline {t : Token} (h : t.isNewline = true) (p : Option Token) :
    lastSignificant p [t] = p := by
  simp [lastSignificant, h]

theorem lastSignificant_of_not_isNewline {t : Token} (h : t.isNewline = false) (p : Option Token) :
    lastSignificant p [t] = some t := by
  simp [lastSignificant, h]

theorem lastSignificant_cons_of_not_isNewline {t : Token} (h : t.isNewline = false) (p : Option Token)
    (ts : List Token) : lastSignificant p (t :: ts) = lastSignificant (some t) ts := by
  rw [lastSignificant_cons, lastSignificant_of_not_isNewline h]

theorem lastSignificant_significant (p : Option Token) (ts : List Token) :
    lastSignificant p (significant ts) = lastSignificant p ts := by
  induction ts generalizing p with
  | nil => rfl
  | cons t ts ih =>
    cases h : t.isNewline with
    | true => rw [significant_of_isNewline h, ih, lastSignificant_cons, lastSignificant_of_isNewline h]
    | false => rw [significant_of_not_isNewline h, lastSignificant_cons, ih, ← lastSignificant_cons]

namespace Thins

variable {p : Option Token} {t : Token} {ts us : List Token}

theorem eq_nil (h : Thins p [] us) : us = [] := by
  cases h
  rfl

theorem refl (p : Option Token) (ts : List Token) : Thins p ts ts := by
  induction ts generalizing p with
  | nil => exact .nil
  | cons t ts ih => exact .keep (ih _)

theorem significant_eq (h : Thins p ts us) : significant us = significant ts := by
  induction h with
  | nil => rfl
  | @keep _ t ts us _ ih =>
    rw [← List.singleton_append, significant_append, ih, ← significant_append, List.singleton_append]
  | leave hnl _ _ ih => rw [ih, significant_of_isNewline hnl]

theorem cons_inv (h : Thins p (t :: ts) us) (ht : t.isNewline = false) :
    ∃ us', us = t :: us' ∧ Thins (some t) ts us' := by
  cases h with
  | keep h => exact ⟨_, rfl, lastSignificant_of_not_isNewline ht p ▸ h⟩
  | leave hnl _ _ =>
    rw [ht] at hnl
    cases hnl

end Thins

/-- After `m` tokens of `ts` and `n` of `us` the same tokens were passed, line breaks apart, and the
tokens left over are thinned out likewise. -/
structure Meets (p : Option Token) (ts us : List Token) (m n : Nat) : Prop where
  le_length : m ≤ ts.length
  le_length' : n ≤ us.length
  taken : significant (us.take n) = significant (ts.take m)
  left : Thins (lastSignificant p (ts.take m)) (ts.drop m) (us.drop n)

namespace Meets

variable {p : Option Token} {t : Token} {ts us : List Token} {m n : Nat}

theorem zero (h : Thins p ts us) : Meets p ts us 0 0 := ⟨Nat.zero_le _, Nat.zero_le _, rfl, h⟩

theorem keep (h : Meets (lastSignificant p [t]) ts us m n) : Meets p (t :: ts) (t :: us) (m + 1) (n + 1) := by
  refine ⟨Nat.succ_le_succ h.le_length, Nat.succ_le_succ h.le_length', ?_, h.left⟩
  rw [List.take_succ_cons, List.take_succ_cons, ← List.singleton_append, significant_append, h.taken,
    ← significant_append, List.singleton_append]

theorem cons (ht : t.isNewline = false) (h : Meets (some t) ts us m n) :
    Meets p (t :: ts) (t :: us) (m + 1) (n + 1) :=
  keep (lastSignificant_of_not_isNewline ht p ▸ h)

theorem leave (ht : t.isNewline = true) (h : Meets p ts us m n) : Meets p (t :: ts) us (m + 1) n := by
  refine ⟨Nat.succ_le_succ h.le_length, h.le_length', ?_, ?_⟩
  · rw [h.taken, List.take_succ_cons, significant_of_isNewline ht]
  · rw [List.take_succ_cons, lastSignificant_cons, lastSignificant_of_isNewline ht]
    exact h.left

theorem add {m' n' : Nat} (h : Meets p ts us m n)
    (h' : Meets (lastSignificant p (ts.take m)) (ts.drop m) (us.drop n) m' n') :
    Meets p ts us (m + m') (n + n') := by
  have hle := h'.le_length
  have hle' := h'.le_length'
  rw [List.length_drop] at hle hle'
  have htake : ts.take (m + m') = ts.take m ++ (ts.drop m).take m' := List.take_add
  have htake' : us.take (n + n') = us.take n ++ (us.drop n).take n' := List.take_add
  refine ⟨by have := h.le_length; omega, by have := h.le_length'; omega, ?_, ?_⟩
  · rw [htake, htake', significant_append, significant_append, h.taken, h'.taken]
  · rw [htake, lastSignificant_append, ← List.drop_drop, ← List.drop_drop]
    exact h'.left

theorem succ {c : Token} {left : List Token} (h : Meets p ts us m n) (hdrop : ts.drop m = c :: left)
    (hc : c.isNewline = false) : Meets p ts us (m + 1) (n + 1) := by
  have hleft := h.left
  rw [hdrop] at hleft
  obtain ⟨left', hdrop', hthins⟩ := hleft.cons_inv hc
  apply h.add
  rw [hdrop, hdrop']
  apply keep
  apply zero
  rwa [lastSignificant_of_not_isNewline hc]

theorem eq_zero_iff (ht : t.isNewline = false) (h : Meets p (t :: ts) (t :: us) m n) :
    m = 0 ↔ n = 0 := by
  have htaken := h.taken
  cases m with
  | zero =>
    cases n with
    | zero => simp
    | succ n => simp [significant, ht] at htaken
  | succ m =>
    cases n with
    | zero => simp [significant, ht] at htaken
    | succ n => simp

theorem max_one (ht : t.isNewline = false) (h : Meets p (t :: ts) (t :: us) m n) :
    Meets p (t :: ts) (t :: us) (max m 1) (max n 1) := by
  have hiff := h.eq_zero_iff ht
  by_cases hm : m = 0
  · obtain rfl := hiff.mp hm
    subst hm
    exact h.succ rfl ht
  · rwa [Nat.max_eq_left (by omega), Nat.max_eq_left (by omega)]

end Meets

/-! ### Looking ahead -/

section Ahead

variable {k : Token} (hk : k.isClose = true) (rest rest' : List Token)

theorem any_head?_significant {f : Token → Bool} (hnl : ∀ t, t.isNewline = true → f t = false)
    (hfk : f k = false) {ts : List Token} (h : (ts ++ k :: rest).head?.any f = true) :
    (significant ts).head?.any f = true := by
  cases ts with
  | nil => simp [hfk] at h
  | cons t ts =>
    cases ht : t.isNewline with
    | true => simp [hnl t ht] at h
    | false =>
      rw [significant_of_not_isNewline ht]
      exact h

/-- What the next token is matters to both alike, when it matters to what `p` carries on with. -/
theorem any_head?_thins {f : Token → Bool} (hnl : ∀ t, t.isNewline = true → f t = false)
    (hfk : f k = false) {p : Token} (hp : ∀ after, carriesOn p after = false → after.head?.any f = false)
    {ts us : List Token} (h : Thins (some p) ts us) :
    (ts ++ k :: rest).head?.any f = (us ++ k :: rest').head?.any f := by
  cases h with
  | nil => simp
  | keep h => simp
  | leave ht hloose h =>
    rw [List.cons_append, List.head?_cons, Option.any_some, hnl _ ht]
    by_contra hus
    have hnext := any_head?_significant rest' hnl hfk (Bool.of_not_eq_false (Ne.symm hus))
    rw [h.significant_eq, hp _ hloose] at hnext
    cases hnext

theorem of_carriesOn_ident {p : Token} {after : List Token} (hp : p.kind = .ident)
    (h : carriesOn p after = false) :
    (Vocabulary.pathWords.contains p.text = true → after.head?.any isPathMark = false) ∧
      segments after = [] ∧ callOpen? p.span.stop after = none ∧
      after.head?.any isSuffixMark = false := by
  simp only [carriesOn, hp, Bool.or_eq_false_iff, Bool.and_eq_false_iff, Bool.not_eq_false',
    List.isEmpty_iff, Option.isSome_eq_false_iff, Option.isNone_iff_eq_none] at h
  obtain ⟨⟨⟨hword, hsegments⟩, hcall⟩, hmark⟩ := h
  refine ⟨fun hcontains => ?_, hsegments, hcall, hmark⟩
  rw [hcontains] at hword
  simpa using hword

theorem of_carriesOn_mark {p : Token} (hp : isPathMark p = true ∨ p.isPunct "!" = true)
    {after : List Token} (h : carriesOn p after = false) :
    (isPathMark p = true → after.head?.any Token.isIdent = false) ∧
      (p.isPunct "." = true → after.head?.any Token.isLiteral = false) ∧
      (p.isPunct "!" = true → after.head?.any Token.isOpen = false) := by
  have hkind : p.kind = .punct := by
    simp only [isPathMark, Token.isPunct, Bool.or_eq_true, Bool.and_eq_true, decide_eq_true_eq] at hp
    grind
  have hsuffix : (p.isClose || p.isPunct "?") = false := by
    simp only [isPathMark, Token.isPunct, Bool.or_eq_true, Bool.and_eq_true, beq_iff_eq] at hp
    simp only [Token.isClose, Token.isPunct]
    grind
  simp only [carriesOn, hkind, hsuffix, Bool.false_eq_true, if_false, Bool.or_eq_false_iff,
    Bool.and_eq_false_iff] at h
  obtain ⟨⟨hname, hliteral⟩, hopen⟩ := h
  refine ⟨fun hpath => ?_, fun hdot => ?_, fun hbang => ?_⟩
  · simpa [hpath] using hname
  · simpa [hdot] using hliteral
  · simpa [hbang] using hopen

theorem isPunct_of_isNewline {t : Token} (h : t.isNewline = true) (mark : String) :
    t.isPunct mark = false := by
  simp only [Token.isNewline, decide_eq_true_eq] at h
  simp [Token.isPunct, h]

theorem isOpen_of_isNewline {t : Token} (h : t.isNewline = true) : t.isOpen = false := by
  simp [Token.isOpen, isPunct_of_isNewline h]

theorem isIdent_of_isNewline {t : Token} (h : t.isNewline = true) : t.isIdent = false := by
  simp only [Token.isNewline, decide_eq_true_eq] at h
  simp [Token.isIdent, h]

theorem isNewline_of_isPunct {t : Token} {mark : String} (h : t.isPunct mark = true) :
    t.isNewline = false := by
  by_contra hnl
  rw [isPunct_of_isNewline (Bool.of_not_eq_false hnl)] at h
  cases h

include hk in
theorem callOpen?_of_significant {nameEnd : Nat} {ts : List Token}
    (h : callOpen? nameEnd (significant ts) = none) : callOpen? nameEnd (ts ++ k :: rest) = none := by
  cases ts with
  | nil => exact callOpen?_close hk nameEnd rest
  | cons t ts =>
    rw [List.cons_append, callOpen?]
    cases ht : t.isNewline with
    | true => simp [isPunct_of_isNewline ht]
    | false =>
      rw [significant_of_not_isNewline ht, callOpen?] at h
      split at h
      · cases h
      · next hparen =>
        split at h
        · cases h
        · next hmacro =>
          rw [if_neg hparen, if_neg]
          intro hopen
          apply hmacro
          simp only [Bool.and_eq_true] at hopen ⊢
          refine ⟨⟨hopen.1.1, ?_⟩, hopen.2⟩
          exact any_head?_significant rest (fun _ => isOpen_of_isNewline)
            (Token.isOpen_eq_false_of_isClose hk) hopen.1.2

include hk in
theorem callOpen?_thins {name : Token} (hname : name.kind = .ident) {ts us : List Token}
    (h : Thins (some name) ts us) :
    callOpen? name.span.stop (ts ++ k :: rest) = callOpen? name.span.stop (us ++ k :: rest') := by
  cases h with
  | nil => rw [List.nil_append, List.nil_append, callOpen?_close hk, callOpen?_close hk]
  | @keep _ t ts us h =>
    rw [List.cons_append, List.cons_append, callOpen?, callOpen?]
    by_cases hbang : t.isPunct "!" = true
    · rw [lastSignificant_of_not_isNewline (isNewline_of_isPunct hbang)] at h
      rw [any_head?_thins rest rest' (fun _ => isOpen_of_isNewline) (Token.isOpen_eq_false_of_isClose hk)
        (fun _ hafter => (of_carriesOn_mark (.inr hbang) hafter).2.2 hbang) h]
    · simp [hbang]
  | leave ht hloose h =>
    have hnone := (of_carriesOn_ident hname hloose).2.2.1
    rw [← h.significant_eq] at hnone
    rw [callOpen?_of_significant hk rest' hnone, List.cons_append, callOpen?]
    simp [isPunct_of_isNewline ht]

theorem isLiteral_of_isNewline {t : Token} (h : t.isNewline = true) : t.isLiteral = false := by
  simp only [Token.isNewline, decide_eq_true_eq] at h
  simp [Token.isLiteral, h]

include hk in
theorem startsPath_thins {t : Token} (ht : t.kind = .ident) {ts us : List Token}
    (h : Thins (some t) ts us) :
    startsPath t (ts ++ k :: rest) = startsPath t (us ++ k :: rest') := by
  rw [startsPath, startsPath]
  cases hword : Vocabulary.pathWords.contains t.text with
  | false => rfl
  | true =>
    congr 2
    apply any_head?_thins rest rest' _ _ _ h
    · intro u hu
      simp [isPunct_of_isNewline hu]
    · simp [isPunct_of_isClose hk]
    · intro after hafter
      have hmark := (of_carriesOn_ident ht hafter).1 hword
      cases after with
      | nil => rfl
      | cons u after =>
        simp only [List.head?_cons, Option.any_some, isPathMark, Bool.or_eq_false_iff] at hmark ⊢
        exact ⟨hmark.1.1, hmark.2⟩

include hk in
theorem mark_thins (d : Draft) (place : Place) {t : Token} (ht : t.kind = .punct) {ts us : List Token}
    (h : Thins (some t) ts us) :
    d.mark place t (ts ++ k :: rest) = d.mark place t (us ++ k :: rest') := by
  by_cases hdot : t.text = "."
  · have hmark : t.isPunct "." = true := by simp [Token.isPunct, ht, hdot]
    have hk' : k.isLiteral = false := by simp [Token.isLiteral, kind_of_isClose hk]
    unfold Draft.mark
    rw [any_head?_thins rest rest' (fun _ => isLiteral_of_isNewline) hk'
      (fun _ hafter => (of_carriesOn_mark (.inl (by simp [isPathMark, hmark])) hafter).2.1 hmark) h]
  · unfold Draft.mark
    simp [hdot]

include hk in
theorem segments_of_significant {ts : List Token} (h : segments (significant ts) = []) :
    segments (ts ++ k :: rest) = [] := by
  have hident : k.isIdent = false := by simp [Token.isIdent, kind_of_isClose hk]
  obtain _ | ⟨mark, _ | ⟨name, ts⟩⟩ := ts
  · exact segments_close hk rest
  · simp [segments, hident]
  · rw [List.cons_append, List.cons_append, segments, if_neg]
    intro hsegment
    simp only [isPathMark, Bool.and_eq_true, Bool.or_eq_true] at hsegment
    have hmark : mark.isNewline = false := by
      obtain ((h | h) | h) | h := hsegment.1 <;> exact isNewline_of_isPunct h
    have hname : name.isNewline = false := by
      by_contra hnl
      rw [isIdent_of_isNewline (Bool.of_not_eq_false hnl)] at hsegment
      cases hsegment.2
    rw [significant_of_not_isNewline hmark, significant_of_not_isNewline hname, segments, if_pos] at h
    · cases h
    · simp [isPathMark, hsegment]

theorem segments_eq_nil {mark : Token} {ts : List Token}
    (h : (isPathMark mark && ts.head?.any Token.isIdent) = false) : segments (mark :: ts) = [] := by
  cases ts with
  | nil => simp [segments]
  | cons name ts =>
    rw [segments, if_neg]
    simpa using h

end Ahead

theorem segments_thins {k : Token} (hk : k.isClose = true) (rest rest' : List Token) {t : Token}
    (ht : t.kind = .ident) {ts us : List Token} (h : Thins (some t) ts us) :
    ∃ more, segments (ts ++ k :: rest) = more ∧ segments (us ++ k :: rest') = more ∧
      Meets (some t) ts us (2 * more.length) (2 * more.length) ∧
      lastSignificant (some t) (ts.take (2 * more.length)) = some (DottedPath.mk t more).last ∧
      (DottedPath.mk t more).last.kind = .ident := by
  have hident : k.isIdent = false := by simp [Token.isIdent, kind_of_isClose hk]
  induction hlen : ts.length using Nat.strongRecOn generalizing t ts us with
  | ind len ih =>
    subst hlen
    have hzero := Meets.zero h
    cases h with
    | nil => exact ⟨[], segments_close hk rest, segments_close hk rest', hzero, rfl, ht⟩
    | leave hnl hloose h =>
      refine ⟨[], segments_eq_nil ?_, segments_of_significant hk rest' ?_, hzero, rfl, ht⟩
      · simp [isPathMark, isPunct_of_isNewline hnl]
      · rw [h.significant_eq]
        exact (of_carriesOn_ident ht hloose).2.1
    | @keep _ mark ts us h =>
      by_cases hpath : isPathMark mark = true
      · have hmark : mark.isNewline = false := by
          simp only [isPathMark, Bool.or_eq_true] at hpath
          obtain ((h | h) | h) | h := hpath <;> exact isNewline_of_isPunct h
        rw [lastSignificant_of_not_isNewline hmark] at h
        have hnext : (ts ++ k :: rest).head?.any Token.isIdent =
            (us ++ k :: rest').head?.any Token.isIdent :=
          any_head?_thins rest rest' (fun _ => isIdent_of_isNewline) hident
            (fun _ hafter => (of_carriesOn_mark (.inl hpath) hafter).1 hpath) h
        cases hname : (ts ++ k :: rest).head?.any Token.isIdent with
        | false =>
          have hts : segments (mark :: (ts ++ k :: rest)) = [] :=
            segments_eq_nil (by rw [hname, Bool.and_false])
          have hus : segments (mark :: (us ++ k :: rest')) = [] :=
            segments_eq_nil (by rw [← hnext, hname, Bool.and_false])
          exact ⟨[], hts, hus, hzero, rfl, ht⟩
        | true =>
          cases ts with
          | nil => simp [hident] at hname
          | cons name ts =>
            have hkind : name.kind = .ident := by simpa [Token.isIdent] using hname
            have hnl : name.isNewline = false := by simp [Token.isNewline, hkind]
            obtain ⟨us, rfl, hthins⟩ := h.cons_inv hnl
            obtain ⟨more, hts, hus, hmeets, hlast, hlastKind⟩ := ih ts.length
              (by simp only [List.length_cons]; omega) hkind hthins rfl
            have hsegment : (isPathMark mark && name.isIdent) = true := by
              simp [hpath, Token.isIdent, hkind]
            have hends : (DottedPath.mk t (name :: more)).last = (DottedPath.mk name more).last :=
              List.getLastD_cons ..
            refine ⟨name :: more, ?_, ?_, ?_, ?_, ?_⟩
            · rw [List.cons_append, List.cons_append, segments, if_pos hsegment, hts]
            · rw [List.cons_append, List.cons_append, segments, if_pos hsegment, hus]
            · apply Meets.keep
              apply Meets.keep
              rwa [lastSignificant_of_not_isNewline hnl]
            · rw [hends, ← hlast, ← lastSignificant_cons_of_not_isNewline hnl (some mark),
                ← lastSignificant_cons_of_not_isNewline hmark (some t)]
              rfl
            · rwa [hends]
      · refine ⟨[], segments_eq_nil ?_, segments_eq_nil ?_, hzero, rfl, ht⟩ <;> simp [hpath]

/-! ### Closers -/

theorem groupEnd_thins {k : Token} (hk : k.isClose = true) (rest rest' : List Token) {p : Option Token}
    {ts us : List Token} (h : Thins p ts us) (depth m : Nat)
    (hend : groupEnd depth 0 (ts ++ k :: rest) = some m) (hm : m ≤ ts.length) :
    ∃ n, groupEnd depth 0 (us ++ k :: rest') = some n ∧ Meets p ts us m n := by
  induction h generalizing depth m with
  | @nil p =>
    have hzero : m = 0 := Nat.le_zero.mp hm
    subst hzero
    rw [List.nil_append, groupEnd, if_neg (by simp [Token.isOpen_eq_false_of_isClose hk]), if_pos hk] at hend ⊢
    split at hend
    next hdepth => exact ⟨0, if_pos hdepth, .zero .nil⟩
    next =>
      rw [groupEnd_eq_map] at hend
      obtain ⟨j, -, hj⟩ := Option.map_eq_some_iff.mp hend
      omega
  | @keep p t ts us h ih =>
    have hnext {depth : Nat} (hend : groupEnd depth (0 + 1) (ts ++ k :: rest) = some m) :
        ∃ n, groupEnd depth (0 + 1) (us ++ k :: rest') = some n ∧ Meets p (t :: ts) (t :: us) m n := by
      rw [groupEnd_eq_map] at hend
      obtain ⟨j, hj, rfl⟩ := Option.map_eq_some_iff.mp hend
      rw [List.length_cons] at hm
      obtain ⟨n, hn, hmeets⟩ := ih depth j hj (by omega)
      rw [groupEnd_eq_map, hn, Nat.zero_add, Nat.add_comm 1 j]
      exact ⟨1 + n, rfl, Nat.add_comm 1 n ▸ hmeets.keep⟩
    rw [List.cons_append, groupEnd] at hend ⊢
    split at hend
    next hopen =>
      rw [if_pos hopen]
      exact hnext hend
    next hopen =>
      rw [if_neg hopen]
      split at hend
      next hclose =>
        rw [if_pos hclose]
        split at hend
        next hdepth =>
          cases hend
          exact ⟨0, if_pos hdepth, .zero (.keep h)⟩
        next hdepth =>
          rw [if_neg hdepth]
          exact hnext hend
      next hclose =>
        rw [if_neg hclose]
        exact hnext hend
  | @leave p t ts us hnl _ _ ih =>
    have hclose : t.isClose = false := by simp [Token.isClose, isPunct_of_isNewline hnl]
    rw [List.cons_append, groupEnd, if_neg (by simp [isOpen_of_isNewline hnl]), if_neg (by simp [hclose]),
      groupEnd_eq_map] at hend
    obtain ⟨j, hj, rfl⟩ := Option.map_eq_some_iff.mp hend
    rw [List.length_cons] at hm
    obtain ⟨n, hn, hmeets⟩ := ih depth j hj (by omega)
    rw [Nat.zero_add, Nat.add_comm 1 j]
    exact ⟨n, hn, hmeets.leave hnl⟩

theorem close_of_groupEnd {depth m : Nat} {ts : List Token} (h : groupEnd depth 0 ts = some m) :
    ∃ c left, ts.drop m = c :: left ∧ c.isClose = true := by
  induction ts generalizing depth m with
  | nil => cases h
  | cons t ts ih =>
    have hnext {depth : Nat} (h : groupEnd depth (0 + 1) ts = some m) :
        ∃ c left, (t :: ts).drop m = c :: left ∧ c.isClose = true := by
      rw [groupEnd_eq_map] at h
      obtain ⟨j, hj, rfl⟩ := Option.map_eq_some_iff.mp h
      rw [Nat.zero_add, Nat.add_comm 1 j]
      exact ih hj
    rw [groupEnd] at h
    split at h
    · exact hnext h
    · split at h
      next hclose =>
        split at h
        · cases h
          exact ⟨t, ts, rfl, hclose⟩
        · exact hnext h
      next => exact hnext h

theorem drop_pred_eq (t : Token) (ts : List Token) (m : Nat) :
    ts.drop (m - 1) = (t :: ts).drop (max m 1) := by
  obtain ⟨j, hj⟩ : ∃ j, max m 1 = j + 1 := ⟨max m 1 - 1, by omega⟩
  rw [hj, List.drop_succ_cons]
  congr 1
  omega

theorem close_of_readItems {room : Nat} {closer : String} {done : List Expr} {m : Nat}
    {ts : List Token} (h : (readItems room closer done 0 ts).2 = some m) :
    ∃ c left, ts.drop m = c :: left ∧ c.isPunct closer = true := by
  induction hlen : ts.length using Nat.strongRecOn generalizing done m ts with
  | ind len ih =>
    subst hlen
    have hnext {done : List Expr} {n : Nat} (hn : 0 < n) (hts : 0 < ts.length)
        (h : (readItems room closer done (0 + n) (ts.drop n)).2 = some m) :
        ∃ c left, ts.drop m = c :: left ∧ c.isPunct closer = true := by
      rw [readItems_eq_map] at h
      obtain ⟨j, hj, rfl⟩ := Option.map_eq_some_iff.mp h
      obtain ⟨c, left, hdrop, hc⟩ := ih (ts.drop n).length (by rw [List.length_drop]; omega) hj rfl
      rw [List.drop_drop] at hdrop
      exact ⟨c, left, by rwa [Nat.zero_add], hc⟩
    cases ts with
    | nil =>
      rw [readItems] at h
      cases h
    | cons t rest =>
      have hpos : 0 < (t :: rest).length := Nat.succ_pos _
      rw [readItems] at h
      split at h
      next hclose =>
        cases h
        exact ⟨t, rest, rfl, hclose⟩
      next =>
        split at h
        · exact hnext (Nat.one_pos) hpos h
        · dsimp only at h
          split at h
          · cases h
          · rw [drop_pred_eq t] at h
            exact hnext (by omega) hpos h

theorem close_of_readGroup {room : Nat} {o : Token} (hopen : o.isOpen = true) {m : Nat} {ts : List Token}
    (h : (readGroup room (o :: ts)).2 = some m) :
    ∃ j c left, m = j + 1 ∧ ts.drop j = c :: left ∧ c.isClose = true := by
  cases room with
  | zero =>
    rw [readGroup] at h
    · rw [groupEnd, if_pos hopen, groupEnd_eq_map] at h
      obtain ⟨j, hj, rfl⟩ := Option.map_eq_some_iff.mp h
      obtain ⟨c, left, hdrop, hc⟩ := close_of_groupEnd hj
      exact ⟨j, c, left, by omega, hdrop, hc⟩
    · exact List.cons_ne_nil _ _
  | succ room =>
    rw [readGroup, readItems_eq_map] at h
    obtain ⟨j, hj, rfl⟩ := Option.map_eq_some_iff.mp h
    obtain ⟨c, left, hdrop, hc⟩ := close_of_readItems hj
    exact ⟨j, c, left, by omega, hdrop, Token.isClose_of_closes hc⟩

theorem isNewline_of_isOpen {o : Token} (ho : o.isOpen = true) : o.isNewline = false := by
  by_contra hnl
  rw [isOpen_of_isNewline (Bool.of_not_eq_false hnl)] at ho
  cases ho

theorem isNewline_of_isClose {c : Token} (hc : c.isClose = true) : c.isNewline = false := by
  simp [Token.isNewline, kind_of_isClose hc]

theorem Meets.past_close {p : Option Token} {ts us after left : List Token} {m n : Nat} {c : Token}
    (h : Meets p ts us m n) (hm : m + 1 ≤ ts.length) (hdrop : (ts ++ after).drop m = c :: left)
    (hc : c.isClose = true) :
    Meets p ts us (m + 1) (n + 1) ∧ lastSignificant p (ts.take (m + 1)) = some c := by
  have hnl := isNewline_of_isClose hc
  have hget : ts.drop m = c :: ts.drop (m + 1) := by
    rw [List.drop_append_of_le_length (by omega), List.drop_eq_getElem_cons hm, List.cons_append,
      List.cons.injEq] at hdrop
    rw [List.drop_eq_getElem_cons hm, hdrop.1]
  have htake : ts.take (m + 1) = ts.take m ++ [c] := by
    rw [List.take_add, hget]
    rfl
  rw [htake, lastSignificant_append, lastSignificant_of_not_isNewline hnl]
  exact ⟨h.succ hget hnl, rfl⟩

theorem Meets.past_bracket {p : Option Token} {o : Token} {ts us inside inside' : List Token} {gap m n : Nat}
    (hgap : Meets p ts us gap gap) (hopen : o.isOpen = true) (hts : ts.drop gap = o :: inside)
    (hus : us.drop gap = o :: inside') (h : Meets (some o) inside inside' m n) :
    Meets p ts us (gap + (m + 1)) (gap + (n + 1)) ∧
      lastSignificant p (ts.take (gap + (m + 1))) = lastSignificant (some o) (inside.take m) := by
  have hnl := isNewline_of_isOpen hopen
  constructor
  · apply hgap.add
    rw [hts, hus]
    exact .cons hnl h
  · rw [List.take_add, hts, List.take_succ_cons, lastSignificant_append,
      lastSignificant_cons_of_not_isNewline hnl]

end SourceAudit.Expr
