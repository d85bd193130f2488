import SourceAudit.Proofs.Thinning

/-! Reading inside a bracket looks no further than the closer. Two readings are followed side by side: of a
list, and of the list with some line breaks left out and with anything behind the closer. -/
namespace SourceAudit.Expr

/-- Brackets among fewer than `size` tokens are read alike, up to the last closing bracket. -/
def GroupsAgree (size : Nat) : Prop :=
  ∀ (room : Nat) (o k : Token) (ts us rest rest' : List Token) (args : List Expr) (m : Nat),
    o.isOpen = true → k.isClose = true → Thins (some o) ts us → ts.length < size →
    readGroup room (o :: (ts ++ k :: rest)) = (args, some (m + 1)) → m ≤ ts.length →
    ∃ n, readGroup room (o :: (us ++ k :: rest')) = (args, some (n + 1)) ∧ Meets (some o) ts us m n

section Inside

variable {size : Nat} (hgroups : GroupsAgree size) {k : Token} (hk : k.isClose = true)
  (rest rest' : List Token) {ts us : List Token}

include hgroups hk in
theorem readGroup_past {room : Nat} {o : Token} (hopen : o.isOpen = true) (h : Thins (some o) ts us)
    (hsize : ts.length < size) {args : List Expr} {m : Nat}
    (hread : readGroup room (o :: (ts ++ k :: rest)) = (args, some m)) (hm : m ≤ ts.length) :
    ∃ n c, readGroup room (o :: (us ++ k :: rest')) = (args, some n) ∧ Meets (some o) ts us m n ∧
      lastSignificant (some o) (ts.take m) = some c ∧ c.isClose = true := by
  obtain ⟨j, c, left, rfl, hdrop, hc⟩ := close_of_readGroup hopen (congrArg Prod.snd hread)
  obtain ⟨n, hread', hmeets⟩ := hgroups room o k ts us rest rest' args j hopen hk h hsize hread (by omega)
  obtain ⟨hpast, hlast⟩ := hmeets.past_close hm hdrop hc
  exact ⟨n + 1, c, hread', hpast, hlast, hc⟩

include hk in
theorem groupEnd_past {o : Token} (hopen : o.isOpen = true) (h : Thins (some o) ts us) {m : Nat}
    (hend : groupEnd 0 0 (o :: (ts ++ k :: rest)) = some m) (hm : m ≤ ts.length) :
    ∃ n c, groupEnd 0 0 (o :: (us ++ k :: rest')) = some n ∧ Meets (some o) ts us m n ∧
      lastSignificant (some o) (ts.take m) = some c ∧ c.isClose = true := by
  rw [groupEnd, if_pos hopen, groupEnd_eq_map] at hend
  obtain ⟨j, hj, rfl⟩ := Option.map_eq_some_iff.mp hend
  obtain ⟨c, left, hdrop, hc⟩ := close_of_groupEnd hj
  obtain ⟨n, hn, hmeets⟩ := groupEnd_thins hk rest rest' h _ j hj (by omega)
  obtain ⟨hpast, hlast⟩ := hmeets.past_close (by omega) hdrop hc
  refine ⟨n + 1, c, ?_, ?_, ?_, hc⟩
  · rw [groupEnd, if_pos hopen, groupEnd_eq_map, hn, Option.map_some, Nat.zero_add, Nat.add_comm]
  · rwa [Nat.zero_add, Nat.add_comm 1 j]
  · rwa [Nat.zero_add, Nat.add_comm 1 j]

def CanLink (p : Token) (op : Operand) : Prop :=
  p.kind = .ident ∨ p.isClose = true ∨ p.isPunct "?" = true ∨ (p.isLiteral = true ∧ op.isLiteral = true)

theorem startsLink_of_loose {p : Token} {op : Operand} (hp : CanLink p op) {after : List Token}
    (h : carriesOn p after = false) :
    startsLink op.isCall after = false ∧ (op.isLiteral = false → after.head?.any isSuffixMark = false) := by
  have hmono (isCall : Bool) (h : startsLink true after = false) : startsLink isCall after = false := by
    cases isCall with
    | true => exact h
    | false =>
      unfold startsLink at h ⊢
      split
      · simp_all
      · rfl
  obtain hident | hclose | hask | ⟨hliteral, hop⟩ := hp
  · obtain ⟨-, hsegments, -, hmark⟩ := of_carriesOn_ident hident h
    refine ⟨hmono _ ?_, fun _ => hmark⟩
    match after with
    | [] => rfl
    | [_] => rfl
    | mark :: name :: after =>
      rw [segments] at hsegments
      simp only [startsLink, Bool.true_or, Bool.and_true]
      by_contra hlink
      rw [if_pos] at hsegments
      · cases hsegments
      · simp only [isLinkMark, isPathMark, Bool.not_eq_false, Bool.and_eq_true, Bool.or_eq_true] at hlink ⊢
        grind
  · simp only [carriesOn, kind_of_isClose hclose, hclose, Bool.true_or, if_true,
      Bool.or_eq_false_iff] at h
    exact ⟨hmono _ h.1, fun _ => h.2⟩
  · have hkind : p.kind = .punct := by
      simp only [Token.isPunct, Bool.and_eq_true, decide_eq_true_eq] at hask
      exact hask.1
    simp only [carriesOn, hkind, hask, Bool.or_true, if_true, Bool.or_eq_false_iff] at h
    exact ⟨hmono _ h.1, fun _ => h.2⟩
  · have hcall : op.isCall = false := by
      cases op <;> simp_all [Operand.isLiteral, Operand.isCall]
    unfold Token.isLiteral at hliteral
    split at hliteral
    next interpolated hkind =>
      simp only [carriesOn, hkind] at h
      rw [hcall, hop]
      exact ⟨h, fun hfalse => by cases hfalse⟩
    next => cases hliteral

theorem isSome_readLink (room : Nat) (op : Operand) (t : Token) (ts : List Token) :
    (readLink room op (t :: ts)).isSome =
      (startsLink op.isCall (t :: ts) || t.isPunct "?" && op.isCall || t.isPunct "[" && !op.isLiteral) := by
  rw [Bool.eq_iff_iff, Option.isSome_iff_exists, Bool.or_eq_true, Bool.or_eq_true]
  constructor
  · rintro ⟨⟨next, op', stop⟩, hlink⟩
    cases readLink_eq_some_iff.mp hlink with
    | call hmark hname hcall => simp [startsLink, hmark, Token.isIdent, hname, hcall]
    | passedCall hmark hname hcall => simp [startsLink, hmark, Token.isIdent, hname, hcall]
    | field hmark hname hcall hop => simp [startsLink, hmark, Token.isIdent, hname, hop]
    | ask hmark hop => simp [hmark, hop]
    | index hbracket hop => simp [hbracket, hop]
  · rintro ((hstart | hask) | hindex)
    · obtain _ | ⟨name, after⟩ := ts
      · cases hstart
      simp only [startsLink, Token.isIdent, Bool.and_eq_true, Bool.or_eq_true, decide_eq_true_eq] at hstart
      obtain ⟨⟨hmark, hname⟩, hnext⟩ := hstart
      cases hcall : callOpen? name.span.stop after with
      | none =>
        rw [hcall] at hnext
        exact ⟨_, readLink_eq_some_iff.mpr (.field hmark hname hcall (by simpa using hnext))⟩
      | some isMacro =>
        by_cases hroom : room = 0
        · exact ⟨_, readLink_eq_some_iff.mpr (.passedCall hmark hname hcall hroom)⟩
        · exact ⟨_, readLink_eq_some_iff.mpr (.call hmark hname hcall hroom)⟩
    · simp only [Bool.and_eq_true] at hask
      exact ⟨_, readLink_eq_some_iff.mpr (.ask hask.1 hask.2)⟩
    · simp only [Bool.and_eq_true, Bool.not_eq_true'] at hindex
      exact ⟨_, readLink_eq_some_iff.mpr (.index hindex.1 hindex.2)⟩

theorem readLink_of_isNewline {t : Token} (ht : t.isNewline = true) (room : Nat) (op : Operand)
    (ts : List Token) : readLink room op (t :: ts) = none := by
  have hmark : isLinkMark t = false := by simp [isLinkMark, isPunct_of_isNewline ht]
  rw [← Option.isNone_iff_eq_none, ← Option.isSome_eq_false_iff, isSome_readLink]
  cases ts with
  | nil => simp [startsLink, isPunct_of_isNewline ht]
  | cons name after => simp [startsLink, hmark, isPunct_of_isNewline ht]

include hk in
theorem startsLink_of_significant {isCall : Bool} {t : Token}
    (h : startsLink isCall (t :: significant us) = false) :
    startsLink isCall (t :: (us ++ k :: rest')) = false := by
  cases us with
  | nil => simp [startsLink, Token.isIdent, kind_of_isClose hk]
  | cons name us =>
    rw [List.cons_append, startsLink]
    cases hnl : name.isNewline with
    | true => simp [isIdent_of_isNewline hnl]
    | false =>
      rw [significant_of_not_isNewline hnl, startsLink] at h
      cases hlink : isLinkMark t && name.isIdent with
      | false => rfl
      | true =>
        rw [hlink, Bool.true_and, Bool.or_eq_false_iff, Option.isSome_eq_false_iff,
          Option.isNone_iff_eq_none] at h
        rw [callOpen?_of_significant hk rest' h.2, h.1]
        rfl

include hk in
theorem readLink_of_loose {p : Token} {op : Operand} (hp : CanLink p op)
    (h : carriesOn p (significant us) = false) (room : Nat) :
    readLink room op (us ++ k :: rest') = none := by
  obtain ⟨hlink, hsuffix⟩ := startsLink_of_loose hp h
  cases us with
  | nil => exact readLink_close hk room op rest'
  | cons t us =>
    cases ht : t.isNewline with
    | true => exact readLink_of_isNewline ht room op _
    | false =>
      rw [significant_of_not_isNewline ht] at hlink hsuffix
      rw [List.cons_append, ← Option.isNone_iff_eq_none, ← Option.isSome_eq_false_iff, isSome_readLink,
        startsLink_of_significant hk rest' hlink]
      cases hop : op.isLiteral with
      | true =>
        have hcall : op.isCall = false := by
          cases op <;> simp_all [Operand.isLiteral, Operand.isCall]
        simp [hcall]
      | false =>
        have hmark : t.isPunct "?" = false ∧ t.isPunct "[" = false := by
          simpa [isSuffixMark] using hsuffix hop
        simp [hmark]

include hk in
theorem isIdent_head_thins {t : Token} (hmark : isLinkMark t = true) (h : Thins (some t) ts us) :
    (ts ++ k :: rest).head?.any Token.isIdent = (us ++ k :: rest').head?.any Token.isIdent := by
  have hpath : isPathMark t = true := by
    simp only [isLinkMark, isPathMark, Bool.or_eq_true] at hmark ⊢
    grind
  have hident : k.isIdent = false := by simp [Token.isIdent, kind_of_isClose hk]
  exact any_head?_thins rest rest' (fun _ => isIdent_of_isNewline) hident
    (fun _ hafter => (of_carriesOn_mark (.inl hpath) hafter).1 hpath) h

include hk in
theorem exists_name_of_thins {p name : Token} {after : List Token} (h : Thins (some p) ts us)
    (hname : name.kind = .ident) (hall : ts ++ k :: rest = name :: after) :
    ∃ inner inner', ts = name :: inner ∧ us = name :: inner' ∧ after = inner ++ k :: rest ∧
      Thins (some name) inner inner' := by
  cases ts with
  | nil =>
    cases hall
    simp [kind_of_isClose hk] at hname
  | cons _ inner =>
    rw [List.cons_append, List.cons.injEq] at hall
    obtain ⟨rfl, rfl⟩ := hall
    obtain ⟨inner', rfl, hinner⟩ := h.cons_inv (by simp [Token.isNewline, hname])
    exact ⟨inner, inner', rfl, rfl, rfl, hinner⟩

include hk in
theorem startsLink_thins {t : Token} (h : Thins (some t) ts us) (isCall : Bool) :
    startsLink isCall (t :: (ts ++ k :: rest)) = startsLink isCall (t :: (us ++ k :: rest')) := by
  obtain ⟨name, after, hts⟩ : ∃ name after, ts ++ k :: rest = name :: after :=
    List.exists_cons_of_ne_nil (by simp)
  obtain ⟨name', after', hus⟩ : ∃ name after, us ++ k :: rest' = name :: after :=
    List.exists_cons_of_ne_nil (by simp)
  rw [hts, hus, startsLink, startsLink]
  cases hmark : isLinkMark t with
  | false => rfl
  | true =>
    have hident := isIdent_head_thins hk rest rest' hmark h
    rw [hts, hus, List.head?_cons, List.head?_cons, Option.any_some, Option.any_some] at hident
    rw [← hident]
    cases hname : name.isIdent with
    | false => rfl
    | true =>
      have hkind : name.kind = .ident := by simpa [Token.isIdent] using hname
      obtain ⟨inner, inner', rfl, rfl, rfl, hinner⟩ := exists_name_of_thins hk rest h hkind hts
      rw [List.cons_append, List.cons.injEq] at hus
      obtain ⟨rfl, rfl⟩ := hus
      rw [callOpen?_thins hk rest rest' hkind hinner]

def LinkMeets (p : Token) (ts us : List Token) :
    Option (Nat × Operand × Option Nat) → Option (Nat × Operand × Option Nat) → Prop
  | none, link => link = none
  | some (_, _, none), _ => True
  | some (room, op, some m), link => m ≤ ts.length → ∃ n q, link = some (room, op, some n) ∧
    Meets (some p) ts us m n ∧ lastSignificant (some p) (ts.take m) = some q ∧ CanLink q op

include hk in
theorem callOpen?_meets {name : Token} (h : Thins (some name) ts us) {nameEnd : Nat} {isMacro : Bool}
    (hcall : callOpen? nameEnd (ts ++ k :: rest) = some isMacro) :
    ∃ o inside inside', ts.drop (callGap isMacro) = o :: inside ∧ us.drop (callGap isMacro) = o :: inside' ∧
      o.isOpen = true ∧ Thins (some o) inside inside' ∧
      Meets (some name) ts us (callGap isMacro) (callGap isMacro) := by
  cases ts with
  | nil =>
    rw [List.nil_append, callOpen?_close hk] at hcall
    cases hcall
  | cons t ts =>
    rw [List.cons_append, callOpen?] at hcall
    split at hcall
    next hparen =>
      cases hcall
      obtain ⟨us, rfl, hinside⟩ := h.cons_inv (isNewline_of_isPunct hparen)
      exact ⟨t, ts, us, rfl, rfl, by simp [Token.isOpen, hparen], hinside, .zero h⟩
    next =>
      split at hcall
      next hmacro =>
        cases hcall
        simp only [Bool.and_eq_true] at hmacro
        obtain ⟨⟨hbang, hopen⟩, -⟩ := hmacro
        have hnl := isNewline_of_isPunct hbang
        obtain ⟨us, rfl, hnext⟩ := h.cons_inv hnl
        have hgap : Meets (some name) (t :: ts) (t :: us) 1 1 := (Meets.zero h).succ rfl hnl
        cases ts with
        | nil => simp [Token.isOpen_eq_false_of_isClose hk] at hopen
        | cons o ts =>
          have ho : o.isOpen = true := hopen
          obtain ⟨us, rfl, hinside⟩ := hnext.cons_inv (isNewline_of_isOpen ho)
          exact ⟨o, ts, us, rfl, rfl, ho, hinside, hgap⟩
      next => cases hcall

theorem linkMeets_call {p t name o : Token} {inside inside' : List Token} {gap : Nat}
    (ht : t.isNewline = false) (hname : name.isNewline = false) (hgap : Meets (some name) ts us gap gap)
    (hopen : o.isOpen = true) (hts : ts.drop gap = o :: inside) (hus : us.drop gap = o :: inside')
    {room : Nat} {op : Operand} {close : Option Nat} {link : Option (Nat × Operand × Option Nat)}
    (h : ∀ m, close = some m → m ≤ inside.length → ∃ n c, link = some (room, op, some (gap + (n + 1) + 2)) ∧
      Meets (some o) inside inside' m n ∧ lastSignificant (some o) (inside.take m) = some c ∧
      c.isClose = true) :
    LinkMeets p (t :: name :: ts) (t :: name :: us)
      (some (room, op, close.map fun m => gap + (m + 1) + 2)) link := by
  cases close with
  | none => exact trivial
  | some m =>
    intro hm
    have hlength : inside.length + 1 = ts.length - gap := by
      rw [← List.length_drop, hts, List.length_cons]
    simp only [List.length_cons] at hm
    obtain ⟨n, c, rfl, hmeets, hlast, hc⟩ := h m rfl (by omega)
    obtain ⟨hpast, hbehind⟩ := hgap.past_bracket hopen hts hus hmeets
    refine ⟨gap + (n + 1) + 2, c, rfl, .cons ht (.cons hname hpast), ?_, .inr (.inl hc)⟩
    rw [List.take_succ_cons, List.take_succ_cons, lastSignificant_cons_of_not_isNewline ht,
      lastSignificant_cons_of_not_isNewline hname, hbehind, hlast]

include hk in
theorem exists_brackets_of_thins {name : Token} (h : Thins (some name) ts us) {nameEnd : Nat} {isMacro : Bool}
    (hcall : callOpen? nameEnd (ts ++ k :: rest) = some isMacro) :
    ∃ o inside inside', ts.drop (callGap isMacro) = o :: inside ∧ us.drop (callGap isMacro) = o :: inside' ∧
      (ts ++ k :: rest).drop (callGap isMacro) = o :: (inside ++ k :: rest) ∧
      (us ++ k :: rest').drop (callGap isMacro) = o :: (inside' ++ k :: rest') ∧
      o.isOpen = true ∧ Thins (some o) inside inside' ∧ inside.length < ts.length ∧
      Meets (some name) ts us (callGap isMacro) (callGap isMacro) := by
  obtain ⟨o, inside, inside', hts, hus, hopen, hinside, hgap⟩ := callOpen?_meets hk rest h hcall
  refine ⟨o, inside, inside', hts, hus, ?_, ?_, hopen, hinside, ?_, hgap⟩
  · rw [List.drop_append_of_le_length hgap.le_length, hts, List.cons_append]
  · rw [List.drop_append_of_le_length hgap.le_length', hus, List.cons_append]
  · have hlength : inside.length + 1 = ts.length - callGap isMacro := by
      rw [← List.length_drop, hts, List.length_cons]
    omega

include hgroups hk in
theorem linkMeets_of_link {p t : Token} {op op' : Operand} {room next : Nat} {stop : Option Nat}
    (ht : t.isNewline = false) (h : Thins (some t) ts us) (hsize : ts.length < size)
    (hlink : Link room op (t :: (ts ++ k :: rest)) next op' stop) :
    LinkMeets p (t :: ts) (t :: us) (some (next, op', stop))
      (readLink room op (t :: (us ++ k :: rest'))) := by
  generalize hall : ts ++ k :: rest = all at hlink
  cases hlink with
  | @call _ name _ isMacro hmark hname hcall hroom =>
    obtain ⟨ts, us, rfl, rfl, rfl, hafter⟩ := exists_name_of_thins hk rest h hname hall
    obtain ⟨o, inside, inside', hts, hus, hbracket, hbracket', hopen, hinside, hshort, hgap⟩ :=
      exists_brackets_of_thins hk rest rest' hafter hcall
    rw [callOpen?_thins hk rest rest' hname hafter] at hcall
    rw [List.cons_append, readLink_eq_some_iff.mpr (.call hmark hname hcall hroom), hbracket, hbracket']
    rw [List.length_cons] at hsize
    apply linkMeets_call ht (by simp [Token.isNewline, hname]) hgap hopen hts hus
    intro m hclose hm
    obtain ⟨n, c, hn, hmeets⟩ := readGroup_past hgroups hk rest rest' hopen hinside (by omega)
      (Prod.ext rfl hclose) hm
    rw [hn]
    exact ⟨n, c, rfl, hmeets⟩
  | @passedCall _ name _ isMacro hmark hname hcall hroom =>
    obtain ⟨ts, us, rfl, rfl, rfl, hafter⟩ := exists_name_of_thins hk rest h hname hall
    obtain ⟨o, inside, inside', hts, hus, hbracket, hbracket', hopen, hinside, -, hgap⟩ :=
      exists_brackets_of_thins hk rest rest' hafter hcall
    rw [callOpen?_thins hk rest rest' hname hafter] at hcall
    rw [List.cons_append, readLink_eq_some_iff.mpr (.passedCall hmark hname hcall hroom), hbracket, hbracket']
    apply linkMeets_call ht (by simp [Token.isNewline, hname]) hgap hopen hts hus
    intro m hend hm
    obtain ⟨n, c, hn, hmeets⟩ := groupEnd_past hk rest rest' hopen hinside hend hm
    rw [hn]
    exact ⟨n, c, rfl, hmeets⟩
  | @field _ name _ hmark hname hcall hop =>
    obtain ⟨ts, us, rfl, rfl, rfl, hafter⟩ := exists_name_of_thins hk rest h hname hall
    rw [callOpen?_thins hk rest rest' hname hafter] at hcall
    have hnl : name.isNewline = false := by simp [Token.isNewline, hname]
    intro _
    refine ⟨2, name, readLink_eq_some_iff.mpr (.field hmark hname hcall hop),
      .cons ht (.cons hnl (.zero hafter)), ?_, .inl hname⟩
    rw [List.take_succ_cons, lastSignificant_cons_of_not_isNewline ht]
    exact lastSignificant_of_not_isNewline hnl _
  | ask hmark hop =>
    intro _
    exact ⟨1, t, readLink_eq_some_iff.mpr (.ask hmark hop), .cons ht (.zero h),
      lastSignificant_of_not_isNewline ht _, .inr (.inr (.inl hmark))⟩
  | index hbracket hop =>
    have hopen : t.isOpen = true := by simp [Token.isOpen, hbracket]
    rw [readLink_eq_some_iff.mpr (.index hbracket hop), ← hall]
    cases hend : groupEnd 0 0 (t :: (ts ++ k :: rest)) with
    | none => exact trivial
    | some m =>
      intro hm
      obtain ⟨n, c, hn, hmeets, hlast, hc⟩ := groupEnd_past hk rest rest' hopen h hend
        (Nat.le_of_succ_le_succ hm)
      refine ⟨n + 1, c, by rw [hn]; rfl, .cons ht hmeets, ?_, .inr (.inl hc)⟩
      rw [List.take_succ_cons, lastSignificant_cons_of_not_isNewline ht, hlast]

include hgroups hk in
theorem readLink_thins {p : Token} {op : Operand} (hp : CanLink p op) (h : Thins (some p) ts us)
    (hsize : ts.length ≤ size) (room : Nat) :
    LinkMeets p ts us (readLink room op (ts ++ k :: rest)) (readLink room op (us ++ k :: rest')) := by
  cases h with
  | nil =>
    rw [List.nil_append, readLink_close hk]
    exact readLink_close hk room op rest'
  | leave hnl hloose h =>
    rw [List.cons_append, readLink_of_isNewline hnl]
    apply readLink_of_loose hk rest' hp
    rw [h.significant_eq]
    exact hloose
  | @keep _ t ts us h =>
    cases ht : t.isNewline with
    | true =>
      rw [List.cons_append, readLink_of_isNewline ht]
      exact readLink_of_isNewline ht room op _
    | false =>
      rw [lastSignificant_of_not_isNewline ht] at h
      rw [List.cons_append, List.cons_append]
      have hsome := isSome_readLink room op t (ts ++ k :: rest)
      rw [startsLink_thins hk rest rest' h, ← isSome_readLink room] at hsome
      cases hlink : readLink room op (t :: (ts ++ k :: rest)) with
      | none =>
        rw [hlink, Option.isSome_none, eq_comm, Option.isSome_eq_false_iff, Option.isNone_iff_eq_none] at hsome
        exact hsome
      | some link => exact linkMeets_of_link hgroups hk rest rest' ht h hsize (readLink_eq_some_iff.mp hlink)

theorem eq_of_map_add_eq {α : Type} {r : α × Option Nat} {a : α} {j m : Nat}
    (h : (r.1, r.2.map (j + ·)) = (a, some m)) : ∃ i, r = (a, some i) ∧ m = j + i := by
  obtain ⟨rfl, hstop⟩ := Prod.mk.inj h
  obtain ⟨i, hi, rfl⟩ := Option.map_eq_some_iff.mp hstop
  exact ⟨i, Prod.ext rfl hi, rfl⟩

include hgroups hk in
theorem readLinks_thins {p : Token} {op op' : Operand} (hp : CanLink p op) (h : Thins (some p) ts us)
    (hsize : ts.length ≤ size) {room m : Nat}
    (hread : readLinks room op 0 (ts ++ k :: rest) = (op', some m)) (hm : m ≤ ts.length) :
    ∃ n, readLinks room op 0 (us ++ k :: rest') = (op', some n) ∧ Meets (some p) ts us m n := by
  induction hlen : ts.length using Nat.strongRecOn generalizing p op room m ts us with
  | ind len ih =>
    subst hlen
    have hlink := readLink_thins hgroups hk rest rest' hp h hsize room
    rw [readLinks_eq_readLink] at hread ⊢
    match hts : readLink room op (ts ++ k :: rest) with
    | none =>
      rw [hts] at hlink hread
      rw [show readLink room op (us ++ k :: rest') = none from hlink]
      cases hread
      exact ⟨0, rfl, .zero h⟩
    | some (_, _, none) =>
      rw [hts] at hread
      cases hread
    | some (next, op₁, some j) =>
      rw [hts] at hlink hread
      dsimp only at hread
      rw [readLinks_eq_map, Nat.zero_add] at hread
      obtain ⟨i, hnext, rfl⟩ := eq_of_map_add_eq hread
      have hj := (pos_of_readLink hts).1
      obtain ⟨n, q, hus, hmeets, hlast, hq⟩ := hlink (by omega)
      have hleft := hmeets.left
      rw [List.drop_append_of_le_length (by omega)] at hnext
      rw [hlast] at hleft
      have hshort : (ts.drop j).length = ts.length - j := List.length_drop
      obtain ⟨n', hread', hmeets'⟩ := ih (ts.drop j).length (by omega) hq hleft (by omega) hnext
        (by omega) rfl
      rw [hus]
      dsimp only
      rw [readLinks_eq_map, List.drop_append_of_le_length hmeets.le_length', hread']
      refine ⟨n + n', ?_, hmeets.add ?_⟩
      · rw [Option.map_some, Nat.zero_add]
      · rwa [hlast]

include hgroups hk in
theorem readWord_thins {t : Token} (ht : t.kind = .ident) (h : Thins (some t) ts us)
    (hsize : ts.length ≤ size) {room m : Nat} {op : Operand}
    (hread : readWord room t (ts ++ k :: rest) = (op, some m)) (hm : m ≤ ts.length) :
    ∃ n, readWord room t (us ++ k :: rest') = (op, some n) ∧ Meets (some t) ts us m n := by
  obtain ⟨more, hts, hus, hpath, hlast, hkind⟩ := segments_thins hk rest rest' ht h
  have hlength : (DottedPath.mk t more).length - 1 = 2 * more.length := Nat.add_sub_cancel_left ..
  rw [readWord, DottedPath.read, hts] at hread
  rw [readWord, DottedPath.read, hus]
  dsimp only at hread ⊢
  rw [hlength, List.drop_append_of_le_length hpath.le_length] at hread
  rw [hlength, List.drop_append_of_le_length hpath.le_length']
  have hafter := hpath.left
  rw [hlast] at hafter
  rw [← callOpen?_thins hk rest rest' hkind hafter]
  generalize (DottedPath.mk t more).last = last at hkind hafter hlast hread ⊢
  generalize (DottedPath.mk t more).text = text at hread ⊢
  generalize 2 * more.length = path at hpath hlast hafter hread ⊢
  have hshort : (ts.drop path).length = ts.length - path := List.length_drop
  cases hcall : callOpen? last.span.stop (ts.drop path ++ k :: rest) with
  | none =>
    rw [hcall] at hread
    dsimp only at hread ⊢
    obtain ⟨i, hlinks, rfl⟩ := eq_of_map_add_eq hread
    obtain ⟨n, hlinks', hmeets⟩ := readLinks_thins hgroups hk rest rest' (.inl hkind) hafter (by omega)
      hlinks (by omega)
    rw [hlinks']
    refine ⟨path + n, rfl, hpath.add ?_⟩
    rwa [hlast]
  | some isMacro =>
    rw [hcall] at hread
    obtain ⟨o, inside, inside', hbracket, hbracket', hopen, hinside, hgap⟩ :=
      callOpen?_meets hk rest hafter hcall
    dsimp only at hread ⊢
    rw [List.drop_append_of_le_length hgap.le_length, hbracket, List.cons_append] at hread
    rw [List.drop_append_of_le_length hgap.le_length', hbracket', List.cons_append]
    have hinside' : inside.length + 1 = ts.length - path - callGap isMacro := by
      rw [← List.length_drop, ← List.length_drop, hbracket, List.length_cons]
    obtain ⟨args, close, hgroup⟩ :
        ∃ args close, readGroup room (o :: (inside ++ k :: rest)) = (args, close) := ⟨_, _, rfl⟩
    rw [hgroup] at hread
    cases close with
    | none => cases hread
    | some j =>
      dsimp only at hread
      obtain ⟨i, hlinks, rfl⟩ := eq_of_map_add_eq hread
      obtain ⟨n, c, hgroup', hmeets, hclose, hc⟩ := readGroup_past hgroups hk rest rest' hopen hinside
        (by omega) hgroup (by omega)
      rw [hgroup']
      have hleft := hmeets.left
      rw [hclose] at hleft
      rw [List.drop_succ_cons, List.drop_append_of_le_length (by omega)] at hlinks
      dsimp only
      rw [List.drop_succ_cons, List.drop_append_of_le_length hmeets.le_length']
      obtain ⟨i', hlinks', hmeets'⟩ := readLinks_thins hgroups hk rest rest' (.inr (.inl hc)) hleft
        (by rw [List.length_drop]; omega) hlinks (by rw [List.length_drop]; omega)
      rw [hlinks']
      -- the path, the bracket's gap, the bracket and the links behind it
      have hpast : Meets (some t) ts us (path + (callGap isMacro + (j + i + 1)))
          (path + (callGap isMacro + (n + i' + 1))) := by
        apply hpath.add
        rw [hlast]
        exact (hgap.past_bracket hopen hbracket hbracket' (hmeets.add (hclose ▸ hmeets'))).1
      refine ⟨path + (callGap isMacro + (n + i' + 1)), ?_, ?_⟩
      · simp only [Option.map_some, Prod.mk.injEq, true_and, Option.some.injEq]
        omega
      · rwa [show path + callGap isMacro + (j + 1) + i = path + (callGap isMacro + (j + i + 1)) by omega]

def TurnMeets (t : Token) (ts us : List Token) :
    Option (Draft × Option Nat) → Option (Draft × Option Nat) → Prop
  | none, turn => turn = none
  | some (_, none), _ => True
  | some (d, some m), turn => m ≤ ts.length → ∃ n, turn = some (d, some n) ∧ Meets (some t) ts us m n

include hgroups hk in
theorem readTurn_thins {t : Token} (ht : t.isNewline = false) (h : Thins (some t) ts us)
    (hsize : ts.length < size) (room : Nat) (before : Option Token) (d : Draft) :
    TurnMeets t ts us (readTurn room .brackets before d t (ts ++ k :: rest))
      (readTurn room .brackets before d t (us ++ k :: rest')) := by
  have hstay {d : Draft} : TurnMeets t ts us (some (d, some 0)) (some (d, some 0)) :=
    fun _ => ⟨0, rfl, .zero h⟩
  rw [readTurn, readTurn]
  cases hkind : t.kind with
  | newline => simp [Token.isNewline, hkind] at ht
  | punct =>
    dsimp only
    split
    · rfl
    · split
      next hopen =>
        obtain ⟨args, close, hread⟩ :
            ∃ args close, readGroup room (t :: (ts ++ k :: rest)) = (args, close) := ⟨_, _, rfl⟩
        rw [hread]
        cases close with
        | none => exact trivial
        | some m =>
          intro hm
          obtain ⟨n, -, hread', hmeets, -⟩ := readGroup_past hgroups hk rest rest' hopen h hsize hread hm
          rw [hread']
          exact ⟨n, rfl, hmeets⟩
      next =>
        rw [mark_thins hk rest rest' d .brackets hkind h]
        exact hstay
  | literal interpolated =>
    dsimp only
    obtain ⟨op, stop, hread⟩ : ∃ op stop, readLinks room (.literal t.text interpolated) 0
        (ts ++ k :: rest) = (op, stop) := ⟨_, _, rfl⟩
    rw [hread]
    cases stop with
    | none => exact trivial
    | some m =>
      intro hm
      have hlink : CanLink t (.literal t.text interpolated) :=
        .inr (.inr (.inr ⟨by simp [Token.isLiteral, hkind], rfl⟩))
      obtain ⟨n, hread', hmeets⟩ := readLinks_thins hgroups hk rest rest' hlink h (Nat.le_of_lt hsize)
        hread hm
      rw [hread']
      exact ⟨n, rfl, hmeets⟩
  | number => exact hstay
  | ident =>
    dsimp only
    have hword : plainWord? t (us ++ k :: rest') d = plainWord? t (ts ++ k :: rest) d := by
      rw [plainWord?, plainWord?, startsPath_thins hk rest rest' hkind h]
    rw [hword]
    cases plainWord? t (ts ++ k :: rest) d with
    | some e => exact hstay
    | none =>
      dsimp only
      obtain ⟨op, stop, hread⟩ : ∃ op stop, readWord room t (ts ++ k :: rest) = (op, stop) := ⟨_, _, rfl⟩
      rw [hread]
      cases stop with
      | none => exact trivial
      | some m =>
        intro hm
        obtain ⟨n, hread', hmeets⟩ := readWord_thins hgroups hk rest rest' hkind h (Nat.le_of_lt hsize)
          hread hm
        rw [hread']
        exact ⟨n, rfl, hmeets⟩

include hk in
theorem readDraft_of_isClose (room : Nat) (before : Option Token) (d : Draft) :
    readDraft room .brackets before d 0 (k :: rest) = (d, some 0) := by
  have hends : endsExpr k = true := by simp [endsExpr, hk]
  rw [readDraft_eq_readTurn, readTurn, kind_of_isClose hk]
  simp only [hends, if_true]

theorem readDraft_of_isNewline {t : Token} (ht : t.isNewline = true) (room : Nat)
    (before : Option Token) (d : Draft) (ts : List Token) :
    readDraft room .brackets before d 0 (t :: ts) =
      ((readDraft room .brackets before d 0 ts).1, (readDraft room .brackets before d 0 ts).2.map (1 + ·)) := by
  have hkind : t.kind = .newline := by simpa [Token.isNewline] using ht
  rw [readDraft_eq_readTurn, readTurn, hkind]
  simp only [reduceCtorEq, decide_false, Bool.false_and, Bool.false_eq_true, if_false, List.take_zero,
    List.drop_zero, Draft.passed_newline hkind]
  rw [readDraft_eq_map]

theorem Draft.passed_eq {d : Draft} {ts us : List Token} (h : significant ts = significant us) :
    d.passed ts = d.passed us := by
  rw [Draft.passed, Draft.passed, ← lastSignificant_significant, h, lastSignificant_significant]

include hgroups hk in
theorem readDraft_thins {p : Option Token} (h : Thins p ts us) (hsize : ts.length ≤ size) {room m : Nat}
    {before : Option Token} {d d' : Draft}
    (hread : readDraft room .brackets before d 0 (ts ++ k :: rest) = (d', some m)) (hm : m ≤ ts.length) :
    ∃ n, readDraft room .brackets before d 0 (us ++ k :: rest') = (d', some n) ∧ Meets p ts us m n := by
  induction hlen : ts.length using Nat.strongRecOn generalizing p d m ts us with
  | ind len ih =>
    subst hlen
    cases h with
    | nil =>
      rw [List.nil_append, readDraft_of_isClose hk] at hread ⊢
      cases hread
      exact ⟨0, rfl, .zero .nil⟩
    | @leave _ t ts us hnl _ h =>
      rw [List.cons_append, readDraft_of_isNewline hnl] at hread
      obtain ⟨i, hnext, rfl⟩ := eq_of_map_add_eq hread
      rw [List.length_cons] at hm hsize
      obtain ⟨n, hread', hmeets⟩ := ih ts.length (Nat.lt_succ_self _) h (by omega) hnext (by omega) rfl
      exact ⟨n, hread', Nat.add_comm 1 i ▸ hmeets.leave hnl⟩
    | @keep _ t ts us h =>
      rw [List.length_cons] at hm hsize
      cases hnl : t.isNewline with
      | true =>
        rw [List.cons_append, readDraft_of_isNewline hnl] at hread ⊢
        obtain ⟨i, hnext, rfl⟩ := eq_of_map_add_eq hread
        obtain ⟨n, hread', hmeets⟩ := ih ts.length (Nat.lt_succ_self _) h (by omega) hnext (by omega) rfl
        rw [hread']
        exact ⟨1 + n, rfl, Nat.add_comm 1 i ▸ Nat.add_comm 1 n ▸ hmeets.keep⟩
      | false =>
        rw [lastSignificant_of_not_isNewline hnl] at h
        have hturn := readTurn_thins hgroups hk rest rest' hnl h hsize room before d
        rw [List.cons_append, readDraft_eq_readTurn] at hread ⊢
        match hts : readTurn room .brackets before d t (ts ++ k :: rest) with
        | none =>
          rw [hts] at hturn hread
          rw [show readTurn room .brackets before d t (us ++ k :: rest') = none from hturn]
          cases hread
          exact ⟨0, rfl, .zero (.keep (lastSignificant_of_not_isNewline hnl _ ▸ h))⟩
        | some (_, none) =>
          rw [hts] at hread
          cases hread
        | some (e, some j) =>
          rw [hts] at hturn hread
          dsimp only at hread
          rw [readDraft_eq_map, Nat.zero_add] at hread
          obtain ⟨i, hnext, rfl⟩ := eq_of_map_add_eq hread
          obtain ⟨n, hus, hmeets⟩ := hturn (by omega)
          have htaken : e.passed (t :: us.take n) = e.passed (t :: ts.take j) := by
            apply Draft.passed_eq
            rw [significant_of_not_isNewline hnl, significant_of_not_isNewline hnl, hmeets.taken]
          have hshort : (ts.drop j).length = ts.length - j := List.length_drop
          rw [List.take_append_of_le_length (by omega), List.drop_append_of_le_length (by omega)] at hnext
          obtain ⟨n', hread', hmeets'⟩ := ih (ts.drop j).length (by rw [List.length_cons]; omega)
            hmeets.left (by omega) hnext (by omega) rfl
          rw [hus]
          dsimp only
          rw [List.take_append_of_le_length hmeets.le_length', htaken,
            List.drop_append_of_le_length hmeets.le_length', readDraft_eq_map, hread']
          refine ⟨n + n' + 1, ?_, ?_⟩
          · simp only [Option.map_some, Prod.mk.injEq, true_and, Option.some.injEq]
            omega
          · rw [show j + 1 + i = j + i + 1 by omega]
            exact .cons hnl (hmeets.add hmeets')

include hgroups hk in
theorem readItems_thins {p : Option Token} (h : Thins p ts us) (hsize : ts.length ≤ size)
    {room m : Nat} {closer : String} {done args : List Expr}
    (hread : readItems room closer done 0 (ts ++ k :: rest) = (args, some m)) (hm : m ≤ ts.length) :
    ∃ n, readItems room closer done 0 (us ++ k :: rest') = (args, some n) ∧ Meets p ts us m n := by
  induction hlen : ts.length using Nat.strongRecOn generalizing p done m ts us with
  | ind len ih =>
    subst hlen
    cases h with
    | nil =>
      obtain rfl : m = 0 := Nat.le_zero.mp hm
      obtain ⟨c, left, hdrop, hc⟩ := close_of_readItems (congrArg Prod.snd hread)
      cases hdrop
      rw [List.nil_append, readItems, if_pos hc] at hread ⊢
      cases hread
      exact ⟨0, rfl, .zero .nil⟩
    | @leave _ t ts us hnl _ h =>
      rw [List.cons_append, readItems, if_neg (by simp [isPunct_of_isNewline hnl]), if_pos (by simp [hnl]),
        readItems_eq_map, Nat.zero_add] at hread
      obtain ⟨i, hnext, rfl⟩ := eq_of_map_add_eq hread
      rw [List.length_cons] at hm hsize
      obtain ⟨n, hread', hmeets⟩ := ih ts.length (Nat.lt_succ_self _) h (by omega) hnext (by omega) rfl
      exact ⟨n, hread', Nat.add_comm 1 i ▸ hmeets.leave hnl⟩
    | @keep _ t ts us h =>
      have hzero : Meets p (t :: ts) (t :: us) 0 0 := .zero (.keep h)
      rw [List.cons_append, readItems] at hread ⊢
      split at hread
      next hclose =>
        cases hread
        exact ⟨0, if_pos hclose, hzero⟩
      next hclose =>
        rw [if_neg hclose]
        split at hread
        next hsep =>
          rw [if_pos hsep, readItems_eq_map, Nat.zero_add]
          rw [readItems_eq_map, Nat.zero_add] at hread
          obtain ⟨i, hnext, rfl⟩ := eq_of_map_add_eq hread
          rw [List.length_cons] at hm hsize
          obtain ⟨n, hread', hmeets⟩ := ih ts.length (Nat.lt_succ_self _) h (by omega) hnext (by omega)
            rfl
          rw [hread']
          exact ⟨1 + n, rfl, Nat.add_comm 1 i ▸ Nat.add_comm 1 n ▸ hmeets.keep⟩
        next hsep =>
          rw [if_neg hsep]
          have hnl : t.isNewline = false := by
            simp only [Bool.or_eq_true, not_or, Bool.not_eq_true] at hsep
            exact hsep.2
          obtain ⟨d, stop, hdraft⟩ : ∃ d stop, readDraft room .brackets none {} 0 (t :: (ts ++ k :: rest)) =
              (d, stop) := ⟨_, _, rfl⟩
          rw [hdraft] at hread
          cases stop with
          | none => cases hread
          | some j =>
            dsimp only at hread
            generalize hdone : (if (d.finish (some t)).isEmpty && (d.finish (some t)).keyword.isNone then
              done else d.finish (some t) :: done) = done' at hread
            rw [drop_pred_eq t, readItems_eq_map, Nat.zero_add] at hread
            obtain ⟨i, hnext, rfl⟩ := eq_of_map_add_eq hread
            obtain ⟨n, hdraft', hmeets⟩ := readDraft_thins hgroups hk rest rest' (.keep h) hsize hdraft
              (by omega)
            replace hmeets := hmeets.max_one hnl
            have hle := hmeets.le_length
            have hshort : ((t :: ts).drop (max j 1)).length = (t :: ts).length - max j 1 :=
              List.length_drop
            rw [← List.cons_append, List.drop_append_of_le_length hle] at hnext
            obtain ⟨n', hread', hmeets'⟩ := ih ((t :: ts).drop (max j 1)).length (by omega) hmeets.left
              (by omega) hnext (by omega) rfl
            rw [← List.cons_append, hdraft']
            dsimp only
            rw [hdone, drop_pred_eq t, ← List.cons_append, List.drop_append_of_le_length hmeets.le_length',
              readItems_eq_map, Nat.zero_add, hread']
            exact ⟨max n 1 + n', rfl, hmeets.add hmeets'⟩

end Inside

theorem groupsAgree (size : Nat) : GroupsAgree size := by
  induction size with
  | zero => exact fun _ _ _ _ _ _ _ _ _ _ _ _ hlt => absurd hlt (Nat.not_lt_zero _)
  | succ size ih =>
    intro room o k ts us rest rest' args m hopen hk h hlt hread hm
    cases room with
    | zero =>
      have hskip (ts : List Token) : readGroup 0 (o :: ts) = ([], (groupEnd 1 0 ts).map (1 + ·)) := by
        rw [readGroup]
        · rw [groupEnd, if_pos hopen, groupEnd_eq_map]
        · exact List.cons_ne_nil _ _
      rw [hskip, Nat.add_comm m] at hread
      obtain ⟨j, hend, hj⟩ := eq_of_map_add_eq (r := ([], groupEnd 1 0 (ts ++ k :: rest))) hread
      obtain rfl : m = j := by omega
      obtain ⟨rfl, hdist⟩ := Prod.mk.inj hend
      obtain ⟨n, hend', hmeets⟩ := groupEnd_thins hk rest rest' h 1 m hdist hm
      rw [hskip, hend']
      exact ⟨n, by simp [Nat.add_comm], hmeets⟩
    | succ room =>
      rw [readGroup, readItems_eq_map, Nat.add_comm m] at hread
      obtain ⟨j, hitems, hj⟩ := eq_of_map_add_eq hread
      obtain rfl : m = j := by omega
      obtain ⟨n, hitems', hmeets⟩ := readItems_thins ih hk rest rest' h (Nat.le_of_lt_succ hlt) hitems hm
      rw [readGroup, readItems_eq_map, hitems']
      exact ⟨n, by simp [Nat.add_comm], hmeets⟩

theorem readArgs_append {depth : Nat} {o : Token} (hopen : o.isOpen = true) {ts : List Token}
    {args : List Expr} {n : Nat} (hread : readArgs depth (o :: ts) = (args, some n)) (rest : List Token) :
    readArgs depth (o :: (ts.take n ++ rest)) = (args, some n) := by
  obtain ⟨m, k, left, rfl, hdrop, hk⟩ := close_of_readGroup hopen (congrArg Prod.snd hread)
  have hts : ts = ts.take m ++ k :: left := by rw [← hdrop, List.take_append_drop]
  have hlength : (ts.take m).length = m := by
    have := congrArg List.length hdrop
    rw [List.length_drop, List.length_cons] at this
    rw [List.length_take]
    omega
  have htake : ts.take (m + 1) = ts.take m ++ [k] := by
    rw [List.take_add, hdrop]
    rfl
  rw [hts, readArgs] at hread
  obtain ⟨n, hread', hmeets⟩ := groupsAgree (m + 1) _ o k (ts.take m) (ts.take m) left rest args m hopen hk
    (.refl _ _) (by omega) hread (by omega)
  -- inside the bracket nothing is left on either side, so both closers are as far away
  obtain rfl : n = m := by
    have hle := hmeets.le_length'
    have hleft := hmeets.left
    rw [List.drop_of_length_le (Nat.le_of_eq hlength)] at hleft
    have hge := List.drop_eq_nil_iff.mp hleft.eq_nil
    omega
  rw [htake, List.append_assoc, List.singleton_append, readArgs]
  exact hread'

/-- What stands before a bracket or behind its closer has no part in the arguments read between them, at any
depth and with whatever brackets inside. -/
theorem args_read_locally (ts : Array Token) {i : Nat} {o : Token} (ho : ts[i]? = some o)
    (hopen : o.isOpen = true) {depth : Nat} {args : List Expr} {n : Nat}
    (hread : readArgs depth (ts.toList.drop i) = (args, some n)) (before after : Array Token) :
    let moved := before ++ ts.extract i (i + n + 1) ++ after
    readArgs depth (moved.toList.drop before.size) = (args, some n) ∧
    ∀ steps, 5 * (moved.size + 1) ≤ steps →
      (Cursor.argsAt moved steps depth before.size).run = some (.ok (args, before.size + n)) := by
  intro moved
  obtain ⟨hi, rfl⟩ := Array.getElem?_eq_some_iff.mp ho
  have hdrop : ts.toList.drop i = ts[i] :: ts.toList.drop (i + 1) := List.drop_eq_getElem_cons hi
  have hmoved : moved.toList.drop before.size =
      ts[i] :: ((ts.toList.drop (i + 1)).take n ++ after.toList) := by
    simp only [moved, Array.toList_append, Array.toList_extract, List.append_assoc]
    rw [List.drop_left' Array.length_toList, List.extract_eq_take_drop, hdrop,
      show i + n + 1 - i = n + 1 by omega]
    rfl
  have hargs : readArgs depth (moved.toList.drop before.size) = (args, some n) := by
    rw [hdrop] at hread
    rw [hmoved, readArgs_append hopen hread]
  refine ⟨hargs, fun steps hsteps => ?_⟩
  have hlt : before.size < moved.size := Cursor.lt_size_of_drop hmoved
  have hstart : moved[before.size].isOpen = true := by
    obtain ⟨_, hget⟩ := Array.getElem?_eq_some_iff.mp (Cursor.getElem?_of_drop hmoved)
    rw [hget, hopen]
  obtain ⟨j, hat, hland⟩ := Cursor.argsAt_agrees_readArgs moved steps depth before.size hlt hstart hsteps
  rw [hargs] at hat hland
  obtain rfl : j = before.size + n := hland.2.1
  exact congrArg _ hat

theorem args_read_locally_stray_closer :
    (readArgs 0 ((tokenize .go "f(a[b)c],d).e").toList.drop 1)).2 = some 9 ∧
    ∀ before after : Array Token,
      readArgs 0 ((before ++ (tokenize .go "f(a[b)c],d).e").extract 1 11 ++ after).toList.drop before.size) =
        readArgs 0 ((tokenize .go "f(a[b)c],d).e").toList.drop 1) := by
  have hstop : (readArgs 0 ((tokenize .go "f(a[b)c],d).e").toList.drop 1)).2 = some 9 := by decide +kernel
  have hopen : (tokenize .go "f(a[b)c],d).e")[1]? = some ⟨.punct, "(", ⟨1, 2⟩, 1, 2⟩ := by decide +kernel
  have hread : readArgs 0 ((tokenize .go "f(a[b)c],d).e").toList.drop 1) =
      ((readArgs 0 ((tokenize .go "f(a[b)c],d).e").toList.drop 1)).1, some 9) := Prod.ext rfl hstop
  exact ⟨hstop, fun before after => (args_read_locally _ hopen rfl hread before after).1.trans hread.symm⟩

end SourceAudit.Expr
