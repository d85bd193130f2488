import SourceAudit.Expr.Reader

/-! Reading off a list, one step at a time: each link and each turn passes some tokens and leaves the rest
to the next. So a read expression ends at the end of one of the tokens it was read from. -/
namespace SourceAudit.Expr

theorem lastSignificant_eq_or_mem (before : Option Token) (ts : List Token) :
    lastSignificant before ts = before ∨ ∃ t ∈ ts, lastSignificant before ts = some t := by
  induction ts generalizing before with
  | nil => exact .inl rfl
  | cons t ts ih =>
    have hcons : lastSignificant before (t :: ts) =
        lastSignificant (if t.isNewline then before else some t) ts := rfl
    rw [hcons]
    obtain h | ⟨u, hu, h⟩ := ih (if t.isNewline then before else some t)
    · rw [h]
      split
      · exact .inl rfl
      · exact .inr ⟨t, List.mem_cons_self, rfl⟩
    · exact .inr ⟨u, List.mem_cons_of_mem t hu, h⟩

theorem lastSignificant_append (before : Option Token) (ts us : List Token) :
    lastSignificant before (ts ++ us) = lastSignificant (lastSignificant before ts) us :=
  List.foldl_append

theorem lastSignificant_eq_or (before : Option Token) (ts : List Token) :
    lastSignificant before ts = (lastSignificant none ts).or before := by
  induction ts generalizing before with
  | nil => rfl
  | cons t ts ih =>
    have hcons (last : Option Token) : lastSignificant last (t :: ts) =
        lastSignificant (if t.isNewline then last else some t) ts := rfl
    rw [hcons, hcons, ih, ih (if t.isNewline then none else some t)]
    cases t.isNewline <;> simp

namespace Draft

def Continues (e d : Draft) (ts : List Token) : Prop :=
  e.last = d.last ∨ ∃ t ∈ ts, e.last = some t

theorem Continues.passed {e d : Draft} {taken ts : List Token} (h : e.last = d.last)
    (hsub : taken ⊆ ts) : (e.passed taken).Continues d ts := by
  obtain hl | ⟨t, ht, hl⟩ := lastSignificant_eq_or_mem e.last taken
  · exact .inl (hl.trans h)
  · exact .inr ⟨t, hsub ht, hl⟩

theorem Continues.trans {c d e : Draft} {ts us : List Token} (hed : e.Continues d us)
    (hsub : us ⊆ ts) (hdc : d.Continues c ts) : e.Continues c ts := by
  obtain h | ⟨t, ht, h⟩ := hed
  · obtain h' | ⟨t, ht, h'⟩ := hdc
    · exact .inl (h.trans h')
    · exact .inr ⟨t, ht, h.trans h'⟩
  · exact .inr ⟨t, hsub ht, h⟩

theorem last_mark (d : Draft) (place : Place) (t : Token) (rest : List Token) :
    (d.mark place t rest).last = d.last := by
  have hname : (d.nameKeyword place).last = d.last := by
    unfold nameKeyword
    split <;> rfl
  unfold mark
  split
  · rfl
  · split
    · rfl
    · split
      · rfl
      · split
        · exact hname
        · rfl

theorem last_plainWord? {t : Token} {rest : List Token} {d e : Draft}
    (h : plainWord? t rest d = some e) : e.last = d.last := by
  unfold plainWord? at h
  split at h
  · cases h
    rfl
  · split at h
    · cases h
    · cases h
      rfl

theorem passed_append (d : Draft) (ts us : List Token) :
    d.passed (ts ++ us) = (d.passed ts).passed us := by
  rw [passed, lastSignificant_append]
  rfl

theorem mark_passed (d : Draft) (taken : List Token) (place : Place) (t : Token) (rest : List Token) :
    (d.passed taken).mark place t rest = (d.mark place t rest).passed taken := by
  have hname : (d.passed taken).nameKeyword place = (d.nameKeyword place).passed taken := by
    unfold nameKeyword passed
    dsimp only
    split <;> rfl
  unfold mark
  split
  · rfl
  split
  · rfl
  split
  · rfl
  split
  · exact hname
  · rfl

end Draft

theorem plainWord?_passed (t : Token) (rest : List Token) (d : Draft) (taken : List Token) :
    plainWord? t rest (d.passed taken) = (plainWord? t rest d).map (·.passed taken) := by
  unfold plainWord?
  split
  · rfl
  split <;> rfl

theorem Draft.passed_newline {d : Draft} {t : Token} (h : t.kind = .newline) :
    d.passed [t] = d := by
  have hlast : lastSignificant d.last [t] = d.last := by
    simp [lastSignificant, Token.isNewline, h]
  rw [Draft.passed, hlast]

theorem exists_open_of_callOpen? {nameEnd : Nat} {ts : List Token} {isMacro : Bool}
    (h : callOpen? nameEnd ts = some isMacro) :
    ∃ t rest, ts.drop (callGap isMacro) = t :: rest ∧ t.isOpen = true ∧ rest.length < ts.length := by
  cases ts with
  | nil => cases h
  | cons t rest =>
    rw [callOpen?] at h
    split at h
    next hparen =>
      cases h
      exact ⟨t, rest, rfl, by simp [Token.isOpen, hparen], by simp⟩
    next =>
      split at h
      next hmacro =>
        cases h
        simp only [Bool.and_eq_true] at hmacro
        cases rest with
        | nil => cases hmacro.1.2
        | cons bracket rest =>
          refine ⟨bracket, rest, rfl, hmacro.1.2, ?_⟩
          simp only [List.length_cons]
          omega
      next => cases h

/-- One link: nothing when there is none at the front, or else the room behind it, the operand that it
makes of `op`, and how many tokens it takes. -/
def readLink (room : Nat) (op : Operand) : List Token → Option (Nat × Operand × Option Nat)
  | [] => none
  | [t] =>
    if t.isPunct "?" && op.isCall then some (room, op, some 1)
    else if t.isPunct "[" && !op.isLiteral then some (room, op, none)
    else none
  | t :: name :: after =>
    if (t.isPunct "." || t.isPunct "?." || t.isPunct "::") && name.isIdent then
      match callOpen? name.span.stop after with
      | some isMacro =>
        let bracket := after.drop (callGap isMacro)
        let behind := fun k => callGap isMacro + (k + 1) + 2
        if room = 0 then some (room, op, (groupEnd 0 0 bracket).map behind)
        else
          let (args, close) := readGroup room bracket
          some (room - 1, .call ⟨name.text, some op, args⟩, close.map behind)
      | none => if op.isCall then some (room, op, some 2) else none
    else if t.isPunct "?" && op.isCall then some (room, op, some 1)
    else if t.isPunct "[" && !op.isLiteral then
      some (room, op, (groupEnd 0 0 (t :: name :: after)).map (· + 1))
    else none

def isLinkMark (t : Token) : Bool := t.isPunct "." || t.isPunct "?." || t.isPunct "::"

theorem isLinkMark_of_isPunct {t : Token} {mark : String} (h : t.isPunct mark = true)
    (hmark : mark ∉ [".", "?.", "::"]) : isLinkMark t = false := by
  simp only [Token.isPunct, Bool.and_eq_true, decide_eq_true_eq, beq_iff_eq] at h
  obtain ⟨hkind, rfl⟩ := h
  simpa [isLinkMark, Token.isPunct, hkind, and_assoc] using hmark

/-- What one link can be. A call makes a new operand when there is room for one more level and is only
passed over when there is none; the other links leave the operand as it is. -/
inductive Link (room : Nat) (op : Operand) : List Token → Nat → Operand → Option Nat → Prop where
  | call {mark name : Token} {after : List Token} {isMacro : Bool} (hmark : isLinkMark mark = true)
      (hname : name.kind = .ident) (hcall : callOpen? name.span.stop after = some isMacro)
      (hroom : room ≠ 0) :
      Link room op (mark :: name :: after) (room - 1)
        (.call ⟨name.text, some op, (readGroup room (after.drop (callGap isMacro))).1⟩)
        ((readGroup room (after.drop (callGap isMacro))).2.map fun k => callGap isMacro + (k + 1) + 2)
  | passedCall {mark name : Token} {after : List Token} {isMacro : Bool} (hmark : isLinkMark mark = true)
      (hname : name.kind = .ident) (hcall : callOpen? name.span.stop after = some isMacro)
      (hroom : room = 0) :
      Link room op (mark :: name :: after) room op
        ((groupEnd 0 0 (after.drop (callGap isMacro))).map fun k => callGap isMacro + (k + 1) + 2)
  | field {mark name : Token} {after : List Token} (hmark : isLinkMark mark = true)
      (hname : name.kind = .ident) (hcall : callOpen? name.span.stop after = none)
      (hop : op.isCall = true) : Link room op (mark :: name :: after) room op (some 2)
  | ask {mark : Token} {after : List Token} (hmark : mark.isPunct "?" = true) (hop : op.isCall = true) :
      Link room op (mark :: after) room op (some 1)
  | index {bracket : Token} {after : List Token} (hbracket : bracket.isPunct "[" = true)
      (hop : op.isLiteral = false) :
      Link room op (bracket :: after) room op ((groupEnd 0 0 (bracket :: after)).map (· + 1))

theorem link_of_readLink {room next : Nat} {op op' : Operand} {ts : List Token} {stop : Option Nat}
    (h : readLink room op ts = some (next, op', stop)) : Link room op ts next op' stop := by
  match ts with
  | [] => cases h
  | [t] =>
    rw [readLink] at h
    split at h
    next hask =>
      cases h
      exact .ask (Bool.and_eq_true_iff.mp hask).1 (Bool.and_eq_true_iff.mp hask).2
    next =>
      split at h
      next hindex =>
        simp only [Bool.and_eq_true, Bool.not_eq_true'] at hindex
        -- a bracket that is the last token is not closed
        have hend : groupEnd 0 0 [t] = none := by simp [groupEnd, Token.isOpen, hindex.1]
        have hlink : Link room op [t] room op ((groupEnd 0 0 [t]).map (· + 1)) :=
          .index hindex.1 hindex.2
        rw [hend] at hlink
        cases h
        exact hlink
      next => cases h
  | t :: name :: after =>
    rw [readLink] at h
    split at h
    next hlink =>
      simp only [Bool.and_eq_true, Token.isIdent, decide_eq_true_eq] at hlink
      obtain ⟨hmark, hname⟩ := hlink
      split at h
      next isMacro hcall =>
        dsimp only at h
        split at h
        next hroom =>
          cases h
          exact .passedCall hmark hname hcall hroom
        next hroom =>
          cases h
          exact .call hmark hname hcall hroom
      next hcall =>
        split at h
        next hop =>
          cases h
          exact .field hmark hname hcall hop
        next => cases h
    next =>
      split at h
      next hask =>
        cases h
        exact .ask (Bool.and_eq_true_iff.mp hask).1 (Bool.and_eq_true_iff.mp hask).2
      next =>
        split at h
        next hindex =>
          simp only [Bool.and_eq_true, Bool.not_eq_true'] at hindex
          cases h
          exact .index hindex.1 hindex.2
        next => cases h

theorem readLink_eq_some_iff {room next : Nat} {op op' : Operand} {ts : List Token} {stop : Option Nat} :
    readLink room op ts = some (next, op', stop) ↔ Link room op ts next op' stop := by
  refine ⟨link_of_readLink, ?_⟩
  intro h
  cases h with
  | call hmark hname hcall hroom =>
    rw [readLink, ← isLinkMark]
    simp [hmark, Token.isIdent, hname, hcall, hroom]
  | passedCall hmark hname hcall hroom =>
    rw [readLink, ← isLinkMark]
    simp [hmark, Token.isIdent, hname, hcall, hroom]
  | field hmark hname hcall hop =>
    rw [readLink, ← isLinkMark]
    simp [hmark, Token.isIdent, hname, hcall, hop]
  | @ask mark after hmark hop =>
    cases after with
    | nil => simp [readLink, hmark, hop]
    | cons name after =>
      rw [readLink, ← isLinkMark, isLinkMark_of_isPunct hmark (by decide)]
      simp [hmark, hop]
  | @index bracket after hbracket hop =>
    have hask : bracket.isPunct "?" = false := by
      simp only [Token.isPunct, Bool.and_eq_true, beq_iff_eq] at hbracket
      simp [Token.isPunct, hbracket.2]
    cases after with
    | nil => simp [readLink, hask, hbracket, hop, groupEnd, Token.isOpen]
    | cons name after =>
      rw [readLink, ← isLinkMark, isLinkMark_of_isPunct hbracket (by decide)]
      simp [hask, hbracket, hop]

theorem readLinks_eq_readLink (room : Nat) (op : Operand) (n : Nat) (ts : List Token) :
    readLinks room op n ts =
      match readLink room op ts with
      | none => (op, some n)
      | some (_, next, none) => (next, none)
      | some (room, next, some m) => readLinks room next (n + m) (ts.drop m) := by
  match ts with
  | [] => rw [readLinks, readLink]
  | [t] =>
    rw [readLinks, readLink]
    split
    · dsimp only
      rw [List.drop_one, List.tail_cons, readLinks]
    · split <;> rfl
  | t :: name :: after =>
    rw [readLinks, readLink]
    dsimp only
    split
    · cases callOpen? name.span.stop after with
      | none =>
        dsimp only
        split <;> rfl
      | some isMacro =>
        -- the distance behind the bracket is counted from the mark, not from the bracket
        have hbehind (room : Nat) (op : Operand) (k : Nat) :
            readLinks room op (n + 2 + callGap isMacro + k + 1)
                ((after.drop (callGap isMacro)).drop (k + 1)) =
              readLinks room op (n + (callGap isMacro + (k + 1) + 2))
                (after.drop (callGap isMacro + (k + 1))) := by
          rw [List.drop_drop]
          congr 1
          omega
        dsimp only
        split
        · cases groupEnd 0 0 (after.drop (callGap isMacro)) with
          | none => rfl
          | some k => exact hbehind _ _ k
        · cases (readGroup room (after.drop (callGap isMacro))).2 with
          | none => rfl
          | some k => exact hbehind _ _ k
    · split
      · rfl
      · split
        · cases groupEnd 0 0 (t :: name :: after) <;> rfl
        · rfl

def readWord (room : Nat) (t : Token) (rest : List Token) : Operand × Option Nat :=
  let path := DottedPath.read t rest
  let after := rest.drop (path.length - 1)
  match callOpen? path.last.span.stop after with
  | none =>
    let (op, stop) := readLinks room (.ident path.text) 0 after
    (op, stop.map (path.length - 1 + ·))
  | some isMacro =>
    let bracket := after.drop (callGap isMacro)
    let (args, close) := readGroup room bracket
    let call := Operand.call ⟨calleeText path.text isMacro, none, args⟩
    match close with
    | none => (call, none)
    | some k =>
      let (op, stop) := readLinks (room - 1) call 0 (bracket.drop (k + 1))
      (op, stop.map (path.length - 1 + callGap isMacro + (k + 1) + ·))

/-- One turn of reading: nothing when the expression ends before `t`, or else the draft with what starts
at `t`, and how many tokens of `rest` that takes. -/
def readTurn (room : Nat) (place : Place) (before : Option Token) (d : Draft) (t : Token)
    (rest : List Token) : Option (Draft × Option Nat) :=
  match t.kind with
  | .newline =>
    if place = .statement && breakEnds (d.last.or before) (firstSignificant rest) then none
    else some (d, some 0)
  | .punct =>
    if endsExpr t then none
    else if t.isOpen then
      let (items, close) := readGroup room (t :: rest)
      some (d.absorb items, close)
    else some (d.mark place t rest, some 0)
  | .literal interpolated =>
    let (op, stop) := readLinks room (.literal t.text interpolated) 0 rest
    some (d.push op, stop)
  | .number => some (d.push .constant, some 0)
  | .ident =>
    match plainWord? t rest d with
    | some d => some (d, some 0)
    | none =>
      let (op, stop) := readWord room t rest
      some (d.push op, stop)

theorem readDraft_eq_readTurn (room : Nat) (place : Place) (before : Option Token) (d : Draft) (n : Nat)
    (t : Token) (rest : List Token) :
    readDraft room place before d n (t :: rest) =
      match readTurn room place before d t rest with
      | none => (d, some n)
      | some (e, none) => (e.passed (t :: rest), none)
      | some (e, some m) =>
        readDraft room place before (e.passed (t :: rest.take m)) (n + m + 1) (rest.drop m) := by
  rw [readDraft, readTurn]
  dsimp only
  cases hkind : t.kind with
  | newline =>
    dsimp only
    split
    · rfl
    · dsimp only
      rw [List.take_zero, Draft.passed_newline hkind]
      rfl
  | punct =>
    dsimp only
    split
    · rfl
    · split
      · cases (readGroup room (t :: rest)).2 <;> rfl
      · rfl
  | literal interpolated =>
    dsimp only
    cases (readLinks room (.literal t.text interpolated) 0 rest).2 <;> rfl
  | number => rfl
  | ident =>
    dsimp only
    cases plainWord? t rest d with
    | some e => rfl
    | none =>
      dsimp only [readWord]
      cases callOpen? (DottedPath.read t rest).last.span.stop
        (rest.drop ((DottedPath.read t rest).length - 1)) with
      | none =>
        dsimp only
        cases (readLinks room (.ident (DottedPath.read t rest).text) 0
          (rest.drop ((DottedPath.read t rest).length - 1))).2 <;> rfl
      | some isMacro =>
        dsimp only
        cases (readGroup room ((rest.drop ((DottedPath.read t rest).length - 1)).drop
          (callGap isMacro))).2 with
        | none => rfl
        | some k =>
          dsimp only
          generalize readLinks (room - 1) _ 0 _ = links
          cases links.2 <;> rfl

theorem last_readTurn {room : Nat} {place : Place} {before : Option Token} {d e : Draft} {t : Token}
    {rest : List Token} {stop : Option Nat}
    (h : readTurn room place before d t rest = some (e, stop)) : e.last = d.last := by
  unfold readTurn at h
  split at h
  next =>
    split at h
    · cases h
    · cases h
      rfl
  next =>
    split at h
    · cases h
    · split at h
      · cases h
        rfl
      · cases h
        exact d.last_mark place t rest
  next =>
    cases h
    rfl
  next =>
    cases h
    rfl
  next =>
    split at h
    next hword =>
      cases h
      exact Draft.last_plainWord? hword
    next =>
      cases h
      rfl

/-- One step of reading: it stops, it runs out of tokens inside a bracket, or it passes `m` tokens
beyond the first and reads on. -/
theorem readDraft_cons (room : Nat) (place : Place) (before : Option Token) (d : Draft) (n : Nat)
    (t : Token) (rest : List Token) :
    readDraft room place before d n (t :: rest) = (d, some n) ∨
    ∃ e : Draft,
      (readDraft room place before d n (t :: rest) = (e.passed (t :: rest), none) ∨
      ∃ m, readDraft room place before d n (t :: rest) =
        readDraft room place before (e.passed (t :: rest.take m)) (n + m + 1) (rest.drop m)) ∧
      e.last = d.last := by
  rw [readDraft_eq_readTurn]
  cases hturn : readTurn room place before d t rest with
  | none => exact .inl rfl
  | some next =>
    obtain ⟨e, stop⟩ := next
    cases stop with
    | none => exact .inr ⟨e, .inl rfl, last_readTurn hturn⟩
    | some m => exact .inr ⟨e, .inr ⟨m, rfl⟩, last_readTurn hturn⟩

theorem continues_readDraft (room : Nat) (place : Place) (before : Option Token) (d : Draft)
    (n : Nat) (ts : List Token) :
    (readDraft room place before d n ts).1.Continues d ts := by
  induction hlen : ts.length using Nat.strongRecOn generalizing d n ts with
  | ind len ih =>
    subst hlen
    cases ts with
    | nil =>
      rw [readDraft]
      exact .inl rfl
    | cons t rest =>
      obtain h | ⟨e, h | ⟨m, h⟩, he⟩ := readDraft_cons room place before d n t rest
      · rw [h]
        exact .inl rfl
      · rw [h]
        exact .passed he (fun _ hu => hu)
      · rw [h]
        have hshort : (rest.drop m).length < (t :: rest).length := by
          rw [List.length_drop, List.length_cons]
          omega
        apply (ih _ hshort _ (n + m + 1) (rest.drop m) rfl).trans
        · exact fun u hu => List.mem_cons_of_mem t (List.drop_subset m rest hu)
        · exact .passed he (List.cons_subset_cons t (List.take_subset m rest))

theorem stop_span_read (place : Place) (depth : Nat) (before : Option Token) (ts : List Token) :
    (read place depth before ts).1.span.stop = 0 ∨
      ∃ t ∈ ts, (read place depth before ts).1.span.stop = t.span.stop := by
  have hlast := continues_readDraft (roomAt depth) place before {} 0 ts
  simp only [read, Draft.finish, Draft.span]
  split
  next first last _ hl =>
    obtain h | ⟨t, ht, h⟩ := hlast
    · rw [h] at hl
      cases hl
    · rw [h] at hl
      cases hl
      exact .inr ⟨last, ht, rfl⟩
  next => exact .inl rfl

/-! ### Counting from another start -/

theorem map_add_map (stop : Option Nat) (m n : Nat) :
    (stop.map (m + ·)).map (n + ·) = stop.map (n + m + ·) := by
  simp only [Option.map_map, Function.comp_def, Nat.add_assoc]

theorem groupEnd_eq_map (depth passed : Nat) (ts : List Token) :
    groupEnd depth passed ts = (groupEnd depth 0 ts).map (passed + ·) := by
  induction ts generalizing depth passed with
  | nil => rfl
  | cons t ts ih =>
    have hnext (depth : Nat) : groupEnd depth (passed + 1) ts =
        (groupEnd depth (0 + 1) ts).map (passed + ·) := by
      rw [ih depth (passed + 1), ih depth (0 + 1), map_add_map]
    rw [groupEnd, groupEnd]
    split
    · exact hnext (depth + 1)
    · split
      · split
        · rfl
        · exact hnext (depth - 1)
      · exact hnext depth

theorem pos_of_readLink {room next : Nat} {op op' : Operand} {ts : List Token} {m : Nat}
    (h : readLink room op ts = some (next, op', some m)) : 0 < m ∧ 0 < ts.length := by
  have hmap {stop : Option Nat} {f : Nat → Nat} (h : stop.map f = some m) (hf : ∀ k, 0 < f k) :
      0 < m := by
    obtain ⟨k, -, rfl⟩ := Option.map_eq_some_iff.mp h
    exact hf k
  rw [readLink_eq_some_iff] at h
  generalize hstop : some m = stop at h
  cases h with
  | call => exact ⟨hmap hstop.symm fun k => by omega, Nat.succ_pos _⟩
  | passedCall => exact ⟨hmap hstop.symm fun k => by omega, Nat.succ_pos _⟩
  | field =>
    cases hstop
    exact ⟨Nat.succ_pos _, Nat.succ_pos _⟩
  | ask =>
    cases hstop
    exact ⟨Nat.succ_pos _, Nat.succ_pos _⟩
  | index => exact ⟨hmap hstop.symm fun k => by omega, Nat.succ_pos _⟩

theorem readLinks_eq_map (room : Nat) (op : Operand) (n : Nat) (ts : List Token) :
    readLinks room op n ts = ((readLinks room op 0 ts).1, (readLinks room op 0 ts).2.map (n + ·)) := by
  induction hlen : ts.length using Nat.strongRecOn generalizing room op n ts with
  | ind len ih =>
    subst hlen
    rw [readLinks_eq_readLink room op n, readLinks_eq_readLink room op 0]
    match hlink : readLink room op ts with
    | none => rfl
    | some (_, _, none) => rfl
    | some (next, op', some m) =>
      obtain ⟨hm, hts⟩ := pos_of_readLink hlink
      have hshort : (ts.drop m).length < ts.length := by
        rw [List.length_drop]
        omega
      dsimp only
      rw [ih _ hshort next op' (n + m) _ rfl, ih _ hshort next op' (0 + m) _ rfl, map_add_map,
        Nat.zero_add]

theorem readDraft_eq_map (room : Nat) (place : Place) (before : Option Token) (d : Draft) (n : Nat)
    (ts : List Token) :
    readDraft room place before d n ts =
      ((readDraft room place before d 0 ts).1, (readDraft room place before d 0 ts).2.map (n + ·)) := by
  induction hlen : ts.length using Nat.strongRecOn generalizing d n ts with
  | ind len ih =>
    subst hlen
    cases ts with
    | nil =>
      rw [readDraft, readDraft]
      rfl
    | cons t rest =>
      rw [readDraft_eq_readTurn room place before d n, readDraft_eq_readTurn room place before d 0]
      obtain _ | ⟨e, _ | m⟩ := readTurn room place before d t rest
      · rfl
      · rfl
      · have hshort : (rest.drop m).length < (t :: rest).length := by
          rw [List.length_drop, List.length_cons]
          omega
        dsimp only
        rw [ih _ hshort _ (n + m + 1) _ rfl, ih _ hshort _ (0 + m + 1) _ rfl, map_add_map,
          Nat.zero_add, Nat.add_assoc]

theorem readItems_eq_map (room : Nat) (closer : String) (done : List Expr) (n : Nat)
    (ts : List Token) :
    readItems room closer done n ts =
      ((readItems room closer done 0 ts).1, (readItems room closer done 0 ts).2.map (n + ·)) := by
  induction hlen : ts.length using Nat.strongRecOn generalizing done n ts with
  | ind len ih =>
    subst hlen
    have hnext (done : List Expr) (m : Nat) (us : List Token) (hshort : us.length < ts.length) :
        readItems room closer done (n + m) us = ((readItems room closer done (0 + m) us).1,
          (readItems room closer done (0 + m) us).2.map (n + ·)) := by
      rw [ih _ hshort done (n + m) us rfl, ih _ hshort done (0 + m) us rfl, map_add_map, Nat.zero_add]
    cases ts with
    | nil =>
      rw [readItems, readItems]
      rfl
    | cons t rest =>
      rw [readItems, readItems]
      split
      · rfl
      · split
        · exact hnext done 1 rest (Nat.lt_succ_self _)
        · dsimp only
          cases (readDraft room .brackets none {} 0 (t :: rest)).2 with
          | none => rfl
          | some k =>
            apply hnext
            rw [List.length_drop, List.length_cons]
            omega

end SourceAudit.Expr
