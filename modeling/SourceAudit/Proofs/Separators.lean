import SourceAudit.Proofs.Brackets

/-! Where expressions end. A reader that passes whole brackets only sees every token outside of them, so it
stops at the first one that separates: a comma, a semicolon, a closing bracket or, in a statement, a line
break that ends it. -/
namespace SourceAudit.Expr

def isBalanced (ts : List Token) : Bool := ts.countP Token.isOpen == ts.countP Token.isClose

theorem isBalanced_append {ts us : List Token} (hts : isBalanced ts = true) (hus : isBalanced us = true) :
    isBalanced (ts ++ us) = true := by
  simp only [isBalanced, beq_iff_eq, List.countP_append] at *
  omega

theorem Nested.isBalanced {ts : List Token} (h : Nested ts) : isBalanced ts = true := by
  simp only [Expr.isBalanced, beq_iff_eq]
  induction h with
  | nil => rfl
  | plain hopen hclose _ ih => simp [hopen, hclose, ih]
  | @group o c inner rest hopen hcloses _ _ ihinner ihrest =>
    have hclose := Token.isClose_of_closes hcloses
    have ho : o.isClose = false := by
      by_contra h
      rw [Token.isOpen_eq_false_of_isClose (Bool.of_not_eq_false h)] at hopen
      cases hopen
    simp only [List.countP_cons, List.countP_append, hopen, ho, hclose,
      Token.isOpen_eq_false_of_isClose hclose, ihinner, ihrest, if_true, if_false, Bool.false_eq_true]
    omega

theorem Passes.isBalanced_take {ts : List Token} {n : Nat} (h : Passes ts n) (hts : Nested ts) :
    isBalanced (ts.take n) = true := by
  have hall := hts.isBalanced
  have hrest := h.nested_drop.isBalanced
  rw [← List.take_append_drop n ts] at hall
  simp only [isBalanced, beq_iff_eq, List.countP_append] at *
  omega

/-- The first of the tokens separates what is in front of it from what is behind it. The last token in front
of it that is no line break is `before`. -/
def separates (place : Place) (before : Option Token) : List Token → Bool
  | [] => false
  | t :: rest =>
    t.isPunct "," || t.isPunct ";" || t.isClose ||
      (t.isNewline && decide (place = .statement) && breakEnds before (firstSignificant rest))

theorem halts_of_isNewline {t : Token} (h : t.isNewline = true) (rest : List Token) : Halts (t :: rest) := by
  have hkind : t.kind = .newline := of_decide_eq_true h
  intro k hk
  obtain rfl : t = k := by simpa using hk
  simp [Token.isIdent, Token.isOpen, Token.isPunct, hkind]

theorem halts_of_isPunct {t : Token} {mark : String} (h : t.isPunct mark = true)
    (hmark : mark ∉ ["(", "[", "\x7b", ".", "?.", "::", "->", "?", "!"]) (rest : List Token) :
    Halts (t :: rest) := by
  simp only [Token.isPunct, Bool.and_eq_true, decide_eq_true_eq, beq_iff_eq] at h
  simp only [List.mem_cons, List.not_mem_nil, or_false, not_or] at hmark
  intro k hk
  obtain rfl : t = k := by simpa using hk
  simp [Token.isIdent, Token.isOpen, Token.isPunct, h, hmark]

theorem halts_of_separates {place : Place} {before : Option Token} {ts : List Token}
    (h : separates place before ts = true) : Halts ts := by
  cases ts with
  | nil => cases h
  | cons t rest =>
    simp only [separates, Bool.or_eq_true, Bool.and_eq_true] at h
    obtain ((hcomma | hsemicolon) | hclose) | ⟨⟨hnewline, -⟩, -⟩ := h
    · exact halts_of_isPunct hcomma (by decide) rest
    · exact halts_of_isPunct hsemicolon (by decide) rest
    · exact .of_isClose hclose
    · exact halts_of_isNewline hnewline rest

theorem readTurn_eq_none_iff {room : Nat} {place : Place} {before : Option Token} {d : Draft} {t : Token}
    {rest : List Token} :
    readTurn room place before d t rest = none ↔ separates place (d.last.or before) (t :: rest) = true := by
  have hplain (hpunct : t.kind ≠ .punct) (hnewline : t.kind ≠ .newline) :
      separates place (d.last.or before) (t :: rest) = false := by
    simp [separates, Token.isPunct, Token.isClose, Token.isNewline, hpunct, hnewline]
  unfold readTurn
  cases hkind : t.kind with
  | newline =>
    have hseparates : separates place (d.last.or before) (t :: rest) =
        (decide (place = .statement) && breakEnds (d.last.or before) (firstSignificant rest)) := by
      simp [separates, Token.isPunct, Token.isClose, Token.isNewline, hkind]
    rw [hseparates]
    simp
  | punct =>
    have hseparates : separates place (d.last.or before) (t :: rest) = endsExpr t := by
      simp [separates, endsExpr, Token.isNewline, hkind]
    rw [hseparates]
    dsimp only
    split
    next hends => simp [hends]
    next hends =>
      simp only [hends]
      split <;> simp
  | literal | number => simp [hplain, hkind]
  | ident =>
    simp only [hplain, hkind, ne_eq, reduceCtorEq, not_false_eq_true, Bool.false_eq_true, iff_false]
    split <;> simp

theorem lastSignificant_or (last before : Option Token) (ts : List Token) :
    (lastSignificant last ts).or before = lastSignificant (last.or before) ts := by
  rw [lastSignificant_eq_or, lastSignificant_eq_or (last.or before), Option.or_assoc]

theorem stop_readDraft (room : Nat) (place : Place) (before : Option Token) (d : Draft)
    {ts rest : List Token} (hts : Nested ts)
    (hinside : ∀ n < ts.length, isBalanced (ts.take n) = true →
      separates place (lastSignificant (d.last.or before) (ts.take n)) (ts.drop n ++ rest) = false)
    (hend : rest = [] ∨ separates place (lastSignificant (d.last.or before) ts) rest = true) :
    (readDraft room place before d 0 (ts ++ rest)).2 = some ts.length := by
  have hrest : Halts rest := by
    obtain rfl | hseparates := hend
    · exact fun _ hk => nomatch hk
    · exact halts_of_separates hseparates
  induction hlen : ts.length using Nat.strongRecOn generalizing d ts with
  | ind len ih =>
    subst hlen
    cases ts with
    | nil =>
      cases rest with
      | nil =>
        rw [List.append_nil, readDraft]
        rfl
      | cons k rest =>
        have hseparates := hend.resolve_left (List.cons_ne_nil k rest)
        rw [List.nil_append, readDraft_eq_readTurn, readTurn_eq_none_iff.mpr hseparates]
        rfl
    | cons t ts =>
      rw [List.cons_append, readDraft_eq_readTurn]
      cases hturn : readTurn room place before d t (ts ++ rest) with
      | none =>
        have hfree := hinside 0 (Nat.succ_pos _) rfl
        rw [List.take_zero, List.drop_zero] at hfree
        exact absurd (readTurn_eq_none_iff.mp hturn) (Bool.eq_false_iff.mp hfree)
      | some next =>
        obtain ⟨e, stop⟩ := next
        obtain ⟨m, rfl, hm⟩ := passes_readTurn (groupsClose _) hrest hts (Nat.lt_succ_self _) hturn
        have hle : m ≤ ts.length := Nat.le_of_succ_le_succ hm.le_length
        have hleft : Nested (ts.drop m) := hm.nested_drop
        -- what the turn has passed is balanced, and the draft remembers its last token
        have hpassed : isBalanced (t :: ts.take m) = true := hm.isBalanced_take hts
        have hlast (us : List Token) :
            lastSignificant ((e.passed (t :: (ts ++ rest).take m)).last.or before) us =
              lastSignificant (d.last.or before) (t :: ts.take m ++ us) := by
          rw [Draft.passed, List.take_append_of_le_length hle, lastSignificant_or, last_readTurn hturn,
            lastSignificant_append]
        have hshort : (ts.drop m).length < (t :: ts).length := by
          rw [List.length_drop, List.length_cons]
          omega
        have hstop := ih _ hshort (e.passed (t :: (ts ++ rest).take m)) hleft ?_ ?_ rfl
        · dsimp only
          rw [List.drop_append_of_le_length hle, readDraft_eq_map, hstop]
          simp only [Option.map_some, List.length_drop, List.length_cons, Option.some.injEq]
          omega
        · intro n hn hbalanced
          have htake : (t :: ts).take (m + n + 1) = t :: ts.take m ++ (ts.drop m).take n := by
            rw [List.take_succ_cons, List.take_add]
            rfl
          have hdrop : (t :: ts).drop (m + n + 1) = (ts.drop m).drop n := by
            rw [List.drop_succ_cons, List.drop_drop]
          have hfree := hinside (m + n + 1) (by rw [List.length_drop] at hn; rw [List.length_cons]; omega)
          rw [htake, hdrop] at hfree
          rw [hlast]
          exact hfree (isBalanced_append hpassed hbalanced)
        · rw [hlast, List.cons_append, List.take_append_drop]
          exact hend

namespace Cursor

variable (ts : Array Token)

/-- The token at `i` is outside of all brackets that were opened since `start`, and separates. -/
def separatesAt (place : Place) (start i : Nat) : Bool :=
  isBalanced (between ts start i) &&
    separates place (lastSignificant none (ts.toList.take i)) (ts.toList.drop i)

def separatorFrom (place : Place) (start : Nat) : Nat :=
  ((List.range' start (ts.size - start)).find? (separatesAt ts place start)).getD ts.size

theorem separatorFrom_spec (place : Place) {start : Nat} (hle : start ≤ ts.size) :
    start ≤ separatorFrom ts place start ∧ separatorFrom ts place start ≤ ts.size ∧
    (∀ i, start ≤ i → i < separatorFrom ts place start → separatesAt ts place start i = false) ∧
    (separatorFrom ts place start = ts.size ∨
      separatesAt ts place start (separatorFrom ts place start) = true) := by
  unfold separatorFrom
  cases hfind : (List.range' start (ts.size - start)).find? (separatesAt ts place start) with
  | none =>
    refine ⟨hle, Nat.le_refl _, ?_, .inl rfl⟩
    intro i hstart hi
    have hnone := List.find?_range'_eq_none.mp hfind i hstart (by rw [Option.getD_none] at hi; omega)
    simpa using hnone
  | some e =>
    obtain ⟨hseparates, hmem, hfirst⟩ := List.find?_range'_eq_some.mp hfind
    obtain ⟨hstart, hend⟩ := List.mem_range'_1.mp hmem
    refine ⟨hstart, ?_, ?_, .inr hseparates⟩
    · rw [Option.getD_some]
      omega
    · intro i hi hlt
      simpa using hfirst i hi hlt

theorem length_between {start stop : Nat} (hstop : stop ≤ ts.size) :
    (between ts start stop).length = stop - start := by
  rw [between, List.length_take, List.length_drop, Array.length_toList]
  omega

theorem take_between {start stop n : Nat} (h : n ≤ stop - start) :
    (between ts start stop).take n = between ts start (start + n) := by
  rw [between, between, List.take_take, Nat.add_sub_cancel_left, Nat.min_eq_left h]

theorem drop_between_append {start stop n : Nat} (hle : start ≤ stop)
    (h : n ≤ (between ts start stop).length) :
    (between ts start stop).drop n ++ ts.toList.drop stop = ts.toList.drop (start + n) := by
  rw [← List.drop_append_of_le_length h, between_rest ts hle, List.drop_drop]

/-- Whatever the depth, an expression ends at the first separator outside of all brackets opened since its
start, or at the end of the tokens, if up to there every bracket is closed by one of its own kind. -/
theorem expr_ends_at_first_separator (place : Place) (depth : Nat) {start : Nat} (hle : start ≤ ts.size)
    (hnested : Nested (between ts start (separatorFrom ts place start))) :
    ∃ e : Expr,
      (∀ steps, 5 * (ts.size + 1) ≤ steps →
        (exprAt ts steps place depth start).run = some (.ok (e, separatorFrom ts place start))) ∧
      read place depth (lastSignificant none (ts.toList.take start)) (ts.toList.drop start) =
        (e, some (separatorFrom ts place start - start)) := by
  obtain ⟨hstart, hend, hfirst, hlast⟩ := separatorFrom_spec ts place hle
  generalize separatorFrom ts place start = stop at *
  have hlength : (between ts start stop).length = stop - start := length_between ts hend
  let before := lastSignificant none (ts.toList.take start)
  have hseen {i : Nat} (hi : start ≤ i) :
      lastSignificant before (between ts start i) = lastSignificant none (ts.toList.take i) := by
    rw [← take_append_between ts hi, lastSignificant_append]
  have hstop : (read place depth before (ts.toList.drop start)).2 = some (stop - start) := by
    change (readDraft (roomAt depth) place before {} 0 (ts.toList.drop start)).2 = _
    rw [← between_rest ts hstart, ← hlength]
    apply stop_readDraft _ _ _ _ hnested
    · intro n hn hbalanced
      rw [drop_between_append ts hstart (Nat.le_of_lt hn)]
      rw [hlength] at hn
      rw [take_between ts (Nat.le_of_lt hn)] at hbalanced ⊢
      have hfree := hfirst (start + n) (Nat.le_add_right _ _) (by omega)
      rw [separatesAt, hbalanced, Bool.true_and] at hfree
      exact (hseen (Nat.le_add_right _ _)).symm ▸ hfree
    · obtain hsize | hseparates := hlast
      · left
        rw [hsize, ← Array.length_toList, List.drop_length]
      · right
        exact (hseen hstart).symm ▸ (Bool.and_eq_true_iff.mp hseparates).2
  obtain ⟨j, hat, hland⟩ := exists_landing (fun steps hsteps =>
    exprAt_agrees_read ts steps place depth start hle hsteps)
  rw [hstop] at hland
  obtain rfl : j = stop := by
    have := hland.2.1
    omega
  exact ⟨_, hat, Prod.ext rfl hstop⟩

theorem expr_ends_at_first_separator_two_breaks :
    let ts := tokenize .javaScript "f(a,\nb)\n.c;d"
    separatorFrom ts .statement 0 = 10 ∧ Nested (between ts 0 10) ∧
      ∀ depth, ∃ e, ∀ steps, 65 ≤ steps → (exprAt ts steps .statement depth 0).run = some (.ok (e, 10)) := by
  intro ts
  have hstop : separatorFrom ts .statement 0 = 10 := by decide +kernel
  have hsize : ts.size = 12 := by decide +kernel
  have htokens : between ts 0 10 =
      [⟨.ident, "f", ⟨0, 1⟩, 1, 1⟩, ⟨.punct, "(", ⟨1, 2⟩, 1, 2⟩, ⟨.ident, "a", ⟨2, 3⟩, 1, 3⟩,
        ⟨.punct, ",", ⟨3, 4⟩, 1, 4⟩, ⟨.newline, "\n", ⟨4, 5⟩, 1, 5⟩, ⟨.ident, "b", ⟨5, 6⟩, 2, 1⟩,
        ⟨.punct, ")", ⟨6, 7⟩, 2, 2⟩, ⟨.newline, "\n", ⟨7, 8⟩, 2, 3⟩, ⟨.punct, ".", ⟨8, 9⟩, 3, 1⟩,
        ⟨.ident, "c", ⟨9, 10⟩, 3, 2⟩] := by
    decide +kernel
  have hnested : Nested (between ts 0 10) := by
    rw [htokens]
    apply Nested.plain rfl rfl
    refine @Nested.group _ _ [_, _, _, _] _ rfl ?_ ?_ ?_
    · rfl
    · exact .plain rfl rfl (.plain rfl rfl (.plain rfl rfl (.plain rfl rfl .nil)))
    · exact .plain rfl rfl (.plain rfl rfl (.plain rfl rfl .nil))
  refine ⟨hstop, hnested, fun depth => ?_⟩
  obtain ⟨e, hat, -⟩ := expr_ends_at_first_separator ts .statement depth (Nat.zero_le _) (hstop ▸ hnested)
  rw [hsize, hstop] at hat
  exact ⟨e, hat⟩

end Cursor
end SourceAudit.Expr
