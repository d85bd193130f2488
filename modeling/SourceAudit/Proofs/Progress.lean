import SourceAudit.Proofs.Cursor
import SourceAudit.Token.Lexer

/-! The cursor always arrives. Reading by index takes the same turns as reading off a list: it ends, it
looks at no index that is not there, and it never comes further than one past the end. -/
namespace SourceAudit.Expr.Cursor

variable (ts : Array Token)

/-- What the cursor knows of a draft is all but its last token, which follows from where it stands. -/
def DraftAgrees (start i : Nat) (read : Draft × Option Nat) (reading : Reading (Draft × Nat)) :
    Prop :=
  ∃ d j, reading = pure (d, j) ∧ read.1 = d.passed (between ts start j) ∧
    Lands (ts.size + 1) start i read.2 j

def TurnAgrees (taken : List Token) (i : Nat) :
    Option (Draft × Option Nat) → Reading (Option (Draft × Nat)) → Prop
  | none, reading => reading = pure none
  | some (e, stop), reading => ∃ d j, reading = pure (some (d, j)) ∧ e = d.passed taken ∧
    d.last = none ∧ Lands (ts.size + 1) (i + 1) (i + 1) stop j

def LinkAgrees (i : Nat) :
    Option (Nat × Operand × Option Nat) → Reading (Option (Nat × Operand × Nat)) → Prop
  | none, reading => reading = pure none
  | some (room, op, stop), reading => ∃ depth j, reading = pure (some (depth, op, j)) ∧
    room = roomAt depth ∧ Lands (ts.size + 1) i (i + 1) stop j

theorem linksAt_past_end {steps : Nat} (hsteps : 1 < steps) (depth : Nat) (op : Operand) {i : Nat}
    (h : ts.size ≤ i) : linksAt ts steps depth op i = pure (op, i) := by
  obtain ⟨steps, rfl⟩ : ∃ k, steps = k + 2 := ⟨steps - 2, by omega⟩
  rw [linksAt, linkAt, Array.getElem?_eq_none h, pure_bind]

theorem draftAt_past_end {steps : Nat} (hsteps : 0 < steps) (place : Place) (depth : Nat) (d : Draft)
    {i : Nat} (h : ts.size ≤ i) : draftAt ts steps place depth d i = pure (d, i) := by
  obtain ⟨steps, rfl⟩ := Nat.exists_eq_add_one_of_ne_zero (Nat.ne_zero_of_lt hsteps)
  rw [draftAt, if_neg (Nat.not_lt.mpr h)]

theorem itemsAt_past_end {steps : Nat} (hsteps : 0 < steps) (depth : Nat) (closer : String)
    (done : List Expr) {i : Nat} (h : ts.size ≤ i) :
    itemsAt ts steps depth closer done i = pure (done.reverse, ts.size) := by
  obtain ⟨steps, rfl⟩ := Nat.exists_eq_add_one_of_ne_zero (Nat.ne_zero_of_lt hsteps)
  rw [itemsAt, if_neg (Nat.not_lt.mpr h)]

theorem exprAt_agrees {steps : Nat} {place : Place} {depth start : Nat} {read : Draft × Option Nat}
    (hle : start ≤ ts.size)
    (h : DraftAgrees ts start start read (draftAt ts steps place depth {} start)) :
    Agrees (ts.size + 1) start start (read.1.finish ts[start]?, read.2)
      (exprAt ts (steps + 1) place depth start) := by
  obtain ⟨d, stop, hdraft, hread, hland⟩ := h
  have hstop := hland.bounds.1
  have hrange : start ≤ min stop ts.size ∧ min stop ts.size ≤ ts.size := by omega
  have htaken : stretch ts start (min stop ts.size) = pure (between ts start stop) := by
    rw [stretch, if_pos hrange]
    by_cases hover : stop ≤ ts.size
    · rw [Nat.min_eq_left hover]
    · have hover := Nat.le_of_not_le hover
      rw [Nat.min_eq_right hover, between_of_size_le ts hover, between_of_size_le ts (Nat.le_refl _)]
  refine ⟨stop, ?_, hland⟩
  rw [exprAt, hdraft, pure_bind]
  dsimp only
  rw [htaken, pure_bind, hread]

/-- The line break at `i` ends the expression for the cursor, which looks back over all tokens, when it
does so for the draft, which knows its own last token and the one before its start. -/
theorem breakEnds_passed {place : Place} {before : Option Token} {d : Draft} {start i : Nat}
    (hle : start ≤ i) (hlast : d.last = none)
    (hbefore : place = .statement → before = lastSignificant none (ts.toList.take start))
    (next : Option Token) :
    (decide (place = .statement) &&
        breakEnds ((d.passed (between ts start i)).last.or before) next) =
      (decide (place = .statement) &&
        breakEnds (lastSignificant none (ts.toList.take i)) next) := by
  by_cases hplace : place = .statement
  · have hown : (d.passed (between ts start i)).last = lastSignificant none (between ts start i) := by
      rw [Draft.passed, hlast]
    rw [hown, hbefore hplace, ← take_append_between ts hle, lastSignificant_append,
      lastSignificant_eq_or (lastSignificant none (ts.toList.take start))]
  · simp only [hplace, decide_false, Bool.false_and]

-- The steps that are needed go by the number of tokens that are left. A bracket, a name and a link pass
-- at least the token they start with; the others only call one of these at the same place.
mutual

theorem argsAt_agrees (steps depth i : Nat) (t : Token) (rest : List Token)
    (h : ts.toList.drop i = t :: rest) (hopen : t.isOpen = true)
    (hsteps : 5 * (rest.length + 1) < steps) :
    Agrees ts.size i (i + 1) (readGroup (roomAt depth) (t :: rest)) (argsAt ts steps depth i) := by
  obtain ⟨steps, rfl⟩ := Nat.exists_eq_add_one_of_ne_zero (Nat.ne_zero_of_lt hsteps)
  by_cases hdepth : maxNesting ≤ depth
  · have hroom : roomAt depth = 0 := Nat.sub_eq_zero_of_le hdepth
    obtain ⟨close, hclose, hland⟩ := groupEndAt_of_open ts h hopen (show _ < steps by omega)
    rw [argsAt, if_pos hdepth, hclose, pure_bind, hroom, readGroup]
    · exact ⟨close, rfl, hland⟩
    · exact List.cons_ne_nil t rest
  · have hroom : roomAt depth = roomAt (depth + 1) + 1 := by
      unfold roomAt
      omega
    rw [argsAt, if_neg hdepth, tokenAt_of_drop h, pure_bind, hroom, readGroup]
    exact itemsAt_agrees steps depth (Token.closerOf t.text) [] i 1 rest (drop_add_of_drop h 0)
      (lt_size_of_drop h) (by omega)
termination_by steps

theorem itemsAt_agrees (steps depth : Nat) (closer : String) (done : List Expr) (base n : Nat)
    (us : List Token) (h : ts.toList.drop (base + n) = us) (hle : base + n ≤ ts.size)
    (hsteps : 5 * us.length + 4 < steps) :
    Agrees ts.size base (base + n) (readItems (roomAt (depth + 1)) closer done n us)
      (itemsAt ts steps depth closer done (base + n)) := by
  match us with
  | [] =>
    rw [itemsAt_past_end ts (Nat.zero_lt_of_lt hsteps) depth closer done (size_le_of_drop h), readItems]
    exact ⟨_, rfl, hle, rfl⟩
  | t :: rest =>
    rw [List.length_cons] at hsteps
    obtain ⟨steps, rfl⟩ : ∃ k, steps = k + 2 := ⟨steps - 2, by omega⟩
    have hlt := lt_size_of_drop h
    rw [itemsAt, if_pos hlt, tokenAt_of_drop h, pure_bind, readItems]
    by_cases hclose : t.isPunct closer = true
    · rw [if_pos hclose, if_pos hclose]
      exact ⟨_, rfl, Nat.le_refl _, rfl, hlt⟩
    by_cases hskip : (t.isPunct "," || t.isPunct ";" || t.isNewline) = true
    · rw [if_neg hclose, if_neg hclose, if_pos hskip, if_pos hskip]
      exact (itemsAt_agrees (steps + 1) depth closer done base (n + 1) rest (drop_add_of_drop h 0) hlt
        (by omega)).mono (Nat.le_succ _)
    rw [if_neg hclose, if_neg hclose, if_neg hskip, if_neg hskip]
    have hdraft := draftAt_agrees steps .brackets (depth + 1) none {} (base + n) 0 (t :: rest) h hle
      rfl nofun (by rw [List.length_cons]; omega)
    rw [passed_between_self] at hdraft
    obtain ⟨j, hexpr, hland⟩ := exprAt_agrees ts hle hdraft
    rw [hexpr, pure_bind, getElem?_of_drop h]
    generalize readDraft (roomAt (depth + 1)) .brackets none {} 0 (t :: rest) = read at hland ⊢
    obtain ⟨draft, stop⟩ := read
    dsimp only at hland ⊢
    generalize (if (draft.finish (some t)).isEmpty && (draft.finish (some t)).keyword.isNone then done
      else draft.finish (some t) :: done) = done
    cases stop with
    | none =>
      obtain ⟨-, rfl⟩ := hland
      rw [if_neg (by omega), itemsAt_past_end ts (Nat.succ_pos steps) depth closer done (Nat.le_succ _)]
      exact ⟨_, rfl, hle, rfl⟩
    | some k =>
      obtain ⟨-, rfl, hover⟩ := hland
      have hnext : (if base + n + k = base + n then base + n + 1 else base + n + k) =
          base + (n + max k 1) := by
        split <;> omega
      have hrest : ts.toList.drop (base + (n + max k 1)) = rest.drop (k - 1) := by
        rw [← drop_add_of_drop h]
        congr 1
        omega
      rw [hnext]
      exact (itemsAt_agrees (steps + 1) depth closer done base _ _ hrest (by omega)
        (by rw [List.length_drop]; omega)).mono (by omega)
termination_by steps

theorem draftAt_agrees (steps : Nat) (place : Place) (depth : Nat) (before : Option Token) (d : Draft)
    (start n : Nat) (us : List Token) (h : ts.toList.drop (start + n) = us)
    (hle : start + n ≤ ts.size) (hlast : d.last = none)
    (hbefore : place = .statement → before = lastSignificant none (ts.toList.take start))
    (hsteps : 5 * us.length + 2 < steps) :
    DraftAgrees ts start (start + n)
      (readDraft (roomAt depth) place before (d.passed (between ts start (start + n))) n us)
      (draftAt ts steps place depth d (start + n)) := by
  have hstart : start ≤ start + n := Nat.le_add_right start n
  match us with
  | [] =>
    rw [draftAt_past_end ts (Nat.zero_lt_of_lt hsteps) place depth d (size_le_of_drop h), readDraft]
    exact ⟨d, _, rfl, rfl, Nat.le_refl _, rfl, by omega⟩
  | t :: rest =>
    rw [List.length_cons] at hsteps
    obtain ⟨steps, rfl⟩ := Nat.exists_eq_add_one_of_ne_zero (Nat.ne_zero_of_lt hsteps)
    have hturn := turnAt_agrees steps place depth before d start (start + n) t rest h hstart hlast
      hbefore (by omega)
    rw [draftAt, if_pos (lt_size_of_drop h), readDraft_eq_readTurn]
    cases hread : readTurn (roomAt depth) place before (d.passed (between ts start (start + n))) t
      rest with
    | none =>
      rw [hread] at hturn
      rw [show turnAt ts steps place depth d (start + n) = pure none from hturn, pure_bind]
      exact ⟨d, _, rfl, rfl, Nat.le_refl _, rfl, by omega⟩
    | some next =>
      obtain ⟨e, stop⟩ := next
      rw [hread] at hturn
      obtain ⟨d', j, hat, rfl, hlast', hland⟩ := hturn
      rw [hat, pure_bind]
      cases stop with
      | none =>
        obtain ⟨-, rfl⟩ := hland
        refine ⟨d', _, draftAt_past_end ts (by omega) place depth d' (Nat.le_succ _), ?_, by omega, rfl⟩
        dsimp only
        rw [← Draft.passed_append, ← h, between_rest ts hstart,
          between_of_size_le ts (Nat.le_succ _)]
      | some m =>
        obtain ⟨-, hj, hover⟩ := hland
        have hindex : start + n + m + 1 = start + (n + m + 1) := by omega
        have hrest := drop_add_of_drop h m
        obtain rfl : j = start + (n + m + 1) := by omega
        dsimp only
        rw [← Draft.passed_append, between_next ts hstart h m, hindex]
        rw [hindex] at hrest
        obtain ⟨e, stop, hat, hread, hland⟩ := draftAt_agrees steps place depth before d' start
          (n + m + 1) (rest.drop m) hrest (by omega) hlast' hbefore (by rw [List.length_drop]; omega)
        exact ⟨e, stop, hat, hread, hland.mono (by omega)⟩
termination_by steps

theorem turnAt_agrees (steps : Nat) (place : Place) (depth : Nat) (before : Option Token) (d : Draft)
    (start i : Nat) (t : Token) (rest : List Token) (h : ts.toList.drop i = t :: rest)
    (hle : start ≤ i) (hlast : d.last = none)
    (hbefore : place = .statement → before = lastSignificant none (ts.toList.take start))
    (hsteps : 5 * (rest.length + 1) + 1 < steps) :
    TurnAgrees ts (between ts start i) i
      (readTurn (roomAt depth) place before (d.passed (between ts start i)) t rest)
      (turnAt ts steps place depth d i) := by
  obtain ⟨steps, rfl⟩ := Nat.exists_eq_add_one_of_ne_zero (Nat.ne_zero_of_lt hsteps)
  have hlt := lt_size_of_drop h
  rw [turnAt, tokenAt_of_drop h, pure_bind, behind_of_drop h, readTurn]
  cases hkind : t.kind with
  | newline =>
    dsimp only
    rw [breakEndsAt_of_lt place hlt, pure_bind, behind_of_drop h,
      breakEnds_passed ts hle hlast hbefore]
    split
    · rfl
    · exact ⟨d, i + 1, rfl, rfl, hlast, Nat.le_refl _, rfl, by omega⟩
  | punct =>
    dsimp only
    split
    · rfl
    · split
      next hopen =>
        obtain ⟨close, hargs, hland⟩ := argsAt_agrees steps depth i t rest h hopen (by omega)
        rw [hargs, pure_bind]
        exact ⟨d.absorb _, close + 1, rfl, rfl, hlast, hland.next.mono (Nat.le_succ _)⟩
      next =>
        rw [Draft.mark_passed]
        exact ⟨d.mark place t rest, i + 1, rfl, rfl, (d.last_mark place t rest).trans hlast,
          Nat.le_refl _, rfl, by omega⟩
  | literal interpolated =>
    obtain ⟨stop, hlinks, hland⟩ := linksAt_agrees steps depth (.literal t.text interpolated) (i + 1) 0
      rest (drop_add_of_drop h 0) hlt (by omega)
    dsimp only
    rw [Nat.add_zero] at hlinks
    rw [hlinks, pure_bind]
    exact ⟨d.push _, stop, rfl, rfl, hlast, hland⟩
  | number => exact ⟨d.push .constant, i + 1, rfl, rfl, hlast, Nat.le_refl _, rfl, by omega⟩
  | ident =>
    dsimp only
    rw [plainWord?_passed]
    cases hword : plainWord? t rest d with
    | some e =>
      exact ⟨e, i + 1, rfl, rfl, (Draft.last_plainWord? hword).trans hlast, Nat.le_refl _, rfl,
        by omega⟩
    | none =>
      obtain ⟨stop, hat, hland⟩ := wordAt_agrees steps depth i t rest h (by omega)
      dsimp only [Option.map_none]
      rw [hat, pure_bind]
      exact ⟨d.push _, stop, rfl, rfl, hlast, hland⟩
termination_by steps

theorem wordAt_agrees (steps depth i : Nat) (t : Token) (rest : List Token)
    (h : ts.toList.drop i = t :: rest) (hsteps : 5 * (rest.length + 1) < steps) :
    Agrees (ts.size + 1) (i + 1) (i + 1) (readWord (roomAt depth) t rest) (wordAt ts steps depth i) := by
  obtain ⟨steps, rfl⟩ := Nat.exists_eq_add_one_of_ne_zero (Nat.ne_zero_of_lt hsteps)
  -- of the path only its last token and the number `m` of its further tokens matter
  have hlength : (DottedPath.read t rest).length - 1 = 2 * (segments rest).length :=
    Nat.add_sub_cancel_left ..
  have hname : ts[i + 2 * (segments rest).length]? = some (DottedPath.read t rest).last :=
    getElem?_getLastD_segments i rest (getElem?_of_drop h) (drop_add_of_drop h 0)
  rw [wordAt, pathAt_of_drop h (show _ < steps by omega), pure_bind, readWord]
  dsimp only
  rw [hlength]
  generalize DottedPath.read t rest = path at hname ⊢
  generalize 2 * (segments rest).length = m at hname ⊢
  have hsize : i + m < ts.size := (Array.getElem?_eq_some_iff.mp hname).1
  have hafter := drop_add_of_drop h m
  have hshort : (rest.drop m).length ≤ rest.length := (List.drop_sublist m rest).length_le
  rw [callOpenAt?_of_drop hname hafter, pure_bind]
  generalize rest.drop m = after at hafter hshort ⊢
  cases hcall : callOpen? path.last.span.stop after with
  | none =>
    obtain ⟨stop, hlinks, hland⟩ := linksAt_agrees steps depth (.ident path.text) (i + m + 1) 0 after
      hafter hsize (by omega)
    exact ⟨stop, hlinks, (hland.map (fun k => by omega)).mono (by omega)⟩
  | some isMacro =>
    obtain ⟨b, inside, hb, hopen, hinside⟩ := exists_open_of_callOpen? hcall
    have hbracket : ts.toList.drop (i + m + 1 + callGap isMacro) = b :: inside := by
      rw [← List.drop_drop, hafter, hb]
    obtain ⟨close, hargs, hland⟩ := argsAt_agrees steps depth _ b inside hbracket hopen (by omega)
    dsimp only [Option.map_some]
    rw [hargs, pure_bind, hb]
    dsimp only
    generalize Operand.call ⟨calleeText path.text isMacro, none,
      (readGroup (roomAt depth) (b :: inside)).1⟩ = call
    cases hstop : (readGroup (roomAt depth) (b :: inside)).2 with
    | none =>
      rw [hstop] at hland
      obtain ⟨-, rfl⟩ := hland
      exact ⟨_, linksAt_past_end ts (by omega) (depth + 1) call (Nat.le_succ _), by omega, rfl⟩
    | some k =>
      rw [hstop] at hland
      obtain ⟨-, rfl, hlt⟩ := hland
      obtain ⟨stop, hlinks, hland⟩ := linksAt_agrees steps (depth + 1) call _ 0 (inside.drop k)
        (drop_add_of_drop hbracket k) hlt (by rw [List.length_drop]; omega)
      exact ⟨stop, hlinks, (hland.map (fun j => by omega)).mono (by omega)⟩
termination_by steps

theorem linksAt_agrees (steps depth : Nat) (op : Operand) (base n : Nat) (us : List Token)
    (h : ts.toList.drop (base + n) = us) (hle : base + n ≤ ts.size)
    (hsteps : 5 * us.length + 1 < steps) :
    Agrees (ts.size + 1) base (base + n) (readLinks (roomAt depth) op n us)
      (linksAt ts steps depth op (base + n)) := by
  obtain ⟨steps, rfl⟩ := Nat.exists_eq_add_one_of_ne_zero (Nat.ne_zero_of_lt hsteps)
  have hlink := linkAt_agrees steps depth op (base + n) us h (by omega)
  rw [linksAt, readLinks_eq_readLink]
  cases hread : readLink (roomAt depth) op us with
  | none =>
    rw [hread] at hlink
    rw [show linkAt ts steps depth op (base + n) = pure none from hlink, pure_bind]
    exact ⟨_, rfl, Nat.le_refl _, rfl, by omega⟩
  | some next =>
    obtain ⟨room, op', stop⟩ := next
    rw [hread] at hlink
    obtain ⟨depth', j, hat, rfl, hland⟩ := hlink
    rw [hat, pure_bind]
    cases stop with
    | none =>
      obtain ⟨-, rfl⟩ := hland
      have hus : us ≠ [] := by
        rintro rfl
        cases hread
      have hpos := List.length_pos_iff.mpr hus
      exact ⟨_, linksAt_past_end ts (by omega) depth' op' (Nat.le_succ _), by omega, rfl⟩
    | some m =>
      obtain ⟨hpast, rfl, hover⟩ := hland
      have hlength : us.length = ts.size - (base + n) := by
        rw [← h, List.length_drop, Array.length_toList]
      have hrest : ts.toList.drop (base + (n + m)) = us.drop m := by
        rw [← h, List.drop_drop, Nat.add_assoc]
      dsimp only
      rw [Nat.add_assoc]
      exact (linksAt_agrees steps depth' op' base (n + m) (us.drop m) hrest (by omega)
        (by rw [List.length_drop]; omega)).mono (by omega)
termination_by steps

theorem linkAt_agrees (steps depth : Nat) (op : Operand) (i : Nat) (us : List Token)
    (h : ts.toList.drop i = us) (hsteps : 5 * us.length < steps) :
    LinkAgrees ts i (readLink (roomAt depth) op us) (linkAt ts steps depth op i) := by
  obtain ⟨steps, rfl⟩ := Nat.exists_eq_add_one_of_ne_zero (Nat.ne_zero_of_lt hsteps)
  match us with
  | [] =>
    rw [linkAt, Array.getElem?_eq_none (size_le_of_drop h), readLink]
    rfl
  | [t] =>
    rw [List.length_singleton] at hsteps
    have hlt := lt_size_of_drop h
    rw [linkAt, getElem?_of_drop h, behind_of_drop h, readLink]
    simp only [List.head?_nil, Option.any_none, Bool.and_false, Bool.false_eq_true, if_false]
    split
    · exact ⟨depth, i + 1, rfl, rfl, Nat.le_refl _, rfl, by omega⟩
    · split
      next hindex =>
        have hopen : t.isOpen = true := by
          simp [Token.isOpen, (Bool.and_eq_true_iff.mp hindex).1]
        obtain ⟨close, hclose, hland⟩ := groupEndAt_of_open ts h hopen
          (show _ < steps by rw [List.length_nil]; omega)
        rw [groupEnd, if_pos hopen] at hland
        obtain ⟨-, rfl⟩ := hland
        rw [hclose, pure_bind]
        exact ⟨depth, _, rfl, rfl, by omega, rfl⟩
      next => rfl
  | t :: name :: after =>
    simp only [List.length_cons] at hsteps
    have hlt := lt_size_of_drop h
    have hname : ts.toList.drop (i + 1) = name :: after := drop_add_of_drop h 0
    have hafter : ts.toList.drop (i + 2) = after := drop_add_of_drop hname 0
    have hsize := lt_size_of_drop hname
    rw [linkAt, getElem?_of_drop h, behind_of_drop h, readLink]
    simp only [List.head?_cons, Option.any_some]
    split
    · rw [callOpenAt?_of_drop (getElem?_of_drop hname) hafter, pure_bind]
      cases hcall : callOpen? name.span.stop after with
      | none =>
        dsimp only [Option.map_none]
        split
        · exact ⟨depth, i + 2, rfl, rfl, by omega, rfl, by omega⟩
        · rfl
      | some isMacro =>
        obtain ⟨b, inside, hb, hopen, hshort⟩ := exists_open_of_callOpen? hcall
        have hbracket : ts.toList.drop (i + 2 + callGap isMacro) = b :: inside := by
          rw [← List.drop_drop, hafter, hb]
        dsimp only [Option.map_some]
        rw [hb]
        by_cases hdepth : maxNesting ≤ depth
        · have hroom : roomAt depth = 0 := Nat.sub_eq_zero_of_le hdepth
          obtain ⟨close, hclose, hland⟩ := groupEndAt_of_open ts hbracket hopen (show _ < steps by omega)
          rw [if_pos hroom, if_pos hdepth, hclose, pure_bind]
          exact ⟨depth, close + 1, rfl, rfl, (hland.next.map fun k => by omega).mono (by omega)⟩
        · have hroom : roomAt depth ≠ 0 := Nat.sub_ne_zero_of_lt (Nat.not_le.mp hdepth)
          obtain ⟨close, hargs, hland⟩ := argsAt_agrees steps depth _ b inside hbracket hopen (by omega)
          rw [if_neg hroom, if_neg hdepth, hargs, pure_bind, tokenAt_of_drop hname, pure_bind]
          exact ⟨depth + 1, close + 1, rfl, rfl, (hland.next.map fun k => by omega).mono (by omega)⟩
    · split
      · exact ⟨depth, i + 1, rfl, rfl, Nat.le_refl _, rfl, by omega⟩
      · split
        next hindex =>
          have hopen : t.isOpen = true := by
            simp [Token.isOpen, (Bool.and_eq_true_iff.mp hindex).1]
          obtain ⟨close, hclose, hland⟩ := groupEndAt_of_open ts h hopen
            (show _ < steps by rw [List.length_cons]; omega)
          rw [hclose, pure_bind]
          exact ⟨depth, close + 1, rfl, rfl, (hland.next.map fun k => by omega).mono (by omega)⟩
        next => rfl
termination_by steps

end

theorem exprAt_agrees_read (steps : Nat) (place : Place) (depth start : Nat) (hle : start ≤ ts.size)
    (hsteps : 5 * (ts.size + 1) ≤ steps) :
    Agrees (ts.size + 1) start start
      (read place depth (lastSignificant none (ts.toList.take start)) (ts.toList.drop start))
      (exprAt ts steps place depth start) := by
  obtain ⟨steps, rfl⟩ : ∃ k, steps = k + 1 := ⟨steps - 1, by omega⟩
  have hlength : (ts.toList.drop start).length = ts.size - start := by
    rw [List.length_drop, Array.length_toList]
  have hdraft := draftAt_agrees ts steps place depth (lastSignificant none (ts.toList.take start)) {}
    start 0 (ts.toList.drop start) rfl hle rfl (fun _ => rfl) (by omega)
  rw [passed_between_self] at hdraft
  have hexpr := exprAt_agrees ts hle hdraft
  rwa [← Array.getElem?_toList, ← List.head?_drop] at hexpr

theorem argsAt_agrees_readArgs (steps depth i : Nat) (hlt : i < ts.size) (hopen : ts[i].isOpen = true)
    (hsteps : 5 * (ts.size + 1) ≤ steps) :
    Agrees ts.size i (i + 1) (readArgs depth (ts.toList.drop i)) (argsAt ts steps depth i) := by
  have hdrop : ts.toList.drop i = ts[i] :: ts.toList.drop (i + 1) := List.drop_eq_getElem_cons hlt
  have hlength : (ts.toList.drop (i + 1)).length = ts.size - (i + 1) := by
    rw [List.length_drop, Array.length_toList]
  rw [readArgs, hdrop]
  exact argsAt_agrees ts steps depth i _ _ hdrop hopen (by omega)

/-- Whatever the tokens and the depth, every reading ends, after steps linear in the tokens, without a look
at an index that is not there, and gives what is read off the list. An expression stops at or behind its
start and at most one past the end; a bracket is closed behind itself, or by the end. -/
theorem reading_ends_in_range (depth : Nat) :
    (∀ (place : Place) (start : Nat), start ≤ ts.size →
      ∃ e stop,
        (∀ steps, 5 * (ts.size + 1) ≤ steps →
          (exprAt ts steps place depth start).run = some (.ok (e, stop))) ∧
        start ≤ stop ∧ stop ≤ ts.size + 1 ∧
        read place depth (lastSignificant none (ts.toList.take start)) (ts.toList.drop start) =
          (e, if stop < ts.size + 1 then some (stop - start) else none)) ∧
    (∀ (i : Nat) (t : Token), ts[i]? = some t → t.isOpen = true →
      ∃ args close,
        (∀ steps, 5 * (ts.size + 1) ≤ steps →
          (argsAt ts steps depth i).run = some (.ok (args, close))) ∧
        i < close ∧ close ≤ ts.size ∧
        readArgs depth (ts.toList.drop i) =
          (args, if close < ts.size then some (close - i) else none)) := by
  constructor
  · intro place start hle
    obtain ⟨stop, hat, hland⟩ := exists_landing (fun steps hsteps =>
      exprAt_agrees_read ts steps place depth start hle hsteps)
    obtain ⟨hstart, hend, hstop⟩ := hland.bounds
    exact ⟨_, stop, hat, hstart, hend, Prod.ext rfl hstop⟩
  · intro i t ht hopen
    obtain ⟨hlt, rfl⟩ := Array.getElem?_eq_some_iff.mp ht
    obtain ⟨close, hat, hland⟩ := exists_landing (fun steps hsteps =>
      argsAt_agrees_readArgs ts steps depth i hlt hopen hsteps)
    obtain ⟨hclose, hend, hstop⟩ := hland.bounds
    exact ⟨_, close, hat, hclose, hend, Prod.ext rfl hstop⟩

theorem reading_ends_in_range_unclosed :
    (∃ e, (exprAt (tokenize .rust "f(a!(x)") 40 .statement 0 0).run = some (.ok (e, 8))) ∧
    ∃ args, (argsAt (tokenize .rust "f(a!(x)") 40 0 1).run = some (.ok (args, 7)) := by
  obtain ⟨hexpr, hargs⟩ := reading_ends_in_range (tokenize .rust "f(a!(x)") 0
  have hsize : (tokenize .rust "f(a!(x)").size = 7 := by decide +kernel
  have hopen : (tokenize .rust "f(a!(x)")[1]? = some ⟨.punct, "(", ⟨1, 2⟩, 1, 2⟩ := by decide +kernel
  rw [hsize] at hexpr hargs
  constructor
  · have hread : (read .statement 0 (lastSignificant none ((tokenize .rust "f(a!(x)").toList.take 0))
        ((tokenize .rust "f(a!(x)").toList.drop 0)).2 = none := by decide +kernel
    obtain ⟨e, stop, hat, -, hend, hstop⟩ := hexpr .statement 0 (Nat.zero_le 7)
    have hstop : stop = 8 := by
      rw [hstop] at hread
      simp at hread
      omega
    exact ⟨e, hstop ▸ hat 40 (Nat.le_refl 40)⟩
  · have hread : (readArgs 0 ((tokenize .rust "f(a!(x)").toList.drop 1)).2 = none := by decide +kernel
    obtain ⟨args, close, hat, -, hend, hclose⟩ := hargs 1 _ hopen rfl
    have hclose : close = 7 := by
      rw [hclose] at hread
      simp at hread
      omega
    exact ⟨args, hclose ▸ hat 40 (Nat.le_refl 40)⟩

end SourceAudit.Expr.Cursor
