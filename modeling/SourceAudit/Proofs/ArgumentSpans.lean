import SourceAudit.Proofs.Lexing
import SourceAudit.Proofs.Thinning

/-! Where arguments stand in the text. The items of a bracket take up stretches of tokens, one behind the
other, so their spans are not empty, keep their order and stay inside the bracket, also when the brackets
inside do not match or nothing closes them. -/
namespace SourceAudit.Expr

def takenBy (ts : List Token) : Option Nat → List Token
  | some n => ts.take n
  | none => ts

theorem takenBy_map_add (ts : List Token) (m : Nat) (stop : Option Nat) :
    takenBy ts (stop.map (m + ·)) = ts.take m ++ takenBy (ts.drop m) stop := by
  cases stop with
  | none => exact (List.take_append_drop m ts).symm
  | some n => exact List.take_add

/-! ### What one item takes -/

theorem last_readDraft (room : Nat) (place : Place) (before : Option Token) (d : Draft)
    (ts : List Token) :
    (readDraft room place before d 0 ts).1.last =
      lastSignificant d.last (takenBy ts (readDraft room place before d 0 ts).2) := by
  induction hlen : ts.length using Nat.strongRecOn generalizing d ts with
  | ind len ih =>
    subst hlen
    cases ts with
    | nil =>
      rw [readDraft]
      rfl
    | cons t rest =>
      rw [readDraft_eq_readTurn]
      cases hturn : readTurn room place before d t rest with
      | none => rfl
      | some next =>
        have hlast := last_readTurn hturn
        obtain ⟨e, _ | m⟩ := next
        · exact congrArg (lastSignificant · (t :: rest)) hlast
        · have hshort : (rest.drop m).length < (t :: rest).length := by
            rw [List.length_drop, List.length_cons]
            omega
          dsimp only
          rw [readDraft_eq_map, Nat.zero_add, takenBy_map_add, List.take_succ_cons, List.drop_succ_cons,
            lastSignificant_append, ih _ hshort _ _ rfl, Draft.passed, hlast]

def keep (e : Expr) (es : List Expr) : List Expr :=
  if e.isEmpty && e.keyword.isNone then es else e :: es

theorem reverse_keep_append (e : Expr) (done es : List Expr) :
    (keep e done).reverse ++ es = done.reverse ++ keep e es := by
  unfold keep
  split
  · rfl
  · rw [List.reverse_cons, List.append_assoc, List.singleton_append]

/-- An expression with operands or a keyword takes the token at which it starts, and ends with one that it
takes. -/
theorem span_finish_of_kept {room : Nat} {t : Token} {rest : List Token} {d : Draft} {stop : Option Nat}
    (hread : readDraft room .brackets none {} 0 (t :: rest) = (d, stop)) (ht : t.isNewline = false)
    (hkept : ¬((d.finish (some t)).isEmpty && (d.finish (some t)).keyword.isNone) = true) :
    ∃ taken last, takenBy (t :: rest) stop = t :: taken ∧ last ∈ t :: taken ∧
      (d.finish (some t)).span = ⟨t.span.start, last.span.stop⟩ := by
  have htaken : ∃ taken, takenBy (t :: rest) stop = t :: taken := by
    rw [readDraft_eq_readTurn] at hread
    cases hturn : readTurn room .brackets none {} t rest with
    | none =>
      -- nothing was read, and an empty draft is not kept
      rw [hturn] at hread
      cases hread
      exact absurd rfl hkept
    | some next =>
      obtain ⟨e, _ | m⟩ := next
      · rw [hturn] at hread
        cases hread
        exact ⟨rest, rfl⟩
      · rw [hturn] at hread
        dsimp only at hread
        rw [readDraft_eq_map] at hread
        cases hread
        exact ⟨_, by rw [takenBy_map_add, Nat.zero_add, List.take_succ_cons, List.cons_append]⟩
  obtain ⟨taken, htaken⟩ := htaken
  have hlast := last_readDraft room .brackets none {} (t :: rest)
  rw [hread] at hlast
  dsimp only at hlast
  rw [htaken, lastSignificant_cons_of_not_isNewline ht] at hlast
  have hmem : ∃ last ∈ t :: taken, d.last = some last := by
    rw [hlast]
    obtain h | ⟨u, hu, h⟩ := lastSignificant_eq_or_mem (some t) taken
    · exact ⟨t, List.mem_cons_self, h⟩
    · exact ⟨u, List.mem_cons_of_mem t hu, h⟩
  obtain ⟨last, hmem, hlast⟩ := hmem
  refine ⟨taken, last, htaken, hmem, ?_⟩
  simp only [Draft.finish, Draft.span, hlast]

/-! ### One item behind the other -/

/-- The expressions take up stretches of the tokens, one behind the other. Each spans from the start of the
first token of its stretch to the end of one of them. -/
inductive Placed : List Token → List Expr → Prop where
  | nil (ts : List Token) : Placed ts []
  | skip {t : Token} {ts : List Token} {es : List Expr} : Placed ts es → Placed (t :: ts) es
  | cons {first last : Token} {taken rest : List Token} {e : Expr} {es : List Expr} :
      last ∈ first :: taken → e.span = ⟨first.span.start, last.span.stop⟩ → Placed rest es →
      Placed (first :: (taken ++ rest)) (e :: es)

theorem Placed.append {ts : List Token} {es : List Expr} (h : Placed ts es) (passed : List Token) :
    Placed (passed ++ ts) es := by
  induction passed with
  | nil => exact h
  | cons t passed ih => exact ih.skip

theorem Placed.item {room : Nat} {t : Token} {rest us : List Token} {d : Draft} {stop : Option Nat}
    {es : List Expr} (hread : readDraft room .brackets none {} 0 (t :: rest) = (d, stop))
    (ht : t.isNewline = false) (h : Placed us es) :
    Placed (takenBy (t :: rest) stop ++ us) (keep (d.finish (some t)) es) := by
  unfold keep
  split
  next => exact h.append _
  next hkept =>
    obtain ⟨taken, last, htaken, hlast, hspan⟩ := span_finish_of_kept hread ht hkept
    rw [htaken]
    exact .cons hlast hspan h

theorem placed_readItems (room : Nat) (closer : String) (done : List Expr) (ts : List Token) :
    ∃ es, (readItems room closer done 0 ts).1 = done.reverse ++ es ∧
      Placed (takenBy ts (readItems room closer done 0 ts).2) es := by
  induction hlen : ts.length using Nat.strongRecOn generalizing done ts with
  | ind len ih =>
    subst hlen
    cases ts with
    | nil =>
      rw [readItems]
      exact ⟨[], (List.append_nil _).symm, .nil _⟩
    | cons t rest =>
      rw [readItems]
      split
      · exact ⟨[], (List.append_nil _).symm, .nil _⟩
      next hcloser =>
        split
        next hsep =>
          obtain ⟨es, hes, hplaced⟩ := ih rest.length (Nat.lt_succ_self _) done rest rfl
          rw [readItems_eq_map, takenBy_map_add]
          exact ⟨es, hes, hplaced.skip⟩
        next hsep =>
          have ht : t.isNewline = false := by
            simp only [Bool.or_eq_true, not_or] at hsep
            simp [hsep]
          cases hread : readDraft room .brackets none {} 0 (t :: rest) with
          | mk d stop =>
            cases stop with
            | none =>
              refine ⟨keep (d.finish (some t)) [], ?_, ?_⟩
              · rw [← reverse_keep_append, List.append_nil]
                rfl
              · have hplaced := Placed.item hread ht (.nil [])
                rwa [List.append_nil] at hplaced
            | some k =>
              have hshort : (rest.drop (k - 1)).length < (t :: rest).length := by
                rw [List.length_drop, List.length_cons]
                omega
              obtain ⟨es, hes, hplaced⟩ := ih _ hshort (keep (d.finish (some t)) done) _ rfl
              dsimp only
              rw [readItems_eq_map, Nat.zero_add, takenBy_map_add, ← drop_pred_eq]
              refine ⟨keep (d.finish (some t)) es, hes.trans (reverse_keep_append ..), ?_⟩
              cases k with
              | zero => exact Placed.item hread ht hplaced.skip
              | succ k =>
                rw [Nat.max_eq_left (Nat.le_add_left 1 k)]
                exact Placed.item hread ht hplaced

theorem placed_readGroup (room : Nat) {o : Token} (hopen : o.isOpen = true) (rest : List Token) :
    ∃ inside, takenBy (o :: rest) (readGroup room (o :: rest)).2 = o :: inside ∧
      Placed inside (readGroup room (o :: rest)).1 := by
  cases room with
  | zero =>
    have hstop : (readGroup 0 (o :: rest)).2 = (groupEnd 1 0 rest).map (1 + ·) := by
      rw [readGroup, groupEnd, if_pos hopen, groupEnd_eq_map]
      exact List.cons_ne_nil o rest
    have hnone : (readGroup 0 (o :: rest)).1 = [] := by
      rw [readGroup]
      exact List.cons_ne_nil o rest
    rw [hstop, hnone, takenBy_map_add]
    exact ⟨_, rfl, .nil _⟩
  | succ room =>
    obtain ⟨es, hes, hplaced⟩ := placed_readItems room (Token.closerOf o.text) [] rest
    rw [readGroup, readItems_eq_map, takenBy_map_add, hes]
    exact ⟨_, rfl, hplaced⟩

/-! ### Spans -/

/-- The spans of the expressions are not empty, keep their order without overlap, and lie between `low` and
`high`. -/
structure SpansNest (low high : Nat) (es : List Expr) : Prop where
  nonempty : ∀ e ∈ es, e.span.start < e.span.stop
  disjoint : es.Pairwise fun e f => e.span.stop ≤ f.span.start
  low_le : ∀ e ∈ es, low ≤ e.span.start
  le_high : ∀ e ∈ es, e.span.stop ≤ high

namespace SpansNest

variable {low high : Nat} {e : Expr} {es : List Expr}

theorem nil : SpansNest low high [] := by
  constructor <;> simp

theorem cons (hlow : low ≤ e.span.start) (hspan : e.span.start < e.span.stop) (hhigh : e.span.stop ≤ high)
    (h : SpansNest e.span.stop high es) : SpansNest low high (e :: es) where
  nonempty := List.forall_mem_cons.mpr ⟨hspan, h.nonempty⟩
  disjoint := List.pairwise_cons.mpr ⟨h.low_le, h.disjoint⟩
  low_le := by
    refine List.forall_mem_cons.mpr ⟨hlow, fun f hf => ?_⟩
    have := h.low_le f hf
    omega
  le_high := List.forall_mem_cons.mpr ⟨hhigh, h.le_high⟩

end SpansNest

theorem Placed.spansNest {ts : List Token} {es : List Expr} (h : Placed ts es) {low high : Nat}
    (hspan : ∀ t ∈ ts, t.span.start < t.span.stop)
    (horder : ts.Pairwise fun t u => t.span.stop ≤ u.span.start)
    (hlow : ∀ t ∈ ts, low ≤ t.span.start) (hhigh : ∀ t ∈ ts, t.span.stop ≤ high) :
    SpansNest low high es := by
  induction h generalizing low with
  | nil => exact .nil
  | skip _ ih =>
    rw [List.pairwise_cons] at horder
    rw [List.forall_mem_cons] at hspan hlow hhigh
    exact ih hspan.2 horder.2 hlow.2 hhigh.2
  | @cons first last taken rest e es hlast he _ ih =>
    rw [← List.cons_append] at hspan horder hlow hhigh
    obtain ⟨htaken, hrest, hacross⟩ := List.pairwise_append.mp horder
    have hfirst : first.span.start < last.span.stop := by
      obtain rfl | hmem := List.mem_cons.mp hlast
      · exact hspan _ List.mem_cons_self
      · have hstop := List.rel_of_pairwise_cons htaken hmem
        have := hspan first List.mem_cons_self
        have := hspan last (List.mem_append_left _ hlast)
        omega
    have hnest : SpansNest last.span.stop high es :=
      ih (fun t ht => hspan t (List.mem_append_right _ ht)) hrest (hacross last hlast)
        (fun t ht => hhigh t (List.mem_append_right _ ht))
    apply SpansNest.cons
    · rw [he]
      exact hlow first List.mem_cons_self
    · rwa [he]
    · rw [he]
      exact hhigh last (List.mem_append_left _ hlast)
    · rwa [he]

section

variable {room : Nat} {o : Token} {rest : List Token}

theorem spansNest_of_closed (hopen : o.isOpen = true) (hspan : ∀ t ∈ rest, t.span.start < t.span.stop)
    (horder : (o :: rest).Pairwise fun t u => t.span.stop ≤ u.span.start) {n : Nat}
    (hstop : (readGroup room (o :: rest)).2 = some n) :
    ∃ c left, (o :: rest).drop n = c :: left ∧ c.isClose = true ∧
      SpansNest o.span.stop c.span.start (readGroup room (o :: rest)).1 := by
  obtain ⟨inside, htaken, hplaced⟩ := placed_readGroup room hopen rest
  obtain ⟨j, c, left, rfl, hleft, hclose⟩ := close_of_readGroup hopen hstop
  rw [hstop] at htaken
  have hinside : rest.take j = inside := (List.cons.inj htaken).2
  have hsplit : rest = inside ++ c :: left := by
    rw [← hinside, ← hleft, List.take_append_drop]
  rw [hsplit, List.pairwise_cons] at horder
  obtain ⟨hbehind, horder⟩ := horder
  obtain ⟨horder, -, hacross⟩ := List.pairwise_append.mp horder
  refine ⟨c, left, hleft, hclose, hplaced.spansNest (fun t ht => ?_) horder ?_ ?_⟩
  · apply hspan
    rw [hsplit]
    exact List.mem_append_left _ ht
  · exact fun t ht => hbehind t (List.mem_append_left _ ht)
  · exact fun t ht => hacross t ht c List.mem_cons_self

theorem spansNest_of_unclosed (hopen : o.isOpen = true) (hspan : ∀ t ∈ rest, t.span.start < t.span.stop)
    (horder : (o :: rest).Pairwise fun t u => t.span.stop ≤ u.span.start)
    (hstop : (readGroup room (o :: rest)).2 = none) {high : Nat} (hhigh : ∀ t ∈ rest, t.span.stop ≤ high) :
    SpansNest o.span.stop high (readGroup room (o :: rest)).1 := by
  obtain ⟨inside, htaken, hplaced⟩ := placed_readGroup room hopen rest
  rw [hstop] at htaken
  obtain rfl : rest = inside := (List.cons.inj htaken).2
  obtain ⟨hbehind, horder⟩ := List.pairwise_cons.mp horder
  exact hplaced.spansNest hspan horder hbehind hhigh

end

theorem stop_le_of_mem_tokenize {language : Language} {text : String} {t last : Token}
    (hlast : (tokenize language text).back? = some last) (ht : t ∈ (tokenize language text).toList) :
    t.span.stop ≤ last.span.stop := by
  obtain ⟨front, hfront⟩ := Array.back?_eq_some_iff.mp hlast
  have hspan : last.span.start < last.span.stop := by
    have hmem : last ∈ (tokenize language text).toList := by simp [hfront]
    exact (standsIn_of_mem_tokenize hmem).start_lt_stop
  have horder := pairwise_tokenize language text
  rw [hfront, Array.toList_push] at horder ht
  obtain hmem | hmem := List.mem_append.mp ht
  · have := (List.pairwise_append.mp horder).2.2 t hmem last List.mem_cons_self
    omega
  · exact Nat.le_of_eq (congrArg (·.span.stop) (List.mem_singleton.mp hmem))

/-- The arguments of every bracket of a text, at every depth: their spans are not empty, they follow each
other without overlap, and they lie behind the bracket and before its closer, or, when nothing closes the
bracket, not beyond the last token. -/
theorem arg_spans_nest (language : Language) (text : String) {i : Nat} {o : Token}
    (ho : (tokenize language text)[i]? = some o) (hopen : o.isOpen = true) (depth : Nat) :
    let ts := tokenize language text
    ∃ args close,
      (∀ steps, 5 * (ts.size + 1) ≤ steps →
        (Cursor.argsAt ts steps depth i).run = some (.ok (args, close))) ∧
      readArgs depth (ts.toList.drop i) = (args, if close < ts.size then some (close - i) else none) ∧
      ((∃ c, ts[close]? = some c ∧ c.isClose = true ∧ SpansNest o.span.stop c.span.start args) ∨
        (close = ts.size ∧ ∃ last, ts.back? = some last ∧ SpansNest o.span.stop last.span.stop args)) := by
  intro ts
  obtain ⟨hlt, rfl⟩ := Array.getElem?_eq_some_iff.mp ho
  obtain ⟨close, hat, hland⟩ := Cursor.exists_landing fun steps hsteps =>
    Cursor.argsAt_agrees_readArgs ts steps depth i hlt hopen hsteps
  refine ⟨_, close, hat, Prod.ext rfl hland.bounds.2.2, ?_⟩
  have hdrop : ts.toList.drop i = ts[i] :: ts.toList.drop (i + 1) := List.drop_eq_getElem_cons hlt
  have hmem : ∀ t ∈ ts.toList.drop (i + 1), t ∈ ts.toList := fun t ht => List.mem_of_mem_drop ht
  have hspan : ∀ t ∈ ts.toList.drop (i + 1), t.span.start < t.span.stop :=
    fun t ht => (standsIn_of_mem_tokenize (hmem t ht)).start_lt_stop
  have horder : (ts[i] :: ts.toList.drop (i + 1)).Pairwise fun t u => t.span.stop ≤ u.span.start :=
    hdrop ▸ (pairwise_tokenize language text).sublist (List.drop_sublist i _)
  rw [readArgs, hdrop] at hland ⊢
  cases hstop : (readGroup (roomAt depth) (ts[i] :: ts.toList.drop (i + 1))).2 with
  | some n =>
    rw [hstop] at hland
    obtain ⟨c, left, hleft, hclose, hnest⟩ := spansNest_of_closed hopen hspan horder hstop
    refine .inl ⟨c, ?_, hclose, hnest⟩
    rw [← hdrop, List.drop_drop] at hleft
    rw [hland.2.1]
    exact Cursor.getElem?_of_drop hleft
  | none =>
    rw [hstop] at hland
    have hlast : ts.back? = some ts[ts.size - 1] := Array.getElem?_eq_getElem _
    refine .inr ⟨hland.2, _, hlast, spansNest_of_unclosed hopen hspan horder hstop ?_⟩
    exact fun t ht => stop_le_of_mem_tokenize hlast (hmem t ht)

theorem arg_spans_nest_two_lines :
    let ts := tokenize .python "f(a,\nk=b[0]\n)"
    ts[1]? = some ⟨.punct, "(", ⟨1, 2⟩, 1, 2⟩ ∧
      ∃ args, readArgs 0 (ts.toList.drop 1) = (args, some 11) ∧
        args.map Expr.span = [⟨2, 3⟩, ⟨5, 11⟩] ∧ SpansNest 2 12 args := by
  intro ts
  have ho : ts[1]? = some ⟨.punct, "(", ⟨1, 2⟩, 1, 2⟩ := by decide +kernel
  have hc : ts[12]? = some ⟨.punct, ")", ⟨12, 13⟩, 3, 1⟩ := by decide +kernel
  have hread : (readArgs 0 (ts.toList.drop 1)).2 = some 11 ∧
      (readArgs 0 (ts.toList.drop 1)).1.map Expr.span = [⟨2, 3⟩, ⟨5, 11⟩] := by decide +kernel
  obtain ⟨args, close, -, hargs, hnest⟩ := arg_spans_nest .python "f(a,\nk=b[0]\n)" ho rfl 0
  rw [hargs] at hread
  obtain ⟨hlt, hclose⟩ := Option.ite_none_right_eq_some.mp hread.1
  obtain rfl : close = 12 := by
    have := Option.some.inj hclose
    omega
  refine ⟨ho, args, hargs.trans (Prod.ext rfl hread.1), hread.2, ?_⟩
  obtain ⟨c, hc', -, hnest⟩ | ⟨hsize, -⟩ := hnest
  · cases hc.symm.trans hc'
    exact hnest
  · exact absurd hsize (Nat.ne_of_lt hlt)

end SourceAudit.Expr
