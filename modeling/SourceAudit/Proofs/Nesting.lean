import Mathlib
import SourceAudit.Expr.Reader
import SourceAudit.Token.Lexer

/-! How deeply calls can be nested in a read expression. Each bracket takes one level off the room for
what is inside it, but a chain of methods starts again from the room of its own bracket, around a call
whose arguments may be as deep as they can be. So the levels of one bracket add up with those of the
brackets inside. -/
namespace SourceAudit

theorem argsDepth_le_iff {es : List Expr} {b : Nat} : argsDepth es ≤ b ↔ ∀ e ∈ es, e.depth ≤ b := by
  induction es with
  | nil => simp [argsDepth]
  | cons e es ih => simp [argsDepth, ih]

theorem Expr.depth_eq (e : Expr) : e.depth = operandsDepth e.operands := by
  cases e
  rw [Expr.depth]

theorem Expr.depth_le_iff {e : Expr} {b : Nat} : e.depth ≤ b ↔ ∀ op ∈ e.operands, op.depth ≤ b := by
  rw [Expr.depth_eq]
  induction e.operands with
  | nil => simp [operandsDepth]
  | cons op ops ih => simp [operandsDepth, ih]

theorem Operand.depth_call (callee : String) (receiver : Option Operand) (args : List Expr) :
    (Operand.call ⟨callee, receiver, args⟩).depth =
      1 + max (receiverDepth receiver) (argsDepth args) := by
  rw [Operand.depth, Call.depth]

/-! Tokens whose places are of no interest. -/

def Token.word (text : String) : Token := ⟨.ident, text, Span.zero, 1, 1⟩

def Token.mark (text : String) : Token := ⟨.punct, text, Span.zero, 1, 1⟩

namespace Expr

/-- The greatest depth of an operand that is read with room for so many levels: one call, and for each
level as many more as there is room at that level. -/
def deepest (room : Nat) : Nat := 1 + room * (room + 1) / 2

theorem deepest_succ (room : Nat) : deepest (room + 1) = deepest room + (room + 1) := by
  have hstep : (room + 1) * (room + 1 + 1) = room * (room + 1) + 2 * (room + 1) := by ring
  rw [deepest, deepest, hstep, Nat.add_mul_div_left _ _ (by decide), Nat.add_assoc]

theorem deepest_pred_le (room : Nat) : deepest (room - 1) ≤ deepest room := by
  cases room with
  | zero => exact Nat.le_refl _
  | succ room =>
    rw [deepest_succ]
    exact Nat.le_add_right _ _

theorem lt_deepest (room : Nat) : room < deepest room := by
  induction room with
  | zero => decide
  | succ room ih =>
    rw [deepest_succ]
    omega

namespace Draft

def IsWithin (d : Draft) (b : Nat) : Prop := ∀ op ∈ d.operands, op.depth ≤ b

variable {d e : Draft} {b : Nat}

theorem isWithin_empty : ({} : Draft).IsWithin b := fun _ hop => nomatch hop

theorem IsWithin.passed (h : d.IsWithin b) (ts : List Token) : (d.passed ts).IsWithin b := h

theorem IsWithin.push (h : d.IsWithin b) {op : Operand} (hop : op.depth ≤ b) :
    (d.push op).IsWithin b :=
  List.forall_mem_cons.mpr ⟨hop, h⟩

theorem IsWithin.absorb (h : d.IsWithin b) {items : List Expr} (hitems : argsDepth items ≤ b) :
    (d.absorb items).IsWithin b := by
  have hfold (ops : List Operand) (hops : ∀ op ∈ ops, op.depth ≤ b) :
      ∀ op ∈ items.foldl (fun ops e => e.operands.reverse ++ ops) ops, op.depth ≤ b := by
    rw [argsDepth_le_iff] at hitems
    induction items generalizing ops with
    | nil => exact hops
    | cons e es ih =>
      obtain ⟨he, hes⟩ := List.forall_mem_cons.mp hitems
      apply ih hes
      intro op hop
      rw [List.mem_append, List.mem_reverse] at hop
      exact hop.elim (Expr.depth_le_iff.mp he op) (hops op)
  exact hfold d.operands h

theorem IsWithin.mark (h : d.IsWithin b) (place : Place) (t : Token) (rest : List Token) :
    (d.mark place t rest).IsWithin b := by
  have hname : (d.nameKeyword place).IsWithin b := by
    unfold nameKeyword
    split
    · exact fun _ hop => nomatch hop
    · exact h
  unfold Draft.mark
  split_ifs
  exacts [h, h, h, hname, h]

theorem IsWithin.plainWord? (h : d.IsWithin b) {t : Token} {rest : List Token}
    (hword : plainWord? t rest d = some e) : e.IsWithin b := by
  unfold Expr.plainWord? at hword
  split at hword
  · cases hword
    exact h.push (Nat.zero_le b)
  · split at hword
    · cases hword
    · cases hword
      exact h

theorem IsWithin.depth_finish (h : d.IsWithin b) (first : Option Token) :
    (d.finish first).depth ≤ b := by
  rw [Expr.depth_le_iff]
  intro op hop
  exact h op (List.mem_reverse.mp hop)

end Draft

mutual

theorem argsDepth_readGroup_le (room : Nat) (ts : List Token) :
    argsDepth (readGroup room ts).1 + max room 1 ≤ deepest room := by
  match room, ts with
  | room, [] =>
    have hroom := lt_deepest room
    rw [readGroup, argsDepth]
    omega
  | 0, t :: rest =>
    rw [readGroup, argsDepth]
    · exact Nat.le_refl 1
    · exact List.cons_ne_nil t rest
  | room + 1, t :: rest =>
    have hitems := argsDepth_readItems_le room (Token.closerOf t.text) [] 1 rest (by simp [argsDepth])
    rw [readGroup, deepest_succ]
    omega
termination_by 3 * ts.length
decreasing_by
  rw [List.length_cons]
  omega

theorem argsDepth_readItems_le (room : Nat) (closer : String) (done : List Expr) (n : Nat)
    (ts : List Token) (hdone : argsDepth done ≤ deepest room) :
    argsDepth (readItems room closer done n ts).1 ≤ deepest room := by
  have hreverse {es : List Expr} (hes : argsDepth es ≤ deepest room) :
      argsDepth es.reverse ≤ deepest room := by
    simpa only [argsDepth_le_iff, List.mem_reverse] using hes
  match ts with
  | [] =>
    rw [readItems]
    exact hreverse hdone
  | t :: rest =>
    rw [readItems]
    split
    · exact hreverse hdone
    · split
      · exact argsDepth_readItems_le room closer done (n + 1) rest hdone
      · have hdraft := isWithin_readDraft room .brackets none {} 0 (t :: rest) Draft.isWithin_empty
        have hitem := hdraft.depth_finish (some t)
        dsimp only
        generalize (readDraft room .brackets none {} 0 (t :: rest)).1.finish (some t) = e at hitem ⊢
        have hmore : argsDepth (if e.isEmpty && e.keyword.isNone then done else e :: done) ≤
            deepest room := by
          split
          · exact hdone
          · rw [argsDepth]
            exact Nat.max_le.mpr ⟨hitem, hdone⟩
        split
        · exact hreverse hmore
        · exact argsDepth_readItems_le room closer _ _ _ hmore
termination_by 3 * ts.length + 2
decreasing_by
  all_goals
    simp only [List.length_cons, List.length_drop]
    omega

theorem isWithin_readDraft (room : Nat) (place : Place) (before : Option Token) (d : Draft) (n : Nat)
    (ts : List Token) (h : d.IsWithin (deepest room)) :
    (readDraft room place before d n ts).1.IsWithin (deepest room) := by
  have hroom := (lt_deepest room).le
  match ts with
  | [] =>
    rw [readDraft]
    exact h
  | t :: rest =>
    rw [readDraft]
    dsimp only
    split
    next =>
      split
      · exact h
      · exact isWithin_readDraft room place before d (n + 1) rest h
    -- a mark ends the expression, opens a group or only changes the draft
    next =>
      split
      · exact h
      · split
        · have hgroup := argsDepth_readGroup_le room (t :: rest)
          have hitems : argsDepth (readGroup room (t :: rest)).1 ≤ deepest room := by omega
          have habsorb := h.absorb hitems
          split
          · exact habsorb.passed _
          · exact isWithin_readDraft room place before _ _ _ (habsorb.passed _)
        · exact isWithin_readDraft room place before _ _ _ ((h.mark place t rest).passed _)
    next interpolated _ =>
      have hlinks := depth_readLinks_le room (.literal t.text interpolated) 0 rest
      rw [Operand.depth, Nat.zero_add, max_eq_right hroom] at hlinks
      have hpush := h.push hlinks
      split
      · exact hpush.passed _
      · exact isWithin_readDraft room place before _ _ _ (hpush.passed _)
    next => exact isWithin_readDraft room place before _ _ _ ((h.push (Nat.zero_le _)).passed _)
    -- an identifier is a plain word, a path or a call, and links may follow the last two
    next =>
      split
      next hword => exact isWithin_readDraft room place before _ _ _ ((h.plainWord? hword).passed _)
      next =>
        split
        next =>
          let path := DottedPath.read t rest
          have hlinks := depth_readLinks_le room (.ident path.text) 0 (rest.drop (path.length - 1))
          rw [Operand.depth, Nat.zero_add, max_eq_right hroom] at hlinks
          have hpush := h.push hlinks
          split
          · exact hpush.passed _
          · exact isWithin_readDraft room place before _ _ _ (hpush.passed _)
        next isMacro _ =>
          let path := DottedPath.read t rest
          let bracket := (rest.drop (path.length - 1)).drop (callGap isMacro)
          let call := Operand.call ⟨calleeText path.text isMacro, none, (readGroup room bracket).1⟩
          have hgroup := argsDepth_readGroup_le room bracket
          have hcall : call.depth = 1 + argsDepth (readGroup room bracket).1 := by
            rw [Operand.depth_call, receiverDepth, Nat.zero_max]
          -- the arguments have a level less, so that the call and its chain fit on top of them
          have hfits : call.depth ≤ deepest room := by omega
          split
          · exact (h.push hfits).passed _
          next k _ =>
            have hpred := deepest_pred_le room
            have hlinks := depth_readLinks_le (room - 1) call 0 (bracket.drop (k + 1))
            have hpush := h.push (hlinks.trans (by omega))
            split
            · exact hpush.passed _
            · exact isWithin_readDraft room place before _ _ _ (hpush.passed _)
termination_by 3 * ts.length + 1
decreasing_by
  all_goals
    simp only [List.length_cons, List.length_drop]
    omega

/-- A chain puts a level around its receiver for each level of room, unless it is the arguments of one of
its methods that are deepest. -/
theorem depth_readLinks_le (room : Nat) (op : Operand) (n : Nat) (ts : List Token) :
    (readLinks room op n ts).1.depth ≤ max (op.depth + room) (deepest room) := by
  have hself : op.depth ≤ max (op.depth + room) (deepest room) := by omega
  match ts with
  | [] =>
    rw [readLinks]
    exact hself
  | [t] =>
    rw [readLinks]
    split
    · exact hself
    · split <;> exact hself
  | t :: name :: after =>
    rw [readLinks]
    dsimp only
    split
    · split
      next isMacro _ =>
        split
        next hroom =>
          subst hroom
          split
          · exact hself
          · exact depth_readLinks_le 0 op _ _
        next hroom =>
          have hgroup := argsDepth_readGroup_le room (after.drop (callGap isMacro))
          have hpred := deepest_pred_le room
          have hcall := Operand.depth_call name.text (some op)
            (readGroup room (after.drop (callGap isMacro))).1
          rw [receiverDepth] at hcall
          split
          · dsimp only
            omega
          · apply (depth_readLinks_le (room - 1) _ _ _).trans
            omega
      next =>
        split
        · exact depth_readLinks_le room op _ _
        · exact hself
    · split
      · exact depth_readLinks_le room op _ _
      · split
        · split
          · exact hself
          · exact depth_readLinks_le room op _ _
        · exact hself
termination_by 3 * ts.length
decreasing_by
  all_goals
    simp only [List.length_cons, List.length_drop]
    omega

end

theorem readLinks_close (room : Nat) (op : Operand) (n : Nat) (rest : List Token) :
    readLinks room op n (.mark ")" :: rest) = (op, some n) := by
  cases rest with
  | nil =>
    rw [readLinks]
    rfl
  | cons =>
    rw [readLinks]
    rfl

theorem readDraft_close (room : Nat) (place : Place) (before : Option Token) (d : Draft) (n : Nat)
    (rest : List Token) : readDraft room place before d n (.mark ")" :: rest) = (d, some n) := by
  rw [readDraft]
  rfl

theorem readGroup_unit (room : Nat) (rest : List Token) :
    readGroup room (.mark "(" :: .mark ")" :: rest) = ([], some 1) := by
  cases room with
  | zero =>
    rw [readGroup]
    · rfl
    · exact List.cons_ne_nil _ _
  | succ room =>
    rw [readGroup, readItems]
    rfl

theorem readLinks_link (room : Nat) (op : Operand) (n : Nat) (ts : List Token) :
    readLinks (room + 1) op n (.mark "." :: .word "m" :: .mark "(" :: .mark ")" :: ts) =
      readLinks room (.call ⟨"m", some op, []⟩) (n + 4) ts := by
  have hlink : ((Token.mark ".").isPunct "." || (Token.mark ".").isPunct "?." ||
      (Token.mark ".").isPunct "::") && (Token.word "m").isIdent := by rfl
  have hopen : callOpen? (Token.word "m").span.stop (.mark "(" :: .mark ")" :: ts) = some false := by
    rfl
  have hgap : callGap false = 0 := rfl
  rw [readLinks, if_pos hlink]
  simp only [hopen, hgap, List.drop_zero, Nat.add_one_ne_zero, if_false, readGroup_unit]
  rfl

def links : Nat → List Token
  | 0 => []
  | k + 1 => .mark "." :: .word "m" :: .mark "(" :: .mark ")" :: links k

theorem readLinks_links (room : Nat) (op : Operand) (n : Nat) (rest : List Token) :
    ∃ op' : Operand, op'.depth = op.depth + room ∧
      readLinks room op n (links room ++ .mark ")" :: rest) = (op', some (n + (links room).length)) := by
  induction room generalizing op n with
  | zero => exact ⟨op, rfl, readLinks_close 0 op n rest⟩
  | succ room ih =>
    obtain ⟨op', hdepth, hlinks⟩ := ih (.call ⟨"m", some op, []⟩) (n + 4)
    refine ⟨op', ?_, ?_⟩
    · rw [hdepth, Operand.depth_call, receiverDepth, argsDepth, Nat.max_zero]
      omega
    · refine (readLinks_link room op n _).trans (hlinks.trans ?_)
      rw [links]
      simp only [List.length_cons]
      congr 2
      omega

theorem readDraft_call {room : Nat} {args : List Expr} {op : Operand}
    (inside chain rest : List Token)
    (hargs : readGroup room (.mark "(" :: (inside ++ (chain ++ rest))) = (args, some inside.length))
    (hlinks : readLinks (room - 1) (.call ⟨"f", none, args⟩) 0 (chain ++ rest) =
      (op, some chain.length))
    (place : Place) (before : Option Token) (d : Draft) (n : Nat) :
    ∃ e : Draft, e.operands = op :: d.operands ∧
      readDraft room place before d n (.word "f" :: .mark "(" :: (inside ++ (chain ++ rest))) =
        readDraft room place before e (n + (inside.length + chain.length + 2)) rest := by
  let passed := inside.length + chain.length + 1
  let path : DottedPath := ⟨.word "f", []⟩
  refine ⟨(d.push op).passed
    (.word "f" :: (Token.mark "(" :: (inside ++ (chain ++ rest))).take passed), rfl, ?_⟩
  have hkind : (Token.word "f").kind = .ident := rfl
  have hword : plainWord? (.word "f") (.mark "(" :: (inside ++ (chain ++ rest))) d = none := by rfl
  have hpath : DottedPath.read (.word "f") (.mark "(" :: (inside ++ (chain ++ rest))) = path := by
    cases inside ++ (chain ++ rest) <;> rfl
  have hlength : path.length - 1 = 0 := rfl
  have hcallee : calleeText path.text false = "f" := by rfl
  have hopen : callOpen? path.last.span.stop (.mark "(" :: (inside ++ (chain ++ rest))) =
    some false := by rfl
  have hgap : callGap false = 0 := rfl
  have hpassed : 0 + 0 + (inside.length + 1) + chain.length = passed := by omega
  have hrest : (inside ++ (chain ++ rest)).drop (inside.length + chain.length) = rest := by
    rw [← List.append_assoc, ← List.length_append, List.drop_left]
  rw [readDraft]
  simp only [hkind, hword, hpath, hlength, hcallee, hopen, hgap, hargs, hlinks, hpassed,
    List.drop_zero, List.drop_succ_cons, List.drop_left]
  rw [List.drop_succ_cons, hrest]
  rfl

theorem readGroup_single {room : Nat} {e : Draft} {ts rest : List Token} (hne : e.operands ≠ [])
    (hread : readDraft room .brackets none {} 0 (.word "f" :: (ts ++ .mark ")" :: rest)) =
      (e, some (ts.length + 1))) :
    readGroup (room + 1) (.mark "(" :: .word "f" :: (ts ++ .mark ")" :: rest)) =
      ([e.finish (some (.word "f"))], some (ts.length + 2)) := by
  have hitem : (e.finish (some (.word "f"))).isEmpty = false := by
    simpa [Expr.isEmpty, Draft.finish] using hne
  have hcloser : Token.closerOf (Token.mark "(").text = ")" := rfl
  have hstarts : (Token.word "f").isPunct ")" = false := rfl
  have hstays : ((Token.word "f").isPunct "," || (Token.word "f").isPunct ";" ||
    (Token.word "f").isNewline) = false := rfl
  have hcloses : (Token.mark ")").isPunct ")" = true := rfl
  have hcount : 1 + max (ts.length + 1) 1 = ts.length + 2 := by omega
  rw [readGroup, readItems, hcloser, hstarts, hstays]
  simp only [hread, hitem, Bool.false_and, Bool.false_eq_true, if_false, Nat.add_one_sub_one,
    List.drop_left]
  rw [readItems, if_pos hcloses, hcount, List.reverse_singleton]

/-- What follows the name in a call as deep as there is room for: the argument is such a call with one
level less, and methods follow until no level is left. -/
def tower : Nat → List Token
  | 0 => [.mark "(", .mark ")"]
  | room + 1 => .mark "(" :: .word "f" :: (tower room ++ .mark ")" :: links room)

theorem readDraft_tower (room : Nat) (place : Place) (before : Option Token) (d : Draft) (n : Nat)
    (rest : List Token) :
    ∃ (e : Draft) (op : Operand), op.depth = deepest room ∧ e.operands = op :: d.operands ∧
      readDraft room place before d n (.word "f" :: (tower room ++ .mark ")" :: rest)) =
        (e, some (n + ((tower room).length + 1))) := by
  induction room generalizing place before d n rest with
  | zero =>
    obtain ⟨e, he, hcall⟩ := readDraft_call [.mark ")"] [] (.mark ")" :: rest)
      (readGroup_unit 0 _) (readLinks_close 0 _ 0 rest) place before d n
    refine ⟨e, _, ?_, he, hcall.trans (readDraft_close ..)⟩
    rw [Operand.depth_call, receiverDepth, argsDepth]
    rfl
  | succ room ih =>
    -- the argument is the shorter tower, read with one level less
    obtain ⟨inner, op, hop, hinner, hread⟩ := ih .brackets none {} 0 (links room ++ .mark ")" :: rest)
    rw [Nat.zero_add] at hread
    let item := inner.finish (some (.word "f"))
    have hoperands : item.operands = [op] := congrArg List.reverse hinner
    let inside := .word "f" :: (tower room ++ [.mark ")"])
    have hgroup : readGroup (room + 1) (.mark "(" :: (inside ++ (links room ++ .mark ")" :: rest))) =
        ([item], some inside.length) := by
      simpa [inside] using readGroup_single (hinner ▸ List.cons_ne_nil op []) hread
    -- and the links use up the levels that the call has left
    obtain ⟨op', hop', hlinks⟩ := readLinks_links room (.call ⟨"f", none, [item]⟩) 0 rest
    rw [Nat.zero_add] at hlinks
    obtain ⟨e, he, hcall⟩ := readDraft_call inside (links room) (.mark ")" :: rest) hgroup hlinks
      place before d n
    refine ⟨e, op', ?_, he, ?_⟩
    · rw [hop', Operand.depth_call, receiverDepth, argsDepth, argsDepth, Expr.depth_eq, hoperands,
        operandsDepth, operandsDepth, hop, deepest_succ]
      omega
    · have hlist : tower (room + 1) ++ .mark ")" :: rest =
          .mark "(" :: (inside ++ (links room ++ .mark ")" :: rest)) := by simp [tower, inside]
      have hlength : (tower (room + 1)).length + 1 = inside.length + (links room).length + 2 := by
        simp only [tower, inside, List.length_cons, List.length_append, List.length_nil]
        omega
      rw [hlist, hlength, hcall, readDraft_close]

/-- Over all tokens that can be read, the greatest depth of an operand is a quadratic function of the levels
that are left: no operand is deeper, and some operand is as deep. -/
theorem isGreatest_depth_operands (depth : Nat) :
    IsGreatest
      {k | ∃ place before ts, ∃ op ∈ (read place depth before ts).1.operands, op.depth = k}
      (1 + (maxNesting - depth) * (maxNesting - depth + 1) / 2) := by
  constructor
  · obtain ⟨e, op, hop, he, hread⟩ := readDraft_tower (roomAt depth) .statement none {} 0 []
    refine ⟨.statement, none, .word "f" :: (tower (roomAt depth) ++ [.mark ")"]), op, ?_, hop⟩
    rw [read, hread]
    exact List.mem_reverse.mpr (he ▸ List.mem_cons_self)
  · rintro k ⟨place, before, ts, op, hop, rfl⟩
    have hwithin := isWithin_readDraft (roomAt depth) place before {} 0 ts Draft.isWithin_empty
    exact hwithin op (List.mem_reverse.mp hop)

/-- Two levels are left, yet four calls are nested: the method is called on three calls that already stand
inside each other. -/
theorem exists_operand_deeper_than_levels :
    ∃ op ∈ (read .statement 254 none (tokenize .go "f(g(h())).m()").toList).1.operands,
      maxNesting + 1 - 254 < op.depth := by
  have hdepths : (read .statement 254 none (tokenize .go "f(g(h())).m()").toList).1.operands.map
      Operand.depth = [4] := by cbv
  obtain ⟨op, hop, hdepth⟩ := List.mem_map.mp (hdepths ▸ List.mem_singleton_self 4)
  exact ⟨op, hop, by rw [hdepth]; decide⟩

end Expr
end SourceAudit
