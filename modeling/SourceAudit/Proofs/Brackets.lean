import SourceAudit.Proofs.Progress

/-! Where brackets end. Among tokens whose brackets are closed by their own kind, each reader passes
whole brackets only, so it never meets a closing bracket that is not the one it looks for. Counting
brackets without reading them leads to the same place. -/
namespace SourceAudit

namespace Token

def Closes (c o : Token) : Prop := c.isPunct (closerOf o.text) = true

theorem isClose_of_closes {c o : Token} (h : c.Closes o) : c.isClose = true := by
  unfold Closes closerOf at h
  unfold isClose
  split at h
  · simp [h]
  · split at h <;> simp [h]

theorem isOpen_eq_false_of_isClose {t : Token} (h : t.isClose = true) : t.isOpen = false := by
  simp only [isClose, isOpen, isPunct, Bool.or_eq_true, Bool.and_eq_true, decide_eq_true_eq,
    beq_iff_eq] at h ⊢
  obtain (⟨hk, ht⟩ | ⟨hk, ht⟩) | ⟨hk, ht⟩ := h <;> simp [hk, ht]

theorem isOpen_of_kind_ne {t : Token} (h : t.kind ≠ .punct) : t.isOpen = false := by
  simp [isOpen, isPunct, h]

theorem isClose_of_isPunct {t c : Token} {mark : String} (hclose : c.isClose = true)
    (hc : c.isPunct mark = true) (ht : t.isPunct mark = true) : t.isClose = true := by
  simp only [isClose, isPunct, Bool.or_eq_true, Bool.and_eq_true, decide_eq_true_eq,
    beq_iff_eq] at hclose hc ht ⊢
  grind

end Token

namespace Expr

inductive Nested : List Token → Prop where
  | nil : Nested []
  | plain {t : Token} {ts : List Token} : t.isOpen = false → t.isClose = false → Nested ts →
      Nested (t :: ts)
  | group {o c : Token} {inner rest : List Token} : o.isOpen = true → c.Closes o → Nested inner →
      Nested rest → Nested (o :: (inner ++ c :: rest))

namespace Nested

variable {t : Token} {ts : List Token}

theorem isClose_head (h : Nested (t :: ts)) : t.isClose = false := by
  cases h with
  | plain _ hclose _ => exact hclose
  | group hopen _ _ _ =>
    by_contra hclose
    rw [Token.isOpen_eq_false_of_isClose (Bool.of_not_eq_false hclose)] at hopen
    cases hopen

theorem tail (h : Nested (t :: ts)) (hopen : t.isOpen = false) : Nested ts := by
  cases h with
  | plain _ _ h => exact h
  | group hopen' _ _ _ =>
    rw [hopen] at hopen'
    cases hopen'

theorem split (h : Nested (t :: ts)) (hopen : t.isOpen = true) :
    ∃ inner c rest, ts = inner ++ c :: rest ∧ c.Closes t ∧ Nested inner ∧ Nested rest := by
  cases h with
  | plain hopen' _ _ =>
    rw [hopen] at hopen'
    cases hopen'
  | group _ hcloses hinner hrest => exact ⟨_, _, _, rfl, hcloses, hinner, hrest⟩

end Nested

theorem groupEnd_nested {ts : List Token} (h : Nested ts) (depth : Nat) (rest : List Token) :
    groupEnd (depth + 1) 0 (ts ++ rest) = (groupEnd (depth + 1) 0 rest).map (ts.length + ·) := by
  induction h generalizing depth rest with
  | nil => simp
  | plain hopen hclose _ ih =>
    rw [List.cons_append, groupEnd, if_neg (by simp [hopen]), if_neg (by simp [hclose]),
      groupEnd_eq_map, ih, map_add_map, List.length_cons, Nat.zero_add, Nat.add_comm]
  | @group o c inner rest' hopen hcloses _ _ ihinner ihrest =>
    have hclose := Token.isClose_of_closes hcloses
    rw [List.cons_append, groupEnd, if_pos hopen, groupEnd_eq_map, List.append_assoc, ihinner,
      List.cons_append, groupEnd, if_neg (by simp [Token.isOpen_eq_false_of_isClose hclose]),
      if_pos hclose, if_neg (by omega), groupEnd_eq_map, Nat.add_sub_cancel, ihrest, map_add_map,
      map_add_map, map_add_map]
    congr 1
    funext k
    simp only [List.length_cons, List.length_append]
    omega

theorem groupEnd_group {o c : Token} {inner : List Token} (hopen : o.isOpen = true)
    (hcloses : c.Closes o) (hinner : Nested inner) (rest : List Token) :
    groupEnd 0 0 (o :: (inner ++ c :: rest)) = some (inner.length + 1) := by
  have hclose := Token.isClose_of_closes hcloses
  rw [groupEnd, if_pos hopen, groupEnd_eq_map, groupEnd_nested hinner, groupEnd,
    if_neg (by simp [Token.isOpen_eq_false_of_isClose hclose]), if_pos hclose, if_pos (by omega)]
  simp only [Option.map_some, Option.some.injEq]
  omega

structure Passes (ts : List Token) (m : Nat) : Prop where
  le_length : m ≤ ts.length
  nested_drop : Nested (ts.drop m)

namespace Passes

variable {t : Token} {ts : List Token} {m n : Nat}

theorem zero (h : Nested ts) : Passes ts 0 := ⟨Nat.zero_le _, h⟩

theorem cons (h : Passes ts m) : Passes (t :: ts) (m + 1) :=
  ⟨Nat.succ_le_succ h.le_length, h.nested_drop⟩

theorem add (h : Passes ts m) (hn : Passes (ts.drop m) n) : Passes ts (m + n) := by
  obtain ⟨hle, hnested⟩ := hn
  rw [List.length_drop] at hle
  rw [List.drop_drop] at hnested
  exact ⟨by have := h.le_length; omega, hnested⟩

theorem drop_append (h : Passes ts m) (us : List Token) : (ts ++ us).drop m = ts.drop m ++ us :=
  List.drop_append_of_le_length h.le_length

theorem close {o c : Token} {inner rest : List Token} (hrest : Nested rest) :
    Passes (o :: (inner ++ c :: rest)) (inner.length + 2) := by
  constructor
  · simp
  · simpa using hrest

end Passes


/-! ### A closing bracket carries nothing on -/

section Close

variable {k : Token} (hk : k.isClose = true)
include hk

theorem kind_of_isClose : k.kind = .punct := by
  simp only [Token.isClose, Token.isPunct, Bool.or_eq_true, Bool.and_eq_true, decide_eq_true_eq] at hk
  grind

theorem isPunct_of_isClose {mark : String} (hmark : mark ∉ [")", "]", "\x7d"]) :
    k.isPunct mark = false := by
  simp only [Token.isClose, Token.isPunct, Bool.or_eq_true, Bool.and_eq_true, decide_eq_true_eq,
    beq_iff_eq] at hk
  simp only [List.mem_cons, List.not_mem_nil, or_false, not_or] at hmark
  simp only [Token.isPunct, Bool.and_eq_false_iff, decide_eq_false_iff_not, beq_eq_false_iff_ne]
  grind

end Close

/-- Nothing at the front of the tokens goes on with what was read before them. -/
def Halts (ts : List Token) : Prop :=
  ∀ k ∈ ts.head?, k.isIdent = false ∧ k.isOpen = false ∧
    ∀ mark ∈ [".", "?.", "::", "->", "?", "!"], k.isPunct mark = false

namespace Halts

variable {k : Token} {ts : List Token}

theorem of_isClose (hk : k.isClose = true) : Halts (k :: ts) := by
  intro k' hk'
  obtain rfl : k = k' := by simpa using hk'
  refine ⟨by simp [Token.isIdent, kind_of_isClose hk], Token.isOpen_eq_false_of_isClose hk, ?_⟩
  intro mark hmark
  apply isPunct_of_isClose hk
  revert mark
  decide

theorem isIdent_head (h : Halts (k :: ts)) : k.isIdent = false := (h k rfl).1

theorem isOpen_head (h : Halts (k :: ts)) : k.isOpen = false := (h k rfl).2.1

theorem isPunct_head (h : Halts (k :: ts)) {mark : String}
    (hmark : mark ∈ [".", "?.", "::", "->", "?", "!"]) : k.isPunct mark = false := (h k rfl).2.2 mark hmark

theorem not_link (h : Halts ts) {room next : Nat} {op op' : Operand} {stop : Option Nat} :
    ¬ Link room op ts next op' stop := by
  have hmark {mark : Token} {after : List Token} (h : Halts (mark :: after)) : isLinkMark mark = false := by
    simp [isLinkMark, h.isPunct_head]
  intro hlink
  cases hlink with
  | call hcall => simp [hmark h] at hcall
  | passedCall hcall => simp [hmark h] at hcall
  | field hfield => simp [hmark h] at hfield
  | ask hask => simp [h.isPunct_head] at hask
  | index hindex =>
    have hopen := h.isOpen_head
    simp [Token.isOpen, hindex] at hopen

theorem readLink_eq_none (h : Halts ts) (room : Nat) (op : Operand) : readLink room op ts = none := by
  rw [Option.eq_none_iff_forall_ne_some]
  intro link hlink
  exact h.not_link (readLink_eq_some_iff.mp hlink)

theorem exists_cons {t : Token} {us behind : List Token} (h : Halts ts) (hall : us ++ ts = t :: behind)
    (ht : ¬ Halts (t :: behind)) : ∃ inner, us = t :: inner ∧ behind = inner ++ ts := by
  cases us with
  | nil =>
    rw [List.nil_append] at hall
    rw [hall] at h
    exact absurd h ht
  | cons u inner =>
    rw [List.cons_append, List.cons.injEq] at hall
    exact ⟨inner, by rw [hall.1], hall.2.symm⟩

theorem callOpen?_eq_none (h : Halts ts) (nameEnd : Nat) : callOpen? nameEnd ts = none := by
  cases ts with
  | nil => rfl
  | cons k rest =>
    have hopen := h.isOpen_head
    simp only [Token.isOpen, Bool.or_eq_false_iff] at hopen
    simp [callOpen?, h.isPunct_head, hopen]

theorem segments_eq_nil (h : Halts ts) : segments ts = [] := by
  obtain _ | ⟨k, _ | ⟨name, after⟩⟩ := ts
  · simp [segments]
  · simp [segments]
  · simp [segments, isPathMark, h.isPunct_head]

end Halts

theorem readLink_close {k : Token} (hk : k.isClose = true) (room : Nat) (op : Operand) (rest : List Token) :
    readLink room op (k :: rest) = none :=
  (Halts.of_isClose hk).readLink_eq_none room op

theorem callOpen?_close {k : Token} (hk : k.isClose = true) (nameEnd : Nat) (rest : List Token) :
    callOpen? nameEnd (k :: rest) = none :=
  (Halts.of_isClose hk).callOpen?_eq_none nameEnd

theorem segments_close {k : Token} (hk : k.isClose = true) (rest : List Token) : segments (k :: rest) = [] :=
  (Halts.of_isClose hk).segments_eq_nil

/-! ### Readers stop between brackets -/

def GroupsClose (size : Nat) : Prop :=
  ∀ (room : Nat) (o c : Token) (inner rest : List Token), o.isOpen = true → c.Closes o →
    Nested inner → inner.length < size →
    (readGroup room (o :: (inner ++ c :: rest))).2 = some (inner.length + 1)


theorem passes_callOpen? {ts rest : List Token} (hrest : Halts rest) (hts : Nested ts)
    {nameEnd : Nat} {isMacro : Bool} (h : callOpen? nameEnd (ts ++ rest) = some isMacro) :
    Passes ts (callGap isMacro) ∧ ∃ o inside, ts.drop (callGap isMacro) = o :: inside ∧
      o.isOpen = true := by
  cases ts with
  | nil =>
    rw [List.nil_append, hrest.callOpen?_eq_none] at h
    cases h
  | cons t ts =>
    rw [List.cons_append, callOpen?] at h
    split at h
    next hparen =>
      cases h
      exact ⟨.zero hts, t, ts, rfl, by simp [Token.isOpen, hparen]⟩
    next =>
      split at h
      next hmacro =>
        cases h
        simp only [Bool.and_eq_true] at hmacro
        obtain ⟨⟨hbang, hnext⟩, -⟩ := hmacro
        have hplain : t.isOpen = false := by
          simp only [Token.isPunct, Bool.and_eq_true, beq_iff_eq] at hbang
          simp [Token.isOpen, Token.isPunct, hbang]
        have hafter := hts.tail hplain
        cases ts with
        | nil =>
          cases rest with
          | nil => cases hnext
          | cons k rest => simp [hrest.isOpen_head] at hnext
        | cons o inside => exact ⟨(Passes.zero hafter).cons, o, inside, rfl, hnext⟩
      next => cases h

theorem passes_segments {rest : List Token} (hrest : Halts rest) (ts : List Token) (hts : Nested ts) :
    Passes ts (2 * (segments (ts ++ rest)).length) := by
  match ts with
  | [] =>
    rw [List.nil_append, hrest.segments_eq_nil]
    exact .zero hts
  | [t] =>
    have hnone : segments ([t] ++ rest) = [] := by
      cases rest with
      | nil => simp [segments]
      | cons k rest => simp [segments, hrest.isIdent_head]
    rw [hnone]
    exact .zero hts
  | mark :: name :: ts =>
    rw [List.cons_append, List.cons_append, segments]
    split
    next h =>
      simp only [Bool.and_eq_true, isPathMark, Bool.or_eq_true, Token.isPunct, Token.isIdent,
        decide_eq_true_eq, beq_iff_eq] at h
      have hmark : mark.isOpen = false := by
        simp only [Token.isOpen, Token.isPunct]
        grind
      have hname : name.isOpen = false := Token.isOpen_of_kind_ne (by simp [h.2])
      exact (passes_segments hrest ts ((hts.tail hmark).tail hname)).cons.cons
    next => exact .zero hts
termination_by ts.length

section Inside

variable {size : Nat} (hgroups : GroupsClose size) {ts : List Token}

include hgroups in
theorem passes_readGroup (rest : List Token) (room : Nat) {o : Token} (h : Nested (o :: ts))
    (hopen : o.isOpen = true) (hsize : ts.length < size) :
    ∃ m, (readGroup room (o :: (ts ++ rest))).2 = some m ∧ Passes (o :: ts) (m + 1) := by
  obtain ⟨inner, c, left, rfl, hcloses, hinner, hleft⟩ := h.split hopen
  simp only [List.length_append, List.length_cons] at hsize
  refine ⟨inner.length + 1, ?_, .close hleft⟩
  rw [List.append_assoc, List.cons_append]
  exact hgroups room o c inner _ hopen hcloses hinner (by omega)

theorem passes_groupEnd (rest : List Token) {o : Token} (h : Nested (o :: ts)) (hopen : o.isOpen = true) :
    ∃ m, groupEnd 0 0 (o :: (ts ++ rest)) = some m ∧ Passes (o :: ts) (m + 1) := by
  obtain ⟨inner, c, left, rfl, hcloses, hinner, hleft⟩ := h.split hopen
  refine ⟨inner.length + 1, ?_, .close hleft⟩
  rw [List.append_assoc, List.cons_append]
  exact groupEnd_group hopen hcloses hinner _

variable {rest : List Token} (hrest : Halts rest)

include hrest in
theorem exists_name_of_nested {mark name : Token} {after : List Token} (hts : Nested ts)
    (hall : ts ++ rest = mark :: name :: after) (hmark : isLinkMark mark = true)
    (hname : name.kind = .ident) :
    ∃ inner, ts = mark :: name :: inner ∧ after = inner ++ rest ∧ Nested inner := by
  have hstop : ¬ Halts (mark :: name :: after) := by
    intro h
    simp [isLinkMark, h.isPunct_head] at hmark
  obtain ⟨inner, rfl, hinner⟩ := hrest.exists_cons hall hstop
  have hstop : ¬ Halts (name :: after) := by
    intro h
    have hident := h.isIdent_head
    simp [Token.isIdent, hname] at hident
  obtain ⟨inner, rfl, rfl⟩ := hrest.exists_cons hinner.symm hstop
  have hplain : mark.isOpen = false := by
    simp only [isLinkMark, Token.isPunct, Bool.or_eq_true, Bool.and_eq_true, beq_iff_eq] at hmark
    simp only [Token.isOpen, Token.isPunct]
    grind
  exact ⟨inner, rfl, rfl, (hts.tail hplain).tail (Token.isOpen_of_kind_ne (by simp [hname]))⟩

include hrest in
theorem exists_bracket_of_nested {mark name : Token} {nameEnd : Nat} {isMacro : Bool} (hts : Nested ts)
    (hcall : callOpen? nameEnd (ts ++ rest) = some isMacro) :
    ∃ o inside, (ts ++ rest).drop (callGap isMacro) = o :: (inside ++ rest) ∧ o.isOpen = true ∧
      Nested (o :: inside) ∧ inside.length < ts.length ∧
      ∀ m, Passes (o :: inside) (m + 1) →
        Passes (mark :: name :: ts) (callGap isMacro + (m + 1) + 2) := by
  obtain ⟨hgap, o, inside, hbracket, hopen⟩ := passes_callOpen? hrest hts hcall
  have hgroup := hgap.nested_drop
  have hshort := (List.drop_sublist (callGap isMacro) ts).length_le
  rw [hbracket] at hgroup hshort
  refine ⟨o, inside, ?_, hopen, hgroup, by rwa [List.length_cons] at hshort, ?_⟩
  · rw [hgap.drop_append, hbracket, List.cons_append]
  · intro m hm
    exact (hgap.add (hbracket ▸ hm)).cons.cons

include hgroups hrest in
theorem passes_readLink {room next : Nat} {op op' : Operand} {stop : Option Nat} (hts : Nested ts)
    (hsize : ts.length ≤ size) (h : readLink room op (ts ++ rest) = some (next, op', stop)) :
    ∃ m, stop = some m ∧ Passes ts m := by
  rw [readLink_eq_some_iff] at h
  have hstop {us : List Token} (h : Link room op us next op' stop) : ¬ Halts us := fun hus => hus.not_link h
  generalize hall : ts ++ rest = all at h
  cases h with
  | call hmark hname hcall hroom =>
    obtain ⟨inner, rfl, rfl, hinner⟩ := exists_name_of_nested hrest hts hall hmark hname
    obtain ⟨o, inside, hbracket, hopen, hgroup, hshort, hpast⟩ := exists_bracket_of_nested hrest hinner hcall
    simp only [List.length_cons] at hsize
    obtain ⟨m, hend, hm⟩ := passes_readGroup hgroups rest room hgroup hopen (by omega)
    rw [hbracket, hend]
    exact ⟨_, rfl, hpast m hm⟩
  | passedCall hmark hname hcall hroom =>
    obtain ⟨inner, rfl, rfl, hinner⟩ := exists_name_of_nested hrest hts hall hmark hname
    obtain ⟨o, inside, hbracket, hopen, hgroup, -, hpast⟩ := exists_bracket_of_nested hrest hinner hcall
    obtain ⟨m, hend, hm⟩ := passes_groupEnd rest hgroup hopen
    rw [hbracket, hend]
    exact ⟨_, rfl, hpast m hm⟩
  | field hmark hname hcall hop =>
    obtain ⟨inner, rfl, -, hinner⟩ := exists_name_of_nested hrest hts hall hmark hname
    exact ⟨2, rfl, (Passes.zero hinner).cons.cons⟩
  | @ask mark after hmark hop =>
    obtain ⟨inner, rfl, -⟩ := hrest.exists_cons hall (hstop (.ask hmark hop))
    have hplain : mark.isOpen = false := by
      simp only [Token.isPunct, Bool.and_eq_true, beq_iff_eq] at hmark
      simp [Token.isOpen, Token.isPunct, hmark.2]
    exact ⟨1, rfl, (Passes.zero (hts.tail hplain)).cons⟩
  | @index bracket after hbracket hop =>
    obtain ⟨inner, rfl, rfl⟩ := hrest.exists_cons hall (hstop (.index hbracket hop))
    obtain ⟨m, hend, hm⟩ := passes_groupEnd rest hts (by simp [Token.isOpen, hbracket])
    rw [hend]
    exact ⟨m + 1, rfl, hm⟩

include hgroups hrest in
theorem passes_readLinks (room : Nat) (op : Operand) (hts : Nested ts) (hsize : ts.length ≤ size) :
    ∃ m, (readLinks room op 0 (ts ++ rest)).2 = some m ∧ Passes ts m := by
  induction hlen : ts.length using Nat.strongRecOn generalizing room op ts with
  | ind len ih =>
    subst hlen
    rw [readLinks_eq_readLink]
    cases hlink : readLink room op (ts ++ rest) with
    | none => exact ⟨0, rfl, .zero hts⟩
    | some next =>
      obtain ⟨next, op', stop⟩ := next
      obtain ⟨m, rfl, hm⟩ := passes_readLink hgroups hrest hts hsize hlink
      have hpos := (pos_of_readLink hlink).1
      have hshort := hm.le_length
      obtain ⟨j, hstop, hj⟩ := ih (ts.drop m).length (by rw [List.length_drop]; omega) next op'
        hm.nested_drop (by rw [List.length_drop]; omega) rfl
      dsimp only
      rw [Nat.zero_add, hm.drop_append, readLinks_eq_map, hstop]
      exact ⟨m + j, rfl, hm.add hj⟩

include hgroups hrest in
theorem passes_readWord (room : Nat) (t : Token) (hts : Nested ts) (hsize : ts.length ≤ size) :
    ∃ m, (readWord room t (ts ++ rest)).2 = some m ∧ Passes ts m := by
  have hpath := passes_segments hrest ts hts
  have hlength : (DottedPath.read t (ts ++ rest)).length - 1 =
      2 * (segments (ts ++ rest)).length := Nat.add_sub_cancel_left ..
  rw [readWord]
  dsimp only
  rw [hlength]
  generalize DottedPath.read t (ts ++ rest) = path
  generalize 2 * (segments (ts ++ rest)).length = m at hpath ⊢
  rw [hpath.drop_append]
  have hshort := (List.drop_sublist m ts).length_le
  split
  · obtain ⟨j, hstop, hj⟩ := passes_readLinks hgroups hrest room (.ident path.text)
      hpath.nested_drop (by omega)
    rw [hstop]
    exact ⟨m + j, rfl, hpath.add hj⟩
  next isMacro hcall =>
    obtain ⟨hgap, o, inside, hbracket, hopen⟩ := passes_callOpen? hrest hpath.nested_drop hcall
    have hgroup := hgap.nested_drop
    have hinside := (List.drop_sublist (callGap isMacro) (ts.drop m)).length_le
    rw [hbracket] at hgroup hinside
    rw [List.length_cons] at hinside
    rw [hgap.drop_append, hbracket, List.cons_append]
    obtain ⟨close, hend, hclose⟩ := passes_readGroup hgroups rest room hgroup hopen (by omega)
    have hpast : Passes ts (m + (callGap isMacro + (close + 1))) :=
      hpath.add (hgap.add (hbracket ▸ hclose))
    rw [hend]
    dsimp only
    have hleft : (o :: (inside ++ rest)).drop (close + 1) =
        ts.drop (m + (callGap isMacro + (close + 1))) ++ rest := by
      rw [← List.cons_append, hclose.drop_append, ← hbracket, List.drop_drop, List.drop_drop]
    obtain ⟨j, hstop, hj⟩ := passes_readLinks hgroups hrest (room - 1)
      (.call ⟨calleeText path.text isMacro, none, (readGroup room (o :: (inside ++ rest))).1⟩)
      hpast.nested_drop (by rw [List.length_drop]; omega)
    rw [hleft, hstop]
    refine ⟨m + (callGap isMacro + (close + 1)) + j, ?_, hpast.add hj⟩
    simp only [Option.map_some, Nat.add_assoc]

include hgroups hrest in
theorem passes_readTurn {room : Nat} {place : Place} {before : Option Token} {d e : Draft} {t : Token}
    {stop : Option Nat} (hts : Nested (t :: ts)) (hsize : ts.length < size)
    (h : readTurn room place before d t (ts ++ rest) = some (e, stop)) :
    ∃ m, stop = some m ∧ Passes (t :: ts) (m + 1) := by
  have hword (hkind : t.kind ≠ .punct) : Nested ts := hts.tail (Token.isOpen_of_kind_ne hkind)
  unfold readTurn at h
  split at h
  next hkind =>
    split at h
    · cases h
    · cases h
      exact ⟨0, rfl, (Passes.zero (hword (by simp [hkind]))).cons⟩
  next =>
    split at h
    · cases h
    · split at h
      next hopen =>
        obtain ⟨m, hend, hm⟩ := passes_readGroup hgroups rest room hts hopen hsize
        dsimp only at h
        rw [hend] at h
        cases h
        exact ⟨m, rfl, hm⟩
      next hopen =>
        cases h
        exact ⟨0, rfl, (Passes.zero (hts.tail (Bool.eq_false_iff.mpr hopen))).cons⟩
  next interpolated hkind =>
    obtain ⟨m, hstop, hm⟩ := passes_readLinks hgroups hrest room
      (.literal t.text interpolated) (hword (by simp [hkind])) (Nat.le_of_lt hsize)
    dsimp only at h
    rw [hstop] at h
    cases h
    exact ⟨m, rfl, hm.cons⟩
  next hkind =>
    cases h
    exact ⟨0, rfl, (Passes.zero (hword (by simp [hkind]))).cons⟩
  next hkind =>
    have hafter := hword (by simp [hkind])
    split at h
    · cases h
      exact ⟨0, rfl, (Passes.zero hafter).cons⟩
    · obtain ⟨m, hstop, hm⟩ := passes_readWord hgroups hrest room t hafter (Nat.le_of_lt hsize)
      dsimp only at h
      rw [hstop] at h
      cases h
      exact ⟨m, rfl, hm.cons⟩

theorem endsExpr_of_readTurn {room : Nat} {before : Option Token} {d : Draft} {t : Token}
    {rest : List Token} (h : readTurn room .brackets before d t rest = none) : endsExpr t = true := by
  unfold readTurn at h
  split at h
  next => simp at h
  next =>
    split at h
    next hends => exact hends
    next => split at h <;> cases h
  next => cases h
  next => cases h
  next => split at h <;> cases h

variable {k : Token} (hk : k.isClose = true)

include hgroups hk in
theorem passes_readDraft (rest : List Token) (room : Nat) (before : Option Token) (d : Draft) (hts : Nested ts)
    (hsize : ts.length ≤ size) :
    ∃ m, (readDraft room .brackets before d 0 (ts ++ k :: rest)).2 = some m ∧ Passes ts m := by
  induction hlen : ts.length using Nat.strongRecOn generalizing d ts with
  | ind len ih =>
    subst hlen
    cases ts with
    | nil =>
      have hends : endsExpr k = true := by simp [endsExpr, hk]
      rw [List.nil_append, readDraft_eq_readTurn, readTurn, kind_of_isClose hk]
      simp only [hends, if_true]
      exact ⟨0, rfl, .zero hts⟩
    | cons t ts =>
      rw [List.length_cons] at hsize
      rw [List.cons_append, readDraft_eq_readTurn]
      cases hturn : readTurn room .brackets before d t (ts ++ k :: rest) with
      | none => exact ⟨0, rfl, .zero hts⟩
      | some next =>
        obtain ⟨e, stop⟩ := next
        obtain ⟨m, rfl, hm⟩ := passes_readTurn hgroups (.of_isClose hk) hts hsize hturn
        have hle := hm.le_length
        have hleft : Nested (ts.drop m) := hm.nested_drop
        rw [List.length_cons] at hle
        have hshort : (ts.drop m).length ≤ ts.length := (List.drop_sublist m ts).length_le
        have hdrop : (ts ++ k :: rest).drop m = ts.drop m ++ k :: rest :=
          List.drop_append_of_le_length (by omega)
        obtain ⟨j, hstop, hj⟩ := ih (ts.drop m).length (Nat.lt_succ_of_le hshort)
          (e.passed (t :: (ts ++ k :: rest).take m)) hleft (by omega) rfl
        dsimp only
        rw [hdrop, readDraft_eq_map, hstop]
        refine ⟨m + 1 + j, ?_, hm.add hj⟩
        simp only [Option.map_some, Nat.zero_add]

theorem pos_of_readDraft {room : Nat} {before : Option Token} {d : Draft} {t : Token}
    {rest : List Token} {m : Nat} (hends : endsExpr t = false)
    (h : (readDraft room .brackets before d 0 (t :: rest)).2 = some m) : 0 < m := by
  rw [readDraft_eq_readTurn] at h
  match hturn : readTurn room .brackets before d t rest with
  | none =>
    rw [endsExpr_of_readTurn hturn] at hends
    cases hends
  | some (e, none) =>
    rw [hturn] at h
    cases h
  | some (e, some j) =>
    rw [hturn] at h
    dsimp only at h
    rw [readDraft_eq_map] at h
    obtain ⟨i, -, hi⟩ := Option.map_eq_some_iff.mp h
    omega

include hgroups hk in
theorem readItems_nested (rest : List Token) (room : Nat) {closer : String} (hcloser : k.isPunct closer = true)
    (done : List Expr) (hts : Nested ts) (hsize : ts.length ≤ size) :
    (readItems room closer done 0 (ts ++ k :: rest)).2 = some ts.length := by
  induction hlen : ts.length using Nat.strongRecOn generalizing done ts with
  | ind len ih =>
    subst hlen
    cases ts with
    | nil =>
      rw [List.nil_append, readItems, if_pos hcloser]
      rfl
    | cons t ts =>
      have hclose := hts.isClose_head
      have hnot : t.isPunct closer = false := by
        by_contra h
        rw [Token.isClose_of_isPunct hk hcloser (Bool.of_not_eq_false h)] at hclose
        cases hclose
      rw [List.cons_append, readItems, if_neg (by simp [hnot])]
      split
      next hsep =>
        have hplain : t.isOpen = false := by
          simp only [Token.isNewline, Token.isPunct, Bool.or_eq_true, Bool.and_eq_true,
            decide_eq_true_eq, beq_iff_eq] at hsep
          simp only [Token.isOpen, Token.isPunct]
          grind
        rw [List.length_cons] at hsize
        rw [readItems_eq_map, ih ts.length (Nat.lt_succ_self _) done (hts.tail hplain) (by omega) rfl]
        simp [Nat.add_comm]
      next hsep =>
        simp only [Bool.or_eq_true, not_or] at hsep
        have hends : endsExpr t = false := by simp [endsExpr, hsep, hclose]
        obtain ⟨m, hstop, hm⟩ := passes_readDraft hgroups hk rest room none {} hts hsize
        have hpos := pos_of_readDraft hends hstop
        obtain ⟨m, rfl⟩ := Nat.exists_eq_add_one_of_ne_zero (Nat.ne_of_gt hpos)
        have hleft : Nested (ts.drop m) := hm.nested_drop
        have hle : m ≤ ts.length := Nat.le_of_succ_le_succ hm.le_length
        rw [List.cons_append] at hstop
        dsimp only
        rw [hstop]
        dsimp only
        rw [List.length_cons] at hsize
        rw [Nat.add_sub_cancel, List.drop_append_of_le_length hle, readItems_eq_map,
          ih (ts.drop m).length (by rw [List.length_drop, List.length_cons]; omega) _ hleft
            (by rw [List.length_drop]; omega) rfl]
        simp only [Option.map_some, List.length_drop, List.length_cons, Option.some.injEq]
        omega

end Inside

theorem groupsClose (size : Nat) : GroupsClose size := by
  induction size with
  | zero => exact fun _ _ _ _ _ _ _ _ hlt => absurd hlt (Nat.not_lt_zero _)
  | succ size ih =>
    intro room o c inner rest hopen hcloses hinner hlt
    cases room with
    | zero =>
      rw [readGroup]
      · exact groupEnd_group hopen hcloses hinner rest
      · exact List.cons_ne_nil _ _
    | succ room =>
      rw [readGroup, readItems_eq_map, readItems_nested ih (Token.isClose_of_closes hcloses) rest room
        hcloses [] hinner (Nat.le_of_lt_succ hlt)]
      simp [Nat.add_comm]

/-- A bracket is read up to its own closer, at whatever depth. -/
theorem readGroup_nested (room : Nat) {o c : Token} {inner : List Token} (rest : List Token)
    (hopen : o.isOpen = true) (hcloses : c.Closes o) (hinner : Nested inner) :
    (readGroup room (o :: (inner ++ c :: rest))).2 = some (inner.length + 1) :=
  groupsClose (inner.length + 1) room o c inner rest hopen hcloses hinner (Nat.lt_succ_self _)

/-- The bracket at `i` is closed at `c` by one of its own kind, and so is every bracket in between. -/
structure ClosedAt (ts : List Token) (i c : Nat) : Prop where
  lt : i < c
  closes : ∃ o k, ts[i]? = some o ∧ ts[c]? = some k ∧ o.isOpen = true ∧ k.Closes o
  nested : Nested ((ts.take c).drop (i + 1))

theorem ClosedAt.drop_eq {ts : List Token} {i c : Nat} (h : ClosedAt ts i c) :
    ∃ o k inner rest, ts.drop i = o :: (inner ++ k :: rest) ∧ o.isOpen = true ∧ k.Closes o ∧
      Nested inner ∧ inner.length + 1 = c - i := by
  obtain ⟨hlt, ⟨o, k, ho, hk, hopen, hcloses⟩, hnested⟩ := h
  obtain ⟨hi, rfl⟩ := List.getElem?_eq_some_iff.mp ho
  obtain ⟨hc, rfl⟩ := List.getElem?_eq_some_iff.mp hk
  refine ⟨ts[i], ts[c], (ts.take c).drop (i + 1), ts.drop (c + 1), ?_, hopen, hcloses, hnested, ?_⟩
  · have hsplit : ts.drop (i + 1) = (ts.take c).drop (i + 1) ++ ts.drop c := by
      conv_lhs => rw [← List.take_append_drop c ts]
      rw [List.drop_append_of_le_length]
      rw [List.length_take]
      omega
    rw [List.drop_eq_getElem_cons hi, hsplit, List.drop_eq_getElem_cons hc]
  · rw [List.length_drop, List.length_take]
    omega

/-- A bracket that is closed by its own kind around closed brackets is read up to that closer at every
depth, also beyond the limit, and the closer is where counting brackets leads. -/
theorem closer_found_at_every_depth (ts : Array Token) {i c : Nat} (h : ClosedAt ts.toList i c)
    (depth : Nat) :
    (readArgs depth (ts.toList.drop i)).2 = some (c - i) ∧
    groupEnd 0 0 (ts.toList.drop i) = some (c - i) ∧
    ∀ steps, 5 * (ts.size + 1) ≤ steps →
      (∃ args, (Cursor.argsAt ts steps depth i).run = some (.ok (args, c))) ∧
      (Cursor.groupEndAt ts steps 0 i).run = some (.ok c) := by
  have hlt := h.lt
  obtain ⟨o, k, inner, rest, hdrop, hopen, hcloses, hinner, hlength⟩ := h.drop_eq
  have hargs : (readArgs depth (ts.toList.drop i)).2 = some (c - i) := by
    rw [hdrop, readArgs, readGroup_nested _ rest hopen hcloses hinner, hlength]
  have hend : groupEnd 0 0 (o :: (inner ++ k :: rest)) = some (c - i) := by
    rw [groupEnd_group hopen hcloses hinner, hlength]
  refine ⟨hargs, hdrop ▸ hend, fun steps hsteps => ⟨?_, ?_⟩⟩
  · have hsize := Cursor.lt_size_of_drop hdrop
    have ho : ts[i].isOpen = true := by
      obtain ⟨_, hget⟩ := Array.getElem?_eq_some_iff.mp (Cursor.getElem?_of_drop hdrop)
      rw [hget, hopen]
    obtain ⟨j, hat, hland⟩ := Cursor.argsAt_agrees_readArgs ts steps depth i hsize ho hsteps
    rw [hargs] at hland
    obtain rfl : j = c := by
      have := hland.2.1
      omega
    exact ⟨_, hat⟩
  · have hleft : (inner ++ k :: rest).length + 1 ≤ ts.size := by
      rw [← List.length_cons, ← hdrop, List.length_drop, Array.length_toList]
      omega
    obtain ⟨j, hat, hland⟩ := Cursor.groupEndAt_of_open ts hdrop hopen (show _ < steps by omega)
    rw [hend] at hland
    obtain rfl : j = c := by
      have := hland.2.1
      omega
    exact hat

theorem closer_found_at_every_depth_two_kinds :
    ClosedAt (tokenize .go "(a[b],(c))").toList 0 9 ∧
      ∀ depth, (readArgs depth (tokenize .go "(a[b],(c))").toList).2 = some 9 := by
  have htokens : (tokenize .go "(a[b],(c))").toList =
      [⟨.punct, "(", ⟨0, 1⟩, 1, 1⟩, ⟨.ident, "a", ⟨1, 2⟩, 1, 2⟩, ⟨.punct, "[", ⟨2, 3⟩, 1, 3⟩,
        ⟨.ident, "b", ⟨3, 4⟩, 1, 4⟩, ⟨.punct, "]", ⟨4, 5⟩, 1, 5⟩, ⟨.punct, ",", ⟨5, 6⟩, 1, 6⟩,
        ⟨.punct, "(", ⟨6, 7⟩, 1, 7⟩, ⟨.ident, "c", ⟨7, 8⟩, 1, 8⟩, ⟨.punct, ")", ⟨8, 9⟩, 1, 9⟩,
        ⟨.punct, ")", ⟨9, 10⟩, 1, 10⟩] := by
    decide +kernel
  have hclosed : ClosedAt (tokenize .go "(a[b],(c))").toList 0 9 := by
    rw [htokens]
    refine ⟨by decide, ⟨_, _, rfl, rfl, rfl, rfl⟩, ?_⟩
    have hname (text : String) (span : Span) (column : Nat) :
        Nested [⟨.ident, text, span, 1, column⟩] := .plain rfl rfl .nil
    apply Nested.plain rfl rfl
    refine @Nested.group _ _ [_] _ rfl ?_ (hname ..) (Nested.plain rfl rfl ?_)
    · rfl
    · refine @Nested.group _ _ [_] _ rfl ?_ (hname ..) .nil
      rfl
  exact ⟨hclosed, fun depth => (closer_found_at_every_depth _ hclosed depth).1⟩

end Expr
end SourceAudit
