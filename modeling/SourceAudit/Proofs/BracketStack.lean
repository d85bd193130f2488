import SourceAudit.Proofs.Finds

/-! How a walk passes a bracket. What a walk opens inside a bracket it also closes there, so behind the bracket
its stack is as it was before, and the roots it has noted since are those of calls inside. Two things would
lead it astray: the name of a function, which is never a call, and a declaration whose `=` is taken from inside
a bracket. -/
namespace SourceAudit

def Bracket.closer : Bracket → String
  | round => ")"
  | square => "]"
  | block | items => "\x7d"

namespace Expr

/-! ### Nesting can be checked -/

/-- Every bracket is closed by one of its own kind, and so are brackets opened before, whose closing marks are
given, the innermost first. -/
def nests (marks : List String) : List Token → Bool
  | [] => marks.isEmpty
  | t :: ts =>
    if t.isOpen then nests (Token.closerOf t.text :: marks) ts
    else if t.isClose then marks.head?.any t.isPunct && nests marks.tail ts
    else nests marks ts

theorem nests_append {us : List Token} (h : Nested us) (marks : List String) (ts : List Token) :
    nests marks (us ++ ts) = nests marks ts := by
  induction h generalizing marks ts with
  | nil => rfl
  | plain hopen hclose _ ih =>
    rw [List.cons_append, nests, if_neg (by simp [hopen]), if_neg (by simp [hclose]), ih]
  | group hopen hcloses _ _ ihinner ihrest =>
    have hclose := Token.isClose_of_closes hcloses
    have hplain := Token.isOpen_eq_false_of_isClose hclose
    rw [List.cons_append, nests, if_pos hopen, List.append_assoc, ihinner, List.cons_append, nests,
      if_neg (by simp [hplain]), if_pos hclose, List.head?_cons, Option.any_some, hcloses, Bool.true_and,
      List.tail_cons, ihrest]

theorem exists_closer_of_nests {mark : String} {marks : List String} {ts : List Token}
    (h : nests (mark :: marks) ts = true) :
    ∃ inner closer rest, ts = inner ++ closer :: rest ∧ Nested inner ∧ closer.isPunct mark = true ∧
      nests marks rest = true := by
  induction hlength : ts.length using Nat.strongRecOn generalizing mark marks ts with
  | ind length ih =>
    subst hlength
    cases ts with
    | nil => simp [nests] at h
    | cons t ts =>
      rw [nests] at h
      split at h
      next hopen =>
        -- the bracket that opens here is closed first, and then the one looked for
        obtain ⟨inner, c, rest, rfl, hinner, hc, hrest⟩ := ih _ (by simp) h rfl
        have hshorter : rest.length < (t :: (inner ++ c :: rest)).length := by
          simp only [List.length_cons, List.length_append]
          omega
        obtain ⟨inner', closer, rest', rfl, hinner', hcloser, hrest'⟩ := ih _ hshorter hrest rfl
        exact ⟨t :: (inner ++ c :: inner'), closer, rest', by simp, .group hopen hc hinner hinner', hcloser, hrest'⟩
      next hopen =>
      split at h
      next hclose =>
        obtain ⟨hmark, hrest⟩ := Bool.and_eq_true_iff.mp h
        exact ⟨[], t, ts, rfl, .nil, hmark, hrest⟩
      next hclose =>
        obtain ⟨inner, closer, rest, rfl, hinner, hcloser, hrest⟩ := ih _ (by simp) h rfl
        exact ⟨t :: inner, closer, rest, rfl, .plain (by simpa using hopen) (by simpa using hclose) hinner,
          hcloser, hrest⟩

theorem nested_iff {ts : List Token} : Nested ts ↔ nests [] ts = true := by
  constructor
  · intro h
    have hnests := nests_append h [] []
    rwa [List.append_nil] at hnests
  · intro h
    induction hlength : ts.length using Nat.strongRecOn generalizing ts with
    | ind length ih =>
      subst hlength
      cases ts with
      | nil => exact .nil
      | cons t ts =>
        rw [nests] at h
        split at h
        next hopen =>
          obtain ⟨inner, c, rest, rfl, hinner, hc, hrest⟩ := exists_closer_of_nests h
          have hshorter : rest.length < (t :: (inner ++ c :: rest)).length := by
            simp only [List.length_cons, List.length_append]
            omega
          exact .group hopen hc hinner (ih _ hshorter hrest rfl)
        next hopen =>
        split at h
        next => cases h
        next hclose => exact .plain (by simpa using hopen) (by simpa using hclose) (ih _ (by simp) h rfl)

instance (ts : List Token) : Decidable (Nested ts) := decidable_of_iff _ nested_iff.symm

/-! ### Brackets that are still open -/

def Closing : List String → List Token → Prop
  | [], ts => ts = []
  | mark :: marks, ts => ∃ inner closer rest, ts = inner ++ closer :: rest ∧ Nested inner ∧
      closer.isClose = true ∧ closer.isPunct mark = true ∧ Closing marks rest

namespace Closing

variable {mark : String} {marks : List String} {t : Token} {ts : List Token}

theorem tail (h : Closing (mark :: marks) (t :: ts)) (hopen : t.isOpen = false) (hclose : t.isClose = false) :
    Closing (mark :: marks) ts := by
  obtain ⟨inner, closer, rest, htokens, hinner, hcloser, hmark, hrest⟩ := h
  cases inner with
  | nil =>
    cases htokens
    rw [hclose] at hcloser
    cases hcloser
  | cons u inner =>
    cases htokens
    exact ⟨inner, closer, rest, rfl, hinner.tail hopen, hcloser, hmark, hrest⟩

theorem opened (h : Closing (mark :: marks) (t :: ts)) (hopen : t.isOpen = true) :
    Closing (Token.closerOf t.text :: mark :: marks) ts := by
  obtain ⟨inner, closer, rest, htokens, hinner, hcloser, hmark, hrest⟩ := h
  cases inner with
  | nil =>
    cases htokens
    rw [Token.isOpen_eq_false_of_isClose hcloser] at hopen
    cases hopen
  | cons u inner =>
    cases htokens
    obtain ⟨first, c, others, rfl, hcloses, hfirst, hothers⟩ := hinner.split hopen
    refine ⟨first, c, others ++ closer :: rest, by simp, hfirst, Token.isClose_of_closes hcloses, hcloses, ?_⟩
    exact ⟨others, closer, rest, rfl, hothers, hcloser, hmark, hrest⟩

theorem closed (h : Closing (mark :: marks) (t :: ts)) (hclose : t.isClose = true) :
    t.isPunct mark = true ∧ Closing marks ts := by
  obtain ⟨inner, closer, rest, htokens, hinner, hcloser, hmark, hrest⟩ := h
  cases inner with
  | nil =>
    cases htokens
    exact ⟨hmark, hrest⟩
  | cons u inner =>
    cases htokens
    rw [hinner.isClose_head] at hclose
    cases hclose

theorem skip {us : List Token} (hus : Nested us) (h : Closing (mark :: marks) (us ++ ts)) :
    Closing (mark :: marks) ts := by
  induction hus generalizing mark marks ts with
  | nil => exact h
  | plain hopen hclose _ ih => exact ih (h.tail hopen hclose)
  | @group o c inner rest hopen hcloses _ _ ihinner ihrest =>
    have hinside := h.opened hopen
    rw [List.append_eq, List.append_assoc] at hinside
    exact ihrest ((ihinner hinside).closed (Token.isClose_of_closes hcloses)).2

end Closing

theorem segments_of_isClose {k : Token} (hk : k.isClose = true) (ts us vs : List Token) :
    segments (ts ++ k :: us) = segments (ts ++ k :: vs) := by
  obtain _ | ⟨mark, _ | ⟨name, ts⟩⟩ := ts
  · simp [segments_close hk]
  · simp [segments, Token.isIdent, kind_of_isClose hk]
  · simp only [List.cons_append, segments]
    rw [segments_of_isClose hk ts us vs]

namespace Closing

variable {mark : String} {marks : List String} {ts : List Token}

theorem read_append (h : Closing (mark :: marks) ts) (t : Token) (behind : List Token) :
    DottedPath.read t (ts ++ behind) = DottedPath.read t ts := by
  obtain ⟨inner, closer, rest, rfl, -, hcloser, -, -⟩ := h
  rw [DottedPath.read, DottedPath.read, List.append_assoc, List.cons_append,
    segments_of_isClose hcloser inner (rest ++ behind) rest]

theorem behindPath (h : Closing (mark :: marks) ts) (t : Token) :
    (DottedPath.read t ts).length - 1 ≤ ts.length ∧ Closing (mark :: marks) (Expr.behindPath t ts) := by
  obtain ⟨inner, closer, rest, rfl, hinner, hcloser, hmark, hrest⟩ := h
  have hhalts : Halts (closer :: rest) := .of_isClose hcloser
  have hpasses := passes_segments hhalts inner hinner
  have hle := hpasses.le_length
  have hlength : (DottedPath.read t (inner ++ closer :: rest)).length - 1 =
      2 * (segments (inner ++ closer :: rest)).length := Nat.add_sub_cancel_left ..
  rw [Expr.behindPath, hlength, hpasses.drop_append, List.length_append]
  exact ⟨by omega, _, closer, rest, rfl, hpasses.nested_drop, hcloser, hmark, hrest⟩

theorem behindPath_append (h : Closing (mark :: marks) ts) (t : Token) (behind : List Token) :
    Expr.behindPath t (ts ++ behind) = Expr.behindPath t ts ++ behind := by
  rw [Expr.behindPath, Expr.behindPath, h.read_append, List.drop_append_of_le_length (h.behindPath t).1]

theorem close_lt (h : Closing (mark :: marks) ts) {behind : List Token} {nameEnd depth k : Nat}
    {isMacro : Bool} (hopen : callOpen? nameEnd (ts ++ behind) = some isMacro)
    (hclose : (readArgs depth ((ts ++ behind).drop (callGap isMacro))).2 = some k) :
    callGap isMacro + k + 1 < ts.length := by
  obtain ⟨inner, closer, rest, rfl, hinner, hcloser, -, -⟩ := h
  rw [List.append_assoc, List.cons_append] at hopen hclose
  obtain ⟨hpasses, o, inside, hinside, ho⟩ := passes_callOpen? (.of_isClose hcloser) hinner hopen
  have hnested := hpasses.nested_drop
  have hlength := congrArg List.length hinside
  rw [hpasses.drop_append, hinside] at hclose
  rw [hinside] at hnested
  obtain ⟨first, c, others, rfl, hcloses, hfirst, -⟩ := hnested.split ho
  rw [List.cons_append, List.append_assoc, List.cons_append, readArgs,
    readGroup_nested _ _ ho hcloses hfirst] at hclose
  cases hclose
  simp only [List.length_drop, List.length_cons, List.length_append] at hlength ⊢
  omega

end Closing
end Expr

namespace Walk

/-! ### Marks -/

inductive Turns (w : Walk) (t : Token) : Walk → Prop where
  | stays (hopen : t.isOpen = false) (hclose : t.isClose = false) : Turns w t w
  | opens {b : Bracket} (hopen : t.isOpen = true) (hcloser : b.closer = Token.closerOf t.text) :
      Turns w t (w.push b)
  | closes {fits : Bracket → Bool} (hclose : t.isClose = true)
      (hfits : ∀ b, fits b = true ↔ b.closer = t.text) : Turns w t (w.close fits)

theorem turns_onMark {w : Walk} {t : Token} (hkind : t.kind = .punct) (hexpects : w.expectsName = false) :
    ∃ v, w.Turns t v ∧ (w.onMark t = v ∨ w.onMark t = v.endStatement) := by
  have hname : { w with expectsName := false } = w := by rw [← hexpects]
  have hopen : t.isOpen = (t.text == "(" || t.text == "[" || t.text == "\x7b") := by
    simp [Token.isOpen, Token.isPunct, hkind]
  have hclose : t.isClose = (t.text == ")" || t.text == "]" || t.text == "\x7d") := by
    simp [Token.isClose, Token.isPunct, hkind]
  unfold onMark
  split
  next htext =>
    refine ⟨w, .stays (by simp [hopen, htext]) (by simp [hclose, htext]), ?_⟩
    split <;> simp
  next htext =>
    refine ⟨w, .stays (by simp [hopen, htext]) (by simp [hclose, htext]), ?_⟩
    split <;> simp
  next htext =>
    rw [hname]
    exact ⟨_, .opens (by simp [hopen, htext]) (by rw [htext]; rfl), .inl rfl⟩
  next htext => exact ⟨_, .opens (by simp [hopen, htext]) (by rw [htext]; rfl), .inl rfl⟩
  next htext =>
    refine ⟨w.push (if w.opensItems t then .items else .block), .opens (by simp [hopen, htext]) ?_, ?_⟩
    · rw [htext]
      split <;> rfl
    · dsimp only
      split <;> simp
  next htext =>
    refine ⟨w.close Bracket.isBrace, .closes (by simp [hclose, htext]) ?_, ?_⟩
    · intro b
      cases b <;> simp [Bracket.isBrace, Bracket.closer, htext]
    · dsimp only
      split <;> simp
  next htext =>
    refine ⟨_, .closes (by simp [hclose, htext]) ?_, .inl rfl⟩
    intro b
    cases b <;> simp [Bracket.closer, htext]
  next htext =>
    refine ⟨_, .closes (by simp [hclose, htext]) ?_, .inl rfl⟩
    intro b
    cases b <;> simp [Bracket.closer, htext]
  next hround hsquare hbrace hbrace' hround' hsquare' =>
    refine ⟨w, .stays ?_ ?_, .inl rfl⟩
    · simpa [hopen] using ⟨⟨hround, hsquare⟩, hbrace⟩
    · simpa [hclose] using ⟨⟨hround', hsquare'⟩, hbrace'⟩

/-! ### Declarations -/

theorem declaredAt?_append {last mark : Token} {depth passed : Nat} {between value : List Token}
    (hmark : mark.kind = .punct) (value' : List Token)
    (h : declaredAt? last depth passed (between ++ mark :: value) = some (passed + between.length)) :
    declaredAt? last depth passed (between ++ mark :: value') = some (passed + between.length) := by
  induction between generalizing last depth passed with
  | nil =>
    have hlater {last : Token} {depth : Nat} {ts : List Token} :
        declaredAt? last depth (passed + 1) ts ≠ some passed := by
      intro h
      obtain ⟨_, _, _, -, hlength⟩ := declaredAt?_eq_some h
      omega
    simp only [List.nil_append, List.length_nil, Nat.add_zero, declaredAt?, hmark] at h ⊢
    grind
  | cons t between ih =>
    -- at a line break the next token that is none decides, and the mark is such a token
    have hfirst : Expr.firstSignificant (between ++ mark :: value) =
        Expr.firstSignificant (between ++ mark :: value') := by
      simp [Expr.firstSignificant, List.find?_append, Token.isNewline, hmark]
    have hpassed : passed + (t :: between).length = passed + 1 + between.length := by
      rw [List.length_cons]
      omega
    rw [hpassed, List.cons_append, declaredAt?] at h ⊢
    rw [← hfirst]
    cases hkind : t.kind with
    | newline =>
      simp only [hkind] at h ⊢
      split at h
      next => cases h
      next hgoes =>
        rw [if_neg hgoes]
        exact ih h
    | punct =>
      simp only [hkind] at h ⊢
      split at h
      next hopen =>
        rw [if_pos hopen]
        exact ih h
      next hopen =>
      rw [if_neg hopen]
      split at h
      next hclose =>
        rw [if_pos hclose]
        exact ih h
      next hclose =>
      rw [if_neg hclose]
      split at h
      next =>
        simp only [Option.some.injEq] at h
        omega
      next hassigns =>
      rw [if_neg hassigns]
      split at h
      next => cases h
      next hends =>
        rw [if_neg hends]
        exact ih h
    | ident | literal | number =>
      simp only [hkind] at h ⊢
      exact ih h

def declaresNext : List Token → Bool
  | [] => false
  | t :: done =>
    if t.isIdent && Vocabulary.declarationWords.contains t.text then true
    else if t.isLiteral || (t.isIdent && !Vocabulary.keywords.contains t.text) then false
    else declaresNext done

/-- Behind `done`, whatever stands between a name that is declared and the mark that assigns to it holds
whole brackets only. -/
def TypesNested (done : List Token) : List Token → Prop
  | [] => True
  | t :: rest =>
    (t.isIdent = true → declaresNext done = true →
      ∀ gap ∈ declaredAt? (Expr.DottedPath.read t rest).last 0 0 (Expr.behindPath t rest),
        Expr.Nested ((Expr.behindPath t rest).take gap)) ∧
    TypesNested (t :: done) rest

instance TypesNested.decide (done ts : List Token) : Decidable (TypesNested done ts) :=
  match ts with
  | [] => inferInstanceAs (Decidable True)
  | t :: rest =>
    have := TypesNested.decide (t :: done) rest
    inferInstanceAs (Decidable ((t.isIdent = true → declaresNext done = true →
      ∀ gap ∈ declaredAt? (Expr.DottedPath.read t rest).last 0 0 (Expr.behindPath t rest),
        Expr.Nested ((Expr.behindPath t rest).take gap)) ∧ TypesNested (t :: done) rest))

theorem TypesNested.drop {done ts : List Token} (h : TypesNested done ts) (n : Nat) :
    TypesNested ((ts.take n).reverse ++ done) (ts.drop n) := by
  induction n generalizing done ts with
  | zero => exact h
  | succ n ih =>
    cases ts with
    | nil => exact h
    | cons t ts => simpa using ih h.2

/-! ### One step inside a bracket -/

/-- The walk has come from `start` past `done`, with the brackets of `inner` open since, and `left` closes
them. The calls that it noted on the way are closed before `left` ends. -/
structure Inside (start : Walk) (inner : List Bracket) (done left : List Token) (w : Walk) : Prop where
  stack : w.stack = inner ++ start.stack
  before : w.before = done ++ start.before
  index : w.index = start.index + done.length
  closing : Expr.Closing (inner.map Bracket.closer) left
  expectsName : w.expectsName = false
  declares : w.declares = true → w.hasFragment = false → declaresNext done = true
  roots : ∃ new, w.roots = new ++ start.roots ∧
    ∀ e ∈ new, e.1 + 1 < start.index + (done.length + left.length)

namespace Inside

variable {start w : Walk} {inner : List Bracket} {done left : List Token} {t : Token}

theorem endStatement (h : Inside start inner done left w) : Inside start inner done left w.endStatement where
  stack := h.stack
  before := h.before
  index := h.index
  closing := h.closing
  expectsName := rfl
  declares := nofun
  roots := h.roots

theorem passed {v : Walk} {inner' : List Bracket} {n : Nat} (h : Inside start inner done (t :: left) w)
    (behind : List Token) (hn : n ≤ left.length) (hbefore : v.before = w.before) (hindex : v.index = w.index)
    (hexpects : v.expectsName = false) (hstack : v.stack = inner' ++ start.stack)
    (hclosing : Expr.Closing (inner'.map Bracket.closer) (left.drop n))
    (hdeclares : v.declares = true → v.hasFragment = false →
      declaresNext ((t :: left.take n).reverse ++ done) = true)
    (hroots : ∃ new, v.roots = new ++ w.roots ∧ ∀ e ∈ new, e.1 + 1 < w.index + (left.length + 1)) :
    Inside start inner' ((t :: left.take n).reverse ++ done) (left.drop n)
      (v.passed (t :: (left ++ behind).take n)) where
  stack := hstack
  before := by
    change (t :: (left ++ behind).take n).reverse ++ v.before = _
    rw [List.take_append_of_le_length hn, hbefore, h.before, List.append_assoc]
  index := by
    change v.index + (t :: (left ++ behind).take n).length = _
    rw [List.take_append_of_le_length hn, hindex, h.index]
    simp only [List.length_cons, List.length_append, List.length_reverse]
    omega
  closing := hclosing
  expectsName := hexpects
  declares := hdeclares
  roots := by
    obtain ⟨new, hnew, hlt⟩ := hroots
    obtain ⟨old, hold, hlt'⟩ := h.roots
    refine ⟨new ++ old, ?_, ?_⟩
    · change v.roots = _
      rw [hnew, hold, List.append_assoc]
    · have hindex := h.index
      have hlength : ((t :: left.take n).reverse ++ done).length + (left.drop n).length =
          done.length + (left.length + 1) := by
        simp only [List.length_append, List.length_reverse, List.length_cons, List.length_take,
          List.length_drop]
        omega
      rw [hlength]
      intro e he
      obtain he | he := List.mem_append.mp he
      · have := hlt e he
        omega
      · exact hlt' e he

theorem exists_inner (h : Inside start inner done (t :: left) w) :
    ∃ b outer, inner = b :: outer ∧ Expr.Closing (b.closer :: outer.map Bracket.closer) (t :: left) := by
  cases inner with
  | nil => cases h.closing
  | cons b outer => exact ⟨b, outer, rfl, h.closing⟩

theorem plain {v : Walk} (h : Inside start inner done (t :: left) w) (hopen : t.isOpen = false)
    (hclose : t.isClose = false) (hbefore : v.before = w.before) (hindex : v.index = w.index)
    (hexpects : v.expectsName = false) (hstack : v.stack = w.stack) (hroots : v.roots = w.roots)
    (hdeclares : v.declares = true → v.hasFragment = false → declaresNext (t :: done) = true) :
    Inside start inner (t :: done) left (v.passed [t]) := by
  obtain ⟨b, outer, rfl, hclosing⟩ := h.exists_inner
  exact h.passed (n := 0) [] (Nat.zero_le _) hbefore hindex hexpects (hstack.trans h.stack)
    (hclosing.tail hopen hclose) hdeclares ⟨[], hroots, by simp⟩

theorem onMark (h : Inside start inner done (t :: left) w) (hkind : t.kind = .punct) :
    ∃ inner', Inside start inner' (t :: done) left ((w.onMark t).passed [t]) := by
  have hdeclares (hw : w.declares = true) (hnone : w.hasFragment = false) : declaresNext (t :: done) = true := by
    simp [declaresNext, Token.isIdent, Token.isLiteral, hkind, h.declares hw hnone]
  obtain ⟨v, hturns, hmark⟩ := turns_onMark hkind h.expectsName
  suffices hv : ∃ inner', Inside start inner' (t :: done) left (v.passed [t]) by
    obtain ⟨inner', hv⟩ := hv
    obtain hmark | hmark := hmark
    · exact ⟨inner', hmark ▸ hv⟩
    · exact ⟨inner', hmark ▸ hv.endStatement⟩
  cases hturns with
  | stays hopen hclose => exact ⟨_, h.plain hopen hclose rfl rfl h.expectsName rfl rfl hdeclares⟩
  | @opens b hopen hcloser =>
    obtain ⟨b', outer, rfl, hclosing⟩ := h.exists_inner
    refine ⟨b :: b' :: outer, h.passed (n := 0) [] (Nat.zero_le _) rfl rfl h.expectsName
      (congrArg (b :: ·) h.stack) ?_ hdeclares ⟨[], rfl, by simp⟩⟩
    rw [List.map_cons, hcloser]
    exact hclosing.opened hopen
  | @closes fits hclose hfits =>
    obtain ⟨b, outer, rfl, hclosing⟩ := h.exists_inner
    obtain ⟨hmark, hrest⟩ := hclosing.closed hclose
    have hfit : fits b = true := (hfits b).mpr (text_of_isPunct hmark).symm
    have hclosed : w.close fits = { w with stack := outer ++ start.stack } := by
      simp [close, h.stack, hfit]
    rw [hclosed]
    exact ⟨outer, h.passed (n := 0) [] (Nat.zero_le _) rfl rfl h.expectsName rfl hrest hdeclares
      ⟨[], rfl, by simp⟩⟩

theorem found {v : Walk} {n : Nat} (h : Inside start inner done (t :: left) w) (behind : List Token)
    (hn : n ≤ left.length) (hclosing : Expr.Closing (inner.map Bracket.closer) (left.drop n))
    (hbefore : v.before = w.before) (hindex : v.index = w.index) (hexpects : v.expectsName = false)
    (hstack : v.stack = w.stack) (hfragment : v.hasFragment = true)
    (hroots : ∃ new, v.roots = new ++ w.roots ∧ ∀ e ∈ new, e.1 + 1 < w.index + (left.length + 1)) :
    Inside start inner ((t :: left.take n).reverse ++ done) (left.drop n)
      (v.passed (t :: (left ++ behind).take n)) :=
  h.passed behind hn hbefore hindex hexpects (hstack.trans h.stack) hclosing (by simp [hfragment]) hroots

/-- Inside a brace the mark of an assignment is found before the brace is closed, with whole brackets only
between the path and the mark. -/
theorem assignment (h : Inside start inner done (t :: left) w) (hkind : t.kind = .ident) {behind : List Token}
    {gap : Nat} (htypes : TypesNested done (t :: left))
    (hleft : Expr.Closing (inner.map Bracket.closer) left)
    (hgap : w.assignedAt? (Expr.DottedPath.read t (left ++ behind)).last (Expr.behindPath t (left ++ behind)) =
      some gap) :
    ∃ between mark rest, Expr.behindPath t left = between ++ mark :: rest ∧ gap = between.length ∧
      Expr.Nested between ∧ mark.isOpen = false ∧ mark.isClose = false := by
  obtain ⟨b, outer, rfl, -⟩ := h.exists_inner
  have hbrace : b.closer = "\x7d" := by
    have hlevel := atStatementLevel_of_assignedAt? hgap
    simp only [atStatementLevel, h.stack, List.cons_append] at hlevel
    cases b <;> trivial
  obtain ⟨between, mark, value, hvalue, rfl, hmark, htext, hdeclared⟩ := assignedAt?_eq_some hgap
  obtain ⟨xs, closer, ys, hafter, -, -, hcloser, -⟩ := (hleft.behindPath t).2
  have hbehind : between ++ mark :: value = xs ++ closer :: (ys ++ behind) := by
    rw [← hvalue, hleft.behindPath_append, hafter, List.append_assoc, List.cons_append]
  have hclosertext : closer.text = "\x7d" := hbrace ▸ text_of_isPunct hcloser
  have hne : mark ≠ closer := by
    rintro rfl
    simp [hclosertext] at htext
  have hfree : closer ∉ between := by
    intro hmem
    obtain ⟨-, -, hassigns, -⟩ := hdeclared (List.ne_nil_of_mem hmem)
    exact hassigns.free closer hmem (kind_of_isPunct hcloser) (by simp [hclosertext])
  -- the brace is neither the mark nor before it, so the mark comes first
  obtain ⟨zs, rfl⟩ : ∃ zs, xs = between ++ mark :: zs := by
    obtain ⟨us, hus, hmark⟩ | ⟨us, rfl, hcloser⟩ := List.append_eq_append_iff.mp hbehind
    · cases us with
      | nil => exact absurd (List.cons.inj hmark).1 hne
      | cons u us =>
        obtain ⟨rfl, -⟩ := List.cons.inj hmark
        exact ⟨us, hus⟩
    · cases us with
      | nil => exact absurd (List.cons.inj hcloser).1.symm hne
      | cons u us =>
        obtain ⟨rfl, -⟩ := List.cons.inj hcloser
        simp at hfree
  rw [List.append_assoc, List.cons_append] at hafter
  refine ⟨between, mark, _, hafter, rfl, ?_, ?_, ?_⟩
  · by_cases hnil : between = []
    · exact hnil ▸ .nil
    · obtain ⟨hdeclares, hnone, -, hfound⟩ := hdeclared hnil
      rw [hleft.read_append, hvalue, ← Nat.zero_add between.length] at hfound
      have hhere := declaredAt?_append hmark (zs ++ closer :: ys) hfound
      rw [Nat.zero_add, ← hafter] at hhere
      have hnested := htypes.1 (by simp [Token.isIdent, hkind]) (h.declares hdeclares hnone) _ hhere
      rwa [hafter, List.take_left] at hnested
  · simp only [List.mem_cons, List.not_mem_nil, or_false] at htext
    grind [Token.isOpen, Token.isPunct]
  · simp only [List.mem_cons, List.not_mem_nil, or_false] at htext
    grind [Token.isClose, Token.isPunct]

theorem step (h : Inside start inner done (t :: left) w) (behind : List Token)
    (hfunction : t.isIdent = true → t.text ∉ Vocabulary.functionWords)
    (htypes : TypesNested done (t :: left)) :
    (w.step t (left ++ behind)).more ≤ left.length ∧
      ∃ inner', Inside start inner' ((t :: left.take (w.step t (left ++ behind)).more).reverse ++ done)
        (left.drop (w.step t (left ++ behind)).more)
        ((w.step t (left ++ behind)).walk.passed
          (t :: (left ++ behind).take (w.step t (left ++ behind)).more)) := by
  have htakes := takes_step w t (left ++ behind)
  generalize w.step t (left ++ behind) = s at htakes ⊢
  have hplain (hkind : t.kind ≠ .punct) : t.isOpen = false ∧ t.isClose = false :=
    ⟨Token.isOpen_of_kind_ne hkind, by simp [Token.isClose, Token.isPunct, hkind]⟩
  obtain ⟨b, outer, rfl, hclosing⟩ := h.exists_inner
  have hpath (hkind : t.kind = .ident) : Expr.Closing (b.closer :: outer.map Bracket.closer) left :=
    hclosing.tail (hplain (by simp [hkind])).1 (hplain (by simp [hkind])).2
  have hread (hkind : t.kind = .ident) := (hpath hkind).read_append t behind
  cases htakes with
  | newline hkind hwalk =>
    obtain ⟨hopen, hclose⟩ := hplain (by simp [hkind])
    have hsame := h.plain hopen hclose rfl rfl h.expectsName rfl rfl (v := w) fun hw hnone => by
      simp [declaresNext, Token.isIdent, Token.isLiteral, hkind, h.declares hw hnone]
    obtain rfl | rfl := hwalk
    · exact ⟨Nat.zero_le _, _, hsame⟩
    · exact ⟨Nat.zero_le _, _, hsame.endStatement⟩
  | mark hkind => exact ⟨Nat.zero_le _, h.onMark hkind⟩
  | literal hkind =>
    obtain ⟨hopen, hclose⟩ := hplain (by simp [hkind])
    exact ⟨Nat.zero_le _, _, h.plain hopen hclose rfl rfl h.expectsName rfl rfl (by simp [emit])⟩
  | number hkind =>
    obtain ⟨hopen, hclose⟩ := hplain (by simp [hkind])
    refine ⟨Nat.zero_le _, _, h.plain hopen hclose rfl rfl h.expectsName rfl rfl fun hw hnone => ?_⟩
    simp [declaresNext, Token.isIdent, Token.isLiteral, hkind, h.declares hw hnone]
  | function hkind hword => exact absurd hword (hfunction (by simp [Token.isIdent, hkind]))
  | declaration hkind hword =>
    obtain ⟨hopen, hclose⟩ := hplain (by simp [hkind])
    refine ⟨Nat.zero_le _, _, h.plain hopen hclose rfl rfl h.expectsName rfl rfl fun _ _ => ?_⟩
    simp [declaresNext, Token.isIdent, hkind, hword]
  | keyword hkind hword =>
    obtain ⟨hopen, hclose⟩ := hplain (by simp [hkind])
    refine ⟨Nat.zero_le _, _, h.plain hopen hclose rfl rfl h.expectsName rfl rfl fun hw hnone => ?_⟩
    simp [declaresNext, Token.isIdent, Token.isLiteral, hkind, hword, h.declares hw hnone]
  | name hkind =>
    obtain ⟨hn, hafter⟩ := (hpath hkind).behindPath t
    simp only [hread hkind]
    exact ⟨hn, _, h.found behind hn hafter rfl rfl rfl rfl rfl ⟨[], rfl, by simp⟩⟩
  | @call isMacro hkind _ hopen =>
    obtain ⟨hn, hafter⟩ := (hpath hkind).behindPath t
    rw [more_onCall, walk_onCall, hread hkind]
    refine ⟨hn, _, h.found behind hn hafter rfl rfl h.expectsName rfl rfl ⟨_, rfl, fun e he => ?_⟩⟩
    obtain ⟨k, hk, rfl⟩ := eq_of_mem_rootOfCall he
    rw [(hpath hkind).behindPath_append] at hopen hk
    have hlt := hafter.close_lt hopen hk
    rw [Expr.behindPath, List.length_drop] at hlt
    simp only [Expr.DottedPath.length] at hlt hn ⊢
    omega
  | assignment hkind _ hgap =>
    obtain ⟨hn, hafter⟩ := (hpath hkind).behindPath t
    obtain ⟨between, mark, rest, htokens, rfl, hnested, hopen, hclose⟩ :=
      h.assignment hkind htypes (hpath hkind) hgap
    have hmore : (w.onAssignment t (.read t (left ++ behind)) between.length
        (Expr.behindPath t (left ++ behind))).more =
        (Expr.DottedPath.read t left).length - 1 + (between.length + 1) := by
      change (Expr.DottedPath.read t (left ++ behind)).length + between.length = _
      rw [hread hkind, Expr.DottedPath.length]
      omega
    have hlength := congrArg List.length htokens
    rw [Expr.behindPath, List.length_drop, List.length_append, List.length_cons] at hlength
    have hdrop : left.drop ((Expr.DottedPath.read t left).length - 1 + (between.length + 1)) = rest := by
      rw [← List.drop_drop, ← Expr.behindPath, htokens, ← List.drop_drop, List.drop_left, List.drop_one,
        List.tail_cons]
    rw [htokens] at hafter
    rw [hmore]
    refine ⟨by omega, _, h.found behind (by omega) ?_ rfl rfl h.expectsName rfl rfl ⟨[], rfl, by simp⟩⟩
    rw [hdrop]
    exact (hafter.skip hnested).tail hopen hclose

theorem run (h : Inside start inner done left w) (behind : List Token)
    (hfunction : ∀ u ∈ left, u.isIdent = true → u.text ∉ Vocabulary.functionWords)
    (htypes : TypesNested done left) :
    ∃ ds v, w.finds (left ++ behind) = ds ++ v.finds behind ∧ Inside start [] (left.reverse ++ done) [] v := by
  induction hlength : left.length using Nat.strongRecOn generalizing w inner done left with
  | ind length ih =>
    subst hlength
    cases left with
    | nil =>
      cases inner with
      | nil => exact ⟨[], w, rfl, h⟩
      | cons b outer =>
        obtain ⟨inner, closer, rest, htokens, -⟩ := h.closing
        simp at htokens
    | cons t left =>
      obtain ⟨hmore, inner', hstep⟩ := h.step behind (hfunction t List.mem_cons_self) htypes
      have htypes' := htypes.drop ((w.step t (left ++ behind)).more + 1)
      rw [List.take_succ_cons, List.drop_succ_cons] at htypes'
      have hshorter : (left.drop (w.step t (left ++ behind)).more).length < (t :: left).length := by
        rw [List.length_drop, List.length_cons]
        omega
      obtain ⟨ds, v, hfinds, hv⟩ := ih _ hshorter hstep
        (fun u hu => hfunction u (List.mem_cons_of_mem t (List.mem_of_mem_drop hu))) htypes' rfl
      refine ⟨w.findsHere t (left ++ behind) ++ ds, v, ?_, ?_⟩
      · rw [List.cons_append, finds_cons, List.drop_append_of_le_length hmore, hfinds, List.append_assoc]
      · rwa [← List.append_assoc, ← List.reverse_append, List.cons_append, List.take_append_drop] at hv

end Inside

/-! ### A whole bracket -/

structure Group where
  opener : Token
  inner : List Token
  closer : Token
  opens : opener.isOpen = true
  closes : closer.Closes opener
  nested : Expr.Nested inner

def Group.tokens (g : Group) : List Token := g.opener :: (g.inner ++ [g.closer])

theorem Group.length_tokens (g : Group) : g.tokens.length = g.inner.length + 2 := by
  simp [tokens]

theorem Group.kind_opener (g : Group) : g.opener.kind = .punct := by
  by_contra hkind
  have hopen := g.opens
  rw [Token.isOpen_of_kind_ne hkind] at hopen
  cases hopen

structure Group.Straight (g : Group) : Prop where
  noFunction : ∀ u ∈ g.tokens, u.isIdent = true → u.text ∉ Vocabulary.functionWords
  types : TypesNested [] g.tokens

instance (g : Group) : Decidable g.Straight :=
  decidable_of_iff ((∀ u ∈ g.tokens, u.isIdent = true → u.text ∉ Vocabulary.functionWords) ∧
    TypesNested [] g.tokens) ⟨fun h => ⟨h.1, h.2⟩, fun h => ⟨h.noFunction, h.types⟩⟩

/-- What the walk `w` has come to behind the bracket: the brackets are those open before, and roots noted on
the way are those of calls that are closed inside. -/
structure Behind (w : Walk) (g : Group) (v : Walk) : Prop where
  stack : v.stack = w.stack
  before : v.before = g.tokens.reverse ++ w.before
  index : v.index = w.index + g.tokens.length
  expectsName : v.expectsName = false
  roots : ∃ new, v.roots = new ++ w.roots ∧ ∀ e ∈ new, e.1 + 1 < w.index + g.tokens.length

theorem inside_open {w : Walk} (hexpects : w.expectsName = false) (hfragment : w.hasFragment = true)
    (g : Group) : ∃ b, Inside w [b] [g.opener] (g.inner ++ [g.closer]) ((w.onMark g.opener).passed [g.opener]) := by
  obtain ⟨v, hturns, hmark⟩ := turns_onMark g.kind_opener hexpects
  cases hturns with
  | stays hopen =>
    rw [g.opens] at hopen
    cases hopen
  | closes hclose =>
    have hopen := g.opens
    rw [Token.isOpen_eq_false_of_isClose hclose] at hopen
    cases hopen
  | @opens b _ hcloser =>
    have hpush : Inside w [b] [g.opener] (g.inner ++ [g.closer]) ((w.push b).passed [g.opener]) :=
      { stack := rfl
        before := rfl
        index := rfl
        closing := ⟨g.inner, g.closer, [], rfl, g.nested, Token.isClose_of_closes g.closes, hcloser ▸ g.closes, rfl⟩
        expectsName := hexpects
        declares := fun _ hnone => by
          change w.hasFragment = false at hnone
          simp [hfragment] at hnone
        roots := ⟨[], rfl, by simp⟩ }
    obtain hmark | hmark := hmark
    · exact ⟨b, hmark ▸ hpush⟩
    · exact ⟨b, hmark ▸ hpush.endStatement⟩

theorem step_of_kind_punct (w : Walk) {t : Token} (hkind : t.kind = .punct) (rest : List Token) :
    w.step t rest = { walk := w.onMark t } := by
  rw [step, hkind]

theorem finds_group {w : Walk} (hexpects : w.expectsName = false) (hfragment : w.hasFragment = true)
    {g : Group} (hg : g.Straight) (behind : List Token) :
    ∃ ds v, w.finds (g.tokens ++ behind) = ds ++ v.finds behind ∧ w.Behind g v := by
  obtain ⟨b, hopen⟩ := inside_open hexpects hfragment g
  obtain ⟨ds, v, hfinds, hv⟩ := hopen.run behind
    (fun u hu => hg.noFunction u (List.mem_cons_of_mem _ hu)) hg.types.2
  refine ⟨w.findsHere g.opener (g.inner ++ [g.closer] ++ behind) ++ ds, v, ?_, ?_⟩
  · rw [Group.tokens, List.cons_append, finds_cons, step_of_kind_punct w g.kind_opener, List.take_zero, List.drop_zero,
      hfinds, List.append_assoc (w.findsHere ..)]
  · have htokens : (g.inner ++ [g.closer]).reverse ++ [g.opener] = g.tokens.reverse := by simp [Group.tokens]
    rw [htokens] at hv
    obtain ⟨hstack, hbefore, hindex, -, hname, -, hroots⟩ := hv
    rw [List.length_reverse] at hindex hroots
    exact ⟨hstack, hbefore, hindex, hname, hroots⟩

end Walk
end SourceAudit
