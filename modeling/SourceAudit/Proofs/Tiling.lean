import Mathlib.Data.List.Chain
import SourceAudit.Proofs.Lexing

/-! The tokens of a text together with what stands between them. Tokens and trivia (blanks, line breaks
and whole comments) follow each other from the first byte to the last, so a byte under no token is part
of a blank, a line break or a comment that no token touches. -/
namespace SourceAudit

/-- A piece of text that gives no token, and the text behind it. A comment of one line stops before the
line break; a comment between two marks stops with its first closing mark, or else with the text. -/
inductive IsTrivia (language : Language) : (piece after : List Char) → Prop where
  | blank {c : Char} (after : List Char) (hc : c ∈ [' ', '\t', '\r', '\x0c', '\n']) :
      IsTrivia language [c] after
  | lineComment {mark body after : List Char}
      (hmark : mark = ['/', '/'] ∨ mark = ['#'] ∧ language.hashComments = true)
      (hbody : '\n' ∉ body) (hafter : after = [] ∨ after.head? = some '\n') :
      IsTrivia language (mark ++ body) after
  | blockComment {body : List Char} (after : List Char) (hbody : ¬ ['*', '/'] <:+: body) :
      IsTrivia language (['/', '*'] ++ body ++ ['*', '/']) after
  | openComment {body : List Char} (hbody : ¬ ['*', '/'] <:+: body) :
      IsTrivia language (['/', '*'] ++ body) []

/-- A token repeats all of the piece that it covers, and a literal a part of it, its body. -/
def TokenKind.Repeats (kind : TokenKind) (body piece : List Char) : Prop :=
  match kind with
  | .literal _ => body <:+: piece
  | _ => body = piece

namespace Lexer

/-! ### One step -/

def Lexeme.IsFaithful (language : Language) (x : Lexeme) : Prop :=
  match x.kind with
  | none => IsTrivia language x.taken x.rest
  | some kind => kind.Repeats x.body x.taken ∧ (kind = .newline → x.taken = ['\n'])

theorem isFaithful_plain (language : Language) {kind : TokenKind} (taken rest : List Char)
    (h : kind = .newline → taken = ['\n']) : Lexeme.IsFaithful language (plain kind taken rest) := by
  refine ⟨?_, h⟩
  cases kind with
  | literal => exact List.infix_refl taken
  | ident | number | punct | newline => rfl

theorem isFaithful_literal (language : Language) {interpolated : Bool} {body taken rest : List Char}
    (h : body <:+: taken) :
    Lexeme.IsFaithful language ⟨some (.literal interpolated), body, taken, rest⟩ :=
  ⟨h, by simp⟩

theorem isFaithful_quoted (language : Language) (before : List Char) (c : Char) (cs : List Char) :
    Lexeme.IsFaithful language (quoted before c cs) := by
  apply isFaithful_literal
  exact List.infix_append _ _ _

theorem isFaithful_rawLiteral? (language : Language) {cs : List Char} {x : Lexeme}
    (h : rawLiteral? cs = some x) : Lexeme.IsFaithful language x := by
  simp only [rawLiteral?, Option.map_eq_some_iff, Prod.exists] at h
  obtain ⟨opening, hashes, body, -, rfl⟩ := h
  apply isFaithful_literal
  exact List.infix_append _ _ _

theorem isFaithful_lineComment (language : Language) (mark cs : List Char)
    (hmark : mark = ['/', '/'] ∨ mark = ['#'] ∧ language.hashComments = true) :
    Lexeme.IsFaithful language (lineComment (mark ++ cs)) := by
  have hall : ∀ c ∈ mark, (c != '\n') = true := by
    obtain rfl | ⟨rfl, -⟩ := hmark <;> simp
  have htaken : (lineComment (mark ++ cs)).taken = mark ++ cs.takeWhile (· != '\n') :=
    List.takeWhile_append_of_pos hall
  have hrest : (lineComment (mark ++ cs)).rest = cs.dropWhile (· != '\n') :=
    List.dropWhile_append_of_pos hall
  change IsTrivia language (lineComment (mark ++ cs)).taken (lineComment (mark ++ cs)).rest
  rw [htaken, hrest]
  refine .lineComment hmark ?_ ?_
  · intro hmem
    have := List.all_takeWhile (p := (· != '\n')) (l := cs)
    simpa using List.all_eq_true.mp this _ hmem
  · have hhead := List.head?_dropWhile_not (· != '\n') cs
    cases hd : cs.dropWhile (· != '\n') with
    | nil => exact .inl rfl
    | cons d ds =>
      rw [hd] at hhead
      simpa using hhead

theorem cutAt_spec (closer : List Char) (hne : closer ≠ []) (seen cs : List Char) :
    ∃ body, (cutAt closer seen cs).1 = seen.reverse ++ body ∧ ¬ closer <:+: body ∧
      ((cutAt closer seen cs).2.1 = closer ∨
        (cutAt closer seen cs).2.1 = [] ∧ (cutAt closer seen cs).2.2 = []) := by
  fun_induction cutAt closer seen cs with
  | case1 seen => exact ⟨[], by simp, by simpa using hne, .inr ⟨rfl, rfl⟩⟩
  | case2 seen c cs h => exact ⟨[], by simp, by simpa using hne, .inl rfl⟩
  | case3 seen c cs h ih =>
    obtain ⟨body, hbody, hnot, hend⟩ := ih
    refine ⟨c :: body, by simpa using hbody, ?_, hend⟩
    -- what is cut off is a prefix of the text, so a closer at its start would have ended it there
    have happend := cutAt_append closer (c :: seen) cs
    rw [hbody] at happend
    simp only [List.append_assoc] at happend
    have hprefix : body <+: cs := ⟨_, List.append_cancel_left happend⟩
    intro hin
    obtain hstart | hlater := List.infix_cons_iff.mp hin
    · apply h
      apply List.isPrefixOf_iff_prefix.mpr
      exact hstart.trans (List.cons_prefix_cons.mpr ⟨rfl, hprefix⟩)
    · exact hnot hlater

theorem isFaithful_blockComment (language : Language) (cs : List Char) :
    Lexeme.IsFaithful language (blockComment cs) := by
  obtain ⟨body, hbody, hnot, hend⟩ := cutAt_spec ['*', '/'] (List.cons_ne_nil _ _) [] cs
  simp only [List.reverse_nil, List.nil_append] at hbody
  simp only [Lexeme.IsFaithful, blockComment, trivia, hbody]
  obtain hclosed | ⟨hopen, hrest⟩ := hend
  · rw [hclosed]
    exact .blockComment _ hnot
  · rw [hopen, hrest, List.append_nil]
    exact .openComment hnot

theorem isFaithful_word (language : Language) (cs : List Char) :
    Lexeme.IsFaithful language (word language cs) := by
  simp only [word]
  split
  · split
    · exact isFaithful_quoted language _ _ _
    · exact isFaithful_plain language _ _ (by simp)
  · exact isFaithful_plain language _ _ (by simp)

theorem isFaithful_number (language : Language) (cs : List Char) :
    Lexeme.IsFaithful language (number cs) := by
  simp only [number]
  split
  · split <;> exact isFaithful_plain language _ _ (by simp)
  · exact isFaithful_plain language _ _ (by simp)

theorem isFaithful_mark (language : Language) (c : Char) (cs : List Char) :
    Lexeme.IsFaithful language (mark c cs) := by
  simp only [mark]
  split <;> exact isFaithful_plain language _ _ (by simp)

theorem isFaithful_lexeme (language : Language) (c : Char) (cs : List Char) :
    Lexeme.IsFaithful language (lexeme language c cs) := by
  unfold lexeme
  split
  next h => exact isFaithful_plain language _ _ (fun _ => rfl)
  next =>
  split
  next h =>
    refine .blank cs ?_
    simp only [gapChars, List.contains_eq_mem, decide_eq_true_eq] at h
    simp only [List.mem_cons, List.not_mem_nil, or_false] at h ⊢
    tauto
  next =>
  split
  next h =>
    obtain ⟨rfl, hslash⟩ := h
    obtain ⟨more, rfl⟩ := List.head?_eq_some_iff.mp hslash
    exact isFaithful_lineComment language ['/', '/'] more (.inl rfl)
  next =>
  split
  next => exact isFaithful_blockComment language cs.tail
  next =>
  split
  next h =>
    obtain ⟨rfl, hhash⟩ := h
    exact isFaithful_lineComment language ['#'] cs (.inr ⟨rfl, hhash⟩)
  next =>
  split
  next raw hraw =>
    split at hraw
    · exact isFaithful_rawLiteral? language hraw
    · cases hraw
  next =>
  split
  next => exact isFaithful_quoted language [] c cs
  next =>
  split
  next =>
    split
    · exact isFaithful_plain language _ _ (by simp)
    · exact isFaithful_quoted language [] c cs
  next =>
  split
  next => exact isFaithful_word language _
  next =>
  split
  next => exact isFaithful_number language _
  next => exact isFaithful_mark language c cs

end Lexer

/-! ### The whole run -/

/-- The text `rest`, behind `before`, is made of the pieces of these tokens and of trivia. -/
inductive Tiles (language : Language) : (before rest : List Char) → List Token → Prop where
  | done (before : List Char) : Tiles language before [] []
  | trivia {before piece after : List Char} {ts : List Token} (hpiece : IsTrivia language piece after)
      (hts : Tiles language (before ++ piece) after ts) : Tiles language before (piece ++ after) ts
  | token {before piece after : List Char} {t : Token} {ts : List Token} (hpiece : piece ≠ [])
      (hspan : t.span = ⟨utf8Length before, utf8Length (before ++ piece)⟩)
      (htext : t.kind.Repeats t.text.toList piece)
      (hts : Tiles language (before ++ piece) after ts) :
      Tiles language before (piece ++ after) (t :: ts)

namespace Lexer

theorem span_tokenOf (kind : TokenKind) (x : Lexeme) (before : List Char) :
    (tokenOf (Position.start.advance before) kind x).span =
      ⟨utf8Length before, utf8Length (before ++ x.taken)⟩ := by
  have hoffset (cs : List Char) : (Position.start.advance cs).offset = utf8Length cs := by
    rw [Position.offset_advance]
    exact Nat.zero_add _
  simp only [tokenOf, ← Position.advance_append, hoffset]

theorem tiles_tokens (language : Language) (p : Position) (atBreak : Bool) (before cs : List Char)
    (hp : p = Position.start.advance before) :
    Tiles language before cs (tokens language p atBreak cs) := by
  fun_induction tokens language p atBreak cs generalizing before with
  | case1 => exact .done before
  | case2 p atBreak c cs x _ ih =>
    have hcut := lexeme_cuts language c cs
    have hfaithful := isFaithful_lexeme language c cs
    have hrest : Tiles language (before ++ x.taken) x.rest
        (tokens language (p.advance x.taken) (x.breaks atBreak) x.rest) := by
      apply ih
      rw [hp, Position.advance_append]
    have htoken {kind : TokenKind} (hkind : x.kind = some kind) :
        Tiles language before (x.taken ++ x.rest) (tokenOf p kind x ::
          tokens language (p.advance x.taken) (x.breaks atBreak) x.rest) := by
      simp only [Lexeme.IsFaithful, x, hkind] at hfaithful
      refine .token hcut.2 ?_ ?_ hrest
      · rw [hp]
        exact span_tokenOf kind x before
      · rw [tokenOf, String.toList_ofList]
        exact hfaithful.1
    rw [← hcut.1]
    unfold Lexeme.tokens
    split
    next hkind =>
      simp only [Lexeme.IsFaithful, x, hkind] at hfaithful
      exact .trivia hfaithful hrest
    next hkind =>
      -- a line break is either a token or passed over as a blank
      split
      next =>
        simp only [Lexeme.IsFaithful, x, hkind] at hfaithful
        have hbreak : x.taken = ['\n'] := hfaithful.2 trivial
        refine .trivia ?_ hrest
        rw [hbreak]
        exact .blank _ (by decide)
      next => exact htoken hkind
    next hkind => exact htoken hkind

theorem isChain_tokens (language : Language) (p : Position) (atBreak : Bool) (cs : List Char)
    (last : Token) (hlast : last.kind = .newline ↔ atBreak = true) :
    (last :: tokens language p atBreak cs).IsChain fun t u =>
      ¬ (t.kind = .newline ∧ u.kind = .newline) := by
  fun_induction tokens language p atBreak cs generalizing last with
  | case1 => exact .singleton last
  | case2 p atBreak c cs x _ ih =>
    unfold Lexeme.tokens
    split
    next hkind =>
      apply ih
      simpa only [Lexeme.breaks, hkind] using hlast
    next hkind =>
      have hbreaks : x.breaks atBreak = true := by simp only [Lexeme.breaks, hkind]
      split
      next hat =>
        apply ih
        rw [hbreaks, hlast, hat]
      next hat =>
        refine List.isChain_cons_cons.mpr ⟨?_, ih _ (by simp [hbreaks, tokenOf])⟩
        simp [hlast, hat]
    next kind hnot hkind =>
      refine List.isChain_cons_cons.mpr ⟨?_, ih _ ?_⟩
      · exact fun h => hnot h.2
      · cases kind <;> simp_all [Lexeme.breaks, tokenOf]

end Lexer

structure Span.Cuts (s : Span) (text before piece after : List Char) : Prop where
  text_eq : text = before ++ piece ++ after
  start_eq : s.start = utf8Length before
  stop_eq : s.stop = utf8Length (before ++ piece)

def Span.Covers (s : Span) (n : Nat) : Prop := s.start ≤ n ∧ n < s.stop

namespace Tiles

variable {language : Language} {before rest : List Char} {ts : List Token}

theorem cuts_of_mem (h : Tiles language before rest ts) {t : Token} (ht : t ∈ ts) :
    ∃ front piece back, t.span.Cuts (before ++ rest) front piece back ∧ piece ≠ [] ∧
      t.kind.Repeats t.text.toList piece := by
  induction h with
  | done => cases ht
  | trivia _ _ ih =>
    rw [← List.append_assoc]
    exact ih ht
  | @token before piece after u ts hpiece hspan htext _ ih =>
    obtain rfl | ht := List.mem_cons.mp ht
    · refine ⟨before, piece, after, ⟨?_, ?_, ?_⟩, hpiece, htext⟩
      · rw [List.append_assoc]
      · rw [hspan]
      · rw [hspan]
    · rw [← List.append_assoc]
      exact ih ht

theorem utf8Length_before_le (h : Tiles language before rest ts) {t : Token} (ht : t ∈ ts) :
    utf8Length before ≤ t.span.start := by
  induction h with
  | done => cases ht
  | trivia _ _ ih =>
    have := ih ht
    rw [utf8Length_append] at this
    omega
  | token _ hspan _ _ ih =>
    obtain rfl | ht := List.mem_cons.mp ht
    · rw [hspan]
    · have := ih ht
      rw [utf8Length_append] at this
      omega

theorem exists_trivia (h : Tiles language before rest ts) {n : Nat}
    (hlow : utf8Length before ≤ n) (hhigh : n < utf8Length (before ++ rest))
    (hfree : ∀ t ∈ ts, ¬ t.span.Covers n) :
    ∃ (gap : Span) (front piece back : List Char), gap.Cuts (before ++ rest) front piece back ∧
      IsTrivia language piece back ∧ gap.Covers n ∧ utf8Length before ≤ gap.start ∧
      ∀ t ∈ ts, gap.overlaps t.span = false := by
  induction h with
  | done before =>
    rw [List.append_nil] at hhigh
    omega
  | @trivia before piece after ts hpiece hts ih =>
    by_cases hn : n < utf8Length (before ++ piece)
    · refine ⟨⟨utf8Length before, utf8Length (before ++ piece)⟩, before, piece, after,
        ⟨by rw [List.append_assoc], rfl, rfl⟩, hpiece, ⟨hlow, hn⟩, Nat.le_refl _, ?_⟩
      intro t ht
      have := hts.utf8Length_before_le ht
      simp only [Span.overlaps, Bool.and_eq_false_iff, decide_eq_false_iff_not]
      omega
    · rw [← List.append_assoc] at hhigh ⊢
      obtain ⟨gap, front, part, back, hcuts, htrivia, hcovers, hstart, hclear⟩ :=
        ih (Nat.le_of_not_lt hn) hhigh hfree
      rw [utf8Length_append] at hstart
      exact ⟨gap, front, part, back, hcuts, htrivia, hcovers, by omega, hclear⟩
  | @token before piece after t ts _ hspan _ hts ih =>
    have hbeyond : utf8Length (before ++ piece) ≤ n := by
      have := hfree t List.mem_cons_self
      simp only [Span.Covers, hspan] at this
      omega
    rw [← List.append_assoc] at hhigh ⊢
    obtain ⟨gap, front, part, back, hcuts, htrivia, hcovers, hstart, hclear⟩ :=
      ih hbeyond hhigh (fun u hu => hfree u (List.mem_cons_of_mem t hu))
    refine ⟨gap, front, part, back, hcuts, htrivia, hcovers, ?_, ?_⟩
    · rw [utf8Length_append] at hstart
      omega
    · intro u hu
      obtain rfl | hu := List.mem_cons.mp hu
      · simp only [Span.overlaps, hspan, Bool.and_eq_false_iff, decide_eq_false_iff_not]
        omega
      · exact hclear u hu

end Tiles

namespace Span.Cuts

variable {s : Span} {text before piece after : List Char}

theorem start_lt_stop (h : s.Cuts text before piece after) (hpiece : piece ≠ []) :
    s.start < s.stop := by
  have := utf8Length_pos hpiece
  rw [h.start_eq, h.stop_eq, utf8Length_append]
  omega

theorem isBorder_start (h : s.Cuts text before piece after) : IsBorder text s.start :=
  ⟨before, piece ++ after, by rw [h.text_eq, List.append_assoc], h.start_eq⟩

theorem isBorder_stop (h : s.Cuts text before piece after) : IsBorder text s.stop :=
  ⟨before ++ piece, after, h.text_eq, h.stop_eq⟩

end Span.Cuts

/-- The tokens of any text in any language cover nonempty pieces of it, one behind the other, between
borders of characters, and repeat what they cover. A byte that no token covers belongs to a blank, a
line break or a comment apart from all tokens. Line breaks come neither first nor twice in a row. -/
theorem tokens_tile_text (language : Language) (text : String) :
    (∀ t ∈ (tokenize language text).toList,
      t.span.start < t.span.stop ∧ t.span.stop ≤ text.utf8ByteSize ∧
      IsBorder text.toList t.span.start ∧ IsBorder text.toList t.span.stop ∧
      ∃ before piece after, t.span.Cuts text.toList before piece after ∧
        t.kind.Repeats t.text.toList piece) ∧
    ((tokenize language text).toList.Pairwise fun t u => t.span.stop ≤ u.span.start) ∧
    (∀ n < text.utf8ByteSize, (∀ t ∈ (tokenize language text).toList, ¬ t.span.Covers n) →
      ∃ (gap : Span) (before piece after : List Char), gap.Cuts text.toList before piece after ∧
        IsTrivia language piece after ∧ gap.Covers n ∧
        ∀ t ∈ (tokenize language text).toList, gap.overlaps t.span = false) ∧
    (∀ t ∈ (tokenize language text).toList.head?, t.kind ≠ .newline) ∧
    (tokenize language text).toList.IsChain fun t u =>
      ¬ (t.kind = .newline ∧ u.kind = .newline) := by
  have hpairwise := pairwise_tokenize language text
  rw [Lexer.toList_tokenize] at hpairwise ⊢
  have htiles := Lexer.tiles_tokens language Position.start true [] text.toList rfl
  -- at the start of a text a line break is passed over, as behind another line break
  have hchain := Lexer.isChain_tokens language Position.start true text.toList
    ⟨.newline, "", Span.zero, 0, 0⟩ (by simp)
  obtain ⟨hfirst, hchain⟩ := List.isChain_cons.mp hchain
  refine ⟨?_, hpairwise, ?_, ?_, hchain⟩
  · intro t ht
    obtain ⟨before, piece, after, hcuts, hpiece, htext⟩ := htiles.cuts_of_mem ht
    rw [List.nil_append] at hcuts
    have hsize := hcuts.isBorder_stop.le_utf8Length
    rw [utf8Length_toList] at hsize
    exact ⟨hcuts.start_lt_stop hpiece, hsize, hcuts.isBorder_start, hcuts.isBorder_stop, before,
      piece, after, hcuts, htext⟩
  · intro n hn hfree
    rw [← utf8Length_toList] at hn
    obtain ⟨gap, before, piece, after, hcuts, htrivia, hcovers, -, hclear⟩ :=
      htiles.exists_trivia (Nat.zero_le n) hn hfree
    exact ⟨gap, before, piece, after, hcuts, htrivia, hcovers, hclear⟩
  · intro t ht hkind
    exact hfirst t ht ⟨rfl, hkind⟩

end SourceAudit
