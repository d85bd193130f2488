import SourceAudit.Proofs.Position
import SourceAudit.Token.Lexer

/-! Where tokens stand. Each token covers a nonempty stretch of the text and knows its line and column,
and the stretches of different tokens follow each other without overlap. -/
namespace SourceAudit

def Token.position (t : Token) : Position := ⟨t.span.start, t.line, t.column⟩

def Token.StandsIn (t : Token) (text : List Char) : Prop :=
  ∃ before taken after, text = before ++ taken ++ after ∧ taken ≠ [] ∧
    t.position = Position.start.advance before ∧
    t.span.stop = (Position.start.advance (before ++ taken)).offset

namespace Token.StandsIn

variable {t : Token} {text : List Char}

theorem isIn (h : t.StandsIn text) : t.position.IsIn text := by
  obtain ⟨before, taken, after, htext, -, hp, -⟩ := h
  exact ⟨before, taken ++ after, by rw [htext, List.append_assoc], hp⟩

theorem start_lt_stop (h : t.StandsIn text) : t.span.start < t.span.stop := by
  obtain ⟨before, taken, after, -, htaken, hp, hstop⟩ := h
  have hstart : t.span.start = (Position.start.advance before).offset := congrArg (·.offset) hp
  have := utf8Length_pos htaken
  rw [hstart, hstop, Position.advance_append, Position.offset_advance _ taken]
  omega

theorem isBorder_stop (h : t.StandsIn text) : IsBorder text t.span.stop := by
  obtain ⟨before, taken, after, htext, -, -, hstop⟩ := h
  rw [hstop]
  exact Position.IsIn.isBorder ⟨before ++ taken, after, htext, rfl⟩

end Token.StandsIn

/-- The tokens that a lexeme at `p` gives. A line break gives none when one came just before. -/
def Lexeme.tokens (x : Lexeme) (p : Position) (atBreak : Bool) : List Token :=
  match x.kind with
  | none => []
  | some .newline => if atBreak then [] else [Lexer.tokenOf p .newline x]
  | some kind => [Lexer.tokenOf p kind x]

def Lexeme.breaks (x : Lexeme) (atBreak : Bool) : Bool :=
  match x.kind with
  | none => atBreak
  | some .newline => true
  | some _ => false

namespace Lexer

def tokens (language : Language) (p : Position) (atBreak : Bool) : List Char → List Token
  | [] => []
  | c :: cs =>
    let x := lexeme language c cs
    have := Nat.le_of_lt_succ (length_rest_lexeme_lt language c cs)
    x.tokens p atBreak ++ tokens language (p.advance x.taken) (x.breaks atBreak) x.rest
termination_by cs => cs.length

theorem toList_tokensFrom (language : Language) (p : Position) (atBreak : Bool)
    (done : Array Token) (cs : List Char) :
    (tokensFrom language p atBreak done cs).toList =
      done.toList ++ tokens language p atBreak cs := by
  fun_induction tokensFrom language p atBreak done cs with
  | case1 => simp [tokens]
  | case2 p atBreak done c cs x _ after hkind ih =>
    rw [ih, tokens]
    simp [x, after, hkind, Lexeme.tokens, Lexeme.breaks]
  | case3 p atBreak done c cs x _ after hkind ih =>
    simp only [dite_eq_ite] at ih
    rw [ih, tokens]
    cases atBreak <;> simp [x, after, hkind, Lexeme.tokens, Lexeme.breaks]
  | case4 p atBreak done c cs x _ after kind hkind hne ih =>
    rw [ih, tokens]
    cases kind <;> simp_all [x, after, Lexeme.tokens, Lexeme.breaks]

theorem toList_tokenize (language : Language) (text : String) :
    (tokenize language text).toList = tokens language Position.start true text.toList := by
  rw [tokenize, toList_tokensFrom]
  rfl

theorem mem_tokens_lexeme {x : Lexeme} {p : Position} {atBreak : Bool} {t : Token}
    (h : t ∈ x.tokens p atBreak) : ∃ kind, t = tokenOf p kind x := by
  unfold Lexeme.tokens at h
  split at h
  next => cases h
  next =>
    split at h
    next => cases h
    next => exact ⟨_, List.mem_singleton.mp h⟩
  next kind _ _ => exact ⟨kind, List.mem_singleton.mp h⟩

theorem pairwise_tokens_lexeme (R : Token → Token → Prop) (x : Lexeme) (p : Position)
    (atBreak : Bool) : (x.tokens p atBreak).Pairwise R := by
  unfold Lexeme.tokens
  split
  next => exact .nil
  next => split <;> simp
  next => simp

theorem standsIn_tokenOf {x : Lexeme} {before cs : List Char} (hcut : Lexeme.Cuts x cs)
    (kind : TokenKind) :
    (tokenOf (Position.start.advance before) kind x).StandsIn (before ++ cs) := by
  refine ⟨before, x.taken, x.rest, ?_, hcut.2, rfl, ?_⟩
  · rw [List.append_assoc, hcut.1]
  · rw [Position.advance_append]
    rfl

theorem standsIn_tokens (language : Language) (p : Position) (atBreak : Bool)
    (before cs : List Char) (hp : p = Position.start.advance before) :
    ∀ t ∈ tokens language p atBreak cs, t.StandsIn (before ++ cs) ∧ p.offset ≤ t.span.start := by
  fun_induction tokens language p atBreak cs generalizing before with
  | case1 => simp
  | case2 p atBreak c cs x _ ih =>
    intro t ht
    have hcut := lexeme_cuts language c cs
    obtain ht | ht := List.mem_append.mp ht
    · -- the token of this lexeme
      obtain ⟨kind, rfl⟩ := mem_tokens_lexeme ht
      rw [hp]
      exact ⟨standsIn_tokenOf hcut kind, Nat.le_refl _⟩
    · -- a token of the rest, which has the same text around it
      have hnext : p.advance x.taken = Position.start.advance (before ++ x.taken) := by
        rw [hp, Position.advance_append]
      obtain ⟨hstands, hle⟩ := ih _ hnext t ht
      rw [List.append_assoc, hcut.1] at hstands
      rw [Position.offset_advance] at hle
      exact ⟨hstands, by omega⟩

theorem pairwise_tokens (language : Language) (p : Position) (atBreak : Bool)
    (before cs : List Char) (hp : p = Position.start.advance before) :
    (tokens language p atBreak cs).Pairwise fun t u => t.span.stop ≤ u.span.start := by
  fun_induction tokens language p atBreak cs generalizing before with
  | case1 => exact .nil
  | case2 p atBreak c cs x _ ih =>
    have hnext : p.advance x.taken = Position.start.advance (before ++ x.taken) := by
      rw [hp, Position.advance_append]
    apply List.pairwise_append.mpr
    refine ⟨pairwise_tokens_lexeme _ x p atBreak, ih _ hnext, ?_⟩
    intro t ht u hu
    obtain ⟨kind, rfl⟩ := mem_tokens_lexeme ht
    exact (standsIn_tokens language _ _ _ _ hnext u hu).2

end Lexer

theorem standsIn_of_mem_tokenize {language : Language} {text : String} {t : Token}
    (h : t ∈ (tokenize language text).toList) : t.StandsIn text.toList := by
  rw [Lexer.toList_tokenize] at h
  exact (Lexer.standsIn_tokens language _ true [] text.toList rfl t h).1

theorem pairwise_tokenize (language : Language) (text : String) :
    (tokenize language text).toList.Pairwise fun t u => t.span.stop ≤ u.span.start := by
  rw [Lexer.toList_tokenize]
  exact Lexer.pairwise_tokens language _ true [] text.toList rfl

end SourceAudit
