import SourceAudit.Language
import SourceAudit.Text
import SourceAudit.Token

/-! The lexer. It reads any text: a character it does not know is a mark of its own, and a literal
that is never closed runs to the end of its line or of the text. Each step cuts a nonempty piece off
the front, and the pieces put together are the text. -/
namespace SourceAudit

/-- A piece cut off the front of a text. Blanks and comments have no kind. -/
structure Lexeme where
  kind : Option TokenKind
  body : List Char
  taken : List Char
  rest : List Char

namespace Lexer

def gapChars : List Char := [' ', '\t', '\r', '\x0c']

def isIdentStart (c : Char) : Bool := c.isAlpha || c == '_' || c == '$' || decide (128 ≤ c.toNat)
def isIdentChar (c : Char) : Bool := c.isAlphanum || c == '_' || c == '$' || decide (128 ≤ c.toNat)

/-- Marks of more than one character; the first that fits is taken. -/
def longMarks : List (List Char) :=
  ["...", "<<=", ">>=", "::", "->", "=>", ":=", "==", "!=", "<=", ">=", "+=", "-=", "*=", "/=",
    "%=", "&&", "||", "?.", "..", "<<", ">>", "**"].map String.toList

/-- Letters that may stand before a quote in Python. -/
def literalMarks : List String := ["f", "r", "b", "u", "rb", "br", "fr", "rf"]

/-- How a literal is closed. -/
structure Quoting where
  quote : Char
  triple : Bool
  /-- A backslash is an ordinary character. -/
  raw : Bool

namespace Quoting

/-- The literal may go on after a line break. -/
def spansLines (q : Quoting) : Bool := q.triple || q.quote == '`'

def mark (q : Quoting) : List Char :=
  if q.triple then [q.quote, q.quote, q.quote] else [q.quote]

end Quoting

/-- The body, the closing mark and the rest of a literal that was just opened. The mark is empty if
the literal is cut off. -/
def closeLiteral (q : Quoting) (seen : List Char) : List Char → List Char × List Char × List Char
  | [] => (seen.reverse, [], [])
  | c :: cs =>
    if c = '\\' ∧ q.raw = false then
      match cs with
      | [] => ((c :: seen).reverse, [], [])
      | d :: ds => closeLiteral q (d :: c :: seen) ds
    else if c = '\n' ∧ q.spansLines = false then (seen.reverse, [], c :: cs)
    else if q.mark.isPrefixOf (c :: cs) then (seen.reverse, q.mark, (c :: cs).drop q.mark.length)
    else closeLiteral q (c :: seen) cs

/-- Everything before the first `closer`, the closer itself if there is one, and the rest. -/
def cutAt (closer : List Char) (seen : List Char) : List Char → List Char × List Char × List Char
  | [] => (seen.reverse, [], [])
  | c :: cs =>
    if closer.isPrefixOf (c :: cs) then (seen.reverse, closer, (c :: cs).drop closer.length)
    else cutAt closer (c :: seen) cs

theorem take_append_drop_of_isPrefixOf {xs ys : List Char} (h : xs.isPrefixOf ys = true) :
    xs ++ ys.drop xs.length = ys := by
  obtain ⟨zs, rfl⟩ := List.isPrefixOf_iff_prefix.mp h
  simp

theorem closeLiteral_append (q : Quoting) (seen cs : List Char) :
    (closeLiteral q seen cs).1 ++ (closeLiteral q seen cs).2.1 ++ (closeLiteral q seen cs).2.2 =
      seen.reverse ++ cs := by
  fun_induction closeLiteral q seen cs with
  | case1 => simp
  | case2 => simp
  | case3 _ _ _ _ _ ih => simpa using ih
  | case4 => simp
  | case5 _ _ _ _ _ h => simp [take_append_drop_of_isPrefixOf h]
  | case6 _ _ _ _ _ _ ih => simpa using ih

theorem cutAt_append (closer seen cs : List Char) :
    (cutAt closer seen cs).1 ++ (cutAt closer seen cs).2.1 ++ (cutAt closer seen cs).2.2 =
      seen.reverse ++ cs := by
  fun_induction cutAt closer seen cs with
  | case1 => simp
  | case2 _ _ _ h => simp [take_append_drop_of_isPrefixOf h]
  | case3 _ _ _ _ ih => simpa using ih

/-- The literal that starts with the quote `c`, after the letters in `before`. -/
def quoted (before : List Char) (c : Char) (cs : List Char) : Lexeme :=
  let triple := c != '`' && [c, c].isPrefixOf cs
  let marks := (String.ofList before).toLower.toList
  let q : Quoting := ⟨c, triple, marks.contains 'r' || c == '`'⟩
  let opened := if triple then cs.drop 2 else cs
  let cut := closeLiteral q [] opened
  let interpolated :=
    if c == '`' then hasEmbedding cut.1
    else marks.contains 'f' && hasBraceCapture cut.1
  ⟨some (.literal interpolated), cut.1, before ++ q.mark ++ cut.1 ++ cut.2.1, cut.2.2⟩

/-- The opening of a raw literal (an optional `b`, an `r`, any number of `#`, a quote), with the
number of its `#` and what follows. -/
def rawOpening? (cs : List Char) : Option (List Char × Nat × List Char) :=
  let byte := cs.takeWhile (· == 'b') |>.take 1
  match cs.drop byte.length with
  | 'r' :: rest =>
    let hashes := rest.takeWhile (· == '#')
    match rest.drop hashes.length with
    | '"' :: body => some (byte ++ 'r' :: hashes ++ ['"'], hashes.length, body)
    | _ => none
  | _ => none

def rawLiteral? (cs : List Char) : Option Lexeme :=
  (rawOpening? cs).map fun (opening, hashes, body) =>
    let cut := cutAt ('"' :: List.replicate hashes '#') [] body
    ⟨some (.literal false), cut.1, opening ++ cut.1 ++ cut.2.1, cut.2.2⟩

/-- A quote begins a lifetime when a name follows that no quote closes. -/
def isLifetime (cs : List Char) : Bool :=
  cs.head?.any isNameStart &&
    (cs.dropWhile fun c => c.isAlphanum || c == '_').head? != some '\''

def plain (kind : TokenKind) (taken rest : List Char) : Lexeme := ⟨some kind, taken, taken, rest⟩

def trivia (taken rest : List Char) : Lexeme := ⟨none, [], taken, rest⟩

def lineComment (cs : List Char) : Lexeme :=
  trivia (cs.takeWhile (· != '\n')) (cs.dropWhile (· != '\n'))

/-- The comment whose opening mark was just read. -/
def blockComment (cs : List Char) : Lexeme :=
  let cut := cutAt ['*', '/'] [] cs
  trivia ('/' :: '*' :: (cut.1 ++ cut.2.1)) cut.2.2

def marksLiteral (language : Language) (word : List Char) : Bool :=
  match language with
  | .python => literalMarks.contains (String.ofList word).toLower
  | .rust => word == ['b']
  | _ => false

/-- A name, or a literal when the name is a mark that stands before a quote. -/
def word (language : Language) (cs : List Char) : Lexeme :=
  let name := cs.takeWhile isIdentChar
  let rest := cs.dropWhile isIdentChar
  match rest with
  | q :: more =>
    if marksLiteral language name && (q == '"' || q == '\'') then quoted name q more
    else plain .ident name rest
  | [] => plain .ident name rest

/-- Digits and letters, with a fraction when a digit follows the point. -/
def number (cs : List Char) : Lexeme :=
  let digits := cs.takeWhile fun c => c.isAlphanum || c == '_'
  let rest := cs.dropWhile fun c => c.isAlphanum || c == '_'
  match rest with
  | '.' :: d :: more =>
    if d.isDigit then
      plain .number (digits ++ '.' :: (d :: more).takeWhile Char.isAlphanum)
        ((d :: more).dropWhile Char.isAlphanum)
    else plain .number digits rest
  | _ => plain .number digits rest

def mark (c : Char) (cs : List Char) : Lexeme :=
  match longMarks.find? (·.isPrefixOf (c :: cs)) with
  | some m => plain .punct m ((c :: cs).drop m.length)
  | none => plain .punct [c] cs

/-- The piece at the front of `c :: cs`. -/
def lexeme (language : Language) (c : Char) (cs : List Char) : Lexeme :=
  if c = '\n' then plain .newline ['\n'] cs
  else if gapChars.contains c then trivia [c] cs
  else if c = '/' ∧ cs.head? = some '/' then lineComment (c :: cs)
  else if c = '/' ∧ cs.head? = some '*' then blockComment cs.tail
  else if c = '#' ∧ language.hashComments then lineComment (c :: cs)
  else
    match if language = .rust then rawLiteral? (c :: cs) else none with
    | some raw => raw
    | none =>
      if c = '"' ∨ c = '`' then quoted [] c cs
      else if c = '\'' then
        if language.hasLifetimes && isLifetime cs then plain .punct [c] cs else quoted [] c cs
      else if isIdentStart c then word language (c :: cs)
      else if c.isDigit then number (c :: cs)
      else mark c cs

/-- The pieces of a lexeme make up the text it was cut from. -/
def Lexeme.Cuts (x : Lexeme) (cs : List Char) : Prop := x.taken ++ x.rest = cs ∧ x.taken ≠ []

theorem quoted_cuts (before : List Char) (c : Char) (cs : List Char) :
    Lexeme.Cuts (quoted before c cs) (before ++ c :: cs) := by
  constructor
  · by_cases h : (c != '`' && [c, c].isPrefixOf cs) = true
    · have hp := take_append_drop_of_isPrefixOf (Bool.and_eq_true _ _ ▸ h).2
      have hc := closeLiteral_append
        ⟨c, true, ((String.ofList before).toLower.toList).contains 'r' || c == '`'⟩ [] (cs.drop 2)
      simp only [List.reverse_nil, List.nil_append, List.append_assoc] at hc
      simp only [quoted, h, if_true, Quoting.mark, List.append_assoc, hc]
      simpa using hp
    · have hc := closeLiteral_append
        ⟨c, false, ((String.ofList before).toLower.toList).contains 'r' || c == '`'⟩ [] cs
      simp only [List.reverse_nil, List.nil_append, List.append_assoc] at hc
      simp only [quoted, h, Bool.false_eq_true, if_false, Quoting.mark, List.append_assoc, hc]
      simp
  · simp only [quoted, Quoting.mark]
    split <;> simp

theorem rawOpening?_append {cs opening body : List Char} {n : Nat}
    (h : rawOpening? cs = some (opening, n, body)) : opening ++ body = cs ∧ opening ≠ [] := by
  simp only [rawOpening?] at h
  split at h
  next rest hr =>
    split at h
    next more hm =>
      simp only [Option.some.injEq, Prod.mk.injEq] at h
      obtain ⟨rfl, -, rfl⟩ := h
      have hashes := List.takeWhile_append_dropWhile (p := (· == '#')) (l := rest)
      have hd : rest.drop (rest.takeWhile (· == '#')).length = rest.dropWhile (· == '#') := by
        rw [← List.append_cancel_left_eq (rest.takeWhile (· == '#')), hashes]
        exact take_append_drop_of_isPrefixOf
          (List.isPrefixOf_iff_prefix.mpr (List.takeWhile_prefix _))
      have hb : (cs.takeWhile (· == 'b')).take 1 <+: cs :=
        (List.take_prefix _ _).trans (List.takeWhile_prefix _)
      have hcs := take_append_drop_of_isPrefixOf (List.isPrefixOf_iff_prefix.mpr hb)
      constructor
      · rw [hr] at hcs
        rw [hd] at hm
        rw [hm] at hashes
        simp only [List.append_assoc, List.cons_append, List.nil_append, hashes]
        exact hcs
      · simp
    next => cases h
  next => cases h

theorem rawLiteral?_cuts {cs : List Char} {x : Lexeme} (h : rawLiteral? cs = some x) :
    Lexeme.Cuts x cs := by
  simp only [rawLiteral?, Option.map_eq_some_iff, Prod.exists] at h
  obtain ⟨opening, n, body, ho, rfl⟩ := h
  obtain ⟨ha, hn⟩ := rawOpening?_append ho
  have hc := cutAt_append ('"' :: List.replicate n '#') [] body
  simp only [List.reverse_nil, List.nil_append, List.append_assoc] at hc
  constructor
  · simp only [List.append_assoc, hc, ha]
  · simp [hn]

theorem lineComment_cuts {c : Char} (cs : List Char) (h : c ≠ '\n') :
    Lexeme.Cuts (lineComment (c :: cs)) (c :: cs) := by
  constructor
  · exact List.takeWhile_append_dropWhile
  · simp [lineComment, trivia, h]

theorem blockComment_cuts (cs : List Char) :
    Lexeme.Cuts (blockComment cs) ('/' :: '*' :: cs) := by
  have hc := cutAt_append ['*', '/'] [] cs
  simp only [List.reverse_nil, List.nil_append, List.append_assoc] at hc
  constructor
  · simp [blockComment, trivia, hc]
  · simp [blockComment, trivia]

theorem word_cuts (language : Language) {c : Char} (cs : List Char) (h : isIdentChar c = true) :
    Lexeme.Cuts (word language (c :: cs)) (c :: cs) := by
  have ht := List.takeWhile_append_dropWhile (p := isIdentChar) (l := c :: cs)
  have hne : (c :: cs).takeWhile isIdentChar ≠ [] := by simp [h]
  simp only [word]
  split
  next q more hr =>
    rw [hr] at ht
    split
    · exact ⟨(quoted_cuts _ q more).1.trans ht, (quoted_cuts _ q more).2⟩
    · exact ⟨by simpa [plain, hr] using ht, hne⟩
  next hr => exact ⟨by simpa [plain, hr] using ht, hne⟩

theorem number_cuts {c : Char} (cs : List Char) (h : c.isDigit = true) :
    Lexeme.Cuts (number (c :: cs)) (c :: cs) := by
  have ht := List.takeWhile_append_dropWhile (p := fun c => c.isAlphanum || c == '_') (l := c :: cs)
  have hne : (c :: cs).takeWhile (fun c => c.isAlphanum || c == '_') ≠ [] := by
    simp [Char.isAlphanum, h]
  simp only [number]
  split
  next d more hr =>
    split
    · constructor
      · simp only [plain, List.append_assoc, List.cons_append,
          List.takeWhile_append_dropWhile]
        rw [← hr]
        exact ht
      · simp [plain]
    · exact ⟨ht, hne⟩
  next => exact ⟨ht, hne⟩

theorem ne_nil_of_mem_longMarks {m : List Char} (h : m ∈ longMarks) : m ≠ [] := by
  rintro rfl
  revert h
  decide

theorem mark_cuts (c : Char) (cs : List Char) : Lexeme.Cuts (mark c cs) (c :: cs) := by
  simp only [mark]
  split
  next m hm =>
    have hp := List.find?_some hm
    exact ⟨@take_append_drop_of_isPrefixOf m (c :: cs) hp,
      ne_nil_of_mem_longMarks (List.mem_of_find?_eq_some hm)⟩
  next => exact ⟨rfl, by simp [plain]⟩

theorem lexeme_cuts (language : Language) (c : Char) (cs : List Char) :
    Lexeme.Cuts (lexeme language c cs) (c :: cs) := by
  simp only [lexeme]
  split
  next h => exact ⟨by simp [plain, h], by simp [plain]⟩
  next hn =>
  split
  next => exact ⟨rfl, by simp [trivia]⟩
  next =>
  split
  next => exact lineComment_cuts cs hn
  next =>
  split
  next h =>
    obtain ⟨rfl, hs⟩ := h
    obtain ⟨tl, rfl⟩ : ∃ tl, cs = '*' :: tl := by
      cases cs with
      | nil => simp at hs
      | cons d ds => simp at hs; exact ⟨ds, by rw [hs]⟩
    exact blockComment_cuts tl
  next =>
  split
  next => exact lineComment_cuts cs hn
  next =>
  split
  next raw hr =>
    split at hr
    · exact rawLiteral?_cuts hr
    · cases hr
  next =>
  split
  next => exact quoted_cuts [] c cs
  next =>
  split
  next =>
    split
    · exact ⟨rfl, by simp [plain]⟩
    · exact quoted_cuts [] c cs
  next =>
  split
  next h =>
    refine word_cuts language cs ?_
    simp only [isIdentStart, isIdentChar, Char.isAlphanum, Bool.or_eq_true] at h ⊢
    grind
  next =>
  split
  next h => exact number_cuts cs h
  next => exact mark_cuts c cs

theorem length_rest_lexeme_lt (language : Language) (c : Char) (cs : List Char) :
    (lexeme language c cs).rest.length < (c :: cs).length := by
  obtain ⟨ha, hn⟩ := lexeme_cuts language c cs
  have := congrArg List.length ha
  have := List.length_pos_iff.mpr hn
  simp only [List.length_append] at *
  omega

def tokenOf (p : Position) (kind : TokenKind) (x : Lexeme) : Token :=
  ⟨kind, String.ofList x.body, ⟨p.offset, (p.advance x.taken).offset⟩, p.line, p.column⟩

/-- Reads the tokens of `cs`, which starts at `p`. A line break is dropped when no other token came
since the last one (`atBreak`). -/
def tokensFrom (language : Language) (p : Position) (atBreak : Bool) (done : Array Token) :
    List Char → Array Token
  | [] => done
  | c :: cs =>
    let x := lexeme language c cs
    have := Nat.le_of_lt_succ (length_rest_lexeme_lt language c cs)
    let after := p.advance x.taken
    match x.kind with
    | none => tokensFrom language after atBreak done x.rest
    | some .newline =>
      tokensFrom language after true (if atBreak then done else done.push (tokenOf p .newline x))
        x.rest
    | some kind => tokensFrom language after false (done.push (tokenOf p kind x)) x.rest
termination_by cs => cs.length

end Lexer

/-- The tokens of a text. Line breaks at its start are dropped. -/
def tokenize (language : Language) (text : String) : Array Token :=
  Lexer.tokensFrom language Position.start true #[] text.toList

end SourceAudit
