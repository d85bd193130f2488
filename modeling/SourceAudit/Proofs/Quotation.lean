import SourceAudit.Proofs.Joining

/-! Literals that are written down and read back. A body between double quotes may hold a quote or a line
break behind a backslash, a raw body ends with the first quote that is followed by enough hashes, and a
template takes in everything up to the next backtick. A text that is such a literal is one token, whose
text is the body. -/
namespace SourceAudit

namespace Lexer

/-! ### Bodies between quotes -/

/-- The literal may hold the text and go on behind it: its quote stands there only behind a backslash that
escapes, and so does a line break unless the literal spans lines. -/
inductive Quoting.Holds (q : Quoting) : List Char → Prop where
  | nil : q.Holds []
  | char {c : Char} {cs : List Char} (hquote : c ≠ q.quote) (hescape : c = '\\' → q.raw = true)
      (hbreak : c = '\n' → q.spansLines = true) (hcs : q.Holds cs) : q.Holds (c :: cs)
  | escape (c : Char) {cs : List Char} (hraw : q.raw = false) (hcs : q.Holds cs) :
      q.Holds ('\\' :: c :: cs)

theorem closeLiteral_of_holds {q : Quoting} (htriple : q.triple = false) (hquote : q.quote ∉ ['\\', '\n'])
    {body : List Char} (h : q.Holds body) (seen rest : List Char) :
    closeLiteral q seen (body ++ q.quote :: rest) = (seen.reverse ++ body, [q.quote], rest) := by
  have hmark : q.mark = [q.quote] := by simp [Quoting.mark, htriple]
  simp only [List.mem_cons, List.not_mem_nil, or_false, not_or] at hquote
  induction h generalizing seen with
  | nil =>
    rw [List.nil_append, closeLiteral_cons (fun h => hquote.1 h.1), if_neg (fun h => hquote.2 h.1), hmark,
      if_pos (by simp [List.isPrefixOf])]
    simp
  | @char c cs hc hescape hbreak _ ih =>
    have hplain : ¬(c = '\\' ∧ q.raw = false) := by
      rintro ⟨hslash, hraw⟩
      rw [hescape hslash] at hraw
      cases hraw
    have hline : ¬(c = '\n' ∧ q.spansLines = false) := by
      rintro ⟨hnewline, hspans⟩
      rw [hbreak hnewline] at hspans
      cases hspans
    have hopen : q.mark.isPrefixOf (c :: (cs ++ q.quote :: rest)) = false := by
      simp [hmark, List.isPrefixOf, Ne.symm hc]
    rw [List.cons_append, closeLiteral_cons hplain, if_neg hline, hopen, if_neg Bool.false_ne_true, ih]
    simp
  | escape c hraw _ ih =>
    rw [List.cons_append, List.cons_append, closeLiteral, if_pos ⟨rfl, hraw⟩, ih]
    simp

theorem Quoting.Holds.head?_ne {q : Quoting} {body : List Char} (h : q.Holds body)
    (hquote : q.quote ≠ '\\') : body.head? ≠ some q.quote := by
  cases h with
  | nil => simp
  | char hc => simpa using hc
  | escape => simpa using Ne.symm hquote

theorem lexeme_quote (language : Language) {q : Char} (hquote : q = '"' ∨ q = '`') (cs : List Char) :
    lexeme language q cs = quoted [] q cs := by
  obtain rfl | rfl := hquote <;> cases language <;> rfl

theorem quoted_of_holds {q : Char} (hquote : q ∉ ['\\', '\n']) {body : List Char}
    (h : Quoting.Holds ⟨q, false, q == '`'⟩ body) :
    quoted [] q (body ++ [q]) =
      ⟨some (.literal (q == '`' && hasEmbedding body)), body, q :: (body ++ [q]), []⟩ := by
  have hmarks : (String.ofList []).toLower.toList = [] := by decide +kernel
  have hslash : q ≠ '\\' := by
    rintro rfl
    simp at hquote
  have hsingle : [q, q].isPrefixOf (body ++ [q]) = false := by
    have hhead := h.head?_ne hslash
    cases body with
    | nil => simp [List.isPrefixOf]
    | cons c body =>
      have hc : c ≠ q := by simpa using hhead
      simp [List.isPrefixOf, Ne.symm hc]
  have hclose := closeLiteral_of_holds rfl hquote h [] []
  have hembeds : (if (q == '`') = true then hasEmbedding body else false) =
      (q == '`' && hasEmbedding body) := by
    cases q == '`' <;> simp
  simp only [quoted, hsingle, hmarks, Bool.and_false, Bool.false_eq_true, if_false, List.contains_nil,
    Bool.false_or, Bool.false_and, hclose, hembeds, Quoting.mark, List.nil_append, List.reverse_nil,
    List.cons_append]

/-! ### Raw bodies -/

def rawCloser (hashes : Nat) : List Char := '"' :: List.replicate hashes '#'

/-- A closer that began in the body and ended behind it would have a quote among its hashes. -/
theorem not_rawCloser_prefix {n : Nat} {c : Char} {cs : List Char} (hbody : ¬rawCloser n <:+: c :: cs)
    (rest : List Char) : ¬rawCloser n <+: (c :: cs) ++ (rawCloser n ++ rest) := by
  intro h
  obtain hinside | ⟨beyond, hbeyond⟩ := List.prefix_or_prefix_of_prefix h (List.prefix_append (c :: cs) _)
  · exact hbody hinside.isInfix
  · cases beyond with
    | nil =>
      rw [List.append_nil] at hbeyond
      exact hbody (hbeyond ▸ List.infix_refl _)
    | cons d beyond =>
      have hover : (c :: cs) ++ d :: beyond <+: (c :: cs) ++ (rawCloser n ++ rest) := by
        rw [hbeyond]
        exact h
      have hquote : d = '"' := (List.cons_prefix_cons.mp ((List.prefix_append_right_inj _).mp hover)).1
      have hhashes : cs ++ d :: beyond = List.replicate n '#' := (List.cons.inj hbeyond).2
      have hhash : d = '#' := List.eq_of_mem_replicate (hhashes ▸ List.mem_append_right cs List.mem_cons_self)
      rw [hquote] at hhash
      exact absurd hhash (by decide)

theorem cutAt_rawCloser {n : Nat} {body : List Char} (hbody : ¬rawCloser n <:+: body)
    (seen rest : List Char) :
    cutAt (rawCloser n) seen (body ++ (rawCloser n ++ rest)) = (seen.reverse ++ body, rawCloser n, rest) := by
  induction body generalizing seen with
  | nil =>
    have hhere : (rawCloser n).isPrefixOf (rawCloser n ++ rest) = true := by
      simp [List.isPrefixOf_iff_prefix]
    have hcons : rawCloser n ++ rest = '"' :: (List.replicate n '#' ++ rest) := rfl
    rw [List.nil_append, hcons, cutAt, ← hcons, if_pos hhere, List.drop_left, List.append_nil]
  | cons c body ih =>
    have hlater : ¬rawCloser n <:+: body := fun h => hbody (List.infix_cons h)
    have hstart := not_rawCloser_prefix hbody rest
    rw [← List.isPrefixOf_iff_prefix, List.cons_append] at hstart
    rw [List.cons_append, cutAt, if_neg hstart, ih hlater]
    simp

theorem rawOpening?_hashes (n : Nat) (body : List Char) :
    rawOpening? ('r' :: (List.replicate n '#' ++ '"' :: body)) =
      some ('r' :: (List.replicate n '#' ++ ['"']), n, body) := by
  have htake : (List.replicate n '#' ++ '"' :: body).takeWhile (· == '#') = List.replicate n '#' := by
    rw [List.takeWhile_append_of_pos (by simp), List.takeWhile_cons_of_neg (by decide), List.append_nil]
  unfold rawOpening?
  simp [htake]

theorem rawLiteral?_hashes {n : Nat} {body : List Char} (hbody : ¬rawCloser n <:+: body) :
    rawLiteral? ('r' :: (List.replicate n '#' ++ '"' :: (body ++ rawCloser n))) =
      some ⟨some (.literal false), body,
        'r' :: (List.replicate n '#' ++ '"' :: (body ++ rawCloser n)), []⟩ := by
  have hcut := cutAt_rawCloser hbody [] []
  rw [List.append_nil, List.reverse_nil, List.nil_append] at hcut
  rw [rawLiteral?, rawOpening?_hashes, Option.map_some]
  dsimp only
  rw [← rawCloser, hcut]
  simp

theorem lexeme_raw {cs : List Char} {x : Lexeme} (h : rawLiteral? ('r' :: cs) = some x) :
    lexeme .rust 'r' cs = x := by
  rw [lexeme, if_neg (by decide), if_neg (by decide), if_neg (by simp), if_neg (by simp), if_neg (by simp),
    if_pos rfl, h]

/-! ### A text that is one literal -/

def wholeLiteral (interpolated : Bool) (body text : String) : Token :=
  ⟨.literal interpolated, body, ⟨0, text.utf8ByteSize⟩, 1, 1⟩

theorem toList_tokenize_of_lexeme {language : Language} {text body : String} {c : Char} {cs : List Char}
    {interpolated : Bool} (htext : text.toList = c :: cs)
    (h : lexeme language c cs = ⟨some (.literal interpolated), body.toList, c :: cs, []⟩) :
    (tokenize language text).toList = [wholeLiteral interpolated body text] := by
  have hstop : (Position.start.advance (c :: cs)).offset = text.utf8ByteSize := by
    rw [Position.offset_advance, ← htext, utf8Length_toList]
    exact Nat.zero_add _
  rw [toList_tokenize, htext, tokens, h, tokens]
  change [Token.mk _ (String.ofList body.toList) ⟨0, (Position.start.advance (c :: cs)).offset⟩ 1 1] = _
  rw [String.ofList_toList, hstop, wholeLiteral]

end Lexer

/-- The body of a literal between double quotes: ordinary characters, and pairs of a backslash and any
character. -/
inductive IsEscaped : List Char → Prop where
  | nil : IsEscaped []
  | char {c : Char} {cs : List Char} (hc : c ∉ ['"', '\\', '\n']) (hcs : IsEscaped cs) : IsEscaped (c :: cs)
  | escape (c : Char) {cs : List Char} (hcs : IsEscaped cs) : IsEscaped ('\\' :: c :: cs)

theorem IsEscaped.holds {body : List Char} (h : IsEscaped body) :
    Lexer.Quoting.Holds ⟨'"', false, '"' == '`'⟩ body := by
  induction h with
  | nil => exact .nil
  | char hc _ ih =>
    simp only [List.mem_cons, List.not_mem_nil, or_false, not_or] at hc
    exact .char hc.1 (fun h => absurd h hc.2.1) (fun h => absurd h hc.2.2) ih
  | escape c _ ih => exact .escape c rfl ih

theorem holds_template {body : List Char} (h : '`' ∉ body) :
    Lexer.Quoting.Holds ⟨'`', false, '`' == '`'⟩ body := by
  induction body with
  | nil => exact .nil
  | cons c body ih =>
    simp only [List.mem_cons, not_or] at h
    exact .char (Ne.symm h.1) (fun _ => rfl) (fun _ => rfl) (ih h.2)

theorem hasEmbedding_iff (body : List Char) : hasEmbedding body = true ↔ ['$', '\x7b'] <:+: body := by
  induction body with
  | nil => simp [hasEmbedding]
  | cons c body ih =>
    have hhere : (c == '$' && body.head? == some '\x7b') = true ↔ ['$', '\x7b'] <+: c :: body := by
      rw [List.cons_prefix_cons, Bool.and_eq_true, beq_iff_eq, beq_iff_eq, List.head?_eq_some_iff, eq_comm]
      exact and_congr_right fun _ => ⟨fun ⟨more, h⟩ => ⟨more, h.symm⟩, fun ⟨more, h⟩ => ⟨more, h.symm⟩⟩
    rw [hasEmbedding, Bool.or_eq_true, ih, List.infix_cons_iff, hhere]

def doubleQuoted (body : String) : String := "\"" ++ body ++ "\""

def rawQuoted (hashes : Nat) (body : String) : String :=
  let closing := String.ofList (List.replicate hashes '#')
  "r" ++ closing ++ "\"" ++ body ++ "\"" ++ closing

def backquoted (body : String) : String := "`" ++ body ++ "`"

/-- Literals are read back as they were written, each as one token that has the text of the body and covers
all that was written. In every language this is so for a body of ordinary characters and escaped ones
between double quotes, which embeds nothing, and for a body without backticks between backticks, which
embeds something just when it has a dollar sign before a brace; in Rust also for a raw body that has no
quote followed by as many hashes as stand on either side. -/
theorem literals_round_trip :
    (∀ (language : Language) (body : String), IsEscaped body.toList →
      (tokenize language (doubleQuoted body)).toList = [Lexer.wholeLiteral false body (doubleQuoted body)]) ∧
    (∀ (hashes : Nat) (body : String), ¬('"' :: List.replicate hashes '#') <:+: body.toList →
      (tokenize .rust (rawQuoted hashes body)).toList = [Lexer.wholeLiteral false body (rawQuoted hashes body)]) ∧
    (∀ (language : Language) (body : String), '`' ∉ body.toList →
      ∃ interpolated, (tokenize language (backquoted body)).toList =
        [Lexer.wholeLiteral interpolated body (backquoted body)] ∧
        (interpolated = true ↔ ['$', '\x7b'] <:+: body.toList)) := by
  refine ⟨?_, ?_, ?_⟩
  · intro language body hbody
    have htext : (doubleQuoted body).toList = '"' :: (body.toList ++ ['"']) := by simp [doubleQuoted]
    apply Lexer.toList_tokenize_of_lexeme htext
    rw [Lexer.lexeme_quote language (.inl rfl), Lexer.quoted_of_holds (by decide) hbody.holds]
    rfl
  · intro hashes body hbody
    have htext : (rawQuoted hashes body).toList =
        'r' :: (List.replicate hashes '#' ++ '"' :: (body.toList ++ Lexer.rawCloser hashes)) := by
      simp [rawQuoted, Lexer.rawCloser]
    apply Lexer.toList_tokenize_of_lexeme htext
    exact Lexer.lexeme_raw (Lexer.rawLiteral?_hashes hbody)
  · intro language body hbody
    have htext : (backquoted body).toList = '`' :: (body.toList ++ ['`']) := by simp [backquoted]
    refine ⟨hasEmbedding body.toList, ?_, hasEmbedding_iff body.toList⟩
    apply Lexer.toList_tokenize_of_lexeme htext
    rw [Lexer.lexeme_quote language (.inr rfl), Lexer.quoted_of_holds (by decide) (holds_template hbody)]
    rfl

theorem literals_round_trip_near_their_quotes :
    (IsEscaped "\\\"é".toList ∧
      (tokenize .python (doubleQuoted "\\\"é")).toList =
        [Lexer.wholeLiteral false "\\\"é" (doubleQuoted "\\\"é")]) ∧
    (¬('"' :: List.replicate 2 '#') <:+: "\"#\"".toList ∧
      (tokenize .rust (rawQuoted 2 "\"#\"")).toList =
        [Lexer.wholeLiteral false "\"#\"" (rawQuoted 2 "\"#\"")]) ∧
    ('`' ∉ "\n$\x7b".toList ∧ ['$', '\x7b'] <:+: "\n$\x7b".toList ∧
      (tokenize .go (backquoted "\n$\x7b")).toList =
        [Lexer.wholeLiteral true "\n$\x7b" (backquoted "\n$\x7b")]) := by
  obtain ⟨hdouble, hraw, hback⟩ := literals_round_trip
  have hescaped : IsEscaped "\\\"é".toList := .escape '"' (.char (by decide) .nil)
  have hquote : ¬('"' :: List.replicate 2 '#') <:+: "\"#\"".toList := by decide +kernel
  have hbacktick : '`' ∉ "\n$\x7b".toList := by decide +kernel
  have hembeds : ['$', '\x7b'] <:+: "\n$\x7b".toList := ⟨['\n'], [], rfl⟩
  obtain ⟨interpolated, htokens, hiff⟩ := hback .go _ hbacktick
  rw [hiff.mpr hembeds] at htokens
  exact ⟨⟨hescaped, hdouble .python _ hescaped⟩, ⟨hquote, hraw 2 _ hquote⟩, hbacktick, hembeds, htokens⟩

end SourceAudit
