import Mathlib.Data.List.Basic
import SourceAudit.Proofs.Lexing

/-! Lexing line by line. No piece of a text depends on what stands behind a line break that it does not
reach, so a text can be cut at every line break that is a token of its own, and the parts lexed apart. -/
namespace SourceAudit

/-! ### Looking ahead stops at a line break -/

theorem not_mem_takeWhile {p : Char → Bool} (hp : p '\n' = false) {cs : List Char} :
    '\n' ∉ cs.takeWhile p := by
  intro h
  have := List.all_eq_true.mp List.all_takeWhile _ h
  simp [hp] at this

section Lookahead

variable {cs : List Char} (hcs : '\n' ∈ cs) (more : List Char)

include hcs

theorem isPrefixOf_append_of_mem {m : List Char} (hm : '\n' ∉ m) :
    m.isPrefixOf (cs ++ more) = m.isPrefixOf cs := by
  rw [Bool.eq_iff_iff, List.isPrefixOf_iff_prefix, List.isPrefixOf_iff_prefix]
  constructor
  · intro h
    obtain hpre | hpre := List.prefix_or_prefix_of_prefix h (List.prefix_append cs more)
    · exact hpre
    · exact absurd (hpre.subset hcs) hm
  · exact fun h => h.trans (List.prefix_append cs more)

theorem takeWhile_append_of_mem (p : Char → Bool) (hp : p '\n' = false) :
    (cs ++ more).takeWhile p = cs.takeWhile p := by
  induction cs with
  | nil => cases hcs
  | cons c cs ih =>
    by_cases hc : p c = true
    · have hne : c ≠ '\n' := by
        rintro rfl
        simp [hp] at hc
      have hrest := ih ((List.mem_cons.mp hcs).resolve_left hne.symm)
      simp [hc, hrest]
    · simp [hc]

theorem dropWhile_append_of_mem (p : Char → Bool) (hp : p '\n' = false) :
    (cs ++ more).dropWhile p = cs.dropWhile p ++ more ∧ '\n' ∈ cs.dropWhile p := by
  induction cs with
  | nil => cases hcs
  | cons c cs ih =>
    by_cases hc : p c = true
    · have hne : c ≠ '\n' := by
        rintro rfl
        simp [hp] at hc
      have hrest := ih ((List.mem_cons.mp hcs).resolve_left hne.symm)
      simp [hc, hrest]
    · simpa [hc] using hcs

theorem drop_append_of_mem {m : List Char} (hm : '\n' ∉ m) (hpre : m <+: cs) :
    (cs ++ more).drop m.length = cs.drop m.length ++ more ∧ '\n' ∈ cs.drop m.length := by
  obtain ⟨after, rfl⟩ := hpre
  rw [List.drop_append_of_le_length (by simp), List.drop_left]
  exact ⟨rfl, (List.mem_append.mp hcs).resolve_left hm⟩

theorem head?_append_of_mem : (cs ++ more).head? = cs.head? := by
  cases cs with
  | nil => cases hcs
  | cons => rfl

end Lookahead

def Lexeme.followedBy (x : Lexeme) (more : List Char) : Lexeme := { x with rest := x.rest ++ more }

namespace Lexer

theorem closeLiteral_cons {q : Quoting} {c : Char} (h : ¬ (c = '\\' ∧ q.raw = false))
    (seen cs : List Char) :
    closeLiteral q seen (c :: cs) =
      if c = '\n' ∧ q.spansLines = false then (seen.reverse, [], c :: cs)
      else if q.mark.isPrefixOf (c :: cs) then (seen.reverse, q.mark, (c :: cs).drop q.mark.length)
      else closeLiteral q (c :: seen) cs := by
  rw [closeLiteral.eq_def]
  simp only [if_neg h]

theorem closeLiteral_rest_suffix (q : Quoting) (seen cs : List Char) :
    (closeLiteral q seen cs).2.2 <:+ cs := by
  fun_induction closeLiteral q seen cs with
  | case1 => exact List.suffix_refl []
  | case2 => exact List.nil_suffix
  | case3 _ _ _ d _ ih => exact (ih.trans (List.suffix_cons d _)).trans (List.suffix_cons _ _)
  | case4 => exact List.suffix_refl _
  | case5 => exact List.drop_suffix _ _
  | case6 _ c _ _ _ _ ih => exact ih.trans (List.suffix_cons c _)

theorem closeLiteral_append_of_mem {q : Quoting} (hq : q.quote ≠ '\n') (seen cs more : List Char)
    (h : '\n' ∈ (closeLiteral q seen cs).2.2) :
    closeLiteral q seen (cs ++ more) = ((closeLiteral q seen cs).1, (closeLiteral q seen cs).2.1,
      (closeLiteral q seen cs).2.2 ++ more) := by
  have hmark : '\n' ∉ q.mark := by
    unfold Quoting.mark
    split <;> simp [hq.symm]
  fun_induction closeLiteral q seen cs with
  | case1 => cases h
  | case2 => cases h
  | case3 seen c hescape d ds ih =>
    rw [List.cons_append, List.cons_append, closeLiteral, if_pos hescape]
    exact ih h
  | case4 seen c cs hescape hbreak =>
    rw [List.cons_append, closeLiteral_cons hescape, if_pos hbreak]
  | case5 seen c cs hescape hbreak hclose =>
    have hlength := (List.isPrefixOf_iff_prefix.mp hclose).length_le
    have hin : '\n' ∈ c :: cs := List.mem_of_mem_drop h
    rw [List.cons_append, closeLiteral_cons hescape, if_neg hbreak, ← List.cons_append,
      isPrefixOf_append_of_mem hin more hmark, if_pos hclose, List.drop_append_of_le_length hlength]
  | case6 seen c cs hescape hbreak hclose ih =>
    have hin : '\n' ∈ c :: cs :=
      List.mem_cons_of_mem c ((closeLiteral_rest_suffix q (c :: seen) cs).subset h)
    rw [List.cons_append, closeLiteral_cons hescape, if_neg hbreak, ← List.cons_append,
      isPrefixOf_append_of_mem hin more hmark, if_neg hclose]
    exact ih h

theorem cutAt_rest_suffix (closer seen cs : List Char) : (cutAt closer seen cs).2.2 <:+ cs := by
  fun_induction cutAt closer seen cs with
  | case1 => exact List.suffix_refl []
  | case2 => exact List.drop_suffix _ _
  | case3 _ c _ _ ih => exact ih.trans (List.suffix_cons c _)

theorem cutAt_append_of_mem {closer : List Char} (hcloser : '\n' ∉ closer) (seen cs more : List Char)
    (h : '\n' ∈ (cutAt closer seen cs).2.2) :
    cutAt closer seen (cs ++ more) = ((cutAt closer seen cs).1, (cutAt closer seen cs).2.1,
      (cutAt closer seen cs).2.2 ++ more) := by
  fun_induction cutAt closer seen cs with
  | case1 => cases h
  | case2 seen c cs hclose =>
    have hlength := (List.isPrefixOf_iff_prefix.mp hclose).length_le
    have hin : '\n' ∈ c :: cs := List.mem_of_mem_drop h
    rw [List.cons_append, cutAt, ← List.cons_append, isPrefixOf_append_of_mem hin more hcloser,
      if_pos hclose, List.drop_append_of_le_length hlength]
  | case3 seen c cs hclose ih =>
    have hin : '\n' ∈ c :: cs :=
      List.mem_cons_of_mem c ((cutAt_rest_suffix closer (c :: seen) cs).subset h)
    rw [List.cons_append, cutAt, ← List.cons_append, isPrefixOf_append_of_mem hin more hcloser,
      if_neg hclose]
    exact ih h

theorem quoted_append_of_mem (before : List Char) {c : Char} (hc : c ≠ '\n') (cs more : List Char)
    (h : '\n' ∈ (quoted before c cs).rest) :
    quoted before c (cs ++ more) = (quoted before c cs).followedBy more := by
  have hpair : '\n' ∉ [c, c] := by simp [hc.symm]
  by_cases htriple : (c != '`' && [c, c].isPrefixOf cs) = true
  · have hlength : 2 ≤ cs.length :=
      (List.isPrefixOf_iff_prefix.mp (Bool.and_eq_true_iff.mp htriple).2).length_le
    simp only [quoted, htriple, if_true] at h ⊢
    have hin : '\n' ∈ cs :=
      List.mem_of_mem_drop ((closeLiteral_rest_suffix _ [] (cs.drop 2)).subset h)
    have hclose := closeLiteral_append_of_mem (by exact hc) [] (cs.drop 2) more h
    rw [← List.drop_append_of_le_length hlength] at hclose
    simp only [isPrefixOf_append_of_mem hin more hpair, htriple, if_true, hclose]
    rfl
  · simp only [quoted, htriple, Bool.false_eq_true, if_false] at h ⊢
    have hin : '\n' ∈ cs := (closeLiteral_rest_suffix _ [] cs).subset h
    have hclose := closeLiteral_append_of_mem (by exact hc) [] cs more h
    simp only [isPrefixOf_append_of_mem hin more hpair, htriple, Bool.false_eq_true, if_false, hclose]
    rfl

theorem rawOpening?_append_of_mem {cs : List Char} (hcs : '\n' ∈ cs) (more : List Char) :
    rawOpening? (cs ++ more) =
      (rawOpening? cs).map fun (opening, hashes, body) => (opening, hashes, body ++ more) := by
  have hbyte : '\n' ∉ (cs.takeWhile (· == 'b')).take 1 := fun h =>
    not_mem_takeWhile (by decide) (List.mem_of_mem_take h)
  obtain ⟨hdrop, hin⟩ := drop_append_of_mem hcs more hbyte
    ((List.take_prefix _ _).trans (List.takeWhile_prefix _))
  simp only [rawOpening?, takeWhile_append_of_mem hcs more (· == 'b') (by decide), hdrop]
  cases hafter : cs.drop ((cs.takeWhile (· == 'b')).take 1).length with
  | nil =>
    rw [hafter] at hin
    cases hin
  | cons r rest =>
    rw [hafter] at hin
    by_cases hr : r = 'r'
    · subst hr
      have hin : '\n' ∈ rest := by simpa using hin
      obtain ⟨hdrop, hin'⟩ := drop_append_of_mem hin more (not_mem_takeWhile (by decide))
        (List.takeWhile_prefix (· == '#'))
      simp only [List.cons_append, takeWhile_append_of_mem hin more (· == '#') (by decide), hdrop]
      cases hbody : rest.drop (rest.takeWhile (· == '#')).length with
      | nil =>
        rw [hbody] at hin'
        cases hin'
      | cons quote body =>
        by_cases hquote : quote = '"'
        · subst hquote
          rfl
        · simp [hquote]
    · simp [hr]

theorem rawLiteral?_append_of_mem {cs : List Char} (hcs : '\n' ∈ cs) (more : List Char)
    (h : ∀ x, rawLiteral? cs = some x → '\n' ∈ x.rest) :
    rawLiteral? (cs ++ more) = (rawLiteral? cs).map (·.followedBy more) := by
  rw [rawLiteral?, rawOpening?_append_of_mem hcs, rawLiteral?]
  cases hopening : rawOpening? cs with
  | none => rfl
  | some parts =>
    obtain ⟨opening, hashes, body⟩ := parts
    have hcloser : '\n' ∉ '"' :: List.replicate hashes '#' := by simp
    have hcut := cutAt_append_of_mem hcloser [] body more (h _ (by rw [rawLiteral?, hopening]; rfl))
    simp only [Option.map_some, hcut]
    rfl

theorem isLifetime_append_of_mem {cs : List Char} (hcs : '\n' ∈ cs) (more : List Char) :
    isLifetime (cs ++ more) = isLifetime cs := by
  obtain ⟨hdrop, hin⟩ := dropWhile_append_of_mem hcs more (fun c => c.isAlphanum || c == '_') (by decide)
  rw [isLifetime, isLifetime, hdrop, head?_append_of_mem hcs, head?_append_of_mem hin]

theorem lineComment_append_of_mem {cs : List Char} (hcs : '\n' ∈ cs) (more : List Char) :
    lineComment (cs ++ more) = (lineComment cs).followedBy more := by
  rw [lineComment, takeWhile_append_of_mem hcs more _ (by decide),
    (dropWhile_append_of_mem hcs more _ (by decide)).1]
  rfl

theorem blockComment_append_of_mem (cs more : List Char) (h : '\n' ∈ (blockComment cs).rest) :
    blockComment (cs ++ more) = (blockComment cs).followedBy more := by
  have hcut := cutAt_append_of_mem (show '\n' ∉ ['*', '/'] by decide) [] cs more h
  simp only [blockComment, hcut]
  rfl

theorem word_append_of_mem (language : Language) {cs : List Char} (hcs : '\n' ∈ cs)
    (more : List Char) (h : '\n' ∈ (word language cs).rest) :
    word language (cs ++ more) = (word language cs).followedBy more := by
  have hp : isIdentChar '\n' = false := by decide
  obtain ⟨hdrop, hin⟩ := dropWhile_append_of_mem hcs more isIdentChar hp
  simp only [word, takeWhile_append_of_mem hcs more isIdentChar hp, hdrop] at h ⊢
  cases hrest : cs.dropWhile isIdentChar with
  | nil =>
    rw [hrest] at hin
    cases hin
  | cons q rest =>
    rw [hrest] at h
    dsimp only [List.cons_append] at h ⊢
    split
    next hquote =>
      rw [if_pos hquote] at h
      have hq : q ≠ '\n' := by
        rintro rfl
        simp at hquote
      exact quoted_append_of_mem _ hq rest more h
    next => rfl

theorem number_append_of_mem {cs : List Char} (hcs : '\n' ∈ cs) (more : List Char) :
    number (cs ++ more) = (number cs).followedBy more := by
  let p : Char → Bool := fun c => c.isAlphanum || c == '_'
  obtain ⟨hdrop, hin⟩ := dropWhile_append_of_mem hcs more p (by decide)
  simp only [number, takeWhile_append_of_mem hcs more p (by decide), hdrop, p] at hin ⊢
  generalize cs.dropWhile (fun c => c.isAlphanum || c == '_') = rest at hin ⊢
  cases rest with
  | nil => cases hin
  | cons c rest =>
    by_cases hc : c = '.'
    · subst hc
      have hin : '\n' ∈ rest := by simpa using hin
      cases rest with
      | nil => cases hin
      | cons d rest =>
        simp only [List.cons_append]
        rw [← List.cons_append, takeWhile_append_of_mem hin more Char.isAlphanum (by decide),
          (dropWhile_append_of_mem hin more Char.isAlphanum (by decide)).1]
        split <;> rfl
    · simp [hc]
      rfl

theorem mark_append_of_mem {c : Char} {cs : List Char} (hcs : '\n' ∈ cs) (more : List Char) :
    mark c (cs ++ more) = (mark c cs).followedBy more := by
  have hmarks : longMarks.find? (·.isPrefixOf (c :: (cs ++ more))) =
      longMarks.find? (·.isPrefixOf (c :: cs)) := by
    have hnot : ∀ m ∈ longMarks, '\n' ∉ m := by decide
    rw [← List.head?_filter, ← List.head?_filter]
    congr 1
    apply List.filter_congr
    intro m hm
    exact isPrefixOf_append_of_mem (List.mem_cons_of_mem c hcs) more (hnot m hm)
  simp only [mark, hmarks]
  split
  next m hm =>
    have hprefix : m.isPrefixOf (c :: cs) = true := by simpa using List.find?_some hm
    have hlength := (List.isPrefixOf_iff_prefix.mp hprefix).length_le
    rw [← List.cons_append, List.drop_append_of_le_length hlength]
    rfl
  next => rfl

theorem lexeme_append_of_mem (language : Language) (c : Char) (cs more : List Char)
    (h : '\n' ∈ (lexeme language c cs).rest) :
    lexeme language c (cs ++ more) = (lexeme language c cs).followedBy more := by
  by_cases hc : c = '\n'
  · subst hc
    rfl
  have hall : '\n' ∈ c :: cs := by
    rw [← (lexeme_cuts language c cs).1]
    exact List.mem_append_right _ h
  have hcs : '\n' ∈ cs := (List.mem_cons.mp hall).resolve_left (Ne.symm hc)
  simp only [lexeme, if_neg hc, head?_append_of_mem hcs more] at h ⊢
  by_cases hgap : gapChars.contains c = true
  · simp only [if_pos hgap]
    rfl
  by_cases hline : c = '/' ∧ cs.head? = some '/'
  · simp only [if_neg hgap, if_pos hline]
    exact lineComment_append_of_mem hall more
  by_cases hblock : c = '/' ∧ cs.head? = some '*'
  · simp only [if_neg hgap, if_neg hline, if_pos hblock] at h ⊢
    rw [List.tail_append_of_ne_nil (List.ne_nil_of_mem hcs)]
    exact blockComment_append_of_mem cs.tail more h
  by_cases hhash : c = '#' ∧ language.hashComments = true
  · simp only [if_neg hgap, if_neg hline, if_neg hblock, if_pos hhash]
    exact lineComment_append_of_mem hall more
  simp only [if_neg hgap, if_neg hline, if_neg hblock, if_neg hhash] at h ⊢
  have hraw : (if language = .rust then rawLiteral? (c :: (cs ++ more)) else none) =
      (if language = .rust then rawLiteral? (c :: cs) else none).map (·.followedBy more) := by
    by_cases hrust : language = .rust
    · simp only [if_pos hrust] at h ⊢
      apply rawLiteral?_append_of_mem hall more
      intro x hx
      simpa only [hx] using h
    · simp only [if_neg hrust, Option.map_none]
  rw [hraw]
  cases hx : (if language = .rust then rawLiteral? (c :: cs) else none) with
  | some x => rfl
  | none =>
    simp only [hx, Option.map_none, isLifetime_append_of_mem hcs more] at h ⊢
    by_cases hquote : c = '"' ∨ c = '`'
    · simp only [if_pos hquote] at h ⊢
      exact quoted_append_of_mem [] hc cs more h
    by_cases hsingle : c = '\''
    · simp only [if_neg hquote, if_pos hsingle] at h ⊢
      by_cases hlifetime : (language.hasLifetimes && isLifetime cs) = true
      · simp only [if_pos hlifetime]
        rfl
      · simp only [if_neg hlifetime] at h ⊢
        exact quoted_append_of_mem [] hc cs more h
    by_cases hident : isIdentStart c = true
    · simp only [if_neg hquote, if_neg hsingle, if_pos hident] at h ⊢
      exact word_append_of_mem language hall more h
    by_cases hdigit : c.isDigit = true
    · simp only [if_neg hquote, if_neg hsingle, if_neg hident, if_pos hdigit]
      exact number_append_of_mem hall more
    · simp only [if_neg hquote, if_neg hsingle, if_neg hident, if_neg hdigit]
      exact mark_append_of_mem hcs more

theorem tokens_append_of_ends (language : Language) (p : Position) (atBreak : Bool)
    (line cs more : List Char) (hcs : cs = line ++ ['\n'])
    (h : ∃ t, (tokens language p atBreak cs).getLast? = some t ∧
      t.span.start = p.offset + utf8Length line) :
    tokens language p atBreak (cs ++ more) =
      tokens language p atBreak cs ++ tokens language (p.advance cs) true more := by
  fun_induction tokens language p atBreak cs generalizing line with
  | case1 => simp at hcs
  | case2 p atBreak c cs x _ ih =>
    obtain ⟨t, hlast, hstart⟩ := h
    obtain ⟨hcut, htaken⟩ : x.taken ++ x.rest = c :: cs ∧ x.taken ≠ [] := lexeme_cuts language c cs
    by_cases hline : line = []
    · -- the line break is all there is
      obtain ⟨rfl, rfl⟩ : c = '\n' ∧ cs = [] := by simpa [hline] using hcs
      have hrest : x.rest = [] := rfl
      rw [List.cons_append, tokens, hrest, tokens, List.append_nil]
      rfl
    -- the first piece starts too early to be the last token
    have hlater : t ∉ x.tokens p atBreak := by
      intro ht
      obtain ⟨kind, rfl⟩ := mem_tokens_lexeme ht
      have hstart : p.offset = p.offset + utf8Length line := hstart
      have := utf8Length_pos hline
      omega
    have hlast : (tokens language (p.advance x.taken) (x.breaks atBreak) x.rest).getLast? = some t := by
      rw [List.getLast?_append] at hlast
      obtain hlast | ⟨-, hfirst⟩ := Option.or_eq_some_iff.mp hlast
      · exact hlast
      · exact absurd (List.mem_of_getLast? hfirst) hlater
    have hne : x.rest ≠ [] := by
      intro hnil
      rw [hnil, tokens] at hlast
      cases hlast
    obtain ⟨line', hrest, rfl⟩ : ∃ line', x.rest = line' ++ ['\n'] ∧ line = x.taken ++ line' := by
      obtain ⟨line', d, hrest⟩ := (List.eq_nil_or_concat _).resolve_left hne
      rw [List.concat_eq_append] at hrest
      rw [hcs, hrest, ← List.append_assoc] at hcut
      obtain ⟨rfl, hd⟩ := List.append_inj' hcut rfl
      exact ⟨line', by rw [hrest, hd], rfl⟩
    have hmore : lexeme language c (cs ++ more) = x.followedBy more :=
      lexeme_append_of_mem language c cs more (show '\n' ∈ x.rest by simp [hrest])
    have hih := ih line' hrest ⟨t, hlast, by
      rw [hstart, Position.offset_advance, utf8Length_append]
      omega⟩
    rw [List.cons_append, tokens, hmore, ← hcut, Position.advance_append, List.append_assoc, ← hih]
    rfl

end Lexer

/-! ### Moving a text -/

def Position.shift (bytes lines : Nat) (p : Position) : Position :=
  ⟨p.offset + bytes, p.line + lines, p.column⟩

def Token.shift (bytes lines : Nat) (t : Token) : Token :=
  { t with span := ⟨t.span.start + bytes, t.span.stop + bytes⟩, line := t.line + lines }

theorem Position.advance_shift (bytes lines : Nat) (p : Position) (cs : List Char) :
    (p.shift bytes lines).advance cs = (p.advance cs).shift bytes lines := by
  induction cs generalizing p with
  | nil => rfl
  | cons c cs ih =>
    have hnext : (p.shift bytes lines).next c = (p.next c).shift bytes lines := by
      unfold next shift
      split <;> simp only [mk.injEq, and_true] <;> omega
    rw [advance_cons, advance_cons, hnext, ih]

theorem Position.advance_line (cs : List Char) :
    start.advance (cs ++ ['\n']) = start.shift (utf8Length cs + 1) (cs.count '\n' + 1) := by
  have hoffset := offset_advance start cs
  have hline := line_advance start cs
  rw [advance_append, advance_cons, advance_nil, next, if_pos rfl, hoffset, hline]
  simp only [start, shift, mk.injEq, and_true]
  omega

namespace Lexer

theorem tokens_shift (language : Language) (bytes lines : Nat) (p : Position) (atBreak : Bool)
    (cs : List Char) : tokens language (p.shift bytes lines) atBreak cs =
      (tokens language p atBreak cs).map (·.shift bytes lines) := by
  fun_induction tokens language p atBreak cs with
  | case1 => simp [tokens]
  | case2 p atBreak c cs x _ ih =>
    have hfirst : x.tokens (p.shift bytes lines) atBreak =
        (x.tokens p atBreak).map (·.shift bytes lines) := by
      have hof (kind : TokenKind) : tokenOf (p.shift bytes lines) kind x =
          (tokenOf p kind x).shift bytes lines := by
        rw [tokenOf, Position.advance_shift]
        rfl
      unfold Lexeme.tokens
      split
      next => rfl
      next => split <;> simp [hof]
      next => simp [hof]
    rw [tokens, List.map_append, ← hfirst, ← ih, ← Position.advance_shift]

end Lexer

/-- A text can be cut behind a line break that is a token of its own: the two parts are lexed apart, and
the second is moved to its place. -/
theorem tokenize_append_line (language : Language) (line more : String)
    (h : ∃ t, (tokenize language (line ++ "\n")).back? = some t ∧ t.kind = .newline ∧
      t.span = ⟨line.utf8ByteSize, line.utf8ByteSize + 1⟩) :
    tokenize language (line ++ "\n" ++ more) =
      tokenize language (line ++ "\n") ++
        (tokenize language more).map
          (·.shift (line.utf8ByteSize + 1) (line.toList.count '\n' + 1)) := by
  obtain ⟨t, hlast, -, hspan⟩ := h
  have htext : (line ++ "\n").toList = line.toList ++ ['\n'] := String.toList_append
  rw [← Array.getLast?_toList, Lexer.toList_tokenize] at hlast
  have hstart : t.span.start = Position.start.offset + utf8Length line.toList := by
    rw [hspan, utf8Length_toList]
    exact (Nat.zero_add _).symm
  have hjoin := Lexer.tokens_append_of_ends language _ true _ _ more.toList htext ⟨t, hlast, hstart⟩
  apply Array.toList_inj.mp
  rw [Array.toList_append, Array.toList_map, Lexer.toList_tokenize, Lexer.toList_tokenize,
    Lexer.toList_tokenize, String.toList_append, hjoin, htext, Position.advance_line,
    Lexer.tokens_shift, utf8Length_toList]

theorem tokenize_append_line_raw_literal :
    (∃ t, (tokenize .rust ("f(r#\"é\n\"b\"#, &'a" ++ "\n")).back? = some t ∧ t.kind = .newline ∧
      t.span = ⟨17, 18⟩) ∧
    tokenize .rust ("f(r#\"é\n\"b\"#, &'a" ++ "\n" ++ "' \"# x") =
      tokenize .rust ("f(r#\"é\n\"b\"#, &'a" ++ "\n") ++
        (tokenize .rust "' \"# x").map (·.shift 18 2) := by
  have hlast : (tokenize .rust ("f(r#\"é\n\"b\"#, &'a" ++ "\n")).back? =
      some ⟨.newline, "\n", ⟨17, 18⟩, 2, 10⟩ := by decide +kernel
  exact ⟨⟨_, hlast, rfl, rfl⟩, tokenize_append_line .rust _ _ ⟨_, hlast, rfl, rfl⟩⟩

end SourceAudit
