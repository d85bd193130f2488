import SourceAudit.Proofs.Joining
import SourceAudit.Proofs.LineColumn
import SourceAudit.Proofs.Tiling

/-! Line endings. A text whose line breaks are each preceded by a carriage return gives the same tokens in
the same lines and columns, as long as no literal reaches a line break. The two texts are lexed side by side:
what is cut off the front of the one is cut off the front of the other, with the carriage returns added. -/
namespace SourceAudit

def crlf (cs : List Char) : List Char := cs.flatMap fun c => if c = '\n' then ['\r', '\n'] else [c]

@[simp] theorem crlf_nil : crlf [] = [] := rfl

@[simp] theorem crlf_break (cs : List Char) : crlf ('\n' :: cs) = '\r' :: '\n' :: crlf cs := rfl

theorem crlf_cons {c : Char} (hc : c ≠ '\n') (cs : List Char) : crlf (c :: cs) = c :: crlf cs := by
  simp [crlf, hc]

theorem crlf_append (xs ys : List Char) : crlf (xs ++ ys) = crlf xs ++ crlf ys := List.flatMap_append

theorem crlf_eq_self {cs : List Char} (h : '\n' ∉ cs) : crlf cs = cs := by
  induction cs with
  | nil => rfl
  | cons c cs ih =>
    simp only [List.mem_cons, not_or] at h
    rw [crlf_cons (Ne.symm h.1), ih h.2]

theorem Position.advance_crlf {p p' : Position} (hline : p'.line = p.line) (hcolumn : p'.column = p.column)
    (cs : List Char) :
    (p'.advance (crlf cs)).line = (p.advance cs).line ∧
      (p'.advance (crlf cs)).column = (p.advance cs).column := by
  induction cs generalizing p p' with
  | nil => exact ⟨hline, hcolumn⟩
  | cons c cs ih =>
    by_cases hc : c = '\n'
    · subst hc
      exact ih (congrArg (· + 1) hline) rfl
    · rw [crlf_cons hc, advance_cons, advance_cons]
      apply ih
      · simpa [next, hc] using hline
      · simpa [next, hc] using hcolumn

/-! ### Looking ahead -/

theorem takeWhile_crlf {p : Char → Bool} (hbreak : p '\n' = false) (hreturn : p '\r' = false)
    (cs : List Char) : (crlf cs).takeWhile p = cs.takeWhile p := by
  induction cs with
  | nil => rfl
  | cons c cs ih =>
    by_cases hc : c = '\n'
    · subst hc
      simp [hbreak, hreturn]
    · simp [crlf_cons hc, List.takeWhile_cons, ih]

theorem dropWhile_crlf {p : Char → Bool} (hbreak : p '\n' = false) (hreturn : p '\r' = false)
    (cs : List Char) : (crlf cs).dropWhile p = crlf (cs.dropWhile p) := by
  induction cs with
  | nil => rfl
  | cons c cs ih =>
    by_cases hc : c = '\n'
    · subst hc
      simp [hbreak, hreturn]
    · by_cases hp : p c = true
      · simp [crlf_cons hc, hp, ih]
      · simp [crlf_cons hc, hp]

theorem head?_crlf_eq_some_iff {d : Char} (hbreak : d ≠ '\n') (hreturn : d ≠ '\r') (cs : List Char) :
    (crlf cs).head? = some d ↔ cs.head? = some d := by
  cases cs with
  | nil => rfl
  | cons c cs =>
    by_cases hc : c = '\n'
    · subst hc
      simp [hbreak.symm, hreturn.symm]
    · rw [crlf_cons hc]
      rfl

theorem isPrefixOf_crlf {m : List Char} (hbreak : '\n' ∉ m) (hreturn : '\r' ∉ m) (cs : List Char) :
    m.isPrefixOf (crlf cs) = m.isPrefixOf cs := by
  induction m generalizing cs with
  | nil => rfl
  | cons d m ih =>
    simp only [List.mem_cons, not_or] at hbreak hreturn
    cases cs with
    | nil => rfl
    | cons c cs =>
      by_cases hc : c = '\n'
      · subst hc
        simp [List.isPrefixOf, beq_false_of_ne (Ne.symm hbreak.1), beq_false_of_ne (Ne.symm hreturn.1)]
      · rw [crlf_cons hc, List.isPrefixOf, List.isPrefixOf, ih hbreak.2 hreturn.2]

theorem drop_crlf {m cs : List Char} (hbreak : '\n' ∉ m) (h : m.isPrefixOf cs = true) :
    (crlf cs).drop m.length = crlf (cs.drop m.length) := by
  obtain ⟨after, rfl⟩ := List.isPrefixOf_iff_prefix.mp h
  rw [crlf_append, crlf_eq_self hbreak, List.drop_left, List.drop_left]

structure Lexeme.Agrees (x' x : Lexeme) : Prop where
  kind : x'.kind = x.kind
  body : x'.body = x.body
  rest : x'.rest = crlf x.rest

theorem Lexeme.Agrees.taken {x x' : Lexeme} {cs : List Char} (h : x'.Agrees x)
    (hcut' : x'.taken ++ x'.rest = crlf cs) (hcut : x.taken ++ x.rest = cs) : x'.taken = crlf x.taken := by
  rw [← hcut, crlf_append, h.rest] at hcut'
  exact List.append_cancel_right hcut'

def quoteChars : List Char := ['"', '\'', '`']

def Lexeme.IsBrokenOff (x : Lexeme) : Prop :=
  ∃ letters quote after, x.taken = letters ++ quote :: x.body ∧ x.rest = '\n' :: after ∧
    quote ∈ quoteChars ∧ ∀ c ∈ letters, c ∉ quoteChars

def Lexeme.IsOnOneLine (x : Lexeme) : Prop :=
  (∃ interpolated, x.kind = some (.literal interpolated)) → '\n' ∉ x.body ∧ ¬x.IsBrokenOff

namespace Lexer

/-! ### Literals -/

theorem reverse_prefix_closeLiteral (q : Quoting) (seen cs : List Char) :
    seen.reverse <+: (closeLiteral q seen cs).1 := by
  fun_induction closeLiteral q seen cs with
  | case1 => exact List.prefix_refl _
  | case2 => simp
  | case3 _ _ _ _ _ ih => exact List.IsPrefix.trans (by simp) ih
  | case4 => exact List.prefix_refl _
  | case5 => exact List.prefix_refl _
  | case6 _ _ _ _ _ _ ih => exact List.IsPrefix.trans (by simp) ih

theorem closeLiteral_open {q : Quoting} (seen cs : List Char) (h : (closeLiteral q seen cs).2.1 = []) :
    (closeLiteral q seen cs).2.2 = [] ∨
      q.spansLines = false ∧ ∃ after, (closeLiteral q seen cs).2.2 = '\n' :: after := by
  fun_induction closeLiteral q seen cs with
  | case1 => exact .inl rfl
  | case2 => exact .inl rfl
  | case3 _ _ _ _ _ ih => exact ih h
  | case4 _ _ cs _ hbreak => exact .inr ⟨hbreak.2, cs, by rw [hbreak.1]⟩
  | case5 =>
    unfold Quoting.mark at h
    split at h <;> cases h
  | case6 _ _ _ _ _ _ ih => exact ih h

theorem closeLiteral_crlf {q : Quoting} (hbreak : q.quote ≠ '\n') (hreturn : q.quote ≠ '\r')
    (seen cs : List Char) (hbody : '\n' ∉ (closeLiteral q seen cs).1)
    (hend : (closeLiteral q seen cs).2.1 = [] → (closeLiteral q seen cs).2.2 = []) :
    closeLiteral q seen (crlf cs) = ((closeLiteral q seen cs).1, (closeLiteral q seen cs).2.1,
      crlf (closeLiteral q seen cs).2.2) := by
  have hmark {c : Char} (hc : q.quote ≠ c) : c ∉ q.mark := by
    unfold Quoting.mark
    split <;> simp [hc.symm]
  -- every character that the literal passes is one of its body
  have hpassed {c : Char} {seen cs : List Char} (h : '\n' ∉ (closeLiteral q seen cs).1) (hc : c ∈ seen) :
      c ≠ '\n' := by
    rintro rfl
    exact h ((reverse_prefix_closeLiteral q seen cs).subset (List.mem_reverse.mpr hc))
  fun_induction closeLiteral q seen cs with
  | case1 => rfl
  | case2 seen c hescape =>
    obtain ⟨rfl, hraw⟩ := hescape
    rw [crlf_cons (by decide), crlf_nil, closeLiteral, if_pos ⟨rfl, hraw⟩]
  | case3 seen c hescape d ds ih =>
    have hd : d ≠ '\n' := hpassed hbody List.mem_cons_self
    obtain ⟨rfl, hraw⟩ := hescape
    rw [crlf_cons (by decide), crlf_cons hd, closeLiteral, if_pos ⟨rfl, hraw⟩]
    exact ih hbody hend
  | case4 => cases hend rfl
  | case5 seen c cs hescape hline hclose =>
    have hc : c ≠ '\n' := by
      rintro rfl
      have := hmark hbreak
      unfold Quoting.mark at hclose this
      split at hclose <;> simp_all [List.isPrefixOf]
    rw [crlf_cons hc, closeLiteral_cons hescape, if_neg hline, ← crlf_cons hc,
      isPrefixOf_crlf (hmark hbreak) (hmark hreturn), if_pos hclose, drop_crlf (hmark hbreak) hclose]
  | case6 seen c cs hescape hline hclose ih =>
    have hc : c ≠ '\n' := hpassed hbody List.mem_cons_self
    rw [crlf_cons hc, closeLiteral_cons hescape, if_neg hline, ← crlf_cons hc,
      isPrefixOf_crlf (hmark hbreak) (hmark hreturn), if_neg hclose]
    exact ih hbody hend

theorem quoted_crlf {letters : List Char} {c : Char} (hc : c ∈ quoteChars)
    (hletters : ∀ d ∈ letters, d ∉ quoteChars) (cs : List Char) (hbody : '\n' ∉ (quoted letters c cs).body)
    (hwhole : ¬(quoted letters c cs).IsBrokenOff) :
    (quoted letters c (crlf cs)).Agrees (quoted letters c cs) := by
  have hbreak : c ≠ '\n' := by
    rintro rfl
    simp [quoteChars] at hc
  have hreturn : c ≠ '\r' := by
    rintro rfl
    simp [quoteChars] at hc
  let triple := c != '`' && [c, c].isPrefixOf cs
  let q : Quoting := ⟨c, triple, (String.ofList letters).toLower.toList.contains 'r' || c == '`'⟩
  let opened := if triple then cs.drop 2 else cs
  have hpair : [c, c].isPrefixOf (crlf cs) = [c, c].isPrefixOf cs :=
    isPrefixOf_crlf (by simp [hbreak.symm]) (by simp [hreturn.symm]) cs
  have hopened : (if triple then (crlf cs).drop 2 else crlf cs) = crlf opened := by
    by_cases htriple : triple = true
    · simp only [opened, if_pos htriple]
      exact drop_crlf (m := [c, c]) (by simp [hbreak.symm]) (Bool.and_eq_true_iff.mp htriple).2
    · simp only [opened, if_neg htriple]
  have hend : (closeLiteral q [] opened).2.1 = [] → (closeLiteral q [] opened).2.2 = [] := by
    intro hmark
    obtain hrest | ⟨hspans, after, hrest⟩ := closeLiteral_open [] opened hmark
    · exact hrest
    · have hsingle : q.mark = [c] := by
        have : q.triple = false := (Bool.or_eq_false_iff.mp hspans).1
        rw [Quoting.mark, this]
        rfl
      refine absurd ⟨letters, c, after, ?_, hrest, hc, hletters⟩ hwhole
      change letters ++ q.mark ++ (closeLiteral q [] opened).1 ++ (closeLiteral q [] opened).2.1 = _
      rw [hmark, hsingle, List.append_nil, List.append_assoc]
      rfl
  have hclose := closeLiteral_crlf (q := q) hbreak hreturn [] opened hbody hend
  simp only [quoted, hpair]
  simp only [triple] at hopened
  simp only [hopened]
  simp only [q, triple] at hclose
  simp only [hclose]
  exact ⟨rfl, rfl, rfl⟩

theorem cutAt_crlf (closer : List Char) (hne : closer ≠ []) (hbreak : '\n' ∉ closer)
    (hreturn : '\r' ∉ closer) (seen seen' cs : List Char) :
    ∃ part, (cutAt closer seen cs).1 = seen.reverse ++ part ∧
      cutAt closer seen' (crlf cs) = (seen'.reverse ++ crlf part, (cutAt closer seen cs).2.1,
        crlf (cutAt closer seen cs).2.2) := by
  fun_induction cutAt closer seen cs generalizing seen' with
  | case1 seen => exact ⟨[], by simp, by simp [cutAt]⟩
  | case2 seen c cs hclose =>
    obtain ⟨d, ds, hcons⟩ : ∃ d ds, crlf (c :: cs) = d :: ds := by
      by_cases hc : c = '\n'
      · exact ⟨'\r', '\n' :: crlf cs, by rw [hc, crlf_break]⟩
      · exact ⟨c, crlf cs, crlf_cons hc cs⟩
    refine ⟨[], by simp, ?_⟩
    rw [hcons, cutAt, ← hcons, isPrefixOf_crlf hbreak hreturn, if_pos hclose, drop_crlf hbreak hclose]
    simp
  | case3 seen c cs hclose ih =>
    by_cases hc : c = '\n'
    · -- neither the carriage return nor the line break starts a closer
      subst hc
      obtain ⟨part, hpart, hcut⟩ := ih ('\n' :: '\r' :: seen')
      have hstart {d : Char} (hd : d ∉ closer) (ds : List Char) : closer.isPrefixOf (d :: ds) = false := by
        obtain ⟨e, es, rfl⟩ := List.exists_cons_of_ne_nil hne
        simp only [List.mem_cons, not_or] at hd
        simp [List.isPrefixOf, beq_false_of_ne (Ne.symm hd.1)]
      refine ⟨'\n' :: part, by simpa using hpart, ?_⟩
      rw [crlf_break, cutAt, hstart hreturn, if_neg Bool.false_ne_true, cutAt, hstart hbreak,
        if_neg Bool.false_ne_true, hcut]
      simp
    · obtain ⟨part, hpart, hcut⟩ := ih (c :: seen')
      refine ⟨c :: part, by simpa using hpart, ?_⟩
      rw [crlf_cons hc, cutAt, ← crlf_cons hc, isPrefixOf_crlf hbreak hreturn, if_neg hclose, hcut,
        crlf_cons hc]
      simp

theorem rawOpening?_crlf (cs : List Char) :
    rawOpening? (crlf cs) =
      (rawOpening? cs).map fun (opening, hashes, body) => (opening, hashes, crlf body) := by
  have hprefix {m cs : List Char} (hm : m <+: cs) (hbreak : '\n' ∉ m) :
      (crlf cs).drop m.length = crlf (cs.drop m.length) :=
    drop_crlf hbreak (List.isPrefixOf_iff_prefix.mpr hm)
  have hbyte : '\n' ∉ (cs.takeWhile (· == 'b')).take 1 := fun h =>
    not_mem_takeWhile (by decide) (List.mem_of_mem_take h)
  simp only [rawOpening?, takeWhile_crlf (p := (· == 'b')) (by decide) (by decide),
    hprefix ((List.take_prefix _ _).trans (List.takeWhile_prefix _)) hbyte]
  cases cs.drop ((cs.takeWhile (· == 'b')).take 1).length with
  | nil => rfl
  | cons r rest =>
    by_cases hr : r = 'r'
    · subst hr
      simp only [crlf_cons (show 'r' ≠ '\n' by decide),
        takeWhile_crlf (p := (· == '#')) (by decide) (by decide),
        hprefix (List.takeWhile_prefix (· == '#')) (not_mem_takeWhile (by decide))]
      cases rest.drop (rest.takeWhile (· == '#')).length with
      | nil => rfl
      | cons quote body =>
        by_cases hquote : quote = '"'
        · subst hquote
          rfl
        · by_cases hline : quote = '\n'
          · subst hline
            rfl
          · simp [crlf_cons hline, hquote]
    · by_cases hline : r = '\n'
      · subst hline
        rfl
      · simp [crlf_cons hline, hr]

theorem rawLiteral?_crlf (cs : List Char) (hbody : ∀ x, rawLiteral? cs = some x → '\n' ∉ x.body) :
    Option.Rel Lexeme.Agrees (rawLiteral? (crlf cs)) (rawLiteral? cs) := by
  rw [rawLiteral?, rawOpening?_crlf]
  cases hopening : rawOpening? cs with
  | none =>
    rw [rawLiteral?, hopening]
    exact .none
  | some parts =>
    obtain ⟨opening, hashes, body⟩ := parts
    obtain ⟨part, hpart, hcut⟩ := cutAt_crlf ('"' :: List.replicate hashes '#') (by simp) (by simp) (by simp)
      [] [] body
    have hline : '\n' ∉ (cutAt ('"' :: List.replicate hashes '#') [] body).1 :=
      hbody _ (by rw [rawLiteral?, hopening]; rfl)
    rw [hpart, List.reverse_nil, List.nil_append] at hline
    rw [rawLiteral?, hopening]
    refine .some ⟨rfl, ?_, ?_⟩
    · simp only [hcut, hpart, crlf_eq_self hline]
    · simp only [hcut]

theorem blockComment_crlf (cs : List Char) : (blockComment (crlf cs)).Agrees (blockComment cs) := by
  obtain ⟨part, -, hcut⟩ := cutAt_crlf ['*', '/'] (by simp) (by simp) (by simp) [] [] cs
  exact ⟨rfl, rfl, by simp only [blockComment, hcut, trivia]⟩

/-! ### Words, numbers and marks -/

theorem isLifetime_crlf (cs : List Char) : isLifetime (crlf cs) = isLifetime cs := by
  have hstart : (crlf cs).head?.any isNameStart = cs.head?.any isNameStart := by
    cases cs with
    | nil => rfl
    | cons c cs =>
      by_cases hc : c = '\n'
      · subst hc
        rfl
      · rw [crlf_cons hc]
        rfl
  have hend := head?_crlf_eq_some_iff (d := '\'') (by decide) (by decide)
    (cs.dropWhile fun c => c.isAlphanum || c == '_')
  rw [← dropWhile_crlf (by decide) (by decide)] at hend
  rw [isLifetime, isLifetime, hstart]
  congr 1
  rw [Bool.eq_iff_iff, bne_iff_ne, bne_iff_ne]
  exact not_congr hend

theorem word_crlf (language : Language) (cs : List Char) (hx : (word language cs).IsOnOneLine) :
    (word language (crlf cs)).Agrees (word language cs) := by
  have hname : ∀ c ∈ cs.takeWhile isIdentChar, c ∉ quoteChars := by
    intro c hc hquote
    have hident := List.all_eq_true.mp List.all_takeWhile c hc
    simp only [quoteChars, List.mem_cons, List.not_mem_nil, or_false] at hquote
    obtain rfl | rfl | rfl := hquote <;> revert hident <;> decide
  simp only [word, takeWhile_crlf (p := isIdentChar) (by decide) (by decide),
    dropWhile_crlf (p := isIdentChar) (by decide) (by decide)] at hx ⊢
  generalize cs.takeWhile isIdentChar = name at hname hx ⊢
  cases hrest : cs.dropWhile isIdentChar with
  | nil => exact ⟨rfl, rfl, rfl⟩
  | cons q more =>
    by_cases hq : q = '\n'
    · subst hq
      rw [crlf_break]
      simp only [show ('\r' == '"' || '\r' == '\'') = false by decide,
        show ('\n' == '"' || '\n' == '\'') = false by decide, Bool.and_false, Bool.false_eq_true, if_false]
      exact ⟨rfl, rfl, rfl⟩
    · rw [hrest] at hx
      rw [crlf_cons hq]
      dsimp only at hx ⊢
      split
      next hmark =>
        rw [if_pos hmark] at hx
        have hquote : q ∈ quoteChars := by
          simp only [Bool.and_eq_true, Bool.or_eq_true, beq_iff_eq] at hmark
          simp only [quoteChars, List.mem_cons, List.not_mem_nil, or_false]
          tauto
        obtain ⟨hbody, hwhole⟩ := hx ⟨_, rfl⟩
        exact quoted_crlf hquote hname more hbody hwhole
      next => exact ⟨rfl, rfl, (crlf_cons hq more).symm⟩

theorem number_crlf (cs : List Char) : (number (crlf cs)).Agrees (number cs) := by
  simp only [number, takeWhile_crlf (p := fun c => c.isAlphanum || c == '_') (by decide) (by decide),
    dropWhile_crlf (p := fun c => c.isAlphanum || c == '_') (by decide) (by decide)]
  generalize cs.takeWhile (fun c => c.isAlphanum || c == '_') = digits
  cases cs.dropWhile (fun c => c.isAlphanum || c == '_') with
  | nil => exact ⟨rfl, rfl, rfl⟩
  | cons point rest =>
    by_cases hpoint : point = '.'
    · subst hpoint
      cases rest with
      | nil => exact ⟨rfl, rfl, rfl⟩
      | cons d more =>
        by_cases hd : d = '\n'
        · subst hd
          exact ⟨rfl, rfl, rfl⟩
        · have htake := takeWhile_crlf (p := Char.isAlphanum) (by decide) (by decide) (d :: more)
          have hdrop := dropWhile_crlf (p := Char.isAlphanum) (by decide) (by decide) (d :: more)
          rw [crlf_cons hd] at htake hdrop
          rw [crlf_cons (by decide), crlf_cons hd]
          simp only [htake, hdrop]
          split
          · exact ⟨rfl, rfl, rfl⟩
          · exact ⟨rfl, rfl, by rw [plain, plain, crlf_cons (by decide), crlf_cons hd]⟩
    · by_cases hline : point = '\n'
      · subst hline
        exact ⟨rfl, rfl, rfl⟩
      · rw [crlf_cons hline]
        simp only [List.cons.injEq, hpoint, false_and, imp_self, implies_true]
        exact ⟨rfl, rfl, (crlf_cons hline rest).symm⟩

theorem mark_crlf {c : Char} (hc : c ≠ '\n') (cs : List Char) : (mark c (crlf cs)).Agrees (mark c cs) := by
  have hnot : ∀ m ∈ longMarks, '\n' ∉ m ∧ '\r' ∉ m := by decide
  have hmarks : longMarks.find? (·.isPrefixOf (crlf (c :: cs))) = longMarks.find? (·.isPrefixOf (c :: cs)) := by
    rw [← List.head?_filter, ← List.head?_filter]
    congr 1
    apply List.filter_congr
    intro m hm
    exact isPrefixOf_crlf (hnot m hm).1 (hnot m hm).2 (c :: cs)
  rw [crlf_cons hc] at hmarks
  simp only [mark, hmarks]
  split
  next m hm =>
    have hbreak : '\n' ∉ m := (hnot m (List.mem_of_find?_eq_some hm)).1
    have hprefix : m.isPrefixOf (c :: cs) = true := by simpa using List.find?_some hm
    refine ⟨rfl, rfl, ?_⟩
    rw [plain, plain, ← crlf_cons hc]
    exact drop_crlf hbreak hprefix
  next => exact ⟨rfl, rfl, rfl⟩

/-! ### One step -/

def OpensLineComment (language : Language) (c : Char) (cs : List Char) : Prop :=
  c = '/' ∧ cs.head? = some '/' ∨ c = '#' ∧ language.hashComments = true

theorem lexeme_of_opensLineComment {language : Language} {c : Char} {cs : List Char}
    (h : OpensLineComment language c cs) : lexeme language c cs = lineComment (c :: cs) := by
  obtain ⟨rfl, hslash⟩ | ⟨rfl, hhash⟩ := h
  · rw [lexeme, if_neg (by decide), if_neg (by decide), if_pos ⟨rfl, hslash⟩]
  · rw [lexeme, if_neg (by decide), if_neg (by decide), if_neg (by simp), if_neg (by simp), if_pos ⟨rfl, hhash⟩]

theorem lexeme_crlf (language : Language) {c : Char} (hc : c ≠ '\n') (cs : List Char)
    (hcomment : ¬OpensLineComment language c cs) (hx : (lexeme language c cs).IsOnOneLine) :
    (lexeme language c (crlf cs)).Agrees (lexeme language c cs) := by
  have hhead {d : Char} (hd : d ∉ ['\n', '\r']) : (crlf cs).head? = some d ↔ cs.head? = some d := by
    simp only [List.mem_cons, List.not_mem_nil, or_false, not_or] at hd
    exact head?_crlf_eq_some_iff hd.1 hd.2 cs
  obtain ⟨hslash, hhash⟩ := not_or.mp hcomment
  simp only [lexeme, if_neg hc, hhead (d := '/') (by decide), hhead (d := '*') (by decide), if_neg hslash,
    if_neg hhash] at hx ⊢
  by_cases hgap : gapChars.contains c = true
  · simp only [if_pos hgap]
    exact ⟨rfl, rfl, rfl⟩
  by_cases hblock : c = '/' ∧ cs.head? = some '*'
  · obtain ⟨more, rfl⟩ := List.head?_eq_some_iff.mp hblock.2
    simp only [if_neg hgap, if_pos hblock, crlf_cons (show '*' ≠ '\n' by decide), List.tail_cons]
    exact blockComment_crlf more
  simp only [if_neg hgap, if_neg hblock] at hx ⊢
  have hraw : Option.Rel Lexeme.Agrees (if language = .rust then rawLiteral? (c :: crlf cs) else none)
      (if language = .rust then rawLiteral? (c :: cs) else none) := by
    by_cases hrust : language = .rust
    · simp only [if_pos hrust, ← crlf_cons hc] at hx ⊢
      apply rawLiteral?_crlf
      intro x hraw
      rw [hraw] at hx
      obtain ⟨_, -, rfl⟩ := Option.map_eq_some_iff.mp hraw
      exact (hx ⟨false, rfl⟩).1
    · simp only [if_neg hrust]
      exact .none
  revert hx
  generalize (if language = .rust then rawLiteral? (c :: crlf cs) else none) = raw' at hraw
  generalize (if language = .rust then rawLiteral? (c :: cs) else none) = raw at hraw ⊢
  cases hraw with
  | some hagrees => exact fun _ => hagrees
  | none =>
    intro hx
    dsimp only at hx ⊢
    rw [isLifetime_crlf]
    by_cases hquote : c = '"' ∨ c = '`'
    · simp only [if_pos hquote] at hx ⊢
      have hmem : c ∈ quoteChars := by
        simp only [quoteChars, List.mem_cons, List.not_mem_nil, or_false]
        tauto
      obtain ⟨hbody, hwhole⟩ := hx ⟨_, rfl⟩
      exact quoted_crlf hmem (by simp) cs hbody hwhole
    by_cases hsingle : c = '\''
    · simp only [if_neg hquote, if_pos hsingle] at hx ⊢
      by_cases hlifetime : (language.hasLifetimes && isLifetime cs) = true
      · simp only [if_pos hlifetime]
        exact ⟨rfl, rfl, rfl⟩
      · simp only [if_neg hlifetime] at hx ⊢
        obtain ⟨hbody, hwhole⟩ := hx ⟨_, rfl⟩
        exact quoted_crlf (by simp [hsingle, quoteChars]) (by simp) cs hbody hwhole
    by_cases hident : isIdentStart c = true
    · simp only [if_neg hquote, if_neg hsingle, if_pos hident, ← crlf_cons hc] at hx ⊢
      exact word_crlf language (c :: cs) hx
    by_cases hdigit : c.isDigit = true
    · simp only [if_neg hquote, if_neg hsingle, if_neg hident, if_pos hdigit, ← crlf_cons hc]
      exact number_crlf (c :: cs)
    · simp only [if_neg hquote, if_neg hsingle, if_neg hident, if_neg hdigit]
      exact mark_crlf hc cs

end Lexer

/-- The tokens say the same and stand in the same line, at the same column unless they are line breaks. -/
structure Token.Alike (t u : Token) : Prop where
  kind : u.kind = t.kind
  text : u.text = t.text
  line : u.line = t.line
  column : t.kind ≠ .newline → u.column = t.column

theorem Lexeme.alike_tokens {x x' : Lexeme} (hkind : x'.kind = x.kind) (hbody : x'.body = x.body)
    {p p' : Position} (hline : p'.line = p.line) (hcolumn : x.kind ≠ some .newline → p'.column = p.column)
    (atBreak : Bool) : List.Forall₂ Token.Alike (x.tokens p atBreak) (x'.tokens p' atBreak) := by
  have halike {kind : TokenKind} (h : x.kind = some kind) :
      List.Forall₂ Token.Alike [Lexer.tokenOf p kind x] [Lexer.tokenOf p' kind x'] := by
    refine .cons ⟨rfl, congrArg String.ofList hbody, hline, fun hne => hcolumn ?_⟩ .nil
    rw [h]
    exact fun heq => hne (Option.some.inj heq)
  unfold Lexeme.tokens
  rw [hkind]
  split
  next => exact .nil
  next h =>
    split
    · exact .nil
    · exact halike h
  next h => exact halike h

namespace Lexer

theorem tokens_return (language : Language) (p : Position) (atBreak : Bool) (cs : List Char) :
    tokens language p atBreak ('\r' :: cs) = tokens language (p.next '\r') atBreak cs := by
  rw [tokens]
  rfl

/-- A line comment takes in the carriage return before the line break that ends it, and could as well leave
it to the blanks. -/
theorem tokens_lineComment_crlf (language : Language) (p : Position) (atBreak : Bool) (cs : List Char) :
    tokens language (p.advance (lineComment (crlf cs)).taken) atBreak (lineComment (crlf cs)).rest =
      tokens language (p.advance (crlf (lineComment cs).taken)) atBreak (crlf (lineComment cs).rest) := by
  simp only [lineComment, trivia]
  induction cs generalizing p with
  | nil => rfl
  | cons c cs ih =>
    by_cases hc : c = '\n'
    · subst hc
      exact (tokens_return language p atBreak ('\n' :: crlf cs)).symm
    · have hpass : (c != '\n') = true := by simpa using hc
      simp only [crlf_cons hc, List.takeWhile_cons, List.dropWhile_cons, hpass, if_true,
        Position.advance_cons]
      exact ih (p.next c)

theorem tokens_crlf_cons (language : Language) {p p' : Position} (hline : p'.line = p.line)
    (hcolumn : p'.column = p.column) (atBreak : Bool) (c : Char) (cs : List Char)
    (hx : (lexeme language c cs).IsOnOneLine) :
    ∃ first, List.Forall₂ Token.Alike ((lexeme language c cs).tokens p atBreak) first ∧
      tokens language p' atBreak (crlf (c :: cs)) =
        first ++ tokens language (p'.advance (crlf (lexeme language c cs).taken))
          ((lexeme language c cs).breaks atBreak) (crlf (lexeme language c cs).rest) := by
  by_cases hc : c = '\n'
  · -- the line break stands one column further right
    subst hc
    refine ⟨(lexeme language '\n' (crlf cs)).tokens (p'.next '\r') atBreak, ?_, ?_⟩
    · apply Lexeme.alike_tokens (x := lexeme language '\n' cs)
      · rfl
      · rfl
      · exact hline
      · exact fun hne => absurd rfl hne
    · rw [crlf_break, tokens_return, tokens]
      rfl
  rw [crlf_cons hc]
  by_cases hcomment : OpensLineComment language c cs
  · have hcomment' : OpensLineComment language c (crlf cs) :=
      hcomment.imp_left (And.imp_right (head?_crlf_eq_some_iff (by decide) (by decide) cs).mpr)
    refine ⟨[], ?_, ?_⟩
    · rw [lexeme_of_opensLineComment hcomment]
      exact .nil
    · rw [tokens, lexeme_of_opensLineComment hcomment', lexeme_of_opensLineComment hcomment, ← crlf_cons hc]
      exact tokens_lineComment_crlf language p' atBreak (c :: cs)
  · have hagrees := lexeme_crlf language hc cs hcomment hx
    have hcut' := (lexeme_cuts language c (crlf cs)).1
    rw [← crlf_cons hc] at hcut'
    have hbreaks : (lexeme language c (crlf cs)).breaks atBreak = (lexeme language c cs).breaks atBreak := by
      rw [Lexeme.breaks, hagrees.kind]
      rfl
    refine ⟨_, Lexeme.alike_tokens hagrees.kind hagrees.body hline (fun _ => hcolumn) atBreak, ?_⟩
    rw [tokens, hbreaks, hagrees.rest, hagrees.taken hcut' (lexeme_cuts language c cs).1]

end Lexer

/-- The literal is broken off by a line break: its body goes from the only quote under its span up to the
break that follows. -/
def Token.IsBrokenOff (t : Token) (text : List Char) : Prop :=
  ∃ before letters quote after, t.span.Cuts text before (letters ++ quote :: t.text.toList) ('\n' :: after) ∧
    quote ∈ quoteChars ∧ ∀ c ∈ letters, c ∉ quoteChars

theorem Token.IsBrokenOff.getElem?_stop {t : Token} {text : List Char} (h : t.IsBrokenOff text) :
    (utf8Bytes text)[t.span.stop]? = some newlineByte := by
  obtain ⟨before, letters, quote, after, hcuts, -, -⟩ := h
  rw [hcuts.text_eq, hcuts.stop_eq, utf8Bytes_append, ← length_utf8Bytes,
    List.getElem?_append_right (Nat.le_refl _), Nat.sub_self]
  rfl

namespace Lexer

theorem tokens_crlf (language : Language) (p : Position) (atBreak : Bool) (before cs : List Char)
    (hp : p = Position.start.advance before)
    (hliterals : ∀ t ∈ tokens language p atBreak cs, t.isLiteral = true →
      '\n' ∉ t.text.toList ∧ ¬t.IsBrokenOff (before ++ cs))
    {p' : Position} (hline : p'.line = p.line) (hcolumn : p'.column = p.column) :
    List.Forall₂ Token.Alike (tokens language p atBreak cs) (tokens language p' atBreak (crlf cs)) := by
  fun_induction tokens language p atBreak cs generalizing before p' with
  | case1 =>
    rw [crlf_nil, tokens]
    exact .nil
  | case2 p atBreak c cs x _ ih =>
    have hcut := lexeme_cuts language c cs
    have hx : x.IsOnOneLine := by
      rintro ⟨interpolated, hkind⟩
      have hmem : tokenOf p (.literal interpolated) x ∈ x.tokens p atBreak := by
        simp [Lexeme.tokens, hkind]
      obtain ⟨hbody, hwhole⟩ := hliterals _ (List.mem_append_left _ hmem) rfl
      simp only [tokenOf, String.toList_ofList] at hbody
      refine ⟨hbody, ?_⟩
      rintro ⟨letters, quote, after, htaken, hrest, hquote, hletters⟩
      apply hwhole
      have hspan := span_tokenOf (.literal interpolated) x before
      refine ⟨before, letters, quote, after, ⟨?_, ?_, ?_⟩, hquote, hletters⟩
      · rw [tokenOf, String.toList_ofList, ← htaken, ← hrest, List.append_assoc, hcut.1]
      · rw [hp, hspan]
      · rw [hp, hspan, tokenOf, String.toList_ofList, ← htaken]
    obtain ⟨first, halike, htokens⟩ := tokens_crlf_cons language hline hcolumn atBreak c cs hx
    obtain ⟨hline', hcolumn'⟩ := Position.advance_crlf hline hcolumn x.taken
    rw [htokens]
    refine List.rel_append halike (ih (before ++ x.taken) ?_ ?_ hline' hcolumn')
    · rw [hp, Position.advance_append]
    · rw [List.append_assoc, hcut.1]
      exact fun t ht => hliterals t (List.mem_append_right _ ht)

end Lexer

def withReturns (text : String) : String := String.ofList (crlf text.toList)

/-- Carriage returns before the line breaks change no token of a text in which every literal stays in its
line: the tokens have the same kinds, texts and lines in the same order, and the same columns but for the
line breaks. -/
theorem line_endings_insignificant (language : Language) (text : String)
    (hliterals : ∀ t ∈ (tokenize language text).toList, t.isLiteral = true →
      '\n' ∉ t.text.toList ∧ ¬t.IsBrokenOff text.toList) :
    List.Forall₂ Token.Alike (tokenize language text).toList (tokenize language (withReturns text)).toList := by
  rw [Lexer.toList_tokenize] at hliterals ⊢
  rw [Lexer.toList_tokenize, withReturns, String.toList_ofList]
  exact Lexer.tokens_crlf language Position.start true [] text.toList rfl hliterals rfl rfl

theorem line_endings_insignificant_comments :
    let text := "'a b\"\\\"\" // é\n\n/*\n*/ x"
    (∀ t ∈ (tokenize .rust text).toList, t.isLiteral = true →
      '\n' ∉ t.text.toList ∧ ¬t.IsBrokenOff text.toList) ∧
    List.Forall₂ Token.Alike (tokenize .rust text).toList (tokenize .rust (withReturns text)).toList := by
  intro text
  have htokens : (tokenize .rust text).toList =
      [⟨.punct, "'", ⟨0, 1⟩, 1, 1⟩, ⟨.ident, "a", ⟨1, 2⟩, 1, 2⟩, ⟨.literal false, "\\\"", ⟨3, 8⟩, 1, 4⟩,
        ⟨.newline, "\n", ⟨14, 15⟩, 1, 14⟩, ⟨.ident, "x", ⟨22, 23⟩, 4, 4⟩] := by decide +kernel
  have hliterals : ∀ t ∈ (tokenize .rust text).toList, t.isLiteral = true →
      '\n' ∉ t.text.toList ∧ ¬t.IsBrokenOff text.toList := by
    have hfollowed : (utf8Bytes text.toList)[8]? = some 32 := by decide +kernel
    rw [htokens]
    simp only [List.forall_mem_cons, List.not_mem_nil, false_implies, implies_true, and_true]
    refine ⟨nofun, nofun, fun _ => ⟨by decide +kernel, fun h => ?_⟩, nofun, nofun⟩
    exact absurd (hfollowed.symm.trans h.getElem?_stop) (by decide)
  exact ⟨hliterals, line_endings_insignificant .rust text hliterals⟩

end SourceAudit
