import SourceAudit.Proofs.Joining

/-! What the lexer makes of text without quotes, comments and line breaks: of words and of the marks of
types, up to a blank. -/
namespace SourceAudit.Lexer

def typeMarks : List Char := [':', '&', ',', ';', '<', '>', '(', ')', '[', ']']

def isTypeChar (c : Char) : Bool := isIdentChar c || c == ' ' || typeMarks.contains c

section UpToBlank

variable {cs : List Char} (tail : List Char)

theorem takeWhile_blank {p : Char → Bool} (hp : p ' ' = false) :
    (cs ++ ' ' :: tail).takeWhile p = cs.takeWhile p := by
  induction cs with
  | nil => simp [hp]
  | cons c cs ih => simp [List.takeWhile_cons, ih]

theorem dropWhile_blank {p : Char → Bool} (hp : p ' ' = false) :
    (cs ++ ' ' :: tail).dropWhile p = cs.dropWhile p ++ ' ' :: tail := by
  induction cs with
  | nil => simp [hp]
  | cons c cs ih =>
    rw [List.cons_append, List.dropWhile_cons, List.dropWhile_cons, ih]
    split <;> rfl

variable (hcs : ∀ c ∈ cs, isTypeChar c = true)

include hcs in
theorem ne_cons_of_not_isTypeChar {c : Char} (hc : isTypeChar c = false) (hblank : c ≠ ' ')
    {ds : List Char} (hds : ds ⊆ cs) (rest : List Char) : ds ++ ' ' :: tail ≠ c :: rest := by
  intro h
  cases ds with
  | nil => exact hblank (List.cons.inj h).1.symm
  | cons d ds =>
    have hd := hcs d (hds List.mem_cons_self)
    rw [(List.cons.inj h).1, hc] at hd
    cases hd

include hcs in
theorem rawLiteral?_blank : rawLiteral? (cs ++ ' ' :: tail) = none := by
  rw [rawLiteral?, Option.map_eq_none_iff]
  unfold rawOpening?
  rw [takeWhile_blank tail rfl]
  have hlength : ((cs.takeWhile (· == 'b')).take 1).length ≤ cs.length :=
    ((List.take_prefix _ _).trans (List.takeWhile_prefix _)).length_le
  dsimp only
  rw [List.drop_append_of_le_length hlength]
  cases hdrop : cs.drop ((cs.takeWhile (· == 'b')).take 1).length with
  | nil => rfl
  | cons r rest =>
    split
    next h =>
      rw [List.cons_append, List.cons.injEq] at h
      obtain ⟨rfl, rfl⟩ := h
      have hrest : rest ⊆ cs := fun c hc => List.mem_of_mem_drop (hdrop ▸ List.mem_cons_of_mem _ hc)
      rw [takeWhile_blank tail rfl, List.drop_append_of_le_length (List.takeWhile_prefix _).length_le]
      split
      next h =>
        exact absurd h (ne_cons_of_not_isTypeChar tail hcs (by decide) (by decide)
          (List.Subset.trans (List.drop_subset _ _) hrest) _)
      next => rfl
    next => rfl

theorem isPrefixOf_blank {m : List Char} (hm : ' ' ∉ m) :
    m.isPrefixOf (cs ++ ' ' :: tail) = m.isPrefixOf cs := by
  induction m generalizing cs with
  | nil => simp
  | cons d m ih =>
    have hd : (d == ' ') = false := by
      simp only [List.mem_cons, not_or] at hm
      simpa using Ne.symm hm.1
    cases cs with
    | nil => simp [List.isPrefixOf, hd]
    | cons c cs =>
      rw [List.cons_append, List.isPrefixOf, List.isPrefixOf, ih fun h => hm (List.mem_cons_of_mem _ h)]

def pairs : List (List Char) := [[':', ':'], ['&', '&'], ['<', '<'], ['>', '>']]

include hcs in
theorem find?_longMarks_blank :
    longMarks.find? (·.isPrefixOf (cs ++ ' ' :: tail)) = pairs.find? (·.isPrefixOf cs) := by
  have hpairs : pairs = longMarks.filter (·.all isTypeChar) := by decide
  have hblank : ∀ m ∈ longMarks, ' ' ∉ m := by decide
  rw [hpairs, List.find?_filter, ← List.head?_filter, ← List.head?_filter]
  congr 1
  apply List.filter_congr
  intro m hm
  rw [isPrefixOf_blank tail (hblank m hm)]
  cases hprefix : m.isPrefixOf cs with
  | false => simp
  | true =>
    -- a prefix has only characters of the text
    have hall : m.all isTypeChar = true := List.all_eq_true.mpr fun c hc =>
      hcs c ((List.isPrefixOf_iff_prefix.mp hprefix).subset hc)
    simp [hall]

include hcs in
theorem word_blank : word .rust (cs ++ ' ' :: tail) =
    plain .ident (cs.takeWhile isIdentChar) (cs.dropWhile isIdentChar ++ ' ' :: tail) := by
  rw [word, takeWhile_blank tail (by decide), dropWhile_blank tail (by decide)]
  split
  next q more h =>
    have hquote {c : Char} (hc : isTypeChar c = false) (hne : c ≠ ' ') : q ≠ c := by
      rintro rfl
      exact ne_cons_of_not_isTypeChar tail hcs hc hne (List.dropWhile_sublist _).subset _ h
    rw [if_neg]
    simp [hquote (c := '"') (by decide) (by decide), hquote (c := '\'') (by decide) (by decide)]
  next => rfl

include hcs in
theorem number_blank : number (cs ++ ' ' :: tail) =
    plain .number (cs.takeWhile fun d => d.isAlphanum || d == '_')
      ((cs.dropWhile fun d => d.isAlphanum || d == '_') ++ ' ' :: tail) := by
  rw [number, takeWhile_blank tail (by decide), dropWhile_blank tail (by decide)]
  split
  next d more h =>
    exact absurd h (ne_cons_of_not_isTypeChar tail hcs (by decide) (by decide)
      (List.dropWhile_sublist _).subset _)
  next => rfl

end UpToBlank

theorem lexeme_blank {c : Char} {cs : List Char} (hcs : ∀ d ∈ c :: cs, isTypeChar d = true)
    (tail : List Char) :
    lexeme .rust c (cs ++ ' ' :: tail) =
      if c = ' ' then trivia [' '] (cs ++ ' ' :: tail)
      else if isIdentStart c then
        plain .ident ((c :: cs).takeWhile isIdentChar) ((c :: cs).dropWhile isIdentChar ++ ' ' :: tail)
      else if c.isDigit then
        plain .number ((c :: cs).takeWhile fun d => d.isAlphanum || d == '_')
          (((c :: cs).dropWhile fun d => d.isAlphanum || d == '_') ++ ' ' :: tail)
      else mark c (cs ++ ' ' :: tail) := by
  have hc : isTypeChar c = true := hcs c List.mem_cons_self
  have hne (d : Char) (hd : isTypeChar d = false) : c ≠ d := by
    rintro rfl
    rw [hc] at hd
    cases hd
  have hgap : gapChars.contains c = decide (c = ' ') := by
    simp [gapChars, hne '\t' (by decide), hne '\r' (by decide), hne '\x0c' (by decide)]
  rw [lexeme, if_neg (hne _ (by decide)), hgap]
  by_cases hblank : c = ' '
  · simp [hblank]
  · rw [if_neg (by simpa using hblank), if_neg hblank, if_neg (fun h => hne '/' (by decide) h.1),
      if_neg (fun h => hne '/' (by decide) h.1), if_neg (fun h => hne '#' (by decide) h.1), if_pos rfl,
      ← List.cons_append, rawLiteral?_blank tail hcs]
    dsimp only
    rw [if_neg (by simp [hne '"' (by decide), hne '\x60' (by decide)]), if_neg (hne _ (by decide))]
    rw [word_blank tail hcs, number_blank tail hcs]

theorem mark_blank {c : Char} {cs : List Char} (hcs : ∀ d ∈ c :: cs, isTypeChar d = true)
    (tail : List Char) :
    mark c (cs ++ ' ' :: tail) =
      if [c, c] ∈ pairs ∧ cs.head? = some c then plain .punct [c, c] (cs.tail ++ ' ' :: tail)
      else plain .punct [c] (cs ++ ' ' :: tail) := by
  rw [mark, ← List.cons_append, find?_longMarks_blank tail hcs]
  cases hfind : pairs.find? (·.isPrefixOf (c :: cs)) with
  | some m =>
    have hpair : ∀ m ∈ pairs, m = [m.headD ' ', m.headD ' '] := by decide
    have hm := List.mem_of_find?_eq_some hfind
    have hprefix := List.find?_some hfind
    obtain ⟨d, rfl⟩ : ∃ d, m = [d, d] := ⟨_, hpair m hm⟩
    obtain ⟨rest, hrest⟩ := List.isPrefixOf_iff_prefix.mp hprefix
    simp only [List.cons_append, List.nil_append, List.cons.injEq] at hrest
    obtain ⟨rfl, rfl⟩ := hrest
    simp [hm]
  | none =>
    dsimp only
    rw [if_neg]
    rintro ⟨hm, hhead⟩
    obtain ⟨ds, rfl⟩ : ∃ ds, cs = c :: ds := List.head?_eq_some_iff.mp hhead
    have hnot := List.find?_eq_none.mp hfind _ hm
    simp at hnot

theorem isIdentChar_of_isIdentStart {c : Char} (h : isIdentStart c = true) : isIdentChar c = true := by
  simp only [isIdentStart, isIdentChar, Char.isAlphanum, Bool.or_eq_true] at h ⊢
  grind

inductive Spells : List Char → List Token → Prop where
  | nil : Spells [] []
  | blank {cs : List Char} {ts : List Token} : Spells cs ts → Spells (' ' :: cs) ts
  | word {t : Token} {name cs : List Char} {ts : List Token} : t.kind = .ident ∨ t.kind = .number →
      (∀ c ∈ name, isIdentChar c = true) → Spells cs ts → Spells (name ++ cs) (t :: ts)
  | mark {t : Token} {c : Char} {cs : List Char} {ts : List Token} : t.kind = .punct →
      t.text = String.ofList [c] → c ∈ typeMarks → ¬([c, c] ∈ pairs ∧ cs.head? = some c) →
      Spells cs ts → Spells (c :: cs) (t :: ts)
  | pair {t : Token} {c : Char} {cs : List Char} {ts : List Token} : t.kind = .punct →
      t.text = String.ofList [c, c] → [c, c] ∈ pairs → Spells cs ts → Spells (c :: c :: cs) (t :: ts)

theorem exists_spells {cs : List Char} (hcs : ∀ c ∈ cs, isTypeChar c = true) (tail : List Char)
    (p : Position) (atBreak : Bool) :
    ∃ ts q b, tokens .rust p atBreak (cs ++ ' ' :: tail) = ts ++ tokens .rust q b (' ' :: tail) ∧
      Spells cs ts := by
  induction hlen : cs.length using Nat.strongRecOn generalizing cs p atBreak with
  | ind len ih =>
    subst hlen
    cases cs with
    | nil => exact ⟨[], p, atBreak, rfl, .nil⟩
    | cons c cs =>
      have hnext {ds : List Char} (hds : ds <:+ cs) (p : Position) (atBreak : Bool) :
          ∃ ts q b, tokens .rust p atBreak (ds ++ ' ' :: tail) = ts ++ tokens .rust q b (' ' :: tail) ∧
            Spells ds ts :=
        ih ds.length (Nat.lt_succ_of_le hds.length_le)
          (fun d hd => hcs d (List.mem_cons_of_mem _ (hds.subset hd))) p atBreak rfl
      have hword {f : Char → Bool} (hf : f c = true) (hident : ∀ d, f d = true → isIdentChar d = true)
          {t : Token} (hkind : t.kind = .ident ∨ t.kind = .number) (p : Position) :
          ∃ ts q b, t :: tokens .rust p false ((c :: cs).dropWhile f ++ ' ' :: tail) =
            ts ++ tokens .rust q b (' ' :: tail) ∧ Spells (c :: cs) ts := by
        have hsplit : (c :: cs).takeWhile f ++ (c :: cs).dropWhile f = c :: cs :=
          List.takeWhile_append_dropWhile
        have hshort : (c :: cs).dropWhile f <:+ cs := by
          rw [List.dropWhile_cons, if_pos hf]
          exact List.dropWhile_suffix f
        obtain ⟨ts, q, b, htokens, hspells⟩ := hnext hshort p false
        refine ⟨t :: ts, q, b, congrArg (t :: ·) htokens, ?_⟩
        rw [← hsplit]
        exact .word hkind (fun d hd => hident d (List.all_eq_true.mp List.all_takeWhile d hd)) hspells
      have hc := hcs c List.mem_cons_self
      rw [List.cons_append, tokens, lexeme_blank hcs tail]
      by_cases hblank : c = ' '
      · subst hblank
        obtain ⟨ts, q, b, htokens, hspells⟩ := hnext (List.suffix_refl cs) (p.advance [' ']) atBreak
        exact ⟨ts, q, b, htokens, .blank hspells⟩
      rw [if_neg hblank]
      by_cases hstart : isIdentStart c = true
      · rw [if_pos hstart]
        exact hword (isIdentChar_of_isIdentStart hstart) (fun _ h => h) (t := tokenOf p .ident _) (.inl rfl) _
      rw [if_neg hstart]
      by_cases hdigit : c.isDigit = true
      · rw [if_pos hdigit]
        refine hword (by simp [Char.isAlphanum, hdigit]) (fun d hd => ?_) (t := tokenOf p .number _)
          (.inr rfl) _
        simp only [Bool.or_eq_true] at hd
        simp only [isIdentChar, Bool.or_eq_true]
        grind
      rw [if_neg hdigit, mark_blank hcs tail]
      have hmark : c ∈ typeMarks := by
        have hident : isIdentChar c = false := by
          simp only [isIdentStart, isIdentChar, Char.isAlphanum, Bool.or_eq_true] at hstart ⊢
          grind
        simpa [isTypeChar, hident, hblank] using hc
      by_cases hpair : [c, c] ∈ pairs ∧ cs.head? = some c
      · rw [if_pos hpair]
        obtain ⟨ds, rfl⟩ := List.head?_eq_some_iff.mp hpair.2
        obtain ⟨ts, q, b, htokens, hspells⟩ := hnext (List.suffix_cons c ds) (p.advance [c, c]) false
        exact ⟨_ :: ts, q, b, congrArg (tokenOf p .punct _ :: ·) htokens, .pair rfl rfl hpair.1 hspells⟩
      · rw [if_neg hpair]
        obtain ⟨ts, q, b, htokens, hspells⟩ := hnext (List.suffix_refl cs) (p.advance [c]) false
        exact ⟨_ :: ts, q, b, congrArg (tokenOf p .punct _ :: ·) htokens, .mark rfl rfl hmark hpair hspells⟩

/-! ### The tokens of a declaration -/

def isName (cs : List Char) : Bool := cs.head?.any isIdentStart && cs.all isIdentChar

theorem tokens_blank (language : Language) (p : Position) (atBreak : Bool) (cs : List Char) :
    tokens language p atBreak (' ' :: cs) = tokens language (p.advance [' ']) atBreak cs := by
  rw [tokens]
  rfl

theorem exists_name {name : List Char} (hname : isName name = true) (after : List Char)
    (hafter : after.head?.any isIdentChar = false) (htype : ∀ c ∈ after, isTypeChar c = true)
    (tail : List Char) (p : Position) (atBreak : Bool) :
    ∃ t q, tokens .rust p atBreak (name ++ (after ++ ' ' :: tail)) =
        t :: tokens .rust q false (after ++ ' ' :: tail) ∧
      t.kind = .ident ∧ t.text = String.ofList name := by
  simp only [isName, Bool.and_eq_true, List.all_eq_true] at hname
  obtain ⟨hstart, hall⟩ := hname
  cases name with
  | nil => cases hstart
  | cons c cs =>
    have hc : isIdentStart c = true := hstart
    have hchars : ∀ d ∈ c :: (cs ++ after), isTypeChar d = true := by
      rw [← List.cons_append]
      intro d hd
      obtain hd | hd := List.mem_append.mp hd
      · simp [isTypeChar, hall d hd]
      · exact htype d hd
    have hblank : c ≠ ' ' := by
      rintro rfl
      revert hc
      decide
    have htake : (c :: (cs ++ after)).takeWhile isIdentChar = c :: cs := by
      rw [← List.cons_append, List.takeWhile_append_of_pos hall]
      cases after with
      | nil => rw [List.takeWhile_nil, List.append_nil]
      | cons d after => rw [List.takeWhile_cons_of_neg (by simpa using hafter), List.append_nil]
    have hdrop : (c :: (cs ++ after)).dropWhile isIdentChar = after := by
      rw [← List.cons_append, List.dropWhile_append_of_pos hall]
      cases after with
      | nil => rfl
      | cons d after => rw [List.dropWhile_cons_of_neg (by simpa using hafter)]
    rw [← List.append_assoc, List.cons_append, List.cons_append, tokens, lexeme_blank hchars,
      if_neg hblank, if_pos hc, htake, hdrop]
    exact ⟨_, _, rfl, rfl, rfl⟩

theorem closeLiteral_plain {body : List Char} (hbody : ∀ c ∈ body, c ∉ ['"', '\\', '\n'])
    (seen rest : List Char) :
    closeLiteral ⟨'"', false, false⟩ seen (body ++ '"' :: rest) = (seen.reverse ++ body, ['"'], rest) := by
  induction body generalizing seen with
  | nil =>
    rw [List.nil_append, closeLiteral_cons (by simp)]
    simp [Quoting.mark]
  | cons c body ih =>
    have hc := hbody c List.mem_cons_self
    simp only [List.mem_cons, List.not_mem_nil, or_false, not_or] at hc
    rw [List.cons_append, closeLiteral_cons (by simp [hc]), if_neg (by simp [hc]),
      if_neg (by simp [Quoting.mark, Ne.symm hc.1]),
      ih fun d hd => hbody d (List.mem_cons_of_mem _ hd)]
    simp

theorem quoted_plain {body : List Char} (hbody : ∀ c ∈ body, c ∉ ['"', '\\', '\n']) (rest : List Char) :
    quoted [] '"' (body ++ '"' :: ';' :: rest) =
      ⟨some (.literal false), body, '"' :: (body ++ ['"']), ';' :: rest⟩ := by
  have htriple : ['"', '"'].isPrefixOf (body ++ '"' :: ';' :: rest) = false := by
    cases body with
    | nil => rfl
    | cons c body =>
      have hc := hbody c List.mem_cons_self
      simp only [List.mem_cons, List.not_mem_nil, or_false, not_or] at hc
      simp [List.isPrefixOf, Ne.symm hc.1]
  have hmarks : (String.ofList []).toLower.toList = [] := by decide +kernel
  simp [quoted, htriple, hmarks, closeLiteral_plain hbody, Quoting.mark]

theorem exists_colon (cs : List Char) (p : Position) (atBreak : Bool) :
    ∃ t q, tokens .rust p atBreak (':' :: ' ' :: cs) = t :: tokens .rust q false cs ∧
      t.kind = .punct ∧ t.text = ":" := by
  have hcolon : lexeme .rust ':' (' ' :: cs) = plain .punct [':'] (' ' :: cs) := rfl
  rw [tokens, hcolon]
  dsimp only [plain]
  rw [tokens_blank]
  exact ⟨_, _, rfl, rfl, rfl⟩

theorem exists_value {body : List Char} (hbody : ∀ c ∈ body, c ∉ ['"', '\\', '\n']) (rest : List Char)
    (p : Position) (atBreak : Bool) :
    ∃ equals literal semicolon more,
      tokens .rust p atBreak (' ' :: '=' :: ' ' :: '"' :: (body ++ '"' :: ';' :: rest)) =
        equals :: literal :: semicolon :: more ∧
      (equals.kind = .punct ∧ equals.text = "=") ∧
      (literal.kind = .literal false ∧ literal.text = String.ofList body) ∧
      (semicolon.kind = .punct ∧ semicolon.text = ";") := by
  have hequals (cs : List Char) : lexeme .rust '=' (' ' :: cs) = plain .punct ['='] (' ' :: cs) := rfl
  have hquote (cs : List Char) : lexeme .rust '"' cs = quoted [] '"' cs := rfl
  have hsemi (cs : List Char) : lexeme .rust ';' cs = plain .punct [';'] cs := rfl
  rw [tokens_blank, tokens, hequals]
  dsimp only [plain]
  rw [tokens_blank, tokens, hquote, quoted_plain hbody, tokens, hsemi]
  exact ⟨_, _, _, _, rfl, ⟨rfl, rfl⟩, ⟨rfl, rfl⟩, rfl, rfl⟩

/-- The tokens of a declaration with a type and a literal for its value, and whatever follows. -/
structure Declaration (type : List Char) where
  word : Token
  name : Token
  colon : Token
  types : List Token
  equals : Token
  literal : Token
  semicolon : Token
  more : List Token
  word_kind : word.kind = .ident
  name_kind : name.kind = .ident
  colon_mark : colon.kind = .punct ∧ colon.text = ":"
  spells : Spells type types
  equals_mark : equals.kind = .punct ∧ equals.text = "="
  literal_kind : literal.kind = .literal false
  semicolon_mark : semicolon.kind = .punct ∧ semicolon.text = ";"

namespace Declaration

variable {type : List Char} (d : Declaration type)

def value : List Token := d.literal :: d.semicolon :: d.more

def behindColon : List Token := d.types ++ d.equals :: d.value

def toList : List Token := d.word :: d.name :: d.colon :: d.behindColon

end Declaration

theorem exists_declaration {word name type body : List Char} (hword : isName word = true)
    (hname : isName name = true) (htype : ∀ c ∈ type, isTypeChar c = true)
    (hbody : ∀ c ∈ body, c ∉ ['"', '\\', '\n']) (rest : List Char) (p : Position) (atBreak : Bool) :
    ∃ d : Declaration type,
      tokens .rust p atBreak (word ++ ' ' :: (name ++ ':' :: ' ' :: (type ++ ' ' :: '=' :: ' ' :: '"' ::
        (body ++ '"' :: ';' :: rest)))) = d.toList ∧
      d.word.text = String.ofList word ∧ d.name.text = String.ofList name ∧
      d.literal.text = String.ofList body := by
  obtain ⟨w, q₁, hw, hwkind, hwtext⟩ := exists_name hword [] rfl (by simp) (name ++ ':' :: ' ' ::
    (type ++ ' ' :: '=' :: ' ' :: '"' :: (body ++ '"' :: ';' :: rest))) p atBreak
  obtain ⟨n, q₂, hn, hnkind, hntext⟩ := exists_name hname [':'] (by decide) (by simp [isTypeChar, typeMarks])
    (type ++ ' ' :: '=' :: ' ' :: '"' :: (body ++ '"' :: ';' :: rest)) (q₁.advance [' ']) false
  obtain ⟨colon, q₃, hcolon, hckind⟩ := exists_colon
    (type ++ ' ' :: '=' :: ' ' :: '"' :: (body ++ '"' :: ';' :: rest)) q₂ false
  obtain ⟨ts, q₄, b, hts, hspells⟩ := exists_spells htype
    ('=' :: ' ' :: '"' :: (body ++ '"' :: ';' :: rest)) q₃ false
  obtain ⟨equals, literal, semicolon, more, hvalue, hequals, ⟨hlkind, hltext⟩, hsemi⟩ :=
    exists_value hbody rest q₄ b
  refine ⟨⟨w, n, colon, ts, equals, literal, semicolon, more, hwkind, hnkind, hckind, hspells, hequals,
    hlkind, hsemi⟩, ?_, hwtext, hntext, hltext⟩
  rw [List.nil_append] at hw
  rw [List.singleton_append] at hn
  rw [hw, tokens_blank, hn, hcolon, hts, hvalue]
  rfl

end SourceAudit.Lexer
