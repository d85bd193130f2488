import SourceAudit.Proofs.Spelling
import SourceAudit.Proofs.Walking

/-! Declarations with a type. The mark that assigns a value stands behind the type, and the search for it
counts the brackets between; a semicolon ends it at any depth, and two angles in a row are one mark that
opens and closes nothing. -/
namespace SourceAudit

/-! ### The depth of brackets -/

namespace TypeText

def stepDepth (depth : Nat) (c : Char) : Nat :=
  if ['<', '(', '['].contains c then depth + 1
  else if ['>', ')', ']'].contains c then depth - 1
  else depth

/-- The depth behind a text when two angles in a row count as nothing. -/
def scanDepth (depth : Nat) : List Char → Nat
  | [] => depth
  | [c] => stepDepth depth c
  | c :: d :: cs =>
    if c = d ∧ (c = '<' ∨ c = '>') then scanDepth depth cs else scanDepth (stepDepth depth c) (d :: cs)

theorem scanDepth_cons {c : Char} {cs : List Char} (h : (c = '<' ∨ c = '>') → cs.head? ≠ some c)
    (depth : Nat) : scanDepth depth (c :: cs) = scanDepth (stepDepth depth c) cs := by
  cases cs with
  | nil => rfl
  | cons d cs =>
    rw [scanDepth, if_neg]
    rintro ⟨rfl, hangle⟩
    exact h hangle rfl

def brackets : List Char := ['<', '(', '[', '>', ')', ']']

theorem not_mem_brackets_of_isIdentChar {c : Char} (hc : Lexer.isIdentChar c = true) : c ∉ brackets := by
  intro hmem
  have hnone : brackets.all (!Lexer.isIdentChar ·) = true := by decide
  have hc' := List.all_eq_true.mp hnone c hmem
  rw [hc] at hc'
  cases hc'

theorem scanDepth_plain {c : Char} (hc : c ∉ brackets) (depth : Nat) (cs : List Char) :
    scanDepth depth (c :: cs) = scanDepth depth cs := by
  simp only [brackets, List.mem_cons, List.not_mem_nil, or_false, not_or] at hc
  rw [scanDepth_cons (by simp [hc])]
  simp [stepDepth, hc]

theorem scanDepth_name {name : List Char} (hname : ∀ c ∈ name, Lexer.isIdentChar c = true)
    (depth : Nat) (cs : List Char) : scanDepth depth (name ++ cs) = scanDepth depth cs := by
  induction name with
  | nil => rfl
  | cons c name ih =>
    rw [List.cons_append, scanDepth_plain (not_mem_brackets_of_isIdentChar (hname c List.mem_cons_self)),
      ih fun d hd => hname d (List.mem_cons_of_mem _ hd)]

theorem scanDepth_pair {c : Char} (hc : [c, c] ∈ Lexer.pairs) (depth : Nat) (cs : List Char) :
    scanDepth depth (c :: c :: cs) = scanDepth depth cs := by
  simp only [Lexer.pairs, List.mem_cons, List.cons.injEq, and_true, and_self, List.not_mem_nil,
    or_false] at hc
  obtain rfl | rfl | rfl | rfl := hc
  · rw [scanDepth_plain (by decide), scanDepth_plain (by decide)]
  · rw [scanDepth_plain (by decide), scanDepth_plain (by decide)]
  · rw [scanDepth, if_pos (by simp)]
  · rw [scanDepth, if_pos (by simp)]

def depthAfter? (depth : Nat) : List Char → Option Nat
  | [] => some depth
  | c :: cs =>
    if ['>', ')', ']'].contains c ∧ depth = 0 then none else depthAfter? (stepDepth depth c) cs

theorem depthAfter?_plain {c : Char} (hc : c ∉ brackets) (depth : Nat) (cs : List Char) :
    depthAfter? depth (c :: cs) = depthAfter? depth cs := by
  simp only [brackets, List.mem_cons, List.not_mem_nil, or_false, not_or] at hc
  simp [depthAfter?, stepDepth, hc]

theorem depthAfter?_group {o c : Char} (hpair : (o, c) ∈ [('<', '>'), ('(', ')'), ('[', ']')])
    {inner : List Char} (hinner : ∀ depth rest, depthAfter? depth (inner ++ rest) = depthAfter? depth rest)
    (depth : Nat) (rest : List Char) :
    depthAfter? depth (o :: (inner ++ c :: rest)) = depthAfter? depth rest := by
  simp only [List.mem_cons, Prod.mk.injEq, List.not_mem_nil, or_false] at hpair
  obtain ⟨rfl, rfl⟩ | ⟨rfl, rfl⟩ | ⟨rfl, rfl⟩ := hpair <;>
  · rw [depthAfter?, if_neg (by simp), hinner, depthAfter?, if_neg (by simp [stepDepth])]
    simp [stepDepth]

theorem of_depthAfter?_cons {c : Char} {cs : List Char} {depth after : Nat}
    (h : depthAfter? depth (c :: cs) = some after) :
    (['>', ')', ']'].contains c = true → 0 < depth) ∧ depthAfter? (stepDepth depth c) cs = some after := by
  rw [depthAfter?] at h
  split at h
  · cases h
  · next hclose =>
    refine ⟨fun hc => ?_, h⟩
    by_contra hzero
    exact hclose ⟨hc, by omega⟩

theorem stepDepth_le_stepDepth {d e : Nat} (hle : d ≤ e) (c : Char) : stepDepth d c ≤ stepDepth e c := by
  unfold stepDepth
  split
  · omega
  · split <;> omega

theorem stepDepth_lt_stepDepth {d e : Nat} (hlt : d < e) {c : Char}
    (hc : ['>', ')', ']'].contains c = true → 0 < d) : stepDepth d c < stepDepth e c := by
  unfold stepDepth
  split
  · omega
  · split
    next hclose =>
      have := hc hclose
      omega
    next => omega

theorem scanDepth_le {cs : List Char} (hcs : ¬['>', '>'] <:+: cs) {depth scanned after : Nat}
    (hle : scanned ≤ depth) (h : depthAfter? depth cs = some after) : scanDepth scanned cs ≤ after := by
  fun_induction scanDepth scanned cs generalizing depth with
  | case1 scanned =>
    cases h
    exact hle
  | case2 scanned c =>
    cases (of_depthAfter?_cons h).2
    exact stepDepth_le_stepDepth hle c
  | case3 scanned c d cs hpair ih =>
    obtain ⟨rfl, rfl | rfl⟩ := hpair
    · -- the two angles open two brackets of which the scan takes no notice
      refine ih (fun hin => hcs ?_) ?_ (of_depthAfter?_cons (of_depthAfter?_cons h).2).2
      · exact hin.trans ⟨['<', '<'], [], by simp⟩
      · change scanned ≤ depth + 1 + 1
        omega
    · exact absurd (List.prefix_append ['>', '>'] cs).isInfix hcs
  | case4 scanned c d cs hpair ih =>
    exact ih (fun hin => hcs (List.infix_cons hin)) (stepDepth_le_stepDepth hle c) (of_depthAfter?_cons h).2

theorem le_scanDepth {cs : List Char} (hcs : ¬['<', '<'] <:+: cs) {depth scanned after : Nat}
    (hle : depth ≤ scanned) (h : depthAfter? depth cs = some after) :
    after ≤ scanDepth scanned cs ∧
      (depth < scanned ∨ ['>', '>'] <:+: cs → after < scanDepth scanned cs) := by
  fun_induction scanDepth scanned cs generalizing depth with
  | case1 scanned =>
    cases h
    exact ⟨hle, by simp⟩
  | case2 scanned c =>
    obtain ⟨hopen, hafter⟩ := of_depthAfter?_cons h
    cases hafter
    refine ⟨stepDepth_le_stepDepth hle c, ?_⟩
    rintro (hlt | hin)
    · exact stepDepth_lt_stepDepth hlt hopen
    · have := hin.length_le
      simp at this
  | case3 scanned c d cs hpair ih =>
    obtain ⟨rfl, rfl | rfl⟩ := hpair
    · exact absurd (List.prefix_append ['<', '<'] cs).isInfix hcs
    · obtain ⟨hopen, hnext⟩ := of_depthAfter?_cons h
      obtain ⟨-, hnext'⟩ := of_depthAfter?_cons hnext
      have hpos : 0 < depth := hopen rfl
      have hlt : depth - 1 - 1 < scanned := by omega
      have hafter := ih (fun hin => hcs (hin.trans ⟨['>', '>'], [], by simp⟩)) (Nat.le_of_lt hlt) hnext'
      have hstrict := hafter.2 (.inl hlt)
      exact ⟨Nat.le_of_lt hstrict, fun _ => hstrict⟩
  | case4 scanned c d cs hpair ih =>
    obtain ⟨hopen, hnext⟩ := of_depthAfter?_cons h
    have hafter := ih (fun hin => hcs (List.infix_cons hin)) (stepDepth_le_stepDepth hle c) hnext
    refine ⟨hafter.1, fun hstrict => hafter.2 ?_⟩
    obtain hlt | hin := hstrict
    · exact .inl (stepDepth_lt_stepDepth hlt hopen)
    · obtain hprefix | hin := List.infix_cons_iff.mp hin
      · obtain ⟨rest, hrest⟩ := hprefix
        simp only [List.cons_append, List.nil_append, List.cons.injEq] at hrest
        exact absurd ⟨hrest.1.symm.trans hrest.2.1, .inr hrest.1.symm⟩ hpair
      · exact .inr hin

end TypeText

namespace Walk

open TypeText

theorem declaredAt?_mark {t : Token} {c : Char} (hkind : t.kind = .punct)
    (htext : t.text = String.ofList [c]) (hc : c ∈ Lexer.typeMarks) (last : Token) (depth passed : Nat)
    (ts : List Token) :
    declaredAt? last depth passed (t :: ts) =
      if c = ';' then none else declaredAt? t (stepDepth depth c) (passed + 1) ts := by
  simp only [Lexer.typeMarks, List.mem_cons, List.not_mem_nil, or_false] at hc
  rw [declaredAt?, hkind]
  dsimp only
  rw [htext]
  obtain rfl | rfl | rfl | rfl | rfl | rfl | rfl | rfl | rfl | rfl := hc <;>
    simp [stepDepth]

theorem declaredAt?_pair {t : Token} {c : Char} (hkind : t.kind = .punct)
    (htext : t.text = String.ofList [c, c]) (hc : [c, c] ∈ Lexer.pairs) (last : Token) (depth passed : Nat)
    (ts : List Token) :
    declaredAt? last depth passed (t :: ts) = declaredAt? t depth (passed + 1) ts := by
  simp only [Lexer.pairs, List.mem_cons, List.cons.injEq, and_true, and_self, List.not_mem_nil,
    or_false] at hc
  rw [declaredAt?, hkind]
  dsimp only
  rw [htext]
  obtain rfl | rfl | rfl | rfl := hc <;> simp

/-- The search for the mark of a declaration passes a type unless a semicolon stands in it, and the
depth it has then is that of the text. -/
theorem declaredAt?_spells {cs : List Char} {ts : List Token} (h : Lexer.Spells cs ts) (rest : List Token)
    (last : Token) (depth passed : Nat) :
    ∃ u, declaredAt? last depth passed (ts ++ rest) =
      if ';' ∈ cs then none else declaredAt? u (scanDepth depth cs) (passed + ts.length) rest := by
  induction h generalizing last depth passed with
  | nil => exact ⟨last, by simp [scanDepth]⟩
  | blank h ih =>
    obtain ⟨u, hu⟩ := ih last depth passed
    refine ⟨u, ?_⟩
    rw [hu, scanDepth_plain (by decide)]
    simp
  | @word t name cs ts hkind hname h ih =>
    obtain ⟨u, hu⟩ := ih t depth (passed + 1)
    have hnot : ';' ∉ name := fun hmem => absurd (hname _ hmem) (by decide)
    have hstep : declaredAt? last depth passed (t :: (ts ++ rest)) =
        declaredAt? t depth (passed + 1) (ts ++ rest) := by
      rw [declaredAt?]
      obtain hkind | hkind := hkind <;> rw [hkind]
    refine ⟨u, ?_⟩
    rw [List.cons_append, hstep, hu, scanDepth_name hname, List.length_cons]
    simp [hnot, Nat.add_comm, Nat.add_left_comm]
  | @mark t c cs ts hkind htext hc hpair h ih =>
    obtain ⟨u, hu⟩ := ih t (stepDepth depth c) (passed + 1)
    refine ⟨u, ?_⟩
    have hangle : c = '<' ∨ c = '>' → cs.head? ≠ some c := by
      rintro hc hhead
      apply hpair
      obtain rfl | rfl := hc <;> exact ⟨by decide, hhead⟩
    rw [List.cons_append, declaredAt?_mark hkind htext hc, hu, scanDepth_cons hangle, List.length_cons]
    by_cases hsemi : c = ';'
    · simp [hsemi]
    · simp [hsemi, Ne.symm hsemi, Nat.add_comm, Nat.add_left_comm]
  | @pair t c cs ts hkind htext hc h ih =>
    obtain ⟨u, hu⟩ := ih t depth (passed + 1)
    refine ⟨u, ?_⟩
    have hne : c ≠ ';' := by
      rintro rfl
      revert hc
      decide
    rw [List.cons_append, declaredAt?_pair hkind htext hc, hu, scanDepth_pair hc, List.length_cons]
    simp [Ne.symm hne, Nat.add_comm, Nat.add_left_comm]

end Walk

/-- The text of a type: words, references, paths, lists and brackets around them, where square brackets
may also hold an element type and a length. -/
inductive IsTypeText : List Char → Prop where
  | nil : IsTypeText []
  | char {c : Char} {rest : List Char} : Lexer.isIdentChar c = true ∨ c ∈ [' ', ',', '&'] →
      IsTypeText rest → IsTypeText (c :: rest)
  | path {rest : List Char} : IsTypeText rest → IsTypeText (':' :: ':' :: rest)
  | group {o c : Char} {inner rest : List Char} : (o, c) ∈ [('<', '>'), ('(', ')'), ('[', ']')] →
      IsTypeText inner → IsTypeText rest → IsTypeText (o :: (inner ++ c :: rest))
  | array {elem length rest : List Char} : IsTypeText elem → IsTypeText length → IsTypeText rest →
      IsTypeText ('[' :: (elem ++ ';' :: (length ++ ']' :: rest)))

namespace IsTypeText

variable {type : List Char}

theorem letter {c : Char} (hc : Lexer.isIdentChar c = true) (h : IsTypeText type) : IsTypeText (c :: type) :=
  .char (.inl hc) h

theorem isTypeChar (h : IsTypeText type) : ∀ c ∈ type, Lexer.isTypeChar c = true := by
  induction h with
  | nil => simp
  | @char c rest hc _ ih =>
    have hc : Lexer.isTypeChar c = true := by
      obtain hc | hc := hc
      · simp [Lexer.isTypeChar, hc]
      · have hall : [' ', ',', '&'].all Lexer.isTypeChar = true := by decide
        exact List.all_eq_true.mp hall c hc
    simpa [hc] using ih
  | path _ ih => simpa [show Lexer.isTypeChar ':' = true by decide] using ih
  | @group o c inner rest hpair _ _ hinner hrest =>
    have hmarks : Lexer.isTypeChar o = true ∧ Lexer.isTypeChar c = true := by
      simp only [List.mem_cons, Prod.mk.injEq, List.not_mem_nil, or_false] at hpair
      obtain ⟨rfl, rfl⟩ | ⟨rfl, rfl⟩ | ⟨rfl, rfl⟩ := hpair <;> decide
    simp only [List.mem_cons, List.mem_append]
    grind
  | array _ _ _ helem hlength hrest =>
    have hmarks : ['[', ';', ']'].all Lexer.isTypeChar = true := by decide
    simp only [List.all_cons, List.all_nil, Bool.and_eq_true] at hmarks
    simp only [List.mem_cons, List.mem_append]
    grind

theorem depthAfter?_append (h : IsTypeText type) (depth : Nat) (rest : List Char) :
    TypeText.depthAfter? depth (type ++ rest) = TypeText.depthAfter? depth rest := by
  induction h generalizing depth rest with
  | nil => rfl
  | @char c _ hc _ ih =>
    have hplain : c ∉ TypeText.brackets := by
      obtain hc | hc := hc
      · exact TypeText.not_mem_brackets_of_isIdentChar hc
      · simp only [List.mem_cons, List.not_mem_nil, or_false] at hc
        obtain rfl | rfl | rfl := hc <;> decide
    rw [List.cons_append, TypeText.depthAfter?_plain hplain, ih]
  | path _ ih =>
    rw [List.cons_append, List.cons_append, TypeText.depthAfter?_plain (by decide),
      TypeText.depthAfter?_plain (by decide), ih]
  | group hpair _ _ hinner hmore =>
    rw [List.cons_append, List.append_assoc, List.cons_append, TypeText.depthAfter?_group hpair hinner, hmore]
  | @array elem length more _ _ _ helem hlength hmore =>
    have hinner (depth : Nat) (rest : List Char) :
        TypeText.depthAfter? depth ((elem ++ ';' :: length) ++ rest) = TypeText.depthAfter? depth rest := by
      rw [List.append_assoc, helem, List.cons_append, TypeText.depthAfter?_plain (by decide), hlength]
    have hgroup := TypeText.depthAfter?_group (o := '[') (c := ']') (by decide) hinner depth (more ++ rest)
    simp only [List.append_assoc, List.cons_append] at hgroup ⊢
    rw [hgroup, hmore]

end IsTypeText

/-! ### What a declaration assigns -/

namespace Walk

open TypeText

section Typed

variable {type : List Char} (d : Lexer.Declaration type)

theorem declaredAt?_typed (last : Token) :
    declaredAt? last 0 0 (d.colon :: d.behindColon) =
      if ';' ∉ type ∧ scanDepth 0 type = 0 then some (d.types.length + 1) else none := by
  obtain ⟨u, hu⟩ := declaredAt?_spells d.spells (d.equals :: d.value) d.colon 0 1
  rw [declaredAt?_mark (c := ':') d.colon_mark.1 d.colon_mark.2 (by decide), if_neg (by decide),
    show stepDepth 0 ':' = 0 from rfl, Nat.zero_add, Lexer.Declaration.behindColon, hu]
  by_cases hsep : ';' ∈ type
  · simp [hsep]
  have hopen (depth passed : Nat) : declaredAt? d.equals depth passed d.value = none := by
    rw [Lexer.Declaration.value, declaredAt?, d.literal_kind]
    dsimp only
    rw [declaredAt?_mark (c := ';') d.semicolon_mark.1 d.semicolon_mark.2 (by decide), if_pos rfl]
  rw [if_neg hsep, declaredAt?, d.equals_mark.1]
  dsimp only
  rw [d.equals_mark.2]
  by_cases hdepth : scanDepth 0 type = 0
  · simp [hsep, hdepth, Nat.add_comm]
  · simp [hdepth, hopen]

theorem soleLiteral?_value (before : Option Token) :
    (Expr.read .statement 0 before d.value).1.soleLiteral? = some d.literal.text := by
  have hmark (mark : String) : d.semicolon.isPunct mark = (";" == mark) := by
    simp [Token.isPunct, d.semicolon_mark]
  have hlink (room : Nat) (op : Operand) : Expr.readLink room op (d.semicolon :: d.more) = none := by
    cases d.more <;> simp [Expr.readLink, hmark]
  have hends : Expr.endsExpr d.semicolon = true := by simp [Expr.endsExpr, hmark]
  rw [Lexer.Declaration.value, Expr.read, Expr.readDraft, d.literal_kind]
  dsimp only
  rw [Expr.readLinks_eq_readLink, hlink]
  dsimp only
  rw [List.drop_zero, Expr.readDraft, d.semicolon_mark.1]
  dsimp only
  rw [if_pos hends]
  rfl

variable {d} (hfree : d.name.text ∉ Vocabulary.keywords)

include hfree in
theorem step_typed {w : Walk}
    (hw : w.declares = true ∧ w.hasFragment = false ∧ w.stack = [] ∧ w.expectsName = false) :
    w.step d.name (d.colon :: d.behindColon) =
      match declaredAt? d.name 0 0 (d.colon :: d.behindColon) with
      | some gap => w.onAssignment d.name ⟨d.name, []⟩ gap (d.colon :: d.behindColon)
      | none =>
        let (w, f) := w.emit .identifier (Expr.DottedPath.mk d.name []).text d.name d.name.span.stop [] none
        ⟨w, some f, 0⟩ := by
  obtain ⟨hdeclares, hfresh, hlevel, hexpects⟩ := hw
  have hmark (mark : String) : d.colon.isPunct mark = (":" == mark) := by
    simp [Token.isPunct, d.colon_mark]
  have hpath : Expr.DottedPath.read d.name (d.colon :: d.behindColon) = ⟨d.name, []⟩ := by
    cases d.behindColon <;> simp [Expr.DottedPath.read, Expr.segments, Expr.isPathMark, hmark]
  have hfunction : d.name.text ∉ Vocabulary.functionWords := fun hmem =>
    hfree ((show Vocabulary.functionWords ⊆ Vocabulary.keywords by decide) hmem)
  have hdeclaration : d.name.text ∉ Vocabulary.declarationWords := fun hmem =>
    hfree ((show Vocabulary.declarationWords ⊆ Vocabulary.keywords by decide) hmem)
  have hstarts : Expr.startsPath d.name (d.colon :: d.behindColon) = true := by
    simp [Expr.startsPath, hfree]
  have hassigned : w.assignedAt? d.name (d.colon :: d.behindColon) =
      declaredAt? d.name 0 0 (d.colon :: d.behindColon) := by
    simp [assignedAt?, atStatementLevel, d.colon_mark, hdeclares, hfresh, hlevel]
  have hcall (nameEnd : Nat) : Expr.callOpen? nameEnd (d.colon :: d.behindColon) = none := by
    simp [Expr.callOpen?, hmark]
  rw [step, d.name_kind]
  dsimp only
  rw [onIdent, if_neg (by simp [hfunction]), if_neg (by simp [hdeclaration]), if_neg (by simp [hstarts]),
    onPath, hpath]
  dsimp only
  rw [show (d.colon :: d.behindColon).drop ((Expr.DottedPath.mk d.name []).length - 1) =
      d.colon :: d.behindColon from rfl,
    show (Expr.DottedPath.mk d.name []).last = d.name from rfl, hexpects, if_neg (by decide), hcall]
  dsimp only
  rw [hassigned]
  rfl

include hfree in
theorem found_typed {w : Walk}
    (hw : w.declares = true ∧ w.hasFragment = false ∧ w.stack = [] ∧ w.expectsName = false) :
    ∃ f, (w.step d.name (d.colon :: d.behindColon)).found = some f ∧ f.text = d.name.text ∧
      if ';' ∉ type ∧ scanDepth 0 type = 0 then
        f.kind = .assignment ∧ f.value?.bind Expr.soleLiteral? = some d.literal.text
      else f.kind = .identifier := by
  have htext : (Expr.DottedPath.mk d.name []).text = d.name.text := by
    simp [Expr.DottedPath.text]
  rw [step_typed hfree hw, declaredAt?_typed]
  by_cases hfound : ';' ∉ type ∧ scanDepth 0 type = 0
  · rw [if_pos hfound]
    refine ⟨_, rfl, htext, ?_⟩
    rw [if_pos hfound]
    refine ⟨rfl, ?_⟩
    have hvalue : (d.colon :: d.behindColon).drop (d.types.length + 1 + 1) = d.value := by
      rw [List.drop_succ_cons, ← List.drop_drop, Lexer.Declaration.behindColon, List.drop_left]
      rfl
    change (Expr.read .statement w.stack.length (d.colon :: d.behindColon)[d.types.length + 1]?
      ((d.colon :: d.behindColon).drop (d.types.length + 1 + 1))).1.soleLiteral? = _
    rw [hw.2.2.1, hvalue]
    exact soleLiteral?_value d _
  · rw [if_neg hfound]
    refine ⟨_, rfl, htext, ?_⟩
    rw [if_neg hfound]
    rfl

include hfree in
theorem head?_fragments_typed (hword : d.word.text ∈ ["let", "const", "static"]) :
    ∃ f, (fragments {} d.toList).head? = some f ∧ f.text = d.name.text ∧
      if ';' ∉ type ∧ scanDepth 0 type = 0 then
        f.kind = .assignment ∧ f.value?.bind Expr.soleLiteral? = some d.literal.text
      else f.kind = .identifier := by
  have hstep (rest : List Token) :
      ({} : Walk).step d.word rest = { walk := { ({} : Walk) with declares := true, begun := true } } := by
    have hwords : ∀ text ∈ ["let", "const", "static"],
        text ∉ Vocabulary.functionWords ∧ text ∈ Vocabulary.declarationWords := by
      decide
    obtain ⟨hfunction, hdeclaration⟩ := hwords _ hword
    rw [step, d.word_kind]
    dsimp only
    rw [onIdent, if_neg (by simp [hfunction]), if_pos (by simp [hdeclaration])]
  rw [Lexer.Declaration.toList, fragments, hstep]
  dsimp only
  rw [List.drop_zero, fragments]
  obtain ⟨f, hfound, hf⟩ := found_typed hfree
    (w := passed { ({} : Walk) with declares := true, begun := true } [d.word]) ⟨rfl, rfl, rfl, rfl⟩
  refine ⟨f, ?_, hf⟩
  rw [List.take_zero, hfound]
  rfl

end Typed

end Walk

def Source.OpensWithAssignment (s : Source) (name value : String) : Prop :=
  ∃ f, s.fragments[0]? = some f ∧ f.kind = .assignment ∧ f.text = name ∧
    f.value?.bind Expr.soleLiteral? = some value

theorem Source.opensWithAssignment_iff {s : Source} (hrust : s.language = .rust)
    {word name type body rest : String}
    (htext : s.text = word ++ " " ++ name ++ ": " ++ type ++ " = \"" ++ body ++ "\";" ++ rest)
    (hword : word ∈ ["let", "const", "static"]) (hname : Lexer.isName name.toList = true)
    (hfree : name ∉ Vocabulary.keywords) (htype : ∀ c ∈ type.toList, Lexer.isTypeChar c = true)
    (hbody : ∀ c ∈ body.toList, c ∉ ['"', '\\', '\n']) :
    s.OpensWithAssignment name body ↔
      ';' ∉ type.toList ∧ TypeText.scanDepth 0 type.toList = 0 := by
  have hchars : s.text.toList = word.toList ++ ' ' :: (name.toList ++ ':' :: ' ' :: (type.toList ++ ' ' ::
      '=' :: ' ' :: '"' :: (body.toList ++ '"' :: ';' :: rest.toList))) := by
    simp [htext]
  have hwords : ∀ w ∈ ["let", "const", "static"], Lexer.isName w.toList = true := by decide +kernel
  obtain ⟨d, htokens, hdword, hdname, hdliteral⟩ := Lexer.exists_declaration (hwords word hword) hname htype
    hbody rest.toList Position.start true
  rw [String.ofList_toList] at hdword hdname hdliteral
  obtain ⟨f, hfirst, hftext, hf⟩ := Walk.head?_fragments_typed (hdname ▸ hfree) (hdword ▸ hword)
  rw [← htokens, ← hchars, ← Lexer.toList_tokenize, ← hrust, ← toList_fragments, List.head?_eq_getElem?,
    Array.getElem?_toList] at hfirst
  rw [OpensWithAssignment, hfirst]
  split at hf
  next hfound =>
    rw [hdname] at hftext
    rw [hdliteral] at hf
    exact ⟨fun _ => hfound, fun _ => ⟨f, rfl, hf.1, hftext, hf.2⟩⟩
  next hfound =>
    refine ⟨?_, fun h => absurd h hfound⟩
    rintro ⟨g, hg, hkind, -⟩
    cases hg
    rw [hf] at hkind
    cases hkind

/-- A declaration with a type is found to assign its literal when the type holds no semicolon and no two
closing angles in a row. Where no two angles open in a row either, no other is. -/
theorem typed_declaration_assigns {s : Source} (hrust : s.language = .rust)
    {word name type body rest : String}
    (htext : s.text = word ++ " " ++ name ++ ": " ++ type ++ " = \"" ++ body ++ "\";" ++ rest)
    (hword : word ∈ ["let", "const", "static"]) (hname : Lexer.isName name.toList = true)
    (hfree : name ∉ Vocabulary.keywords) (htype : IsTypeText type.toList)
    (hbody : ∀ c ∈ body.toList, c ∉ ['"', '\\', '\n']) :
    (';' ∉ type.toList ∧ ¬['>', '>'] <:+: type.toList → s.OpensWithAssignment name body) ∧
    (¬['<', '<'] <:+: type.toList → s.OpensWithAssignment name body →
      ';' ∉ type.toList ∧ ¬['>', '>'] <:+: type.toList) := by
  have hiff := Source.opensWithAssignment_iff hrust htext hword hname hfree htype.isTypeChar hbody
  have hclosed : TypeText.depthAfter? 0 type.toList = some 0 := by
    have happend := htype.depthAfter?_append 0 []
    rwa [List.append_nil] at happend
  constructor
  · rintro ⟨hsemi, hangles⟩
    exact hiff.mpr ⟨hsemi, Nat.le_zero.mp (TypeText.scanDepth_le hangles (Nat.le_refl 0) hclosed)⟩
  · intro hopening hopens
    obtain ⟨hsemi, hdepth⟩ := hiff.mp hopens
    refine ⟨hsemi, fun hangles => ?_⟩
    have hlt := (TypeText.le_scanDepth hopening (Nat.le_refl 0) hclosed).2 (.inr hangles)
    omega

theorem typed_declaration_assigns_qualified :
    IsTypeText "A<<B>::C>".toList ∧
      Source.OpensWithAssignment ⟨default, .rust, "const x: A<<B>::C> = \"s\";"⟩ "x" "s" := by
  have htype : IsTypeText "A<<B>::C>".toList := by
    have hinner : IsTypeText ['<', 'B', '>', ':', ':', 'C'] :=
      @IsTypeText.group '<' '>' ['B'] _ (by decide) (.letter (by decide) .nil)
        (.path (.letter (by decide) .nil))
    exact .letter (by decide) (@IsTypeText.group '<' '>' _ [] (by decide) hinner .nil)
  have htext : "const x: A<<B>::C> = \"s\";" =
      "const" ++ " " ++ "x" ++ ": " ++ "A<<B>::C>" ++ " = \"" ++ "s" ++ "\";" ++ "" := by
    decide +kernel
  exact ⟨htype, (typed_declaration_assigns rfl htext (by decide) (by decide +kernel) (by decide) htype
    (by simp)).1 (by decide +kernel)⟩

/-- The length of an array hides the declaration of one, and two closing angles in a row hide theirs. -/
theorem exists_typed_declaration_missed :
    IsTypeText "[u8; 4]".toList ∧ IsTypeText "A<B<C>>".toList ∧
      (Source.fragments ⟨default, .rust, "let x: [u8; 4] = \"s\";"⟩)[0]?.map (·.kind) = some .identifier ∧
      (Source.fragments ⟨default, .rust, "let x: A<B<C>> = \"s\";"⟩)[0]?.map (·.kind) = some .identifier := by
  refine ⟨?_, ?_, by decide +kernel, by decide +kernel⟩
  · exact @IsTypeText.array ['u', '8'] [' ', '4'] [] (.letter (by decide) (.letter (by decide) .nil))
      (.char (.inr (by decide)) (.letter (by decide) .nil)) .nil
  · have hinner : IsTypeText ['B', '<', 'C', '>'] := .letter (by decide)
      (@IsTypeText.group '<' '>' ['C'] [] (by decide) (.letter (by decide) .nil) .nil)
    exact .letter (by decide) (@IsTypeText.group '<' '>' _ [] (by decide) hinner .nil)

end SourceAudit
