import SourceAudit.Proofs.Lexing

/-! Lines and columns of tokens. A token's line counts the line-break bytes in front of it, which stand for
nothing but line breaks, and its column counts the characters since the last of them. -/
namespace SourceAudit

def utf8Bytes (cs : List Char) : List UInt8 := cs.flatMap String.utf8EncodeChar

def newlineByte : UInt8 := 10

theorem utf8Bytes_append (xs ys : List Char) : utf8Bytes (xs ++ ys) = utf8Bytes xs ++ utf8Bytes ys :=
  List.flatMap_append

theorem toList_data_toUTF8 (text : String) : text.toUTF8.data.toList = utf8Bytes text.toList := by
  rw [String.toUTF8, ← String.utf8Encode_toList, List.utf8Encode, List.toList_data_toByteArray]
  rfl

theorem length_utf8Bytes (cs : List Char) : (utf8Bytes cs).length = utf8Length cs := by
  induction cs with
  | nil => rfl
  | cons c cs ih =>
    rw [utf8Length_cons, ← ih, ← String.length_utf8EncodeChar]
    exact List.length_append

theorem newlineByte_not_mem_encode {c : Char} (hc : c ≠ '\n') :
    newlineByte ∉ String.utf8EncodeChar c := by
  have hvalue : c.val.toNat ≠ 10 := fun h => hc (Char.ext (UInt32.toNat_inj.mp h))
  have hbyte {n : Nat} (hne : n ≠ 10) (hlt : n < 256) : newlineByte ≠ UInt8.ofNat n := by
    intro h
    have hn : 10 = n % 256 := congrArg UInt8.toNat h
    omega
  unfold String.utf8EncodeChar
  generalize c.val.toNat = v at hvalue
  dsimp only
  split
  next =>
    rw [List.mem_singleton]
    exact hbyte hvalue (by omega)
  next =>
  split
  next =>
    simp only [List.mem_cons, List.not_mem_nil, or_false, not_or]
    exact ⟨hbyte (by omega) (by omega), hbyte (by omega) (by omega)⟩
  next =>
  split
  next =>
    simp only [List.mem_cons, List.not_mem_nil, or_false, not_or]
    exact ⟨hbyte (by omega) (by omega), hbyte (by omega) (by omega), hbyte (by omega) (by omega)⟩
  next =>
    simp only [List.mem_cons, List.not_mem_nil, or_false, not_or]
    exact ⟨hbyte (by omega) (by omega), hbyte (by omega) (by omega), hbyte (by omega) (by omega),
      hbyte (by omega) (by omega)⟩

theorem count_newlineByte (cs : List Char) : (utf8Bytes cs).count newlineByte = cs.count '\n' := by
  induction cs with
  | nil => rfl
  | cons c cs ih =>
    have hsplit : utf8Bytes (c :: cs) = String.utf8EncodeChar c ++ utf8Bytes cs := rfl
    rw [hsplit, List.count_append, ih, List.count_cons, Nat.add_comm]
    congr 1
    by_cases hc : c = '\n'
    · subst hc
      rfl
    · rw [List.count_eq_zero_of_not_mem (newlineByte_not_mem_encode hc), if_neg (by simpa using hc)]

theorem exists_lines (before : List Char) :
    ∃ lines line, before = lines ++ line ∧ (lines = [] ∨ lines.getLast? = some '\n') ∧ '\n' ∉ line ∧
      line.length = (before.reverse.takeWhile (· ≠ '\n')).length := by
  refine ⟨(before.reverse.dropWhile (· ≠ '\n')).reverse, (before.reverse.takeWhile (· ≠ '\n')).reverse,
    ?_, ?_, ?_, List.length_reverse⟩
  · rw [← List.reverse_append, List.takeWhile_append_dropWhile, List.reverse_reverse]
  · have hhead := List.head?_dropWhile_not (· ≠ '\n') before.reverse
    rw [List.getLast?_reverse, List.reverse_eq_nil_iff]
    cases hlines : before.reverse.dropWhile (· ≠ '\n') with
    | nil => exact .inl rfl
    | cons c cs =>
      rw [hlines] at hhead
      simpa using hhead
  · intro hmem
    have hall := List.all_takeWhile (p := (· ≠ '\n')) (l := before.reverse)
    simpa using List.all_eq_true.mp hall _ (List.mem_reverse.mp hmem)

/-- Each token of any text in any language knows its line, one more than there are line-break bytes in
front of it, and its column, one more than there are characters between the last line break in front of it,
or else the start of the text, and its first byte. -/
theorem token_line_and_column {language : Language} {text : String} {t : Token}
    (ht : t ∈ (tokenize language text).toList) :
    t.line = 1 + (text.toUTF8.data.toList.take t.span.start).count newlineByte ∧
    ∃ lines line rest : String, text = lines ++ line ++ rest ∧
      (lines ++ line).utf8ByteSize = t.span.start ∧
      (lines = "" ∨ lines.toList.getLast? = some '\n') ∧ '\n' ∉ line.toList ∧
      t.column = 1 + line.length := by
  obtain ⟨before, after, htext, hstart, hline, hcolumn⟩ :=
    Position.isIn_iff.mp (standsIn_of_mem_tokenize ht).isIn
  change t.span.start = utf8Length before at hstart
  change t.line = 1 + before.count '\n' at hline
  change t.column = _ at hcolumn
  constructor
  · have htake : (utf8Bytes (before ++ after)).take t.span.start = utf8Bytes before := by
      rw [utf8Bytes_append, hstart, ← length_utf8Bytes, List.take_left]
    rw [toList_data_toUTF8, htext, htake, count_newlineByte, hline]
  · obtain ⟨lines, line, rfl, hlines, hfree, hlength⟩ := exists_lines before
    refine ⟨String.ofList lines, String.ofList line, String.ofList after, ?_, ?_, ?_, ?_, ?_⟩
    · rw [← String.ofList_append, ← String.ofList_append, ← htext, String.ofList_toList]
    · rw [← String.ofList_append, hstart]
      rfl
    · rw [String.toList_ofList]
      exact hlines.imp_left fun h => by rw [h]
    · rwa [String.toList_ofList]
    · rw [hcolumn, ← hlength, String.length_ofList]

theorem token_line_and_column_behind_template :
    ⟨.ident, "x", ⟨5, 6⟩, 2, 3⟩ ∈ (tokenize .javaScript "`\né`x").toList ∧
    2 = 1 + ("`\né`x".toUTF8.data.toList.take 5).count newlineByte ∧
    ∃ lines line rest : String, "`\né`x" = lines ++ line ++ rest ∧
      (lines ++ line).utf8ByteSize = 5 ∧ (lines = "" ∨ lines.toList.getLast? = some '\n') ∧
      '\n' ∉ line.toList ∧ 3 = 1 + line.length := by
  have hmem : ⟨.ident, "x", ⟨5, 6⟩, 2, 3⟩ ∈ (tokenize .javaScript "`\né`x").toList := by decide +kernel
  exact ⟨hmem, token_line_and_column hmem⟩

end SourceAudit
