import Mathlib.Data.List.DropRight
import SourceAudit.Rule.Callee

/-! Callee patterns by segments. A pattern is held against the end of a callee's text, but only where a
segment starts, so it names whole segments and never a part of one. -/
namespace SourceAudit

/-! ### Segments -/

section

variable {d : Char} {p path : List Char}

theorem cons_intercalate_suffix (l : List Char) (ls : List (List Char)) {ms : List (List Char)}
    (hms : ms ≠ []) : d :: [d].intercalate ms <:+ [d].intercalate (l :: (ls ++ ms)) := by
  induction ls generalizing l with
  | nil =>
    rw [List.nil_append, List.intercalate_cons_of_ne_nil hms, List.append_assoc]
    exact List.suffix_append _ _
  | cons l' ls ih =>
    rw [List.cons_append, List.intercalate_cons_cons]
    exact (ih l').trans (List.suffix_append _ _)

theorem splitOn_suffix_iff : p.splitOn d <:+ path.splitOn d ↔ path = p ∨ d :: p <:+ path := by
  constructor
  · rintro ⟨front, hfront⟩
    have hpath : [d].intercalate (front ++ p.splitOn d) = path := by
      rw [hfront, List.intercalate_splitOn]
    cases front with
    | nil =>
      left
      rw [← hpath, List.nil_append, List.intercalate_splitOn]
    | cons s front =>
      right
      have hsuffix := cons_intercalate_suffix (d := d) s front (List.splitOn_ne_nil d p)
      rwa [← List.cons_append, hpath, List.intercalate_splitOn] at hsuffix
  · rintro (rfl | ⟨front, rfl⟩)
    · exact List.suffix_refl _
    · rw [List.splitOn_append_cons_self]
      exact List.suffix_append _ _

theorem getLast?_splitOn (d : Char) (path : List Char) :
    (path.splitOn d).getLast? = some (path.rtakeWhile (· != d)) := by
  have hfree : d ∉ path.rtakeWhile (· != d) := by
    intro hd
    simpa using List.mem_rtakeWhile_imp hd
  have hpath := List.rdropWhile_append_rtakeWhile (p := (· != d)) (l := path)
  obtain hnil | ⟨front, c, hfront⟩ := List.eq_nil_or_concat (path.rdropWhile (· != d))
  · rw [hnil, List.nil_append] at hpath
    rw [hpath] at hfree ⊢
    rw [List.splitOn_eq_singleton hfree, List.getLast?_singleton]
  · -- what comes before the last segment ends with the mark
    have hc : c = d := by
      have hlast := List.rdropWhile_last_not (· != d) path (by simp [hfront])
      simpa [hfront] using hlast
    rw [hfront, hc, List.concat_append] at hpath
    conv_lhs => rw [← hpath]
    rw [List.splitOn_append_cons_self, List.splitOn_eq_singleton hfree, List.getLast?_append,
      List.getLast?_singleton, Option.some_or]

end

/-! ### Patterns -/

def calleePath (callee : String) : List Char := callee.toList.rdropWhile (· == '!')

/-- The pattern names the path: with a leading dot by its last segment, with a dot inside by its last
segments, and without a dot by the whole of it. -/
def NamesPath (pattern path : List Char) : Prop :=
  (∃ method, pattern = '.' :: method ∧ (path.splitOn '.').getLast? = some method) ∨
    (pattern.head? ≠ some '.' ∧ '.' ∈ pattern ∧ pattern.splitOn '.' <:+ path.splitOn '.') ∨
    ('.' ∉ pattern ∧ pattern = path)

section

variable {pattern path : List Char}

theorem namesPath_dot_iff {method : List Char} :
    NamesPath ('.' :: method) path ↔ (path.splitOn '.').getLast? = some method := by
  simp [NamesPath]

theorem namesPath_inside_iff (hhead : pattern.head? ≠ some '.') (hdot : '.' ∈ pattern) :
    NamesPath pattern path ↔ pattern.splitOn '.' <:+ path.splitOn '.' := by
  have hmethod (method : List Char) : pattern ≠ '.' :: method := by
    rintro rfl
    exact hhead rfl
  simp [NamesPath, hmethod, hhead, hdot]

theorem namesPath_bare_iff (hdot : '.' ∉ pattern) : NamesPath pattern path ↔ pattern = path := by
  have hmethod (method : List Char) : pattern ≠ '.' :: method := by
    rintro rfl
    exact hdot List.mem_cons_self
  simp [NamesPath, hmethod, hdot]

end

theorem calleeFits_iff {callee : String} (hbang : calleePath callee = callee.toList) (pattern : String) :
    calleeFits callee pattern = true ↔ NamesPath pattern.toList callee.toList := by
  have hlast : lastSegment callee = String.ofList (callee.toList.rtakeWhile (· != '.')) := by
    conv_rhs => rw [← hbang]
    simp only [lastSegment, calleePath, List.rdropWhile, List.rtakeWhile, List.reverse_reverse]
  have hwhole : callee = pattern ↔ callee.toList = pattern.toList := String.toList_inj.symm
  unfold calleeFits
  split
  next method hpattern =>
    rw [hpattern, namesPath_dot_iff, getLast?_splitOn, beq_iff_eq, hlast, String.ofList_inj,
      Option.some.injEq]
  next hmethod =>
    split
    next hdot =>
      have hhead : pattern.toList.head? ≠ some '.' := by
        intro h
        obtain ⟨method, hpattern⟩ := List.head?_eq_some_iff.mp h
        exact hmethod method hpattern
      rw [namesPath_inside_iff hhead (List.contains_iff_mem.mp hdot), splitOn_suffix_iff, Bool.or_eq_true,
        beq_iff_eq, List.isSuffixOf_iff_suffix, hwhole]
    next hdot =>
      rw [namesPath_bare_iff (mt List.contains_iff_mem.mpr hdot), beq_iff_eq, hwhole, eq_comm]

theorem nil_mem_splitOn {pattern : List Char} (h : pattern.head? = some '.') :
    [] ∈ pattern.splitOn '.' := by
  obtain ⟨method, rfl⟩ := List.head?_eq_some_iff.mp h
  simp [List.splitOn_cons_eq_if_modifyHead]

/-- A callee is matched, apart from exclamation marks at its end, just when one of the patterns names it. In
a callee without empty segments the three ways to name it exclude each other: a pattern with a leading dot
is not the end of its segments. -/
theorem calleeMatches_iff_namesPath (callee : String) (patterns : List String) :
    (calleeMatches callee patterns = true ↔ ∃ p ∈ patterns, NamesPath p.toList (calleePath callee)) ∧
      ([] ∉ (calleePath callee).splitOn '.' → ∀ p : List Char, p.head? = some '.' →
        ¬p.splitOn '.' <:+ (calleePath callee).splitOn '.') := by
  have hpath : (dropBangs callee).toList = calleePath callee := String.toList_ofList
  have hbang : calleePath (dropBangs callee) = (dropBangs callee).toList := by
    rw [calleePath, hpath, calleePath, List.rdropWhile_idempotent]
  constructor
  · simp only [calleeMatches, List.any_eq_true, calleeFits_iff hbang, hpath]
  · intro hsegments p hdot hsuffix
    exact hsegments (hsuffix.mem (nil_mem_splitOn hdot))

-- no part of a segment is named
example : calleeMatches "os.exec.Command" ["exec.Command"] = true ∧
    calleeMatches "myexec.Command" ["exec.Command"] = false := by decide

end SourceAudit
