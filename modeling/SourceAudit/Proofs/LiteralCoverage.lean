import SourceAudit.Proofs.Finds

/-! The literals of a text among its fragments. A walk visits every token, or passes it with the path or the
type of something that it finds there. A path holds no literals, so each literal is found just once and in
its turn, unless it stands in the type of a declaration. -/
namespace SourceAudit

namespace Expr

theorem isLiteral_of_mem_path {u : Token} {rest : List Token}
    (hu : u ∈ rest.take (2 * (segments rest).length)) : u.isLiteral = false := by
  fun_induction segments rest with
  | case1 mark name rest h ih =>
    rw [List.length_cons, Nat.mul_add_one, List.take_succ_cons, List.take_succ_cons] at hu
    simp only [Bool.and_eq_true, isPathMark, Bool.or_eq_true, Token.isPunct, Token.isIdent,
      decide_eq_true_eq] at h
    obtain rfl | hu := List.mem_cons.mp hu
    · have hkind : u.kind = .punct := by grind
      simp [Token.isLiteral, hkind]
    · obtain rfl | hu := List.mem_cons.mp hu
      · simp [Token.isLiteral, h.2]
      · exact ih hu
  | case2 => simp at hu
  | case3 => simp at hu

end Expr

namespace Walk

/-- What a step that passes `more` tokens beyond `t` passes behind the path at `t`, without the mark at the
end. -/
def passedBetween (t : Token) (rest : List Token) (more : Nat) : List Token :=
  ((rest.take more).drop ((Expr.DottedPath.read t rest).length - 1)).dropLast

theorem passedBetween_subset (t : Token) (rest : List Token) (more : Nat) :
    passedBetween t rest more ⊆ rest.take more :=
  fun _ hu => List.mem_of_mem_drop (List.dropLast_subset _ hu)

theorem passedBetween_of_le {t : Token} {rest : List Token} {more : Nat}
    (h : more ≤ (Expr.DottedPath.read t rest).length - 1) : passedBetween t rest more = [] := by
  have hdrop : (rest.take more).drop ((Expr.DottedPath.read t rest).length - 1) = [] := by
    rw [List.drop_eq_nil_iff, List.length_take]
    omega
  rw [passedBetween, hdrop, List.dropLast_nil]

section

variable {t : Token} {rest between value : List Token} {mark : Token}
  (h : Expr.behindPath t rest = between ++ mark :: value)
include h

theorem take_of_behindPath :
    rest.take ((Expr.DottedPath.read t rest).length + between.length) =
      rest.take ((Expr.DottedPath.read t rest).length - 1) ++ (between ++ [mark]) := by
  have hlength : (Expr.DottedPath.read t rest).length + between.length =
      (Expr.DottedPath.read t rest).length - 1 + (between ++ [mark]).length := by
    simp only [Expr.DottedPath.length, List.length_append, List.length_singleton]
    omega
  rw [hlength, List.take_add, ← Expr.behindPath, h, List.append_cons between mark value, List.take_left]

theorem passedBetween_of_behindPath :
    passedBetween t rest ((Expr.DottedPath.read t rest).length + between.length) = between := by
  have hlength : (Expr.DottedPath.read t rest).length + between.length -
      ((Expr.DottedPath.read t rest).length - 1) = (between ++ [mark]).length := by
    simp only [Expr.DottedPath.length, List.length_append, List.length_singleton]
    omega
  rw [passedBetween, List.drop_take, ← Expr.behindPath, hlength, h, List.append_cons between mark value, List.take_left,
    List.dropLast_concat]

end

theorem mem_passedBetween_of_isLiteral {w : Walk} {t u : Token} {rest : List Token}
    (hu : u ∈ rest.take (w.step t rest).more) (hliteral : u.isLiteral = true) :
    (w.step t rest).found.isSome = true ∧ u ∈ passedBetween t rest (w.step t rest).more := by
  have hpath (hu : u ∈ rest.take ((Expr.DottedPath.read t rest).length - 1)) : False := by
    rw [Expr.DottedPath.length, Nat.add_sub_cancel_left] at hu
    exact absurd (Expr.isLiteral_of_mem_path hu) (by simp [hliteral])
  have htakes := takes_step w t rest
  generalize w.step t rest = s at hu htakes ⊢
  cases htakes with
  | newline | mark | literal | number | function | declaration | keyword => simp at hu
  | name => exact (hpath hu).elim
  | call =>
    rw [more_onCall] at hu
    exact (hpath hu).elim
  | assignment _ _ hgap =>
    obtain ⟨between, mark, value, hafter, rfl, hmark, -, -⟩ := assignedAt?_eq_some hgap
    change u ∈ rest.take ((Expr.DottedPath.read t rest).length + between.length) at hu
    change _ ∧ u ∈ passedBetween t rest ((Expr.DottedPath.read t rest).length + between.length)
    rw [take_of_behindPath hafter] at hu
    rw [passedBetween_of_behindPath hafter]
    obtain hu | hu := List.mem_append.mp hu
    · exact (hpath hu).elim
    · refine ⟨rfl, (List.mem_append.mp hu).resolve_right fun hu => ?_⟩
      rw [List.mem_singleton.mp hu, Token.isLiteral, hmark] at hliteral
      cases hliteral

theorem literal_step (w : Walk) (t : Token) (rest : List Token) :
    ((w.step t rest).found.toList.filter (·.kind = .stringLiteral)).map (fun f => (f.text, f.span)) =
      ([t].filter Token.isLiteral).map (fun t => (t.text, t.span)) := by
  have htakes := takes_step w t rest
  generalize w.step t rest = s at htakes ⊢
  cases htakes with
  | newline hkind | mark hkind | number hkind | function hkind | declaration hkind | keyword hkind =>
    simp [Token.isLiteral, hkind]
  | literal hkind => simp [Token.isLiteral, hkind, emit]
  | name hkind => simp [Token.isLiteral, hkind, emit]
  | call hkind =>
    rw [List.filter_eq_nil_iff.mpr fun f hf => by simp [kind_onCall (Option.mem_toList.mp hf)]]
    simp [Token.isLiteral, hkind]
  | assignment hkind => simp [Token.isLiteral, hkind, onAssignment, emit]

namespace Find

def between (d : Find) : List Token :=
  passedBetween d.token d.rest (d.walk.step d.token d.rest).more

/-- The find declares its path, and the tokens of `type` stand between the path and the mark that assigns. -/
structure Declares (d : Find) (type : List Token) : Prop where
  kind : d.fragment.kind = .assignment
  text : d.fragment.text = (Expr.DottedPath.read d.token d.rest).text
  declares : d.walk.declares = true
  assigns : ∃ mark value, AssignsAt (Expr.behindPath d.token d.rest) type mark value ∧
    d.fragment.args = [(Expr.read .statement d.walk.stack.length (some mark) value).1]

theorem declares_between {d : Find} (h : d.between ≠ []) : d.Declares d.between := by
  have hfound := d.found
  have htakes := takes_step d.walk d.token d.rest
  unfold between at h ⊢
  generalize d.walk.step d.token d.rest = s at hfound htakes h ⊢
  cases htakes with
  | newline | mark | literal | number | function | declaration | keyword =>
    exact absurd (passedBetween_of_le (Nat.zero_le _)) h
  | name => exact absurd (passedBetween_of_le (Nat.le_refl _)) h
  | call => exact absurd (passedBetween_of_le (Nat.le_of_eq (more_onCall ..))) h
  | assignment _ _ hgap =>
    obtain ⟨between, mark, value, hafter, rfl, -, -, hdeclared⟩ := assignedAt?_eq_some hgap
    change passedBetween _ _ ((Expr.DottedPath.read d.token d.rest).length + between.length) ≠ [] at h
    change d.Declares (passedBetween _ _ ((Expr.DottedPath.read d.token d.rest).length + between.length))
    rw [passedBetween_of_behindPath hafter] at h ⊢
    obtain ⟨hdeclares, -, hassigns, -⟩ := hdeclared h
    rw [hafter] at hfound
    refine ⟨kind_onAssignment hfound, ?_, hdeclares, mark, value, hassigns, ?_⟩
    · rw [← Option.some.inj hfound]
    · have hmark : (between ++ mark :: value)[between.length]? = some mark := by simp
      have hvalue : (between ++ mark :: value).drop (between.length + 1) = value := by simp
      rw [← Option.some.inj hfound, ← hmark]
      change [(Expr.read _ _ _ ((between ++ mark :: value).drop (between.length + 1))).1] = _
      rw [hvalue]

end Find

def TypedIn (ds : List Find) (u : Token) : Prop := ∃ d ∈ ds, u ∈ d.between

instance (ds : List Find) (u : Token) : Decidable (TypedIn ds u) :=
  inferInstanceAs (Decidable (∃ d ∈ ds, u ∈ d.between))

theorem typedIn_append {ds es : List Find} {u : Token} :
    TypedIn (ds ++ es) u ↔ TypedIn ds u ∨ TypedIn es u := by
  simp only [TypedIn, List.mem_append, or_and_right, exists_or]

theorem TypedIn.mem {w : Walk} {ts : List Token} {u : Token} (h : TypedIn (w.finds ts) u) : u ∈ ts := by
  obtain ⟨d, hd, hu⟩ := h
  have hrest : u ∈ d.rest := List.mem_of_mem_take (passedBetween_subset _ _ _ hu)
  exact (suffix_of_mem_finds w ts d hd).mem (List.mem_cons_of_mem _ hrest)

theorem typedIn_findsHere {w : Walk} {t u : Token} {rest : List Token} (hliteral : u.isLiteral = true) :
    TypedIn (w.findsHere t rest) u ↔ u ∈ rest.take (w.step t rest).more := by
  constructor
  · rintro ⟨d, hd, hu⟩
    obtain ⟨rfl, rfl, rfl⟩ := mem_findsHere.mp hd
    exact passedBetween_subset _ _ _ hu
  · intro hu
    obtain ⟨hfound, hbetween⟩ := mem_passedBetween_of_isLiteral hu hliteral
    obtain ⟨f, hf⟩ := Option.isSome_iff_exists.mp hfound
    exact ⟨⟨w, t, rest, f, hf⟩, mem_findsHere.mpr ⟨rfl, rfl, rfl⟩, hbetween⟩

theorem literals_fragments (w : Walk) (ts : List Token) (hts : ts.Nodup) :
    ((w.fragments ts).filter (·.kind = .stringLiteral)).map (fun f => (f.text, f.span)) =
      (ts.filter fun t => t.isLiteral ∧ ¬TypedIn (w.finds ts) t).map (fun t => (t.text, t.span)) := by
  fun_induction fragments w ts with
  | case1 => simp
  | case2 w t rest s ih =>
    obtain ⟨ht, hrest⟩ := List.nodup_cons.mp hts
    have hsplit : rest = rest.take s.more ++ rest.drop s.more := (List.take_append_drop s.more rest).symm
    obtain ⟨-, hleft, hapart⟩ := List.nodup_append.mp (hsplit ▸ hrest)
    let next := s.walk.passed (t :: rest.take s.more)
    have htyped {u : Token} (hu : u.isLiteral = true) : TypedIn (w.finds (t :: rest)) u ↔
        u ∈ rest.take s.more ∨ TypedIn (next.finds (rest.drop s.more)) u := by
      rw [finds_cons, typedIn_append, typedIn_findsHere hu]
    -- the token at hand stands in no type, what is passed in that of the step, the others only in later ones
    have hhere : ([t].filter fun u => u.isLiteral ∧ ¬TypedIn (w.finds (t :: rest)) u) =
        [t].filter Token.isLiteral := by
      apply List.filter_congr
      intro u hu
      obtain rfl := List.mem_singleton.mp hu
      simp only [Bool.decide_and, Bool.decide_eq_true, Bool.and_eq_left_iff_imp, decide_eq_true_eq]
      intro hliteral
      rw [htyped hliteral]
      exact fun h => ht (h.elim List.mem_of_mem_take fun h => List.mem_of_mem_drop h.mem)
    have hpassed : ((rest.take s.more).filter fun u => u.isLiteral ∧ ¬TypedIn (w.finds (t :: rest)) u) =
        [] := by
      refine List.filter_eq_nil_iff.mpr fun u hu => ?_
      simp only [decide_eq_true_eq, not_and, not_not]
      exact fun hliteral => (htyped hliteral).mpr (.inl hu)
    have hlater : ((rest.drop s.more).filter fun u => u.isLiteral ∧ ¬TypedIn (w.finds (t :: rest)) u) =
        (rest.drop s.more).filter fun u => u.isLiteral ∧ ¬TypedIn (next.finds (rest.drop s.more)) u := by
      apply List.filter_congr
      intro u hu
      simp only [decide_eq_decide, and_congr_right_iff]
      intro hliteral
      rw [htyped hliteral, or_iff_right fun h => hapart u h u hu rfl]
    calc
      _ = ([t].filter Token.isLiteral ++ (rest.drop s.more).filter
            fun u => u.isLiteral ∧ ¬TypedIn (next.finds (rest.drop s.more)) u).map
              (fun t => (t.text, t.span)) := by
        rw [List.filter_append, List.map_append, List.map_append, literal_step, ih hleft]
      _ = (([t] ++ (rest.take s.more ++ rest.drop s.more)).filter
            fun u => u.isLiteral ∧ ¬TypedIn (w.finds (t :: rest)) u).map (fun t => (t.text, t.span)) := by
        rw [List.filter_append, List.filter_append, hhere, hpassed, hlater, List.nil_append]
      _ = _ := by rw [List.take_append_drop, List.singleton_append]

end Walk

/-- No literal is lost, and none is found twice. The literals among the fragments of any text are those
among its tokens, in their order and with their texts and spans, but for those in the types of what is
declared: such a type stands between a path and the mark that assigns to it, in a statement that declares,
and the assignment is found. -/
theorem Source.literals_found_once (s : Source) :
    (s.fragments.toList.filter (·.kind = .stringLiteral)).map (fun f => (f.text, f.span)) =
      ((tokenize s.language s.text).toList.filter fun t =>
        t.isLiteral ∧ ¬Walk.TypedIn s.finds t).map (fun t => (t.text, t.span)) ∧
    ∀ d ∈ s.finds, d.between ≠ [] → d.fragment ∈ s.fragments.toList ∧ d.Declares d.between := by
  constructor
  · rw [toList_fragments]
    apply Walk.literals_fragments
    refine (pairwise_before_tokenize s.language s.text).imp ?_
    rintro t u ⟨hstart, -⟩ rfl
    exact Nat.lt_irrefl _ hstart
  · intro d hd hbetween
    refine ⟨?_, Walk.Find.declares_between hbetween⟩
    rw [← map_fragment_finds]
    exact List.mem_map_of_mem hd

def literalType : Source := ⟨⟨"m.ts"⟩, .typeScript, "const mode: \"fast\" = pick(\"slow\");"⟩

theorem literals_found_once_beside_type :
    ((tokenize literalType.language literalType.text).toList.filter Token.isLiteral).map (·.text) =
      ["fast", "slow"] ∧
    (literalType.fragments.toList.filter (·.kind = .stringLiteral)).map (fun f => (f.text, f.span)) =
      [("slow", ⟨26, 32⟩)] ∧
    ∃ d ∈ literalType.finds, d.between.map (·.text) = [":", "fast"] ∧ d.between ≠ [] ∧
      d.fragment ∈ literalType.fragments.toList ∧ d.Declares d.between := by
  obtain ⟨hliterals, hdeclared⟩ := literalType.literals_found_once
  obtain ⟨d, hd, htype⟩ :
      ∃ d ∈ literalType.finds, d.between.map (·.text) = [":", "fast"] := by decide +kernel
  have hbetween : d.between ≠ [] := by
    intro h
    simp [h] at htype
  refine ⟨by decide +kernel, ?_, d, hd, htype, hbetween, hdeclared d hd hbetween⟩
  rw [hliterals]
  decide +kernel

end SourceAudit
