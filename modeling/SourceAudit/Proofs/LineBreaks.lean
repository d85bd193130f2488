import SourceAudit.Proofs.Locality

/-! Line breaks between brackets are insignificant, unless one parts tokens that are read together: a path,
a name and its arguments, or a call and the links that follow it. -/
namespace SourceAudit.Expr

/-- The tokens without the line breaks that part nothing. `p` is the last token before them that is no
line break. -/
def tightened (p : Option Token) : List Token → List Token
  | [] => []
  | t :: ts =>
    if t.isNewline && !p.any (carriesOn · (significant ts)) then tightened p ts
    else t :: tightened (lastSignificant p [t]) ts

theorem thins_tightened (p : Option Token) (ts : List Token) : Thins p ts (tightened p ts) := by
  induction ts generalizing p with
  | nil => exact .nil
  | cons t ts ih =>
    rw [tightened]
    split
    next h =>
      simp only [Bool.and_eq_true, Bool.not_eq_true'] at h
      exact .leave h.1 h.2 (ih p)
    next => exact .keep (ih _)

/-- Without the line breaks that part nothing a bracket is read the same at every depth, up to the same
closer. When these are all its line breaks, it is read as if it stood on one line. -/
theorem loose_breaks_insignificant {o k : Token} (hopen : o.isOpen = true) (hcloses : k.Closes o)
    {body : List Token} (hbody : Nested body) (rest : List Token) (depth : Nat) :
    readArgs depth (o :: (tightened (some o) body ++ k :: rest)) =
      ((readArgs depth (o :: (body ++ k :: rest))).1, some ((tightened (some o) body).length + 1)) ∧
    ((tightened (some o) body).all (!·.isNewline) = true → tightened (some o) body = significant body) := by
  have hthins := thins_tightened (some o) body
  constructor
  · have hread : readArgs depth (o :: (body ++ k :: rest)) =
        ((readArgs depth (o :: (body ++ k :: rest))).1, some (body.length + 1)) :=
      Prod.ext rfl (readGroup_nested _ rest hopen hcloses hbody)
    obtain ⟨n, hread', hmeets⟩ := groupsAgree (body.length + 1) _ o k body _ rest rest _ body.length
      hopen (Token.isClose_of_closes hcloses) hthins (Nat.lt_succ_self _) hread (Nat.le_refl _)
    have hleft := hmeets.left
    rw [List.drop_length] at hleft
    obtain rfl : n = (tightened (some o) body).length :=
      Nat.le_antisymm hmeets.le_length' (List.drop_eq_nil_iff.mp hleft.eq_nil)
    exact hread'
  · intro hnone
    rw [← hthins.significant_eq]
    exact (List.filter_eq_self.mpr (List.all_eq_true.mp hnone)).symm

theorem loose_breaks_insignificant_chain :
    let ts := (tokenize .javaScript "(\na +\nb\n.c()\n)").toList
    (tightened ts.head? ts.tail).length + 3 = ts.tail.length ∧
      ∀ depth, readArgs depth (tightened none ts) = ((readArgs depth ts).1, some 9) := by
  intro ts
  have hbody : Nested ts.tail.dropLast := by
    have htokens : ts.tail.dropLast =
        [⟨.newline, "\n", ⟨1, 2⟩, 1, 2⟩, ⟨.ident, "a", ⟨2, 3⟩, 2, 1⟩, ⟨.punct, "+", ⟨4, 5⟩, 2, 3⟩,
          ⟨.newline, "\n", ⟨5, 6⟩, 2, 4⟩, ⟨.ident, "b", ⟨6, 7⟩, 3, 1⟩, ⟨.newline, "\n", ⟨7, 8⟩, 3, 2⟩,
          ⟨.punct, ".", ⟨8, 9⟩, 4, 1⟩, ⟨.ident, "c", ⟨9, 10⟩, 4, 2⟩, ⟨.punct, "(", ⟨10, 11⟩, 4, 3⟩,
          ⟨.punct, ")", ⟨11, 12⟩, 4, 4⟩, ⟨.newline, "\n", ⟨12, 13⟩, 4, 5⟩] := by
      decide +kernel
    rw [htokens]
    refine .plain rfl rfl (.plain rfl rfl (.plain rfl rfl (.plain rfl rfl (.plain rfl rfl
      (.plain rfl rfl (.plain rfl rfl (.plain rfl rfl ?_)))))))
    refine @Nested.group _ _ [] _ rfl ?_ .nil (.plain rfl rfl .nil)
    rfl
  let o : Token := ⟨.punct, "(", ⟨0, 1⟩, 1, 1⟩
  let k : Token := ⟨.punct, ")", ⟨13, 14⟩, 5, 1⟩
  have hsplit : ts = o :: (ts.tail.dropLast ++ [k]) := by decide +kernel
  have hkept : tightened none ts = o :: (tightened (some o) ts.tail.dropLast ++ [k]) := by decide +kernel
  have hlength : (tightened (some o) ts.tail.dropLast).length + 1 = 9 := by decide +kernel
  refine ⟨by decide +kernel, fun depth => ?_⟩
  have hread := (loose_breaks_insignificant (o := o) (k := k) rfl rfl hbody [] depth).1
  rwa [← hsplit, ← hkept, hlength] at hread

/-- A break before the link of a chain makes two operands of one. -/
theorem exists_break_parting_chain :
    let ts := (tokenize .javaScript "(a\n.b())").toList
    ClosedAt ts 0 7 ∧
      (readArgs 0 ts).1.map (·.operands.length) = [2] ∧
      (readArgs 0 (significant ts)).1.map (·.operands.length) = [1] := by
  intro ts
  have htokens : ts =
      [⟨.punct, "(", ⟨0, 1⟩, 1, 1⟩, ⟨.ident, "a", ⟨1, 2⟩, 1, 2⟩, ⟨.newline, "\n", ⟨2, 3⟩, 1, 3⟩,
        ⟨.punct, ".", ⟨3, 4⟩, 2, 1⟩, ⟨.ident, "b", ⟨4, 5⟩, 2, 2⟩, ⟨.punct, "(", ⟨5, 6⟩, 2, 3⟩,
        ⟨.punct, ")", ⟨6, 7⟩, 2, 4⟩, ⟨.punct, ")", ⟨7, 8⟩, 2, 5⟩] := by
    decide +kernel
  refine ⟨?_, by decide +kernel, by decide +kernel⟩
  rw [htokens]
  refine ⟨by decide, ⟨_, _, rfl, rfl, rfl, rfl⟩, ?_⟩
  refine .plain rfl rfl (.plain rfl rfl (.plain rfl rfl (.plain rfl rfl ?_)))
  refine @Nested.group _ _ [] _ rfl ?_ .nil .nil
  rfl

end SourceAudit.Expr
