import Mathlib
import SourceAudit.Proofs.Outlook
import SourceAudit.Proofs.Windows

/-! Texts that differ only in what the lexer skips. Their fragments are the same, and most rules look at
nothing else. Three go back to the text, one to the arguments of a call and two to what stands around a
literal; a comment there can make a difference to them. -/
namespace SourceAudit

namespace Source

def leading (s : Source) (offset : Nat) : List Char := trimEnd (s.slice 0 offset).toList

def trailing (s : Source) (offset : Nat) : List Char := trimStart (s.slice offset s.size).toList

/-- The texts agree under the arguments of each call that a flag can make start a shell. -/
def SameArguments (s t : Source) : Prop :=
  ∀ f ∈ s.fragments, f.isSink CommandInjection.shellFlagSinks = true →
    ∀ a ∈ f.args, s.sliceSpan a.span = t.sliceSpan a.span

/-- Around each literal with two dots in it, the texts agree on as many characters as a comparing
operator can have. -/
def SameNeighbours (s t : Source) : Prop :=
  ∀ f ∈ s.fragments, f.kind = .stringLiteral → containsText f.text ".." = true →
    (s.leading f.span.start).rtake 2 = (t.leading f.span.start).rtake 2 ∧
    (s.trailing f.span.stop).take 7 = (t.trailing f.span.stop).take 7

instance (s t : Source) : Decidable (s.SameNeighbours t) :=
  inferInstanceAs (Decidable (∀ f ∈ s.fragments, _ → _ → _ ∧ _))

end Source

section

variable {op cs ds : List Char} {n : Nat}

theorem isPrefixOf_eq_of_take_eq (hop : op.length ≤ n) (h : cs.take n = ds.take n) :
    op.isPrefixOf cs = op.isPrefixOf ds := by
  have htake : cs.take op.length = ds.take op.length := by
    rw [← Nat.min_eq_left hop, ← List.take_take, h, List.take_take]
  rw [Bool.eq_iff_iff, List.isPrefixOf_iff_prefix, List.isPrefixOf_iff_prefix,
    List.prefix_iff_eq_take, List.prefix_iff_eq_take, htake]

theorem isSuffixOf_eq_of_rtake_eq (hop : op.length ≤ n) (h : cs.rtake n = ds.rtake n) :
    op.isSuffixOf cs = op.isSuffixOf ds := by
  rw [List.rtake_eq_reverse_take_reverse, List.rtake_eq_reverse_take_reverse,
    List.reverse_inj] at h
  exact isPrefixOf_eq_of_take_eq (by rwa [List.length_reverse]) h

end

theorem any_eq_of_forall_mem {α : Type} {xs : List α} {p q : α → Bool} (h : ∀ x ∈ xs, p x = q x) :
    xs.any p = xs.any q := by
  rw [Bool.eq_iff_iff, List.any_eq_true, List.any_eq_true]
  constructor
  · rintro ⟨x, hx, hp⟩
    exact ⟨x, hx, h x hx ▸ hp⟩
  · rintro ⟨x, hx, hq⟩
    exact ⟨x, hx, (h x hx).symm ▸ hq⟩

section

variable {v w : Window} {r : Rule}

theorem CommandInjection.shellFlag_eq (hhead : v.head = w.head)
    (h : ∀ f ∈ v.head, f.isSink shellFlagSinks = true →
      ∀ a ∈ f.args, v.textOf a.span = w.textOf a.span) : shellFlag v = shellFlag w := by
  rw [shellFlag, shellFlag, ← hhead]
  refine congrArg (Option.map _) (List.find?_congr fun f hf => ?_)
  by_cases hsink : f.isSink shellFlagSinks = true
  · have hflag : (f.args.any fun a => shellTrue.isMatch (v.textOf a.span)) =
        f.args.any fun a => shellTrue.isMatch (w.textOf a.span) :=
      any_eq_of_forall_mem fun a ha => by rw [h f hf hsink a ha]
    rw [hflag]
  · rw [Bool.not_eq_true] at hsink
    rw [hsink, Bool.false_and, Bool.false_and, Bool.false_and, Bool.false_and]

theorem PathTraversal.isParentComparison_eq (f : Fragment) :
    isParentComparison w f =
      (containsText f.text ".." &&
        ((comparedBefore.any fun op => op.toList.isSuffixOf (w.source.leading f.span.start)) ||
          comparedAfter.any fun op => op.toList.isPrefixOf (w.source.trailing f.span.stop))) :=
  rfl

theorem PathTraversal.isGuard_eq_of_neighbours {f : Fragment}
    (h : f.kind = .stringLiteral → containsText f.text ".." = true →
      (v.source.leading f.span.start).rtake 2 = (w.source.leading f.span.start).rtake 2 ∧
      (v.source.trailing f.span.stop).take 7 = (w.source.trailing f.span.stop).take 7) :
    isGuard v f = isGuard w f := by
  -- no operator is longer than what is compared
  have hbefore : ∀ op ∈ comparedBefore, op.toList.length ≤ 2 := by decide
  have hafter : ∀ op ∈ comparedAfter, op.toList.length ≤ 7 := by decide
  unfold isGuard
  split
  next hkind =>
    rw [isParentComparison_eq, isParentComparison_eq]
    by_cases hdots : containsText f.text ".." = true
    · obtain ⟨hleading, htrailing⟩ := h hkind hdots
      rw [any_eq_of_forall_mem fun op hop => isSuffixOf_eq_of_rtake_eq (hbefore op hop) hleading,
        any_eq_of_forall_mem fun op hop => isPrefixOf_eq_of_take_eq (hafter op hop) htrailing]
    · rw [Bool.not_eq_true] at hdots
      rw [hdots, Bool.false_and, Bool.false_and]
  all_goals rfl

theorem PathTraversal.matcher_eq_of_guards (hr : r ∈ rules) (hstatement : v.statement = w.statement)
    (hpreceding : v.preceding = w.preceding) (hrest : v.rest = w.rest)
    (h : ∀ f ∈ v.context, isGuard v f = isGuard w f) : r.matcher v = r.matcher w := by
  have hhead := Window.head_eq hstatement
  have hguarded : guarded v = guarded w := by
    rw [guarded, guarded, ← Window.context_eq hstatement hpreceding]
    exact any_eq_of_forall_mem h
  simp only [rules, List.mem_cons, List.not_mem_nil, or_false] at hr
  obtain rfl | rfl := hr
  · simp only [openConcat, hguarded, hhead]
  · simp only [builtThenOpened, builtThenUsed, hguarded, hhead, hrest]

end

theorem Rule.hitAt?_eq_of_tokens {s t : Source}
    (htokens : tokenize s.language s.text = tokenize t.language t.text) (rule : Rule)
    (width lookbehind : UInt64) (index : Nat)
    (h : ∀ statement, (statements s.fragments.toList)[index]? = some statement →
      rule.matcher (.among s (statements s.fragments.toList) width lookbehind index statement) =
        rule.matcher (.among t (statements s.fragments.toList) width lookbehind index statement)) :
    rule.hitAt? s width lookbehind index = rule.hitAt? t width lookbehind index := by
  have hfragments : t.fragments = s.fragments := by
    rw [Source.fragments, Source.fragments, htokens]
  rw [hitAt?_eq, hitAt?_eq, hfragments]
  split
  next => exact Option.map_congr h
  next => rfl

def Source.commentedParent (comment : String) : Source :=
  ⟨⟨"a.go"⟩, .go, "mark(// " ++ comment ++ "\n\"..\")\nos.Open(\"/data/\" + p)"⟩

end SourceAudit
