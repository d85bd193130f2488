import SourceAudit.Report

/-! The comparisons behind every sorted list of a report. Each is a total preorder, and paths compare
equal only when they have the same steps. -/
namespace SourceAudit

open Std

theorem transCmp_comap (part : α → β) (cmp : β → β → Ordering) [TransCmp cmp] :
    TransCmp fun a b => cmp (part a) (part b) where
  eq_swap := OrientedCmp.eq_swap
  isLE_trans := TransCmp.isLE_trans

theorem isLE_total (cmp : α → α → Ordering) [OrientedCmp cmp] (a b : α) :
    ((cmp a b).isLE || (cmp b a).isLE) = true := by
  have hswap : cmp b a = (cmp a b).swap := OrientedCmp.eq_swap
  rw [hswap]
  cases cmp a b <;> rfl

instance : TransCmp Category.compare := inferInstanceAs (TransCmp (compareOn Category.rank))

instance : TransCmp Severity.compare := inferInstanceAs (TransCmp (compareOn Severity.rank))

theorem Severity.isLE_compare {a b : Severity} : (a.compare b).isLE = true ↔ a ≤ b :=
  Nat.isLE_compare

namespace PathStep

def label : PathStep → String
  | name text => text
  | _ => ""

theorem compare_eq_compareLex (a b : PathStep) :
    a.compare b = compareLex (compareOn rank) (compareOn label) a b := by
  cases a <;> cases b <;> rfl

instance : TransCmp PathStep.compare := by
  have h : PathStep.compare = compareLex (compareOn rank) (compareOn label) := by
    funext a b
    exact compare_eq_compareLex a b
  rw [h]
  infer_instance

instance : LawfulEqCmp PathStep.compare where
  eq_of_compare {a b} h := by
    cases a <;> cases b <;> simp_all [PathStep.compare, rank]

end PathStep

namespace Path

theorem compareSteps_eq_compareLex (as bs : List PathStep) :
    compareSteps as bs = as.compareLex PathStep.compare bs := by
  induction as generalizing bs with
  | nil => cases bs <;> rfl
  | cons a as ih =>
    cases bs with
    | nil => rfl
    | cons b bs => rw [compareSteps, List.compareLex_cons_cons, ih]

instance : TransCmp Path.compare := by
  have h : Path.compare = fun a b => a.steps.compareLex PathStep.compare b.steps := by
    funext a b
    exact compareSteps_eq_compareLex a.steps b.steps
  rw [h]
  exact transCmp_comap steps (List.compareLex PathStep.compare)

theorem compare_eq_iff_same {a b : Path} : a.compare b = .eq ↔ a.same b = true := by
  rw [compare, compareSteps_eq_compareLex, LawfulEqCmp.compare_eq_iff_eq, same, decide_eq_true_iff]

end Path

namespace Finding

instance : TransCmp preference :=
  have := transCmp_comap category Category.compare
  have := transCmp_comap path Path.compare
  have := transCmp_comap severity Severity.compare
  inferInstanceAs <| TransCmp <|
    compareLex (fun a b => a.category.compare b.category) <|
    compareLex (fun a b => a.path.compare b.path) <|
    compareLex (fun a b => b.severity.compare a.severity) <|
    compareLex (compareOn ruleId) <|
    compareLex (compareOn (·.span.start)) (compareOn (·.span.stop))

instance : TransCmp reportOrder :=
  have := transCmp_comap severity Severity.compare
  have := transCmp_comap path Path.compare
  inferInstanceAs <| TransCmp <|
    compareLex (fun a b => b.severity.compare a.severity) <|
    compareLex (fun a b => a.path.compare b.path) <|
    compareLex (compareOn line) <|
    compareLex (compareOn column) <|
    compareLex (compareOn ruleId) (compareOn matchedText)

end Finding

namespace Diagnostic

theorem compareOption_compare [Ord α] (a b : Option α) :
    compareOption Ord.compare a b = Ord.compare a b := by
  cases a <;> cases b <;> rfl

instance : TransCmp order := by
  have hpath := transCmp_comap path Path.compare
  have h : order =
      compareLex (fun a b => a.path.compare b.path) (compareLex (compareOn line)
        (compareLex (compareOn (·.kind.rank)) (compareLex (compareOn ruleId) (compareOn message)))) := by
    funext a b
    simp only [order, compareOption_compare]
    rfl
  rw [h]
  infer_instance

theorem of_order_eq {a b : Diagnostic} (h : a.order b = .eq) :
    a.path.same b.path = true ∧ b = { a with path := b.path } := by
  simp only [order, compareOption_compare, Ordering.then_eq_eq, LawfulEqCmp.compare_eq_iff_eq,
    Path.compare_eq_iff_same] at h
  obtain ⟨hpath, hline, hkind, hrule, hmessage⟩ := h
  refine ⟨hpath, ?_⟩
  have hkind : a.kind = b.kind := by
    cases ha : a.kind <;> cases hb : b.kind <;> simp_all [DiagnosticKind.rank]
  cases a
  cases b
  simp_all

end Diagnostic
end SourceAudit
