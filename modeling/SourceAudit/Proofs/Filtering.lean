import SourceAudit.Proofs.Completion
import SourceAudit.Proofs.Dedupe

/-! Narrowing a scan to some categories and to a least severity. The rules that are left out could have
changed nothing about the findings of the others, with overlapping findings thinned out or not. -/
namespace SourceAudit

def Options.admits (o : Options) (f : Finding) : Bool :=
  o.categories.contains f.category && decide (o.minSeverity ≤ f.severity)

theorem Options.takesPreferred_admits (o : Options) : Finding.TakesPreferred o.admits := by
  intro a b hc hle hb
  have hworse := Finding.severity_le_of_clashes hc hle
  simp only [Finding.clashes, Bool.and_eq_true, decide_eq_true_eq] at hc
  simp only [admits, Bool.and_eq_true, decide_eq_true_eq] at hb ⊢
  rw [hc.1.1]
  exact ⟨hb.1, Nat.le_trans hb.2 hworse⟩

namespace Scanner

theorem admits_of_finding? {o : Options} {rule : Rule} {w : Window} {f : Finding}
    (h : (judge rule w).finding? = some f) : o.admits f = enables o rule := by
  obtain ⟨hit, -, -, -, rfl⟩ := finding?_judge_eq_some.mp h
  rfl

theorem filter_findingsIn (o : Options) (rules : List Rule) (w : Window) :
    (findingsIn rules w).filter o.admits = findingsIn (rules.filter (enables o)) w := by
  have hone (r : Rule) : (judge r w).finding?.filter o.admits =
      if enables o r then (judge r w).finding? else none := by
    cases hf : (judge r w).finding? with
    | none => simp
    | some f => simp [Option.filter, admits_of_finding? hf]
  rw [findingsIn_eq_filterMap, findingsIn_eq_filterMap, List.filter_filterMap]
  simp only [hone]
  rw [← List.filterMap_filter, List.filter_filter, List.filter_filter]
  simp only [Bool.and_comm]

theorem filter_found {s t : Scanner} (hrules : s.enabled = t.enabled.filter (enables s.options))
    (ws : List Window) : (t.found ws).filter s.options.admits = s.found ws := by
  rw [found, found, hrules, List.filter_flatMap]
  simp only [filter_findingsIn]

theorem map_findings_scan? {s t : Scanner} {source : Source}
    (hrules : s.enabled = t.enabled.filter (enables s.options))
    (hwindows : s.windows? source = t.windows? source)
    (hdedupe : s.options.dedupe = t.options.dedupe) :
    (s.scan? source).map Outcome.findings =
      (t.scan? source).map fun o => o.findings.filter s.options.admits := by
  rw [scan?, scan?, hwindows, Option.map_map, Option.map_map]
  congr 1
  funext ws
  simp only [Function.comp_apply, findings_outcome, hdedupe]
  split
  · rw [Finding.filter_dedupe (Options.takesPreferred_admits _), filter_found hrules]
  · rw [filter_found hrules]

theorem mem_ordered {categories : List Category} {c : Category} :
    c ∈ Category.all.filter categories.contains ↔ c ∈ categories := by
  simp [Category.mem_all]

theorem enabled_eq_rules {s : Scanner} (hcategories : ∀ c, c ∈ s.options.categories)
    (hleast : s.options.minSeverity = .low) : s.enabled = s.registry.rules := by
  apply List.filter_eq_self.mpr
  intro r _
  have hlow : Severity.low ≤ r.severity := Nat.zero_le _
  simp [enables, hcategories, hleast, hlow]

end Scanner
end SourceAudit
