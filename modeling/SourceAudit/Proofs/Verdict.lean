import SourceAudit.Scan

/-! A scan, taken apart into the verdicts of single rules on single windows. -/
namespace SourceAudit

theorem Window.anchor_mem_head (w : Window) : w.anchor ∈ w.head := List.mem_cons_self

theorem bind_eq_ok_iff {x : Except ε α} {f : α → Except ε β} {b : β} :
    (x >>= f) = .ok b ↔ ∃ a, x = .ok a ∧ f a = .ok b := by
  cases x <;> simp [bind, Except.bind]

theorem Options.validate_eq_ok_iff {o o' : Options} :
    o.validate = .ok o' ↔ o.windowWidth ≠ 0 ∧ o.categories ≠ [] ∧
      o' = { o with categories := Category.all.filter o.categories.contains } := by
  unfold Options.validate
  split
  next h => simp [h]
  next h =>
    split
    next hc =>
      rw [List.isEmpty_iff] at hc
      simp [hc]
    next hc =>
      rw [List.isEmpty_iff] at hc
      simp only [Except.ok.injEq, ne_eq, h, hc, not_false_eq_true, true_and]
      exact eq_comm

namespace Scanner

theorem new_eq_ok_iff {registry : Registry} {o : Options} {s : Scanner} :
    new registry o = .ok s ↔
      o.windowWidth ≠ 0 ∧ o.categories ≠ [] ∧
        s = ⟨registry, { o with categories := Category.all.filter o.categories.contains }⟩ := by
  unfold new
  rw [bind_eq_ok_iff]
  constructor
  · rintro ⟨o', ho, h⟩
    obtain ⟨hwidth, hcategories, rfl⟩ := Options.validate_eq_ok_iff.mp ho
    cases h
    exact ⟨hwidth, hcategories, rfl⟩
  · rintro ⟨hwidth, hcategories, rfl⟩
    exact ⟨_, Options.validate_eq_ok_iff.mpr ⟨hwidth, hcategories, rfl⟩, rfl⟩

theorem registry_of_new {registry : Registry} {o : Options} {s : Scanner}
    (h : new registry o = .ok s) : s.registry = registry := by
  obtain ⟨-, -, rfl⟩ := new_eq_ok_iff.mp h
  rfl

theorem windowWidth_of_new {registry : Registry} {o : Options} {s : Scanner}
    (h : new registry o = .ok s) : s.options.windowWidth = o.windowWidth := by
  obtain ⟨-, -, rfl⟩ := new_eq_ok_iff.mp h
  rfl

theorem new_default (registry : Registry) : new registry {} = .ok ⟨registry, {}⟩ :=
  new_eq_ok_iff.mpr ⟨by decide, by decide, rfl⟩

def findingsIn (rules : List Rule) (w : Window) : List Finding :=
  (verdicts rules w).filterMap Verdict.finding?

def found (s : Scanner) (ws : List Window) : List Finding := ws.flatMap (findingsIn s.enabled)

theorem scan?_eq_some_iff {s : Scanner} {source : Source} {o : Outcome} :
    s.scan? source = some o ↔
      ∃ ws, s.windows? source = some ws ∧
        s.outcome source (ws.flatMap (verdicts s.enabled)) = o := by
  rw [scan?, Option.map_eq_some_iff]

theorem isSome_scan? (s : Scanner) (source : Source) :
    (s.scan? source).isSome = (s.windows? source).isSome := by
  rw [scan?, Option.isSome_map]

theorem findings_outcome (s : Scanner) (source : Source) (ws : List Window) :
    (s.outcome source (ws.flatMap (verdicts s.enabled))).findings =
      if s.options.dedupe then Finding.dedupe (s.found ws) else s.found ws := by
  simp only [outcome, found, List.filterMap_flatMap]
  rfl

theorem diagnostics_outcome (s : Scanner) (source : Source) (ws : List Window) :
    (s.outcome source (ws.flatMap (verdicts s.enabled))).diagnostics =
      ws.flatMap fun w => (verdicts s.enabled w).filterMap Verdict.diagnostic? := by
  simp only [outcome, List.filterMap_flatMap]

theorem finding?_judge_eq_some {rule : Rule} {w : Window} {f : Finding} :
    (judge rule w).finding? = some f ↔
      ∃ hit, rule.matcher w = some hit ∧ w.headSpan.start ≤ hit.span.start ∧
        hit.span.stop ≤ w.headSpan.stop ∧ f = .ofHit rule w hit := by
  unfold judge
  split
  next h => simp [Verdict.finding?, h]
  next hit h =>
    simp only [h, Option.some.injEq, exists_eq_left']
    split
    next hout =>
      simp only [Verdict.finding?, reduceCtorEq, false_iff]
      omega
    next hin =>
      simp only [Verdict.finding?, Option.some.injEq]
      constructor
      · rintro rfl
        exact ⟨by omega, by omega, rfl⟩
      · rintro ⟨-, -, rfl⟩
        rfl

theorem exists_hit_of_diagnostic?_judge {rule : Rule} {w : Window} {d : Diagnostic}
    (h : (judge rule w).diagnostic? = some d) :
    ∃ hit, rule.matcher w = some hit ∧
      (hit.span.start < w.headSpan.start ∨ w.headSpan.stop < hit.span.stop) := by
  unfold judge at h
  split at h
  next => cases h
  next hit hm =>
    dsimp only at h
    split at h
    next hout => exact ⟨hit, hm, hout⟩
    next => cases h

theorem findingsIn_eq_filterMap (rules : List Rule) (w : Window) :
    findingsIn rules w =
      (rules.filter (·.kinds.intersects w.kinds)).filterMap fun r => (judge r w).finding? := by
  rw [findingsIn, verdicts, List.filterMap_map]
  rfl

theorem exists_rule_of_mem_findingsIn {rules : List Rule} {w : Window} {f : Finding}
    (h : f ∈ findingsIn rules w) : ∃ rule ∈ rules, (judge rule w).finding? = some f := by
  rw [findingsIn_eq_filterMap, List.mem_filterMap] at h
  obtain ⟨rule, hr, hf⟩ := h
  exact ⟨rule, (List.mem_filter.mp hr).1, hf⟩

end Scanner
end SourceAudit
