import Mathlib.Data.List.Basic
import SourceAudit.Proofs.Completion
import SourceAudit.Proofs.Matcher
import SourceAudit.Proofs.Registry

/-! A rule is passed over where the head has no fragment of a kind it declares. No finding is lost by
that: a rule fires only on a head that has one. -/
namespace SourceAudit

namespace Window

theorem contains_foldl_union (fs : List Fragment) (ks : FragmentKinds) (k : FragmentKind) :
    (fs.foldl (fun ks f => ks.union (.only f.kind)) ks).contains k = true ↔
      ks.contains k = true ∨ ∃ f ∈ fs, f.kind = k := by
  induction fs generalizing ks with
  | nil => simp
  | cons f fs ih => simp [ih, or_assoc]

theorem contains_kinds {w : Window} {k : FragmentKind} :
    w.kinds.contains k = true ↔ ∃ f ∈ w.head, f.kind = k := by
  have hempty : FragmentKinds.empty.contains k = false := by cases k <;> rfl
  rw [kinds, contains_foldl_union, hempty]
  simp

theorem intersects_kinds {w : Window} {kinds : FragmentKinds} :
    kinds.intersects w.kinds = true ↔ ∃ f ∈ w.head, kinds.contains f.kind = true := by
  rw [FragmentKinds.intersects_iff]
  constructor
  · rintro ⟨k, hk, hw⟩
    obtain ⟨f, hf, rfl⟩ := contains_kinds.mp hw
    exact ⟨f, hf, hk⟩
  · rintro ⟨f, hf, hk⟩
    exact ⟨f.kind, hk, contains_kinds.mpr ⟨f, hf, rfl⟩⟩

end Window

theorem Rule.PointsAtFragment.intersects_kinds {rule : Rule} (h : rule.PointsAtFragment)
    {w : Window} {hit : Hit} (hm : rule.matcher w = some hit) :
    rule.kinds.intersects w.kinds = true := by
  obtain ⟨f, hf, -, hk⟩ := h w hit hm
  exact Window.intersects_kinds.mpr ⟨f, hf, hk⟩

theorem Rule.SearchesText.intersects_kinds {rule : Rule} (h : rule.SearchesText) (w : Window) :
    rule.kinds.intersects w.kinds = true := by
  rw [h.1]
  apply Window.intersects_kinds.mpr
  refine ⟨w.anchor, w.anchor_mem_head, ?_⟩
  cases w.anchor.kind <;> rfl

theorem Registry.intersects_kinds_of_hit {custom : List CustomRule} {registry : Registry}
    (h : withCustom custom = .ok registry) {rule : Rule} (hr : rule ∈ registry.rules)
    {w : Window} {hit : Hit} (hm : rule.matcher w = some hit) :
    rule.kinds.intersects w.kinds = true := by
  obtain hbuiltin | hsearch := mem_rules_withCustom h rule hr
  · exact (pointsAtFragment_builtin hbuiltin).intersects_kinds hm
  · exact hsearch.intersects_kinds w

namespace Scanner

def scanExhaustively? (s : Scanner) (source : Source) : Option Outcome :=
  (s.windows? source).map fun ws =>
    s.outcome source (ws.flatMap fun w => s.enabled.map (judge · w))

theorem judge_eq_clean {rule : Rule} {w : Window} (h : rule.matcher w = none) :
    judge rule w = .clean := by
  rw [judge, h]

/-- Seen through anything that a clean verdict does not show, the rules passed over are not missed. -/
theorem filterMap_verdicts (see : Verdict → Option α) (hclean : see .clean = none)
    {rules : List Rule} {w : Window}
    (hkinds : ∀ r ∈ rules, ∀ hit, r.matcher w = some hit → r.kinds.intersects w.kinds = true) :
    (verdicts rules w).filterMap see = (rules.map (judge · w)).filterMap see := by
  rw [verdicts, List.filterMap_map, List.filterMap_map, List.filterMap_filter]
  apply List.filterMap_congr
  intro r hr
  by_cases hk : r.kinds.intersects w.kinds = true
  · rw [if_pos hk]
  · have hnone : r.matcher w = none := by
      apply Option.eq_none_iff_forall_ne_some.mpr
      intro hit hm
      exact hk (hkinds r hr hit hm)
    rw [if_neg hk, Function.comp_apply, judge_eq_clean hnone, hclean]

theorem scan?_eq_scanExhaustively? {s : Scanner}
    (hkinds : ∀ r ∈ s.registry.rules, ∀ (w : Window) (hit : Hit), r.matcher w = some hit →
      r.kinds.intersects w.kinds = true) (source : Source) :
    s.scan? source = s.scanExhaustively? source := by
  have henabled (w : Window) : ∀ r ∈ s.enabled, ∀ hit, r.matcher w = some hit →
      r.kinds.intersects w.kinds = true := by
    intro r hr
    exact hkinds r (List.mem_filter.mp hr).1 w
  rw [scan?, scanExhaustively?]
  simp only [outcome, List.filterMap_flatMap, filterMap_verdicts Verdict.finding? rfl (henabled _),
    filterMap_verdicts Verdict.diagnostic? rfl (henabled _)]

/-- In a registry with any declared rules, a rule that fires on a window shares a kind with its head, so
a scan comes to the same as one that tries every enabled rule on every window: to an outcome where all
windows can be formed, and to nothing elsewhere. -/
theorem prefilter_loses_nothing (custom : List CustomRule) (registry : Registry)
    (h : Registry.withCustom custom = .ok registry) :
    (∀ rule ∈ registry.rules, ∀ (w : Window) (hit : Hit), rule.matcher w = some hit →
      rule.kinds.intersects w.kinds = true) ∧
    ∀ (options : Options) (s : Scanner), new registry options = .ok s → ∀ source : Source,
      ((s.scan? source).isSome = true ↔ source.WindowsFit options.windowWidth) ∧
      s.scan? source = s.scanExhaustively? source := by
  have hkinds : ∀ rule ∈ registry.rules, ∀ (w : Window) (hit : Hit), rule.matcher w = some hit →
      rule.kinds.intersects w.kinds = true := by
    intro rule hr w hit hm
    exact Registry.intersects_kinds_of_hit h hr hm
  refine ⟨hkinds, ?_⟩
  intro options s hs source
  obtain ⟨-, -, rfl⟩ := new_eq_ok_iff.mp hs
  exact ⟨isSome_scan?_iff, scan?_eq_scanExhaustively? hkinds source⟩

theorem prefilter_loses_nothing_internal_host :
    ∃ registry, Registry.withCustom [.internalHost] = .ok registry ∧
    (∀ rule ∈ registry.rules, ∀ (w : Window) (hit : Hit), rule.matcher w = some hit →
      rule.kinds.intersects w.kinds = true) ∧
    ∃ s, new registry { windowWidth := 3 } = .ok s ∧
      (s.scan? (.ofText ⟨"h.go"⟩ "\ndb.internal.corp")).isSome = true ∧
      s.scan? (.ofText ⟨"h.go"⟩ "\ndb.internal.corp") =
        s.scanExhaustively? (.ofText ⟨"h.go"⟩ "\ndb.internal.corp") := by
  obtain ⟨registry, h⟩ := Registry.exists_withCustom_internalHost
  have hs : new registry { windowWidth := 3 } = .ok ⟨registry, { windowWidth := 3 }⟩ :=
    new_eq_ok_iff.mpr ⟨by decide, by decide, rfl⟩
  obtain ⟨hkinds, hscan⟩ := prefilter_loses_nothing [.internalHost] registry h
  obtain ⟨hsome, heq⟩ := hscan { windowWidth := 3 } _ hs (.ofText ⟨"h.go"⟩ "\ndb.internal.corp")
  exact ⟨registry, h, hkinds, _, hs, hsome.mpr (by decide +kernel), heq⟩

end Scanner
end SourceAudit
