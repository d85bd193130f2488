import SourceAudit.Proofs.Anchoring
import SourceAudit.Proofs.EmptyMatch
import SourceAudit.Proofs.Survivors

/-! Findings of one category on one span. With overlapping findings thinned out there is at most one of
them, unless the span is empty: an empty span does not overlap itself, so there the thinning never chooses
between two findings. Only a declared pattern that may match the empty text finds an empty span. -/
namespace SourceAudit

namespace Finding

def isOn (category : Category) (span : Span) (f : Finding) : Bool :=
  decide (f.category = category ∧ f.span = span)

theorem clashes_self (f : Finding) : f.clashes f = decide (f.span.start < f.span.stop) := by
  simp [clashes, Path.same, Span.overlaps]

section

variable {fs : List Finding} {path : Path} (hpath : ∀ f ∈ fs, f.path = path) {category : Category}
  {span : Span}

include hpath

theorem clashes_eq_of_isOn {f g : Finding} (hf : f ∈ fs) (hg : g ∈ fs)
    (hfOn : f.isOn category span = true) (hgOn : g.isOn category span = true) (k : Finding) :
    k.clashes f = k.clashes g := by
  obtain ⟨hcategory, hspan⟩ := of_decide_eq_true hfOn
  obtain ⟨hcategory', hspan'⟩ := of_decide_eq_true hgOn
  simp only [clashes, hpath f hf, hpath g hg, hcategory, hcategory', hspan, hspan']

theorem length_filter_isOn_le_one (hspan : span.start < span.stop) :
    ((dedupe fs).filter (isOn category span)).length ≤ 1 := by
  have hclash : ∀ f ∈ (dedupe fs).filter (isOn category span),
      ∀ g ∈ (dedupe fs).filter (isOn category span), f.clashes g = true := by
    intro f hf g hg
    obtain ⟨hf, hfOn⟩ := List.mem_filter.mp hf
    obtain ⟨hg, hgOn⟩ := List.mem_filter.mp hg
    rw [clashes_eq_of_isOn hpath (mem_of_mem_dedupe hg) (mem_of_mem_dedupe hf) hgOn hfOn, clashes_self,
      (of_decide_eq_true hfOn).2]
    exact decide_eq_true hspan
  have hpairwise := (pairwise_dedupe fs).sublist (List.filter_sublist (p := isOn category span))
  generalize (dedupe fs).filter (isOn category span) = kept at hclash hpairwise ⊢
  cases kept with
  | nil => simp
  | cons f rest =>
    cases rest with
    | nil => simp
    | cons g rest =>
      have hnot := List.rel_of_pairwise_cons hpairwise List.mem_cons_self
      rw [hclash f (by simp) g (by simp)] at hnot
      cases hnot

/-- On an empty span a finding that is kept keeps all others of its category: whatever stood in their way
would stand in its own. -/
theorem perm_filter_isOn (hspan : ¬span.start < span.stop) {f : Finding} (hf : f ∈ dedupe fs)
    (hfOn : f.isOn category span = true) :
    ((dedupe fs).filter (isOn category span)).Perm (fs.filter (isOn category span)) := by
  rw [List.perm_iff_count]
  intro g
  by_cases hgOn : g.isOn category span = true
  · rw [List.count_filter hgOn, List.count_filter hgOn]
    apply Nat.le_antisymm ((dedupe_subperm fs).count_le g)
    apply Nat.le_of_not_lt
    intro hlt
    obtain ⟨k, hk, hclash, -⟩ := exists_clash_of_count_lt hlt
    have hg : g ∈ fs := List.count_pos_iff.mp (Nat.zero_lt_of_lt hlt)
    rw [clashes_eq_of_isOn hpath hg (mem_of_mem_dedupe hf) hgOn hfOn] at hclash
    have hne : k ≠ f := by
      rintro rfl
      rw [clashes_self, (of_decide_eq_true hfOn).2] at hclash
      exact hspan (of_decide_eq_true hclash)
    rw [not_clashes_of_mem_dedupe hk hf hne] at hclash
    cases hclash
  · have hnone (l : List Finding) : (l.filter (isOn category span)).count g = 0 :=
      List.count_eq_zero_of_not_mem fun hmem => hgOn (List.mem_filter.mp hmem).2
    rw [hnone, hnone]

end
end Finding

def CustomRule.mayMatchEmpty (c : CustomRule) : Bool :=
  (Regex.parse? c.pattern c.caseInsensitive).any Regex.mayBeEmpty

namespace Scanner

theorem exists_mayMatchEmpty_of_hit {custom : List CustomRule} {s : Scanner}
    (hs : Registry.withCustom custom = .ok s.registry) {source : Source} {ws : List Window}
    (hws : s.windows? source = some ws) {rule : Rule} (hr : rule ∈ s.registry.rules) {w : Window}
    (hw : w ∈ ws) {hit : Hit} (hm : rule.matcher w = some hit) (hempty : ¬hit.span.start < hit.span.stop) :
    ∃ c ∈ custom, rule.id = trim c.id ∧ c.mayMatchEmpty = true := by
  obtain hbuiltin | ⟨c, hc, hcompile⟩ := Registry.declared_of_mem_rules hs rule hr
  · obtain ⟨f, hf, hspan, -⟩ := Registry.pointsAtFragment_builtin hbuiltin w hit hm
    rw [hspan] at hempty
    exact absurd (stands_of_mem_head hws hw hf).start_lt_stop hempty
  · obtain ⟨-, _, _, regex, -, -, hregex, rfl⟩ := CustomRule.compile_eq_ok_iff.mp hcompile
    refine ⟨c, hc, rfl, ?_⟩
    rw [CustomRule.mayMatchEmpty, hregex, Option.any_some]
    obtain ⟨⟨start, stop⟩, hfind, rfl⟩ := Option.map_eq_some_iff.mp hm
    by_contra hnever
    have hlt := Pattern.start_lt_stop_of_find? (Bool.eq_false_iff.mpr hnever) hfind
    dsimp only at hempty
    omega

theorem exists_mayMatchEmpty_of_mem_found {custom : List CustomRule} {s : Scanner}
    (hs : Registry.withCustom custom = .ok s.registry) {source : Source} {ws : List Window}
    (hws : s.windows? source = some ws) {f : Finding} (hf : f ∈ s.found ws)
    (hempty : ¬f.span.start < f.span.stop) :
    f.span.start = f.span.stop ∧ ∃ c ∈ custom, f.ruleId = trim c.id ∧ c.mayMatchEmpty = true := by
  obtain ⟨w, hw, rule, hr, hit, hm, rfl⟩ := exists_hit_of_mem_found hf
  have hrule := (List.mem_filter.mp hr).1
  have hle := (staysIn_of_hit hs hws hrule hw hm).start_le_stop
  exact ⟨Nat.le_antisymm hle (Nat.le_of_not_lt hempty),
    exists_mayMatchEmpty_of_hit hs hws hrule hw hm hempty⟩

/-- With overlapping findings thinned out a category has at most one finding on a span, or else the span is
empty. Then all that was found there is kept, and it was found by declared patterns that may match the
empty text. A scan comes to findings unless a window cannot be formed. -/
theorem one_finding_per_span (custom : List CustomRule) (registry : Registry)
    (h : Registry.withCustom custom = .ok registry) (options : Options) (hdedupe : options.dedupe = true)
    (s : Scanner) (hs : new registry options = .ok s) (source : Source) :
    ((s.scan? source).isSome = true ↔ source.WindowsFit options.windowWidth) ∧
    ∀ o, s.scan? source = some o → ∃ ws, s.windows? source = some ws ∧
      ∀ (category : Category) (span : Span),
        (o.findings.filter (Finding.isOn category span)).length ≤ 1 ∨
        span.start = span.stop ∧
        (o.findings.filter (Finding.isOn category span)).Perm
          ((s.found ws).filter (Finding.isOn category span)) ∧
        ∀ f ∈ o.findings.filter (Finding.isOn category span), ∃ c ∈ custom,
          f.ruleId = trim c.id ∧ c.mayMatchEmpty = true := by
  obtain rfl := registry_of_new hs
  refine ⟨by rw [isSome_scan?_iff, windowWidth_of_new hs], ?_⟩
  intro o ho
  obtain ⟨ws, hws, rfl⟩ := scan?_eq_some_iff.mp ho
  refine ⟨ws, hws, ?_⟩
  intro category span
  have hdedupe : s.options.dedupe = true := by
    obtain ⟨-, -, hoptions⟩ := new_eq_ok_iff.mp hs
    rw [hoptions, hdedupe]
  rw [findings_outcome, if_pos hdedupe]
  by_cases hfilled : span.start < span.stop
  · left
    exact Finding.length_filter_isOn_le_one (fun _ => path_of_mem_found hws) hfilled
  cases hsome : (Finding.dedupe (s.found ws)).filter (Finding.isOn category span) with
  | nil => exact .inl (Nat.zero_le 1)
  | cons f rest =>
    right
    rw [← hsome]
    have hempty : ∀ g ∈ (Finding.dedupe (s.found ws)).filter (Finding.isOn category span),
        span.start = span.stop ∧ ∃ c ∈ custom, g.ruleId = trim c.id ∧ c.mayMatchEmpty = true := by
      intro g hg
      obtain ⟨hmem, hgOn⟩ := List.mem_filter.mp hg
      obtain ⟨-, rfl⟩ := of_decide_eq_true hgOn
      exact exists_mayMatchEmpty_of_mem_found h hws (Finding.mem_of_mem_dedupe hmem) hfilled
    have hf : f ∈ (Finding.dedupe (s.found ws)).filter (Finding.isOn category span) := by
      simp [hsome]
    refine ⟨(hempty f hf).1, ?_, fun g hg => (hempty g hg).2⟩
    obtain ⟨hmem, hfOn⟩ := List.mem_filter.mp hf
    exact Finding.perm_filter_isOn (fun _ => path_of_mem_found hws) hfilled hmem hfOn

theorem one_finding_per_span_one_host :
    ∃ registry, Registry.withCustom [.ofPattern "a" "high" "x", .ofPattern "b" "low" "x"] =
      .ok registry ∧
    ∃ s, new registry { dedupe := true } = .ok s ∧
    ∃ ws o, s.windows? (.ofText ⟨"h.go"⟩ "x") = some ws ∧
      s.scan? (.ofText ⟨"h.go"⟩ "x") = some o ∧
      ((s.found ws).filter (Finding.isOn .ssrf ⟨0, 1⟩)).length = 2 ∧
      (o.findings.filter (Finding.isOn .ssrf ⟨0, 1⟩)).length ≤ 1 := by
  have hrun : (Registry.withCustom [.ofPattern "a" "high" "x", .ofPattern "b" "low" "x"]).toOption.map
      (fun r => (windows? ⟨r, {}⟩ (.ofText ⟨"h.go"⟩ "x")).map fun ws =>
        ((found ⟨r, {}⟩ ws).filter (Finding.isOn .ssrf ⟨0, 1⟩)).length) =
      some (some 2) := by
    decide +kernel
  obtain ⟨registry, h, hfound⟩ := Registry.exists_withCustom_of_map hrun
  obtain ⟨ws, hws, hlength⟩ := Option.map_eq_some_iff.mp hfound
  have hs : new registry { dedupe := true } = .ok ⟨registry, {}⟩ :=
    new_eq_ok_iff.mpr ⟨by decide, by decide, rfl⟩
  have ho := scan?_eq_some_iff.mpr ⟨ws, hws, rfl⟩
  refine ⟨registry, h, _, hs, ws, _, hws, ho, hlength, ?_⟩
  obtain ⟨_, -, hspans⟩ := (one_finding_per_span _ registry h { dedupe := true } rfl _ hs
    (.ofText ⟨"h.go"⟩ "x")).2 _ ho
  obtain hone | ⟨hempty, -⟩ := hspans .ssrf ⟨0, 1⟩
  · exact hone
  · cases hempty

/-- Two patterns that match the empty text where the statement starts: both findings are kept. -/
theorem exists_two_findings_on_one_span :
    ∃ custom registry s source o, Registry.withCustom custom = .ok registry ∧
      new registry { dedupe := true } = .ok s ∧ s.scan? source = some o ∧
      (o.findings.filter (Finding.isOn .ssrf ⟨0, 0⟩)).map Finding.ruleId = ["a", "b"] := by
  have hrun : (Registry.withCustom [.ofPattern "a" "high" "x*", .ofPattern "b" "low" "y*"]).toOption.map
      (fun r => (windows? ⟨r, {}⟩ (.ofText ⟨"h.go"⟩ "f")).map fun ws =>
        let fs := found ⟨r, {}⟩ ws
        (decide (fs.Pairwise fun a b => (a.preference b).isLE = true),
          decide (fs.Pairwise fun a b => a.clashes b = false),
          (fs.filter (Finding.isOn .ssrf ⟨0, 0⟩)).map Finding.ruleId)) =
      some (some (true, true, ["a", "b"])) := by
    decide +kernel
  obtain ⟨registry, h, hfound⟩ := Registry.exists_withCustom_of_map hrun
  obtain ⟨ws, hws, hfound⟩ := Option.map_eq_some_iff.mp hfound
  obtain ⟨hsorted, hclash, hids⟩ : _ = true ∧ _ = true ∧ _ = ["a", "b"] := by
    simpa only [Prod.mk.injEq] using hfound
  have hkept := Finding.dedupe_of_sorted (of_decide_eq_true hsorted) (of_decide_eq_true hclash)
  refine ⟨_, registry, ⟨registry, {}⟩, .ofText ⟨"h.go"⟩ "f", _, h,
    new_eq_ok_iff.mpr ⟨by decide, by decide, rfl⟩, scan?_eq_some_iff.mpr ⟨ws, hws, rfl⟩, ?_⟩
  rw [findings_outcome, if_pos rfl, hkept, hids]

end Scanner
end SourceAudit
