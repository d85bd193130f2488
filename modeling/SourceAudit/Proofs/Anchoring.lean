import SourceAudit.Proofs.Dedupe
import SourceAudit.Proofs.Matcher
import SourceAudit.Proofs.Registry
import SourceAudit.Proofs.Searching
import SourceAudit.Proofs.Slicing
import SourceAudit.Proofs.Windows

/-! Where findings stand. A rule fires only inside the head of its window, so a scan has nothing to
complain of, and each finding names the line and column of the first fragment of its statement. -/
namespace SourceAudit

structure Hit.StaysIn (hit : Hit) (w : Window) : Prop where
  head_start_le : w.headSpan.start ≤ hit.span.start
  start_le_stop : hit.span.start ≤ hit.span.stop
  stop_le_head_stop : hit.span.stop ≤ w.headSpan.stop

/-- The finding lies in the head of the window and names the place of the head's first fragment: the line
is one more than the line breaks before that place, the column one more than the characters since the
last of them. -/
structure Finding.IsAnchored (f : Finding) (w : Window) : Prop where
  place : ∃ before after, w.source.text.toList = before ++ after ∧
    w.anchor.span.start = utf8Length before ∧
    f.line = 1 + before.count '\n' ∧
    f.column = 1 + (before.reverse.takeWhile (· ≠ '\n')).length
  anchor_start_le : w.anchor.span.start ≤ f.span.start
  start_le_stop : f.span.start ≤ f.span.stop
  stop_le_head_stop : f.span.stop ≤ w.headSpan.stop
  head_stop_le_size : w.headSpan.stop ≤ w.source.size

namespace Scanner

section Head

variable {s : Scanner} {source : Source} {ws : List Window} (hws : s.windows? source = some ws)
  {w : Window}

include hws

theorem isBorder_start_headSpan (hw : w ∈ ws) :
    IsBorder source.text.toList w.headSpan.start := by
  rw [start_headSpan hws hw]
  exact (stands_of_mem_head hws hw w.anchor_mem_head).isIn.isBorder

theorem isBorder_stop_headSpan (hw : w ∈ ws) :
    IsBorder source.text.toList w.headSpan.stop := by
  obtain ⟨f, hf, hstop⟩ := w.isHull_headSpan.stop_eq
  rw [hstop]
  exact (stands_of_mem_head hws hw hf).isBorder_stop

theorem start_lt_stop_headSpan (hw : w ∈ ws) :
    w.headSpan.start < w.headSpan.stop :=
  calc w.headSpan.start
      = w.anchor.span.start := start_headSpan hws hw
    _ < w.anchor.span.stop := (stands_of_mem_head hws hw w.anchor_mem_head).start_lt_stop
    _ ≤ w.headSpan.stop := w.isHull_headSpan.le_stop w.anchor w.anchor_mem_head

theorem stop_headSpan_le_size (hw : w ∈ ws) : w.headSpan.stop ≤ source.size := by
  have hle := (isBorder_stop_headSpan hws hw).le_utf8Length
  rwa [utf8Length_toList] at hle

theorem utf8ByteSize_headText (hw : w ∈ ws) :
    w.headText.utf8ByteSize = w.headSpan.stop - w.headSpan.start := by
  rw [Window.headText, source_of_mem_windows? hws hw]
  exact Source.utf8ByteSize_slice (isBorder_start_headSpan hws hw) (isBorder_stop_headSpan hws hw)
    (Nat.le_of_lt (start_lt_stop_headSpan hws hw))

theorem staysIn_of_coversFragment {hit : Hit} {kinds : FragmentKinds} (hw : w ∈ ws)
    (h : hit.CoversFragment w kinds) : hit.StaysIn w := by
  obtain ⟨f, hf, hspan, -⟩ := h
  constructor <;> rw [hspan]
  · exact w.isHull_headSpan.start_le f hf
  · exact Nat.le_of_lt (stands_of_mem_head hws hw hf).start_lt_stop
  · exact w.isHull_headSpan.le_stop f hf

theorem staysIn_of_patternMatcher {hit : Hit} {p : Pattern} (hw : w ∈ ws)
    (h : patternMatcher p w = some hit) : hit.StaysIn w := by
  obtain ⟨⟨start, stop⟩, hfind, rfl⟩ := Option.map_eq_some_iff.mp h
  -- a match is counted from the start of the head's text, which is as long as the head
  obtain ⟨hle, hstop⟩ := Pattern.find?_bounds hfind
  rw [utf8ByteSize_headText hws hw] at hstop
  have hhead := start_lt_stop_headSpan hws hw
  constructor <;> dsimp only <;> omega

end Head

section Registered

variable {custom : List CustomRule} {s : Scanner} (hs : Registry.withCustom custom = .ok s.registry)
  {source : Source} {ws : List Window} (hws : s.windows? source = some ws)

include hs hws

theorem staysIn_of_hit {rule : Rule} (hr : rule ∈ s.registry.rules) {w : Window} (hw : w ∈ ws)
    {hit : Hit} (hm : rule.matcher w = some hit) : hit.StaysIn w := by
  obtain hbuiltin | ⟨-, p, hp⟩ := Registry.mem_rules_withCustom hs rule hr
  · exact staysIn_of_coversFragment hws hw (Registry.pointsAtFragment_builtin hbuiltin w hit hm)
  · rw [hp] at hm
    exact staysIn_of_patternMatcher hws hw hm

theorem diagnostics_outcome_eq_nil :
    (s.outcome source (ws.flatMap (verdicts s.enabled))).diagnostics = [] := by
  rw [diagnostics_outcome, List.flatMap_eq_nil_iff]
  intro w hw
  rw [List.filterMap_eq_nil_iff]
  intro v hv
  obtain ⟨rule, hr, rfl⟩ := List.mem_map.mp hv
  apply Option.eq_none_iff_forall_ne_some.mpr
  intro d hd
  obtain ⟨hit, hm, hout⟩ := exists_hit_of_diagnostic?_judge hd
  have hrule : rule ∈ s.registry.rules := (List.mem_filter.mp (List.mem_filter.mp hr).1).1
  have hstays := staysIn_of_hit hs hws hrule hw hm
  have hstart := hstays.head_start_le
  have hstop := hstays.stop_le_head_stop
  omega

end Registered

theorem diagnostics_scan?_eq_nil {custom : List CustomRule} {s : Scanner} {source : Source}
    {o : Outcome} (hs : Registry.withCustom custom = .ok s.registry)
    (h : s.scan? source = some o) : o.diagnostics = [] := by
  obtain ⟨ws, hws, rfl⟩ := scan?_eq_some_iff.mp h
  exact diagnostics_outcome_eq_nil hs hws

theorem mem_found_of_mem_findings {s : Scanner} {source : Source} {ws : List Window} {f : Finding}
    (h : f ∈ (s.outcome source (ws.flatMap (verdicts s.enabled))).findings) : f ∈ s.found ws := by
  rw [findings_outcome] at h
  split at h
  · exact Finding.mem_of_mem_dedupe h
  · exact h

theorem exists_hit_of_mem_found {s : Scanner} {ws : List Window} {f : Finding} (h : f ∈ s.found ws) :
    ∃ w ∈ ws, ∃ rule ∈ s.enabled, ∃ hit,
      rule.matcher w = some hit ∧ f = .ofHit rule w hit := by
  obtain ⟨w, hw, hf⟩ := List.mem_flatMap.mp h
  obtain ⟨rule, hr, hf⟩ := exists_rule_of_mem_findingsIn hf
  obtain ⟨hit, hm, -, -, rfl⟩ := finding?_judge_eq_some.mp hf
  exact ⟨w, hw, rule, hr, hit, hm, rfl⟩

theorem path_of_mem_found {s : Scanner} {source : Source} {ws : List Window}
    (hws : s.windows? source = some ws) {f : Finding} (h : f ∈ s.found ws) :
    f.path = source.path := by
  obtain ⟨w, hw, rule, -, hit, -, rfl⟩ := exists_hit_of_mem_found h
  exact congrArg Source.path (source_of_mem_windows? hws hw)

theorem isAnchored_ofHit {s : Scanner} {source : Source} {ws : List Window}
    (hws : s.windows? source = some ws) {w : Window} (hw : w ∈ ws) {hit : Hit}
    (hstays : hit.StaysIn w) (rule : Rule) : (Finding.ofHit rule w hit).IsAnchored w where
  place := by
    rw [source_of_mem_windows? hws hw]
    exact Position.isIn_iff.mp (stands_of_mem_head hws hw w.anchor_mem_head).isIn
  anchor_start_le := by
    rw [← start_headSpan hws hw]
    exact hstays.head_start_le
  start_le_stop := hstays.start_le_stop
  stop_le_head_stop := hstays.stop_le_head_stop
  head_stop_le_size := by
    rw [source_of_mem_windows? hws hw]
    exact stop_headSpan_le_size hws hw

/-- With any declared rules and options, a scan comes to an outcome unless a window cannot be formed. The
outcome complains of no rule, and each of its findings comes from a rule that fired on the window of some
statement and is anchored in that window. -/
theorem findings_anchored_in_head (custom : List CustomRule) (registry : Registry)
    (h : Registry.withCustom custom = .ok registry) (options : Options) (s : Scanner)
    (hs : new registry options = .ok s) (source : Source) :
    ((s.scan? source).isSome = true ↔ source.WindowsFit options.windowWidth) ∧
    ∀ o, s.scan? source = some o →
      o.diagnostics = [] ∧
      ∀ f ∈ o.findings, ∃ index w,
        source.windowAt? options.windowWidth options.guardLookbehind index = some w ∧
        w.source = source ∧
        (∃ rule ∈ s.enabled, ∃ hit, rule.matcher w = some hit ∧ f = .ofHit rule w hit) ∧
        f.IsAnchored w := by
  obtain ⟨-, -, rfl⟩ := new_eq_ok_iff.mp hs
  refine ⟨isSome_scan?_iff, ?_⟩
  intro o ho
  refine ⟨diagnostics_scan?_eq_nil h ho, ?_⟩
  intro f hf
  obtain ⟨ws, hws, rfl⟩ := scan?_eq_some_iff.mp ho
  obtain ⟨w, hw, rule, hr, hit, hm, rfl⟩ := exists_hit_of_mem_found (mem_found_of_mem_findings hf)
  obtain ⟨index, hat⟩ := Source.exists_windowAt?_of_mem hws hw
  have hstays := staysIn_of_hit h hws (List.mem_filter.mp hr).1 hw hm
  exact ⟨index, w, hat, source_of_mem_windows? hws hw, ⟨rule, hr, hit, hm, rfl⟩,
    isAnchored_ofHit hws hw hstays rule⟩

theorem findings_anchored_in_head_internal_host :
    ∃ registry, Registry.withCustom [.internalHost] = .ok registry ∧
    ∃ s, new registry {} = .ok s ∧
    ∃ o, s.scan? (.ofText ⟨"h.go"⟩ "\ndb.internal.corp") = some o ∧ o.diagnostics = [] ∧
    ∃ f ∈ o.findings, (f.line, f.column, f.span) = (2, 1, ⟨4, 17⟩) ∧ ∃ w, f.IsAnchored w := by
  obtain ⟨registry, h⟩ := Registry.exists_withCustom_internalHost
  have hs := new_default registry
  have hscan : (Registry.withCustom [.internalHost]).toOption.bind (fun r =>
      (scan? ⟨r, {}⟩ (.ofText ⟨"h.go"⟩ "\ndb.internal.corp")).map fun o => o.findings.map fun f =>
        (f.line, f.column, f.span)) = some [(2, 1, ⟨4, 17⟩)] := by
    decide +kernel
  rw [h] at hscan
  obtain ⟨o, ho, hplaces⟩ := Option.map_eq_some_iff.mp hscan
  obtain ⟨f, hf, hplace⟩ := List.mem_map.mp (hplaces ▸ List.mem_singleton_self _)
  obtain ⟨-, hout⟩ := findings_anchored_in_head [.internalHost] registry h {} _ hs
    (.ofText ⟨"h.go"⟩ "\ndb.internal.corp")
  obtain ⟨hnone, hanchored⟩ := hout o ho
  obtain ⟨-, w, -, -, -, hw⟩ := hanchored f hf
  exact ⟨registry, h, _, hs, o, ho, hnone, f, hf, hplace, w, hw⟩

end Scanner
end SourceAudit
