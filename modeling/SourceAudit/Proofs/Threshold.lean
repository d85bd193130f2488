import SourceAudit.Proofs.Filtering
import SourceAudit.Scan.Files

/-! Whether a report reaches a threshold. Thinning out never drops the last finding that does, and the
rules below the threshold have no part in it, so the answer is the same for every scan that asks for the
findings from the threshold on. -/
namespace SourceAudit

def reached (threshold : Severity) (fs : List Finding) : Bool :=
  fs.any fun f => decide (threshold ≤ f.severity)

theorem reached_eq_true_iff {threshold : Severity} {fs : List Finding} :
    reached threshold fs = true ↔ fs.filter (fun f => decide (threshold ≤ f.severity)) ≠ [] := by
  simp [reached, List.filter_eq_nil_iff]

namespace Finding

theorem dedupe_eq_nil_iff {fs : List Finding} : dedupe fs = [] ↔ fs = [] := by
  constructor
  · intro h
    rw [dedupe, List.reverse_eq_nil_iff] at h
    have hsorted : (fs.mergeSort fun a b => (a.preference b).isLE) = [] := by
      cases hs : fs.mergeSort fun a b => (a.preference b).isLE with
      | nil => rfl
      | cons f rest =>
        rw [hs] at h
        exact absurd h (List.ne_nil_of_mem (mem_foldl_keep_of_mem List.mem_cons_self rest))
    have hperm := List.mergeSort_perm fs fun a b => (a.preference b).isLE
    rw [hsorted] at hperm
    exact List.nil_perm.mp hperm
  · rintro rfl
    simp [dedupe]

theorem takesPreferred_threshold (threshold : Severity) :
    TakesPreferred fun f => decide (threshold ≤ f.severity) := by
  intro a b hc hle hb
  simp only [decide_eq_true_eq] at hb ⊢
  exact Nat.le_trans hb (severity_le_of_clashes hc hle)

theorem reached_dedupe (threshold : Severity) (fs : List Finding) :
    reached threshold (dedupe fs) = reached threshold fs := by
  rw [Bool.eq_iff_iff, reached_eq_true_iff, reached_eq_true_iff,
    filter_dedupe (takesPreferred_threshold threshold), Ne, Ne, dedupe_eq_nil_iff]

end Finding

namespace Scanner

theorem admits_of_mem_found {s : Scanner} {ws : List Window} {f : Finding} (h : f ∈ s.found ws) :
    s.options.admits f = true := by
  obtain ⟨w, -, hf⟩ := List.mem_flatMap.mp h
  obtain ⟨rule, hr, hf⟩ := exists_rule_of_mem_findingsIn hf
  rw [admits_of_finding? hf]
  exact (List.mem_filter.mp hr).2

def atLeast (s : Scanner) (threshold : Severity) : Scanner :=
  ⟨s.registry, { s.options with minSeverity := threshold }⟩

theorem enables_atLeast {s : Scanner} {threshold : Severity} (h : s.options.minSeverity ≤ threshold)
    (r : Rule) : enables (s.atLeast threshold).options r = true → enables s.options r = true := by
  simp only [enables, Bool.and_eq_true, decide_eq_true_eq]
  rintro ⟨hcategory, hsevere⟩
  exact ⟨hcategory, Nat.le_trans h hsevere⟩

theorem filter_threshold_found {s : Scanner} {threshold : Severity}
    (h : s.options.minSeverity ≤ threshold) (ws : List Window) :
    (s.found ws).filter (fun f => decide (threshold ≤ f.severity)) =
      (s.atLeast threshold).found ws := by
  have hrules : (s.atLeast threshold).enabled =
      s.enabled.filter (enables (s.atLeast threshold).options) := by
    rw [enabled, enabled, List.filter_filter]
    apply List.filter_congr
    intro r _
    have := enables_atLeast h r
    cases henables : enables (s.atLeast threshold).options r <;> simp_all
  rw [← filter_found hrules]
  apply List.filter_congr
  intro f hf
  have hcategory := (Bool.and_eq_true_iff.mp (admits_of_mem_found hf)).1
  change _ = (s.options.categories.contains f.category && decide (threshold ≤ f.severity))
  rw [hcategory, Bool.true_and]

/-- Two scanners that differ at most in the least severity that they ask for and in thinning out. -/
def SameSearch (s t : Scanner) : Prop :=
  t = ⟨s.registry, { s.options with
    minSeverity := t.options.minSeverity, dedupe := t.options.dedupe }⟩

theorem SameSearch.windows?_eq {s t : Scanner} (h : s.SameSearch t) (source : Source) :
    t.windows? source = s.windows? source := by
  rw [h]
  rfl

theorem SameSearch.found_atLeast {s t : Scanner} (h : s.SameSearch t) (threshold : Severity)
    (ws : List Window) : (t.atLeast threshold).found ws = (s.atLeast threshold).found ws := by
  rw [h]
  rfl

theorem map_reached_scan? (s : Scanner) (threshold : Severity) (source : Source) :
    (s.scan? source).map (fun o => reached threshold o.findings) =
      (s.windows? source).map fun ws => reached threshold (s.found ws) := by
  rw [scan?, Option.map_map]
  congr 1
  funext ws
  rw [Function.comp_apply, findings_outcome]
  split
  · exact Finding.reached_dedupe threshold _
  · rfl

theorem SameSearch.reached_scan?_eq {s t : Scanner} {threshold : Severity} (h : s.SameSearch t)
    (hs : s.options.minSeverity ≤ threshold) (ht : t.options.minSeverity ≤ threshold)
    (source : Source) :
    (t.scan? source).map (fun o => reached threshold o.findings) =
      (s.scan? source).map fun o => reached threshold o.findings := by
  rw [map_reached_scan?, map_reached_scan?, h.windows?_eq]
  congr 1
  funext ws
  rw [Bool.eq_iff_iff, reached_eq_true_iff, reached_eq_true_iff, filter_threshold_found hs,
    filter_threshold_found ht, h.found_atLeast]

end Scanner

theorem Report.reaches_build (outcomes : List Outcome) (cancelled : Bool) (threshold : Severity) :
    (build outcomes cancelled).reaches threshold =
      outcomes.any fun o => reached threshold o.findings := by
  simp only [reaches, build]
  rw [(List.mergeSort_perm _ _).any_eq, List.any_flatMap]
  rfl

theorem Report.map_reaches_mapM (scan : Path → Option Outcome) (paths : List Path)
    (cancelled : Bool) (threshold : Severity) :
    (paths.mapM scan).map (fun os => (build os cancelled).reaches threshold) =
      (paths.mapM fun p => (scan p).map fun o => reached threshold o.findings).map (·.any id) := by
  rw [← map_mapM, Option.map_map]
  congr 1
  funext os
  rw [reaches_build, Function.comp_apply, List.any_map]
  rfl

namespace Scanner

variable {s t : Scanner} {threshold : Severity}
  (h : ∀ source, (t.scan? source).map (fun o => reached threshold o.findings) =
    (s.scan? source).map fun o => reached threshold o.findings)

include h

theorem reached_scanFile?_eq (fs : FileSystem) (path : Path) :
    (t.scanFile? fs path).map (fun o => reached threshold o.findings) =
      (s.scanFile? fs path).map fun o => reached threshold o.findings := by
  unfold scanFile? scanBytes?
  cases fs.read path with
  | error => rfl
  | ok bytes =>
    dsimp only
    cases Source.ofBytes path bytes with
    | error => rfl
    | ok source => exact h source

theorem reaches_scanPaths?_eq (fs : FileSystem) (paths : List Path) (calledOff : Bool) :
    (t.scanPaths? fs paths calledOff).map (·.reaches threshold) =
      (s.scanPaths? fs paths calledOff).map (·.reaches threshold) := by
  have hfiles := mapM_congr fun p (_ : p ∈ paths) => reached_scanFile?_eq h fs p
  unfold scanPaths?
  split
  · rfl
  · rw [Option.map_map, Option.map_map]
    calc (paths.mapM (t.scanFile? fs)).map (fun os => (Report.build os false).reaches threshold)
        = _ := Report.map_reaches_mapM (t.scanFile? fs) paths false threshold
      _ = _ := by rw [hfiles]
      _ = _ := (Report.map_reaches_mapM (s.scanFile? fs) paths false threshold).symm

end Scanner
end SourceAudit
