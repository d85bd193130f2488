import Mathlib
import SourceAudit.Command.Run
import SourceAudit.Proofs.Threshold

/-! How a scan ends. Settings that only concern how findings are shown, thinned out or cut off below the
failing level have no say in it: the same files are scanned, and the report reaches the failing level or
not whatever they are. -/
namespace SourceAudit

def ScanSettings.withFindings (s : ScanSettings) (dedupe : Bool) (least : String) : ScanSettings :=
  { s with dedupe, minSeverity := least }

namespace Settings

structure IsValid (s : Settings) (failOn least : Severity) : Prop where
  format : ∃ format, Format.parse s.output.format = .ok format
  failOn : Severity.parse s.output.failOn = .ok failOn
  least : Severity.parse s.scan.minSeverity = .ok least
  options : ∃ options, Options.ofSettings s.scan = .ok options
  rules : ∃ registry, Registry.withCustom s.custom = .ok registry

/-- The settings agree but for thinning out, the least severity, and the format, the terseness and the
length of the output. -/
def AgreesWith (s t : Settings) : Prop :=
  t = { s with
    scan := { s.scan with dedupe := t.scan.dedupe, minSeverity := t.scan.minSeverity }
    output := { s.output with
      format := t.output.format, quiet := t.output.quiet, maxResults := t.output.maxResults } }

namespace AgreesWith

variable {s t : Settings} (h : s.AgreesWith t)

include h

theorem scan_eq : t.scan = s.scan.withFindings t.scan.dedupe t.scan.minSeverity :=
  congrArg (·.scan) h

theorem effort_eq : t.effort = s.effort := congrArg (·.effort) h

theorem custom_eq : t.custom = s.custom := congrArg (·.custom) h

end AgreesWith
end Settings

namespace Options

theorem validate_of_validate {o o' : Options} (h : o.validate = .ok o') : o'.validate = .ok o' := by
  obtain ⟨hwidth, hcategories, rfl⟩ := validate_eq_ok_iff.mp h
  refine validate_eq_ok_iff.mpr ⟨hwidth, ?_, ?_⟩
  · obtain ⟨c, hc⟩ := List.exists_mem_of_ne_nil _ hcategories
    exact List.ne_nil_of_mem (Scanner.mem_ordered.mpr hc)
  · have hsame : Category.all.filter (Category.all.filter o.categories.contains).contains =
        Category.all.filter o.categories.contains := by
      apply List.filter_congr
      intro c _
      simp only [List.contains_eq_mem, Scanner.mem_ordered]
    simp only [hsame]

theorem ofSettings_eq_ok_iff {s : ScanSettings} {o : Options} :
    ofSettings s = .ok o ↔ ∃ categories,
      (if s.categories.isEmpty then pure Category.all else s.categories.mapM Category.parse) =
        .ok categories ∧
      ∃ least, Severity.parse s.minSeverity = .ok least ∧
        validate ⟨categories, s.windowWidth, least, s.dedupe, s.guardLookbehind⟩ = .ok o := by
  unfold ofSettings
  dsimp only
  split <;> simp only [bind_eq_ok_iff]

theorem minSeverity_ofSettings {s : ScanSettings} {o : Options} (h : ofSettings s = .ok o) :
    Severity.parse s.minSeverity = .ok o.minSeverity := by
  obtain ⟨categories, -, least, hleast, ho⟩ := ofSettings_eq_ok_iff.mp h
  obtain ⟨-, -, rfl⟩ := validate_eq_ok_iff.mp ho
  exact hleast

theorem windowWidth_ofSettings {s : ScanSettings} {o : Options} (h : ofSettings s = .ok o) :
    o.windowWidth = s.windowWidth := by
  obtain ⟨categories, -, least, -, ho⟩ := ofSettings_eq_ok_iff.mp h
  obtain ⟨-, -, rfl⟩ := validate_eq_ok_iff.mp ho
  rfl

theorem new_ofSettings {s : ScanSettings} {o : Options} (h : ofSettings s = .ok o)
    (registry : Registry) : Scanner.new registry o = .ok ⟨registry, o⟩ := by
  obtain ⟨_, -, _, -, ho⟩ := ofSettings_eq_ok_iff.mp h
  rw [Scanner.new, validate_of_validate ho]
  rfl

theorem ofSettings_withFindings {s : ScanSettings} {o : Options} (h : ofSettings s = .ok o)
    {name : String} {least : Severity} (hname : Severity.parse name = .ok least) (dedupe : Bool) :
    ofSettings (s.withFindings dedupe name) = .ok { o with dedupe, minSeverity := least } := by
  obtain ⟨categories, hcategories, _, -, ho⟩ := ofSettings_eq_ok_iff.mp h
  obtain ⟨hwidth, hne, rfl⟩ := validate_eq_ok_iff.mp ho
  apply ofSettings_eq_ok_iff.mpr
  exact ⟨categories, hcategories, least, hname, validate_eq_ok_iff.mpr ⟨hwidth, hne, rfl⟩⟩

end Options

namespace Walk

def Plan.withFindings (plan : Plan) (dedupe : Bool) (least : String) : Plan :=
  { plan with settings := plan.settings.withFindings dedupe least }

mutual

theorem files_withFindings (plan : Plan) (dedupe : Bool) (least : String) (levels : List Level)
    (path : Path) (depth : Nat) (tree : FileTree) :
    files (plan.withFindings dedupe least) levels path depth tree =
      files plan levels path depth tree := by
  match tree with
  | .file bytes =>
    rw [files, files]
    rfl
  | .directory entries =>
    rw [files, files, filesIn_withFindings]
    rfl

theorem filesIn_withFindings (plan : Plan) (dedupe : Bool) (least : String) (levels : List Level)
    (path : Path) (depth : Nat) (entries : List (String × FileTree)) :
    filesIn (plan.withFindings dedupe least) levels path depth entries =
      filesIn plan levels path depth entries := by
  match entries with
  | [] => rw [filesIn, filesIn]
  | (name, tree) :: more =>
    rw [filesIn, filesIn, filesIn_withFindings, files_withFindings]
    rfl

end

theorem levelsAbove_withFindings (s : ScanSettings) (dedupe : Bool) (least : String)
    (names : List String) (tree : FileTree) (more : List String) :
    levelsAbove (s.withFindings dedupe least) names tree more = levelsAbove s names tree more := by
  induction more generalizing names tree with
  | nil => rfl
  | cons name more ih =>
    rw [levelsAbove, levelsAbove, ih]
    rfl

theorem paths_eq_of_agreesWith {s t : Settings} (h : s.AgreesWith t) (fs : FileSystem)
    (root : Path) : paths fs t root = paths fs s root := by
  unfold paths
  cases fs.resolve root with
  | error => rfl
  | ok place =>
    dsimp only
    rw [h.scan_eq, h.effort_eq, levelsAbove_withFindings]
    split
    · rfl
    · let plan : Plan :=
        ⟨s.scan, exclusions s.scan root.text, root.text, fullText place.names, s.effort.maxDepth⟩
      exact congrArg (List.mergeSort · _)
        (files_withFindings plan t.scan.dedupe t.scan.minSeverity _ _ _ _)

end Walk

namespace Command

def WindowsFit (fs : FileSystem) (s : Settings) (path : String) : Prop :=
  ∀ p ∈ (Walk.paths fs s ⟨path⟩).map Path.withoutHere, fs.WindowsFit p s.scan.windowWidth

def reportOf? (fs : FileSystem) (s : Settings) (registry : Registry) (options : Options)
    (path : String) : Option Report :=
  Scanner.scanPaths? ⟨registry, options⟩ fs ((Walk.paths fs s ⟨path⟩).map Path.withoutHere) false

theorem isSome_reportOf?_iff {s : Settings} {options : Options}
    (hoptions : Options.ofSettings s.scan = .ok options) (fs : FileSystem) (registry : Registry)
    (path : String) :
    (reportOf? fs s registry options path).isSome = true ↔ WindowsFit fs s path := by
  rw [reportOf?, Scanner.isSome_scanPaths?_iff, Options.windowWidth_ofSettings hoptions, WindowsFit]

/-- Accepted settings leave only two ways to fail, a path that leads nowhere and a window that cannot be
formed. -/
theorem runScan_eq {s : Settings} {format : Format} {failOn : Severity} {options : Options}
    {registry : Registry} (hformat : Format.parse s.output.format = .ok format)
    (hfailOn : Severity.parse s.output.failOn = .ok failOn)
    (hoptions : Options.ofSettings s.scan = .ok options)
    (hrules : Registry.withCustom s.custom = .ok registry) (fs : FileSystem) (colors : Bool)
    (path : String) :
    runScan fs s colors path =
      match fs.resolve ⟨path⟩, reportOf? fs s registry options path with
      | .error e, _ => .error (.file e)
      | .ok _, none => .error .crash
      | .ok _, some report =>
        let view : Console.View :=
          { quiet := s.output.quiet, maxResults := s.output.maxResults, colors }
        .ok ⟨report.reaches failOn, report.render registry view format⟩ := by
  have hnew := Options.new_ofSettings hoptions registry
  unfold runScan scanTree
  rw [hformat, hfailOn, hoptions, hrules]
  cases fs.resolve ⟨path⟩ with
  | error e => rfl
  | ok place =>
    simp only [orFail, bind, Except.bind, hnew, reportOf?]
    cases Scanner.scanPaths? ⟨registry, options⟩ fs ((Walk.paths fs s ⟨path⟩).map Path.withoutHere)
      false <;> rfl

theorem reaches_reportOf?_eq {s t : Settings} (hagree : s.AgreesWith t) {failOn least : Severity}
    {options : Options} (hle : options.minSeverity ≤ failOn) (hle' : least ≤ failOn) (dedupe : Bool)
    (fs : FileSystem) (registry : Registry) (path : String) :
    (reportOf? fs t registry { options with dedupe, minSeverity := least } path).map
        (·.reaches failOn) =
      (reportOf? fs s registry options path).map (·.reaches failOn) := by
  unfold reportOf?
  rw [Walk.paths_eq_of_agreesWith hagree]
  apply Scanner.reaches_scanPaths?_eq
  have hsame : Scanner.SameSearch ⟨registry, options⟩
      ⟨registry, { options with dedupe, minSeverity := least }⟩ := rfl
  exact hsame.reached_scan?_eq hle hle'

end Command
end SourceAudit
