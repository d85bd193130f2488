import Mathlib.Data.List.Basic
import SourceAudit.Proofs.ReportOrder
import SourceAudit.Scan.Files

/-! Files that are no source text. Each adds one diagnostic to a report and nothing else: the findings and
all counts are those of the files that are source text. -/
namespace SourceAudit

theorem Report.build_filter_scanned {outcomes : List Outcome}
    (h : ∀ o ∈ outcomes, o.scanned = false → o.findings = []) (cancelled : Bool) :
    (build outcomes cancelled).findings =
        (build (outcomes.filter Outcome.scanned) cancelled).findings ∧
      (build outcomes cancelled).summary =
        (build (outcomes.filter Outcome.scanned) cancelled).summary := by
  have hfindings : (outcomes.filter Outcome.scanned).flatMap Outcome.findings =
      outcomes.flatMap Outcome.findings := by
    clear cancelled
    induction outcomes with
    | nil => rfl
    | cons o outcomes ih =>
      obtain ⟨ho, hrest⟩ := List.forall_mem_cons.mp h
      cases hs : o.scanned with
      | true => rw [List.filter_cons_of_pos hs, List.flatMap_cons, List.flatMap_cons, ih hrest]
      | false =>
        rw [List.filter_cons_of_neg (by simp [hs]), List.flatMap_cons, ho hs, List.nil_append, ih hrest]
  have hcount : (outcomes.filter Outcome.scanned).countP (!·.findings.isEmpty) =
      outcomes.countP (!·.findings.isEmpty) := by
    rw [List.countP_filter]
    apply List.countP_congr
    intro o ho
    cases hs : o.scanned with
    | true => simp
    | false => simp [h o ho hs]
  simp only [build, hfindings, hcount, List.filter_filter, Bool.and_self, and_self]

def rejection? (path : Path) (bytes : ByteArray) : Option Diagnostic :=
  match Source.ofBytes path bytes with
  | .ok _ => none
  | .error m => some (.ofMalformed path m)

theorem path_of_rejection? {path : Path} {bytes : ByteArray} {d : Diagnostic}
    (h : rejection? path bytes = some d) : d.path = path := by
  unfold rejection? at h
  split at h
  · cases h
  · cases h
    rfl

namespace Scanner

def reportOnFiles? (s : Scanner) (files : List (Path × ByteArray)) (cancelled : Bool) :
    Option Report :=
  (files.mapM fun f => s.scanBytes? f.1 f.2).map (Report.build · cancelled)

theorem scanned_of_scan? {s : Scanner} {source : Source} {o : Outcome} (h : s.scan? source = some o) :
    o.scanned = true := by
  obtain ⟨ws, -, rfl⟩ := scan?_eq_some_iff.mp h
  rfl

theorem scanBytes?_cases {s : Scanner} {path : Path} {bytes : ByteArray} {o : Outcome}
    (h : s.scanBytes? path bytes = some o) :
    (∃ source, Source.ofBytes path bytes = .ok source ∧ s.scan? source = some o) ∨
      ∃ m, Source.ofBytes path bytes = .error m ∧ o = .unreadable path (.ofMalformed path m) := by
  unfold scanBytes? at h
  split at h
  next source hok => exact .inl ⟨source, hok, h⟩
  next m hrejected =>
    cases h
    exact .inr ⟨m, hrejected, rfl⟩

theorem findings_of_unscanned {s : Scanner} {path : Path} {bytes : ByteArray} {o : Outcome}
    (h : s.scanBytes? path bytes = some o) (hscanned : o.scanned = false) : o.findings = [] := by
  obtain ⟨source, -, ho⟩ | ⟨m, -, rfl⟩ := scanBytes?_cases h
  · rw [scanned_of_scan? ho] at hscanned
    cases hscanned
  · rfl

theorem filter_scanned_scanBytes? (s : Scanner) (files : List (Path × ByteArray)) :
    (files.filterMap fun f => s.scanBytes? f.1 f.2).filter Outcome.scanned =
      (files.filterMap fun f => (Source.ofBytes f.1 f.2).toOption).filterMap s.scan? := by
  rw [List.filter_filterMap, List.filterMap_filterMap]
  congr 1
  funext f
  cases hf : Source.ofBytes f.1 f.2 with
  | error m =>
    simp only [scanBytes?, hf]
    rfl
  | ok source =>
    simp only [scanBytes?, hf, Except.toOption, Option.bind_some]
    cases ho : s.scan? source with
    | none => rfl
    | some o => simp [Option.filter, scanned_of_scan? ho]

theorem diagnostics_scanBytes? {custom : List CustomRule} {s : Scanner}
    (hs : Registry.withCustom custom = .ok s.registry) (files : List (Path × ByteArray)) :
    (files.filterMap fun f => s.scanBytes? f.1 f.2).flatMap Outcome.diagnostics =
      files.filterMap fun f => rejection? f.1 f.2 := by
  rw [List.filterMap_eq_flatMap_toList, List.filterMap_eq_flatMap_toList, List.flatMap_assoc]
  congr 1
  funext f
  unfold scanBytes? rejection?
  cases Source.ofBytes f.1 f.2 with
  | error m => rfl
  | ok source =>
    dsimp only
    cases ho : s.scan? source with
    | none => rfl
    | some o => simp [diagnostics_scan?_eq_nil hs ho]

theorem isSome_reportOnFiles?_iff {s : Scanner} {files : List (Path × ByteArray)} {cancelled : Bool} :
    (s.reportOnFiles? files cancelled).isSome = true ↔
      ∀ source ∈ files.filterMap fun f => (Source.ofBytes f.1 f.2).toOption,
        source.WindowsFit s.options.windowWidth := by
  simp only [reportOnFiles?, Option.isSome_map, isSome_mapM_iff, isSome_scanBytes?_iff,
    List.mem_filterMap]
  constructor
  · rintro h source ⟨f, hf, hok⟩
    refine h f hf source ?_
    cases hbytes : Source.ofBytes f.1 f.2 <;> simp_all [Except.toOption]
  · intro h f hf source hok
    exact h source ⟨f, hf, by rw [hok]; rfl⟩

theorem mergeSort_rejections {files : List (Path × ByteArray)}
    (hpaths : files.Pairwise fun a b => a.1.same b.1 = false) :
    ((files.filterMap fun f => rejection? f.1 f.2).mergeSort fun a b => (a.order b).isLE) =
      (files.mergeSort fun a b => (a.1.compare b.1).isLE).filterMap fun f => rejection? f.1 f.2 := by
  have := transCmp_comap (Prod.fst : Path × ByteArray → Path) Path.compare
  have hdifferent : NoTies (fun a b : Path × ByteArray => a.1.compare b.1) files := by
    apply hpaths.imp
    intro a b hne heq
    rw [Path.compare_eq_iff_same.mp heq] at hne
    cases hne
  have hties : NoTies Diagnostic.order (files.filterMap fun f => rejection? f.1 f.2) := by
    apply List.pairwise_filterMap.mpr
    apply hpaths.imp
    intro a b hne d hd e he heq
    have hsame := (Diagnostic.of_order_eq heq).1
    rw [path_of_rejection? hd, path_of_rejection? he, hne] at hsame
    cases hsame
  have hperm := (List.mergeSort_perm files fun a b => (a.1.compare b.1).isLE).symm
  rw [hties.mergeSort_eq_of_perm (hperm.filterMap _)]
  apply List.mergeSort_of_pairwise
  apply List.pairwise_filterMap.mpr
  apply hdifferent.pairwise_lt_mergeSort.imp
  intro a b hlt d hd e he
  rw [← path_of_rejection? hd, ← path_of_rejection? he] at hlt
  rw [Diagnostic.order, hlt]
  rfl

def mixedFiles : List (Path × ByteArray) :=
  [(⟨"c.go"⟩, ⟨#[0, 97]⟩), (⟨"a.go"⟩, "internal.corp".toUTF8), (⟨"b.go"⟩, ⟨#[97, 0xff]⟩)]

end Scanner
end SourceAudit
