import Mathlib.Data.List.Pairwise
import SourceAudit.Proofs.Anchoring

/-! The order of a report. No two findings of a report compare equal: a rule fires at most once on a
statement, rules have different ids, and statements start in different places. So the report does not
depend on the order in which the files were scanned. -/
namespace SourceAudit

open Std

/-- Sorting gives one answer for all orders if only equal elements tie. -/
theorem mergeSort_eq_of_perm_of_ties {cmp : α → α → Ordering} [TransCmp cmp] {l l' : List α}
    (hties : ∀ a ∈ l, ∀ b ∈ l, cmp a b = .eq → a = b) (hperm : l.Perm l') :
    (l.mergeSort fun a b => (cmp a b).isLE) = l'.mergeSort fun a b => (cmp a b).isLE := by
  have hsorted (l : List α) :
      (l.mergeSort fun a b => (cmp a b).isLE).Pairwise fun a b => (cmp a b).isLE = true :=
    List.pairwise_mergeSort (fun _ _ _ => TransCmp.isLE_trans) (isLE_total cmp) l
  apply List.Perm.eq_of_pairwise _ (hsorted l) (hsorted l')
  · exact (List.mergeSort_perm l _).trans (hperm.trans (List.mergeSort_perm l' _).symm)
  · intro a b ha hb hab hba
    apply hties a (List.mem_mergeSort.mp ha) b (hperm.mem_iff.mpr (List.mem_mergeSort.mp hb))
    exact OrientedCmp.isLE_antisymm hab hba

def NoTies (cmp : α → α → Ordering) (l : List α) : Prop := l.Pairwise fun a b => cmp a b ≠ .eq

namespace NoTies

variable {cmp : α → α → Ordering} [TransCmp cmp] {l l' : List α}

theorem of_perm (h : NoTies cmp l) (hperm : l.Perm l') : NoTies cmp l' := by
  apply hperm.pairwise h
  intro a b hab hba
  exact hab (OrientedCmp.eq_symm hba)

theorem pairwise_lt_mergeSort (h : NoTies cmp l) :
    (l.mergeSort fun a b => (cmp a b).isLE).Pairwise fun a b => cmp a b = .lt := by
  have hle : (l.mergeSort fun a b => (cmp a b).isLE).Pairwise fun a b => (cmp a b).isLE = true :=
    List.pairwise_mergeSort (fun _ _ _ => TransCmp.isLE_trans) (isLE_total cmp) l
  have hne : NoTies cmp (l.mergeSort fun a b => (cmp a b).isLE) :=
    h.of_perm (List.mergeSort_perm l _).symm
  apply (hle.and hne).imp
  rintro a b ⟨hle, hne⟩
  cases hab : cmp a b with
  | lt => rfl
  | eq => exact absurd hab hne
  | gt =>
    rw [hab] at hle
    cases hle

theorem eq_of_mem (h : NoTies cmp l) {a b : α} (ha : a ∈ l) (hb : b ∈ l) (hab : cmp a b = .eq) :
    a = b := by
  have : Std.Symm fun a b => cmp a b ≠ .eq := ⟨fun _ _ hne heq => hne (OrientedCmp.eq_symm heq)⟩
  by_contra hne
  exact List.Pairwise.forall h ha hb hne hab

theorem mergeSort_eq_of_perm (h : NoTies cmp l) (hperm : l.Perm l') :
    (l.mergeSort fun a b => (cmp a b).isLE) = l'.mergeSort fun a b => (cmp a b).isLE :=
  mergeSort_eq_of_perm_of_ties (fun _ ha _ hb => h.eq_of_mem ha hb) hperm

end NoTies

theorem sum_eq_of_perm {xs ys : List UInt64} (h : xs.Perm ys) :
    xs.foldr (· + ·) 0 = ys.foldr (· + ·) 0 := by
  apply h.foldr_eq'
  intro a _ b _ c
  rw [← UInt64.add_assoc, ← UInt64.add_assoc, UInt64.add_comm b a]

theorem Finding.of_reportOrder_eq {a b : Finding} (h : a.reportOrder b = .eq) :
    a.path.same b.path = true ∧ a.line = b.line ∧ a.column = b.column ∧ a.ruleId = b.ruleId := by
  simp only [reportOrder, Ordering.then_eq_eq, LawfulEqCmp.compare_eq_iff_eq,
    Path.compare_eq_iff_same] at h
  exact ⟨h.2.1, h.2.2.1, h.2.2.2.1, h.2.2.2.2.1⟩

theorem Report.build_eq_of_perm_of_ties {outcomes outcomes' : List Outcome}
    (hperm : outcomes.Perm outcomes')
    (hfindings : ∀ f ∈ outcomes.flatMap Outcome.findings, ∀ g ∈ outcomes.flatMap Outcome.findings,
      f.reportOrder g = .eq → f = g)
    (hdiagnostics : ∀ d ∈ outcomes.flatMap Outcome.diagnostics,
      ∀ e ∈ outcomes.flatMap Outcome.diagnostics, d.order e = .eq → d = e) (cancelled : Bool) :
    build outcomes cancelled = build outcomes' cancelled := by
  have hscanned := hperm.filter Outcome.scanned
  simp only [build]
  rw [mergeSort_eq_of_perm_of_ties hfindings (hperm.flatMap_right Outcome.findings),
    mergeSort_eq_of_perm_of_ties hdiagnostics (hperm.flatMap_right Outcome.diagnostics),
    hscanned.length_eq, hperm.countP_eq, sum_eq_of_perm (hscanned.map Outcome.bytes)]

theorem Report.build_eq_of_perm {outcomes outcomes' : List Outcome}
    (hperm : outcomes.Perm outcomes')
    (hfindings : NoTies Finding.reportOrder (outcomes.flatMap Outcome.findings))
    (hdiagnostics : ∀ o ∈ outcomes, o.diagnostics = []) (cancelled : Bool) :
    build outcomes cancelled = build outcomes' cancelled := by
  have hnone : outcomes.flatMap Outcome.diagnostics = [] := List.flatMap_eq_nil_iff.mpr hdiagnostics
  apply build_eq_of_perm_of_ties hperm (fun _ hf _ hg => hfindings.eq_of_mem hf hg)
  rw [hnone]
  exact fun _ hd => nomatch hd

namespace Scanner

def reportOn? (s : Scanner) (units : List Source) (cancelled : Bool) : Option Report :=
  (units.mapM s.scan?).map (Report.build · cancelled)

theorem isSome_reportOn?_iff {s : Scanner} {units : List Source} {cancelled : Bool} :
    (s.reportOn? units cancelled).isSome = true ↔
      ∀ source ∈ units, source.WindowsFit s.options.windowWidth := by
  simp only [reportOn?, Option.isSome_map, isSome_mapM_iff, isSome_scan?_iff]

theorem path_of_mem_findings {s : Scanner} {source : Source} {o : Outcome}
    (ho : s.scan? source = some o) {f : Finding} (h : f ∈ o.findings) : f.path = source.path := by
  obtain ⟨ws, hws, rfl⟩ := scan?_eq_some_iff.mp ho
  exact path_of_mem_found hws (mem_found_of_mem_findings h)

theorem noTies_findingsIn {rules : List Rule} (hids : (rules.map Rule.id).Nodup) (w : Window) :
    NoTies Finding.reportOrder (findingsIn rules w) := by
  rw [NoTies, findingsIn_eq_filterMap, List.pairwise_filterMap]
  apply ((List.pairwise_map.mp hids).sublist List.filter_sublist).imp
  intro r r' hne f hf g hg heq
  obtain ⟨_, -, -, -, rfl⟩ := finding?_judge_eq_some.mp hf
  obtain ⟨_, -, -, -, rfl⟩ := finding?_judge_eq_some.mp hg
  exact hne (Finding.of_reportOrder_eq heq).2.2.2

theorem noTies_found {s : Scanner} (hids : s.registry.ids.Nodup) {source : Source} {ws : List Window}
    (hws : s.windows? source = some ws) : NoTies Finding.reportOrder (s.found ws) := by
  rw [NoTies, found, List.pairwise_flatMap]
  constructor
  · intro w _
    apply noTies_findingsIn
    exact hids.sublist (List.filter_sublist.map Rule.id)
  · -- a tie would put two anchors in one line and column
    apply (pairwise_before_anchor hws).imp
    intro v w hbefore f hf g hg heq
    obtain ⟨_, -, hf⟩ := exists_rule_of_mem_findingsIn hf
    obtain ⟨_, -, hg⟩ := exists_rule_of_mem_findingsIn hg
    obtain ⟨_, -, -, -, rfl⟩ := finding?_judge_eq_some.mp hf
    obtain ⟨_, -, -, -, rfl⟩ := finding?_judge_eq_some.mp hg
    obtain ⟨-, hline, hcolumn, -⟩ := Finding.of_reportOrder_eq heq
    simp only [Finding.ofHit] at hline hcolumn
    simp only [Position.Before, Fragment.position] at hbefore
    omega

theorem noTies_findings {s : Scanner} (hids : s.registry.ids.Nodup) {source : Source} {o : Outcome}
    (ho : s.scan? source = some o) : NoTies Finding.reportOrder o.findings := by
  obtain ⟨ws, hws, rfl⟩ := scan?_eq_some_iff.mp ho
  rw [findings_outcome]
  split
  · -- thinning out reorders the findings and drops some of them
    apply List.Pairwise.sublist (Finding.dedupe_sublist _)
    exact (noTies_found hids hws).of_perm (List.mergeSort_perm _ _).symm
  · exact noTies_found hids hws

theorem noTies_flatMap_findings {s : Scanner} (hids : s.registry.ids.Nodup)
    {units : List Source} (hpaths : units.Pairwise fun a b => a.path.same b.path = false) :
    NoTies Finding.reportOrder ((units.filterMap s.scan?).flatMap Outcome.findings) := by
  rw [NoTies, List.pairwise_flatMap, List.pairwise_filterMap]
  constructor
  · intro o ho
    obtain ⟨source, -, ho⟩ := List.mem_filterMap.mp ho
    exact noTies_findings hids ho
  · apply hpaths.imp
    intro a b hne o ho o' ho' f hf g hg heq
    have hsame := (Finding.of_reportOrder_eq heq).1
    rw [path_of_mem_findings ho hf, path_of_mem_findings ho' hg, hne] at hsame
    cases hsame

theorem reportOn?_eq_of_perm {custom : List CustomRule} {s : Scanner}
    (hs : Registry.withCustom custom = .ok s.registry) {units units' : List Source}
    (hpaths : units.Pairwise fun a b => a.path.same b.path = false) (hperm : units.Perm units')
    (cancelled : Bool) : s.reportOn? units cancelled = s.reportOn? units' cancelled := by
  cases hscan : units.mapM s.scan? with
  | none =>
    have hscan' : units'.mapM s.scan? = none := by
      apply Option.eq_none_iff_forall_ne_some.mpr
      intro outcomes' h'
      obtain ⟨outcomes, hsome, -⟩ := exists_mapM_of_perm hperm.symm h'
      exact absurd (hscan.symm.trans hsome) (by simp)
    rw [reportOn?, reportOn?, hscan, hscan']
  | some outcomes =>
    obtain ⟨outcomes', hscan', houtcomes⟩ := exists_mapM_of_perm hperm hscan
    rw [reportOn?, reportOn?, hscan, hscan', Option.map_some, Option.map_some]
    obtain rfl := filterMap_of_mapM hscan
    have hties := noTies_flatMap_findings (Registry.nodup_ids_withCustom hs) hpaths
    refine congrArg some (Report.build_eq_of_perm houtcomes hties ?_ cancelled)
    intro o ho
    obtain ⟨source, -, ho⟩ := List.mem_filterMap.mp ho
    exact diagnostics_scan?_eq_nil hs ho

/-- With any declared rules and options, texts with different paths may be scanned in any order: the
report is the same, and each of its findings comes strictly before the next. There is a report if every
text has all its windows, and else there is none in any order. -/
theorem report_independent_of_order (custom : List CustomRule) (registry : Registry)
    (h : Registry.withCustom custom = .ok registry) (options : Options) (s : Scanner)
    (hs : new registry options = .ok s) (units units' : List Source)
    (hpaths : units.Pairwise fun a b => a.path.same b.path = false) (hperm : units.Perm units')
    (cancelled : Bool) :
    ((s.reportOn? units cancelled).isSome = true ↔
      ∀ source ∈ units, source.WindowsFit options.windowWidth) ∧
    s.reportOn? units cancelled = s.reportOn? units' cancelled ∧
    ∀ report, s.reportOn? units cancelled = some report →
      report.findings.Pairwise fun a b => a.reportOrder b = .lt := by
  obtain rfl := registry_of_new hs
  refine ⟨by rw [isSome_reportOn?_iff, windowWidth_of_new hs],
    reportOn?_eq_of_perm h hpaths hperm cancelled, ?_⟩
  intro report hreport
  obtain ⟨outcomes, hscan, rfl⟩ := Option.map_eq_some_iff.mp hreport
  obtain rfl := filterMap_of_mapM hscan
  exact (noTies_flatMap_findings (Registry.nodup_ids_withCustom h) hpaths).pairwise_lt_mergeSort

theorem report_independent_of_order_internal_host :
    ∃ registry, Registry.withCustom [.internalHost] = .ok registry ∧
    ∃ s, new registry {} = .ok s ∧
    let a := Source.ofText ⟨"a.go"⟩ "\ndb.internal.corp"
    let b := Source.ofText ⟨"b.go"⟩ "internal.corp"
    ∃ report, s.reportOn? [a, b] false = some report ∧ s.reportOn? [b, a] false = some report ∧
      report.findings.length = 2 ∧ report.findings.Pairwise fun a b => a.reportOrder b = .lt := by
  obtain ⟨registry, h⟩ := Registry.exists_withCustom_internalHost
  have hs := new_default registry
  have hcount : (Registry.withCustom [.internalHost]).toOption.bind (fun r =>
      ([.ofText ⟨"a.go"⟩ "\ndb.internal.corp", .ofText ⟨"b.go"⟩ "internal.corp"].mapM
        (scan? ⟨r, {}⟩)).map fun outcomes => (outcomes.flatMap Outcome.findings).length) =
      some 2 := by
    decide +kernel
  rw [h] at hcount
  obtain ⟨outcomes, hscan, hlength⟩ := Option.map_eq_some_iff.mp hcount
  refine ⟨registry, h, _, hs, ?_⟩
  intro a b
  obtain ⟨-, hsame, hordered⟩ := report_independent_of_order [.internalHost] registry h {} _ hs
    [a, b] [b, a] (by decide) (List.Perm.swap _ _ _) false
  have hreport : reportOn? ⟨registry, {}⟩ [a, b] false = some (.build outcomes false) :=
    congrArg (Option.map _) hscan
  exact ⟨_, hreport, hsame ▸ hreport, (List.length_mergeSort _).trans hlength,
    hordered _ hreport⟩

end Scanner
end SourceAudit
