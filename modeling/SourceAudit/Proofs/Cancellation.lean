import Mathlib.Data.List.Count
import Mathlib.Data.List.Pairwise
import Mathlib.Data.List.Perm.Subperm
import SourceAudit.Proofs.Isolation
import SourceAudit.Scan.Crew

/-! A scan that may be called off. However the workers and the one who calls off take turns, the report is
made of the outcomes of the paths that were admitted, and it says that the scan was cancelled just when a
path is missing. There is no report just when an admitted file has no outcome. -/
namespace SourceAudit

namespace Crew

variable {scan : Path → Option Outcome} {crew next last : Crew}

inductive Moves (scan : Path → Option Outcome) (crew : Crew) : Event → Crew → Prop where
  | take (p : Path) (hp : p ∈ crew.waiting) :
    Moves scan crew (.take p)
      { crew with waiting := crew.waiting.erase p, taken := p :: crew.taken }
  | refuse (p : Path) (hp : p ∈ crew.taken) (hoff : crew.calledOff = true) :
    Moves scan crew (.check p) { crew with taken := crew.taken.erase p, skipped := true }
  | enter (p : Path) (hp : p ∈ crew.taken) (hon : crew.calledOff = false) :
    Moves scan crew (.check p)
      { crew with taken := crew.taken.erase p, underway := p :: crew.underway }
  | crash (p : Path) (n : Nat) (hp : p ∈ crew.underway) (hscan : scan p = none) :
    Moves scan crew (.finish p n) { crew with underway := crew.underway.erase p, crashed := true }
  | collect (p : Path) (n : Nat) (o : Outcome) (hp : p ∈ crew.underway) (hscan : scan p = some o) :
    Moves scan crew (.finish p n)
      { crew with
        underway := crew.underway.erase p
        collected := crew.collected.take n ++ o :: crew.collected.drop n }
  | callOff : Moves scan crew .callOff { crew with calledOff := true }

theorem step?_eq_some_iff {e : Event} :
    crew.step? scan e = some next ↔ Moves scan crew e next := by
  constructor
  · intro h
    cases e with
    | take p =>
      simp only [step?, Option.ite_none_right_eq_some, Option.some.injEq] at h
      obtain ⟨hp, rfl⟩ := h
      exact .take p hp
    | check p =>
      simp only [step?, Option.ite_none_right_eq_some] at h
      obtain ⟨hp, h⟩ := h
      split at h
      next hoff =>
        cases h
        exact .refuse p hp hoff
      next hon =>
        cases h
        exact .enter p hp (Bool.eq_false_iff.mpr hon)
    | finish p n =>
      simp only [step?, Option.ite_none_right_eq_some] at h
      obtain ⟨hp, h⟩ := h
      split at h
      next hscan =>
        cases h
        exact .crash p n hp hscan
      next o hscan =>
        cases h
        exact .collect p n o hp hscan
    | callOff =>
      cases h
      exact .callOff
  · intro h
    cases h <;> simp [step?, *]

/-- Between two states some paths were admitted and some refused: together they left the queue, the
admitted ones were scanned or crashed or are still underway, and the refused ones were noted. -/
structure Accounts (scan : Path → Option Outcome) (crew last : Crew) (admitted refused : List Path) :
    Prop where
  queue : (crew.waiting ++ crew.taken).Perm (last.waiting ++ last.taken ++ (admitted ++ refused))
  outcomes : ∀ before, before.map scan = crew.collected.map some →
    ∃ done broken, done.map scan = last.collected.map some ∧ (∀ p ∈ broken, scan p = none) ∧
      (before ++ crew.underway ++ admitted).Perm (done ++ broken ++ last.underway) ∧
      (last.crashed = true ↔ crew.crashed = true ∨ broken ≠ [])
  skipped_iff : last.skipped = true ↔ crew.skipped = true ∨ refused ≠ []

theorem Accounts.refl (crew : Crew) : Accounts scan crew crew [] [] where
  queue := by simp
  outcomes before h := ⟨before, [], h, by simp, by simp, by simp⟩
  skipped_iff := by simp

theorem Accounts.trans {admitted admitted' refused refused' : List Path}
    (h : Accounts scan crew next admitted refused) (h' : Accounts scan next last admitted' refused') :
    Accounts scan crew last (admitted ++ admitted') (refused ++ refused') where
  queue := by
    rw [List.perm_iff_count]
    intro p
    have hfirst := h.queue.count_eq p
    have hthen := h'.queue.count_eq p
    simp only [List.count_append] at *
    omega
  outcomes before hbefore := by
    obtain ⟨middle, broken, hmiddle, hbroken, hfirst, hcrashed⟩ := h.outcomes before hbefore
    obtain ⟨done, broken', hdone, hbroken', hthen, hcrashed'⟩ := h'.outcomes middle hmiddle
    refine ⟨done, broken ++ broken', hdone, ?_, ?_, ?_⟩
    · intro p hp
      exact (List.mem_append.mp hp).elim (hbroken p) (hbroken' p)
    · rw [List.perm_iff_count]
      intro p
      have hfirst := hfirst.count_eq p
      have hthen := hthen.count_eq p
      simp only [List.count_append] at *
      omega
    · rw [hcrashed', hcrashed, or_assoc, Ne, Ne, Ne, List.append_eq_nil_iff, not_and_or]
  skipped_iff := by
    rw [h'.skipped_iff, h.skipped_iff, or_assoc, Ne, Ne, Ne, List.append_eq_nil_iff, not_and_or]

theorem report?_eq_some_iff {report : Report} :
    crew.report? = some report ↔ crew.crashed = false ∧ report = .build crew.collected crew.skipped := by
  cases hcrashed : crew.crashed with
  | true => simp [report?, hcrashed]
  | false => simp [report?, hcrashed, eq_comm]

theorem outcomes_of_unchanged (before : List Path) (hbefore : before.map scan = crew.collected.map some) :
    ∃ done broken, done.map scan = crew.collected.map some ∧ (∀ p ∈ broken, scan p = none) ∧
      (before ++ crew.underway ++ []).Perm (done ++ broken ++ crew.underway) ∧
      (crew.crashed = true ↔ crew.crashed = true ∨ broken ≠ []) :=
  ⟨before, [], hbefore, by simp, by simp, by simp⟩

theorem accounts_step {e : Event} (h : Moves scan crew e next) :
    Accounts scan crew next (checkedWhen false crew.calledOff [e])
      (checkedWhen true crew.calledOff [e]) := by
  cases h with
  | take p hp =>
    refine ⟨?_, outcomes_of_unchanged, by simp [checkedWhen]⟩
    rw [List.perm_iff_count]
    intro q
    have herase := (List.perm_cons_erase hp).count_eq q
    simp only [checkedWhen, List.count_append, List.count_cons, List.count_nil] at *
    omega
  | refuse p hp hoff =>
    simp only [checkedWhen, hoff, Bool.true_eq_false, if_false, if_true]
    refine ⟨?_, outcomes_of_unchanged, by simp⟩
    rw [List.perm_iff_count]
    intro q
    have herase := (List.perm_cons_erase hp).count_eq q
    simp only [List.count_append, List.count_cons, List.count_nil] at *
    omega
  | enter p hp hon =>
    simp only [checkedWhen, hon, Bool.false_eq_true, if_false, if_true]
    refine ⟨?_, fun before hbefore => ⟨before, [], hbefore, by simp, ?_, by simp⟩, by simp⟩
    · rw [List.perm_iff_count]
      intro q
      have herase := (List.perm_cons_erase hp).count_eq q
      simp only [List.count_append, List.count_cons, List.count_nil] at *
      omega
    · simp only [List.append_nil, List.append_assoc]
      exact (List.perm_append_singleton p crew.underway).append_left before
  | crash p n hp hscan =>
    refine ⟨by simp [checkedWhen], fun before hbefore => ⟨before, [p], hbefore, ?_, ?_, by simp⟩,
      by simp [checkedWhen]⟩
    · intro q hq
      rw [List.mem_singleton.mp hq, hscan]
    · simp only [checkedWhen, List.append_nil, List.append_assoc, List.singleton_append]
      exact (List.perm_cons_erase hp).append_left before
  | collect p n o hp hscan =>
    refine ⟨by simp [checkedWhen], fun before hbefore =>
      ⟨before.take n ++ p :: before.drop n, [], ?_, by simp, ?_, by simp⟩, by simp [checkedWhen]⟩
    · simp [List.map_take, List.map_drop, hbefore, hscan]
    · rw [List.perm_iff_count]
      intro q
      have herase := (List.perm_cons_erase hp).count_eq q
      have hsplit := congrArg (List.count q) (List.take_append_drop n before)
      simp only [checkedWhen, List.count_append, List.count_cons, List.count_nil] at *
      omega
  | callOff => exact ⟨by simp [checkedWhen], outcomes_of_unchanged, by simp [checkedWhen]⟩

theorem checkedWhen_cons {e : Event} (h : Moves scan crew e next) (saw : Bool)
    (es : List Event) : checkedWhen saw crew.calledOff (e :: es) =
      checkedWhen saw crew.calledOff [e] ++ checkedWhen saw next.calledOff es := by
  cases h with
  | take | crash | collect | callOff => rfl
  | refuse p | enter p => by_cases hsaw : crew.calledOff = saw <;> simp [checkedWhen, hsaw]

theorem accounts_run {events : List Event} (h : crew.run? scan events = some last) :
    Accounts scan crew last (checkedWhen false crew.calledOff events)
      (checkedWhen true crew.calledOff events) := by
  induction events generalizing crew with
  | nil =>
    cases h
    exact .refl _
  | cons e es ih =>
    obtain ⟨next, hstep, hrest⟩ := Option.bind_eq_some_iff.mp h
    rw [step?_eq_some_iff] at hstep
    rw [checkedWhen_cons hstep false es, checkedWhen_cons hstep true es]
    exact (accounts_step hstep).trans (ih hrest)

theorem subperm_of_run {paths : List Path} {calledOff : Bool} {events : List Event}
    (h : (start paths calledOff).run? scan events = some last) :
    (checkedWhen false calledOff events).Subperm paths := by
  have hqueue := (accounts_run h).queue
  rw [List.subperm_iff_count]
  intro p
  have hcount := hqueue.count_eq p
  simp only [start, List.append_nil, List.count_append] at hcount
  omega

/-- A scan that is done crashed just when a file that was admitted has no outcome. -/
theorem crashed_iff_of_isDone {paths : List Path} {calledOff : Bool} {events : List Event}
    (h : (start paths calledOff).run? scan events = some last) (hdone : last.isDone = true) :
    last.crashed = true ↔ ∃ p ∈ checkedWhen false calledOff events, scan p = none := by
  obtain ⟨done, broken, hmap, hbroken, hperm, hcrashed⟩ := (accounts_run h).outcomes [] rfl
  simp only [start, List.nil_append, Bool.false_eq_true, false_or] at hperm hcrashed
  constructor
  · intro hcrash
    obtain ⟨p, hp⟩ := List.exists_mem_of_ne_nil _ (hcrashed.mp hcrash)
    exact ⟨p, hperm.mem_iff.mpr (by simp [hp]), hbroken p hp⟩
  · rintro ⟨p, hp, hscan⟩
    by_contra hnot
    have hnone : broken = [] := not_not.mp (mt hcrashed.mpr hnot)
    simp only [isDone, Bool.eq_false_iff.mpr hnot, Bool.false_or, Bool.and_eq_true,
      List.isEmpty_iff] at hdone
    rw [hnone, hdone.2, List.append_nil, List.append_nil] at hperm
    -- what was scanned has an outcome
    have hmem := List.mem_map_of_mem (f := scan) (hperm.mem_iff.mp hp)
    rw [hmap, hscan] at hmem
    simp at hmem

theorem isSome_report?_iff {paths : List Path} {calledOff : Bool} {events : List Event}
    (h : (start paths calledOff).run? scan events = some last) (hdone : last.isDone = true) :
    last.report?.isSome = true ↔ ∀ p ∈ checkedWhen false calledOff events, (scan p).isSome = true := by
  have hcrashed := crashed_iff_of_isDone h hdone
  constructor
  · intro hsome p hp
    obtain ⟨report, hreport⟩ := Option.isSome_iff_exists.mp hsome
    by_contra hnone
    have hcrash := hcrashed.mpr ⟨p, hp, by simpa using hnone⟩
    rw [(report?_eq_some_iff.mp hreport).1] at hcrash
    cases hcrash
  · intro hall
    apply Option.isSome_iff_exists.mpr
    refine ⟨_, report?_eq_some_iff.mpr ⟨?_, rfl⟩⟩
    by_contra hcrash
    obtain ⟨p, hp, hnone⟩ := hcrashed.mp (Bool.of_not_eq_false hcrash)
    have hsome := hall p hp
    rw [hnone] at hsome
    cases hsome

theorem accounts_of_isDone {paths : List Path} {calledOff : Bool} {events : List Event}
    (h : (start paths calledOff).run? scan events = some last) (hdone : last.isDone = true)
    (hcrashed : last.crashed = false) :
    paths.Perm (checkedWhen false calledOff events ++ checkedWhen true calledOff events) ∧
    (∃ scanned : List Path, scanned.Perm (checkedWhen false calledOff events) ∧
      scanned.mapM scan = some last.collected) ∧
    (last.skipped = true ↔ checkedWhen true calledOff events ≠ []) := by
  simp only [isDone, hcrashed, Bool.false_or, Bool.and_eq_true, List.isEmpty_iff] at hdone
  obtain ⟨⟨hwaiting, htaken⟩, hunderway⟩ := hdone
  have haccounts := accounts_run h
  obtain ⟨scanned, broken, hmap, -, hperm, hiff⟩ := haccounts.outcomes [] rfl
  have hnone : broken = [] := by
    by_contra hne
    rw [hiff.mpr (.inr hne)] at hcrashed
    cases hcrashed
  have hqueue := haccounts.queue
  have hskipped := haccounts.skipped_iff
  simp only [start, hwaiting, htaken, hunderway, hnone, List.append_nil, List.nil_append,
    Bool.false_eq_true, false_or] at hperm hqueue hskipped
  exact ⟨hqueue, ⟨scanned, hperm.symm, mapM_eq_some_iff.mpr hmap⟩, hskipped⟩

theorem skipped_iff_of_isDone {paths : List Path} {calledOff : Bool} {events : List Event}
    (h : (start paths calledOff).run? scan events = some last) (hdone : last.isDone = true)
    (hcrashed : last.crashed = false) :
    last.skipped = true ↔ ∃ p, (checkedWhen false calledOff events).count p < paths.count p := by
  obtain ⟨hqueue, -, hskipped⟩ := accounts_of_isDone h hdone hcrashed
  rw [hskipped]
  constructor
  · intro hne
    obtain ⟨p, hp⟩ := List.exists_mem_of_ne_nil _ hne
    refine ⟨p, ?_⟩
    rw [hqueue.count_eq p, List.count_append]
    exact Nat.lt_add_of_pos_right (List.count_pos_iff.mpr hp)
  · rintro ⟨p, hp⟩ hnil
    rw [hqueue.count_eq p, hnil, List.append_nil] at hp
    exact Nat.lt_irrefl _ hp

/-! ### The same scan without being called off -/

def resumed (crew : Crew) : Crew := { crew with calledOff := false }

theorem moves_resumed {e : Event} (h : Moves scan crew e next) (he : e ≠ .callOff)
    (hskipped : next.skipped = false) : Moves scan crew.resumed e next.resumed := by
  cases h with
  | take p hp => exact .take p hp
  | refuse => cases hskipped
  | enter p hp => exact .enter p hp rfl
  | crash p n hp hscan => exact .crash p n hp hscan
  | collect p n o hp hscan => exact .collect p n o hp hscan
  | callOff => exact absurd rfl he

theorem run?_resumed {events : List Event} (h : crew.run? scan events = some last)
    (hskipped : last.skipped = false) :
    crew.resumed.run? scan (events.filter (· ≠ .callOff)) = some last.resumed := by
  induction events generalizing crew with
  | nil =>
    cases h
    rfl
  | cons e es ih =>
    obtain ⟨next, hstep, hrest⟩ := Option.bind_eq_some_iff.mp h
    have hnext : next.skipped = false := by
      have hiff := (accounts_run hrest).skipped_iff
      rw [hskipped] at hiff
      simpa using fun hn => (hiff.mpr (.inl hn))
    by_cases he : e = .callOff
    · subst he
      cases hstep
      have hresumed := ih hrest
      exact hresumed
    · have hmoves := moves_resumed (step?_eq_some_iff.mp hstep) he hnext
      rw [List.filter_cons_of_pos (by simpa using he), run?, step?_eq_some_iff.mpr hmoves]
      exact ih hrest

/-! ### One worker -/

theorem run?_oneByOne (paths : List Path) (collected : List Outcome)
    (calledOff skipped crashed : Bool) (place : Nat)
    (hplace : collected.length + paths.length ≤ place) :
    run? scan ⟨paths, [], [], collected, calledOff, skipped, crashed⟩
        (oneByOne calledOff place paths) =
      some ⟨[], [], [], if calledOff then collected else collected ++ paths.filterMap scan, calledOff,
        skipped || (calledOff && !paths.isEmpty),
        crashed || (!calledOff && paths.any fun p => (scan p).isNone)⟩ := by
  induction paths generalizing collected skipped crashed with
  | nil => simp [oneByOne, run?]
  | cons p paths ih =>
    rw [List.length_cons] at hplace
    cases calledOff with
    | true =>
      have hrest := ih collected true crashed (by omega)
      simp only [oneByOne, if_true, List.flatMap_cons, List.cons_append, List.nil_append] at hrest ⊢
      simp [run?, step?, hrest]
    | false =>
      cases hscan : scan p with
      | none =>
        have hrest := ih collected skipped true (by omega)
        simp only [oneByOne, Bool.false_eq_true, if_false, List.flatMap_cons, List.cons_append,
          List.nil_append] at hrest ⊢
        simp [run?, step?, hrest, hscan]
      | some o =>
        have hrest := ih (collected ++ [o]) skipped crashed (by simp; omega)
        simp only [oneByOne, Bool.false_eq_true, if_false, List.flatMap_cons, List.cons_append,
          List.nil_append] at hrest ⊢
        simp [run?, step?, hrest, hscan, List.take_of_length_le (show collected.length ≤ place by omega),
          List.drop_of_length_le (show collected.length ≤ place by omega)]

end Crew

namespace Scanner

theorem exists_crew_report?_eq_scanPaths? (s : Scanner) (fs : FileSystem) (paths : List Path)
    (calledOff : Bool) :
    ∃ last, (Crew.start paths calledOff).run? (s.scanFile? fs)
        (Crew.oneByOne calledOff paths.length paths) = some last ∧
      last.isDone = true ∧ last.report? = s.scanPaths? fs paths calledOff := by
  refine ⟨_, Crew.run?_oneByOne paths [] calledOff false false paths.length (by simp), by simp [Crew.isDone],
    ?_⟩
  cases calledOff with
  | true => simp [Crew.report?, scanPaths?]
  | false =>
    cases hscan : paths.mapM (s.scanFile? fs) with
    | none =>
      have hsome : ∃ p ∈ paths, (s.scanFile? fs p).isNone = true := by
        by_contra hall
        have hsome := isSome_mapM_iff (f := s.scanFile? fs).mpr fun p hp =>
          Option.isSome_iff_ne_none.mpr fun hnone => hall ⟨p, hp, by simp [hnone]⟩
        simp [hscan] at hsome
      simp [Crew.report?, scanPaths?, hscan, List.any_eq_true.mpr hsome]
    | some outcomes =>
      have hall := isSome_mapM_iff.mp (Option.isSome_of_eq_some hscan)
      have hnone : paths.any (fun p => (s.scanFile? fs p).isNone) = false := by
        rw [List.any_eq_false]
        intro p hp
        simp [Option.isSome_iff_ne_none.mp (hall p hp)]
      simp [Crew.report?, scanPaths?, hscan, hnone, filterMap_of_mapM hscan]

theorem scanFile?_cases {s : Scanner} {fs : FileSystem} {path : Path} {o : Outcome}
    (h : s.scanFile? fs path = some o) :
    (∃ source : Source, source.path = path ∧ s.scan? source = some o) ∨
      ∃ d : Diagnostic, d.path = path ∧ o = .unreadable path d := by
  unfold scanFile? at h
  split at h
  next bytes _ =>
    obtain ⟨source, hsource, ho⟩ | ⟨m, -, rfl⟩ := scanBytes?_cases h
    · refine .inl ⟨source, ?_, ho⟩
      unfold Source.ofBytes at hsource
      split at hsource
      · cases hsource
      · split at hsource <;> cases hsource
        rfl
    · exact .inr ⟨_, rfl, rfl⟩
  next =>
    cases h
    exact .inr ⟨_, rfl, rfl⟩

section Registered

variable {custom : List CustomRule} {s : Scanner} (hs : Registry.withCustom custom = .ok s.registry)
  {fs : FileSystem} {p q : Path} (hsame : p.same q = true → p = q) {o o' : Outcome}
  (hp : s.scanFile? fs p = some o) (hq : s.scanFile? fs q = some o')

include hs hsame hp hq

theorem eq_of_reportOrder_scanFile? {f g : Finding} (hf : f ∈ o.findings) (hg : g ∈ o'.findings)
    (heq : f.reportOrder g = .eq) : f = g := by
  obtain ⟨source, rfl, ho⟩ | ⟨d, -, rfl⟩ := scanFile?_cases hp
  · obtain ⟨source', rfl, ho'⟩ | ⟨d, -, rfl⟩ := scanFile?_cases hq
    · have hpath := (Finding.of_reportOrder_eq heq).1
      rw [path_of_mem_findings ho hf, path_of_mem_findings ho' hg] at hpath
      -- one spelling of the path means one outcome, in which no two findings tie
      rw [← hsame hpath, hp] at hq
      obtain rfl := Option.some.inj hq
      exact (noTies_findings (Registry.nodup_ids_withCustom hs) ho).eq_of_mem hf hg heq
    · cases hg
  · cases hf

theorem eq_of_order_scanFile? {d e : Diagnostic} (hd : d ∈ o.diagnostics) (he : e ∈ o'.diagnostics)
    (heq : d.order e = .eq) : d = e := by
  have hpath {r : Path} {o : Outcome} (hr : s.scanFile? fs r = some o) {c : Diagnostic}
      (hc : c ∈ o.diagnostics) : c.path = r := by
    obtain ⟨source, -, ho⟩ | ⟨c', hc', rfl⟩ := scanFile?_cases hr
    · rw [diagnostics_scan?_eq_nil hs ho] at hc
      cases hc
    · rw [List.mem_singleton.mp hc, hc']
  obtain ⟨hpaths, hfields⟩ := Diagnostic.of_order_eq heq
  rw [hpath hp hd, hpath hq he] at hpaths
  rw [hfields, hpath hq he, ← hsame hpaths, ← hpath hp hd]

end Registered

theorem build_eq_of_perm_paths {custom : List CustomRule} {s : Scanner}
    (hs : Registry.withCustom custom = .ok s.registry) {fs : FileSystem} {paths paths' : List Path}
    (hsame : ∀ p ∈ paths, ∀ q ∈ paths, p.same q = true → p = q) (hperm : paths.Perm paths')
    {outcomes outcomes' : List Outcome} (h : paths.mapM (s.scanFile? fs) = some outcomes)
    (h' : paths'.mapM (s.scanFile? fs) = some outcomes') (cancelled : Bool) :
    Report.build outcomes cancelled = Report.build outcomes' cancelled := by
  obtain rfl := filterMap_of_mapM h
  obtain rfl := filterMap_of_mapM h'
  apply Report.build_eq_of_perm_of_ties (hperm.filterMap _)
  · intro f hf g hg
    simp only [List.mem_flatMap, List.mem_filterMap] at hf hg
    obtain ⟨o, ⟨p, hp, ho⟩, hf⟩ := hf
    obtain ⟨o', ⟨q, hq, ho'⟩, hg⟩ := hg
    exact eq_of_reportOrder_scanFile? hs (hsame p hp q hq) ho ho' hf hg
  · intro d hd e he
    simp only [List.mem_flatMap, List.mem_filterMap] at hd he
    obtain ⟨o, ⟨p, hp, ho⟩, hd⟩ := hd
    obtain ⟨o', ⟨q, hq, ho'⟩, he⟩ := he
    exact eq_of_order_scanFile? hs (hsame p hp q hq) ho ho' hd he

/-- Take any declared rules and options, and any run of the workers to its end, with the scan called off
from the start, on the way or not at all. There is a report unless an admitted file has a window that cannot
be formed; a path is admitted if its check saw that the scan was on. The report is made of the whole
outcomes of just the admitted paths. It is marked as cancelled if and only if a path is missing. If it is
not marked, the same report comes out when nobody calls the scan off, and it is the report on all paths in
the order given, as long as no path stands there in two spellings. -/
theorem cancelled_iff_path_missing (custom : List CustomRule) (registry : Registry)
    (h : Registry.withCustom custom = .ok registry) (options : Options) (s : Scanner)
    (hs : new registry options = .ok s) (fs : FileSystem) (paths : List Path) (calledOff : Bool)
    (events : List Crew.Event) (last : Crew)
    (hrun : (Crew.start paths calledOff).run? (s.scanFile? fs) events = some last)
    (hdone : last.isDone = true) :
    let admitted := Crew.checkedWhen false calledOff events
    admitted.Subperm paths ∧
    (last.report?.isSome = true ↔ ∀ p ∈ admitted, fs.WindowsFit p options.windowWidth) ∧
    ∀ report, last.report? = some report →
      (∃ (scanned : List Path) (outcomes : List Outcome), scanned.Perm admitted ∧
        scanned.mapM (s.scanFile? fs) = some outcomes ∧
        report = .build outcomes report.cancelled) ∧
      (report.cancelled = true ↔ ∃ p, admitted.count p < paths.count p) ∧
      (report.cancelled = false →
        admitted.Perm paths ∧
        (∃ events' last', .callOff ∉ events' ∧
          (Crew.start paths false).run? (s.scanFile? fs) events' = some last' ∧
          last'.isDone = true ∧ last'.report? = some report) ∧
        ((∀ p ∈ paths, ∀ q ∈ paths, p.same q = true → p = q) →
          s.scanPaths? fs paths false = some report)) := by
  obtain rfl := registry_of_new hs
  intro admitted
  refine ⟨Crew.subperm_of_run hrun, ?_, ?_⟩
  · simp only [← windowWidth_of_new hs, ← isSome_scanFile?_iff]
    exact Crew.isSome_report?_iff hrun hdone
  intro report hreport
  obtain ⟨hcrashed, rfl⟩ := Crew.report?_eq_some_iff.mp hreport
  obtain ⟨hqueue, ⟨scanned, hscanned, hcollected⟩, hskipped⟩ :=
    Crew.accounts_of_isDone hrun hdone hcrashed
  refine ⟨⟨scanned, _, hscanned, hcollected, rfl⟩, Crew.skipped_iff_of_isDone hrun hdone hcrashed, ?_⟩
  intro hnot
  have hnot : last.skipped = false := hnot
  have hnil : Crew.checkedWhen true calledOff events = [] := by
    by_contra hne
    rw [hskipped.mpr hne] at hnot
    cases hnot
  rw [hnil, List.append_nil] at hqueue
  refine ⟨hqueue.symm, ?_, ?_⟩
  · exact ⟨_, _, by simp, Crew.run?_resumed hrun hnot, hdone,
      Crew.report?_eq_some_iff.mpr ⟨hcrashed, rfl⟩⟩
  · intro hsame
    obtain ⟨outcomes, hscan, -⟩ := exists_mapM_of_perm (hscanned.trans hqueue.symm) hcollected
    rw [scanPaths?, if_neg Bool.false_ne_true, hscan, hnot]
    exact congrArg some
      (build_eq_of_perm_paths h hsame (hqueue.trans hscanned.symm) hscan hcollected false)

def hostDirectory : FileSystem := ⟨.directory [("a.go", .file "internal.corp".toUTF8)], []⟩

theorem cancelled_iff_path_missing_two_workers :
    ∃ registry, Registry.withCustom [.internalHost] = .ok registry ∧
    ∃ s, new registry {} = .ok s ∧
    let a : Path := ⟨"a.go"⟩
    let b : Path := ⟨"b.go"⟩
    ∃ o, s.scanFile? hostDirectory a = some o ∧
    (∃ last, (Crew.start [a, b] false).run? (s.scanFile? hostDirectory)
        [.take b, .take a, .check a, .callOff, .check b, .finish a 0] = some last ∧
      last.isDone = true ∧ last.report? = some (.build [o] true) ∧
      ∃ p, [a].count p < [a, b].count p) ∧
    ∃ last report, (Crew.start [a, b] false).run? (s.scanFile? hostDirectory)
        [.take b, .take a, .check a, .check b, .callOff, .finish b 0, .finish a 1] = some last ∧
      last.isDone = true ∧ last.report? = some report ∧
      s.scanPaths? hostDirectory [a, b] false = some report := by
  obtain ⟨registry, h⟩ := Registry.exists_withCustom_internalHost
  have hs := new_default registry
  refine ⟨registry, h, _, hs, ?_⟩
  intro a b
  have hfit : (Source.ofBytes ⟨"a.go"⟩ "internal.corp".toUTF8).toOption.all
      (fun source => decide (source.WindowsFit 1)) = true := by
    decide +kernel
  have hread : hostDirectory.read ⟨"a.go"⟩ = .ok "internal.corp".toUTF8 := by rfl
  have hmissing : hostDirectory.read ⟨"b.go"⟩ = .error .notFound := by rfl
  obtain ⟨o, ho⟩ : ∃ o, scanFile? ⟨registry, {}⟩ hostDirectory a = some o := by
    apply Option.isSome_iff_exists.mp
    rw [isSome_scanFile?_iff]
    exact FileSystem.windowsFit_of_read hread hfit
  obtain ⟨o', ho'⟩ : ∃ o, scanFile? ⟨registry, {}⟩ hostDirectory b = some o :=
    ⟨_, by rw [scanFile?, hmissing]⟩
  have hcalled : (Crew.start [a, b] false).run? (scanFile? ⟨registry, {}⟩ hostDirectory)
      [.take b, .take a, .check a, .callOff, .check b, .finish a 0] =
        some ⟨[], [], [], [o], true, true, false⟩ := by
    simp [Crew.start, Crew.run?, Crew.step?, ho, a, b]
  have hwhole : (Crew.start [a, b] false).run? (scanFile? ⟨registry, {}⟩ hostDirectory)
      [.take b, .take a, .check a, .check b, .callOff, .finish b 0, .finish a 1] =
        some ⟨[], [], [], [o', o], true, false, false⟩ := by
    simp [Crew.start, Crew.run?, Crew.step?, ho, ho', a, b]
  refine ⟨o, ho, ⟨_, hcalled, rfl, rfl, ?_⟩, _, _, hwhole, rfl, rfl, ?_⟩
  · obtain ⟨-, -, hreport⟩ := cancelled_iff_path_missing [.internalHost] registry h {} _ hs
      hostDirectory [a, b] false _ _ hcalled rfl
    exact (hreport _ rfl).2.1.mp rfl
  · obtain ⟨-, -, hreport⟩ := cancelled_iff_path_missing [.internalHost] registry h {} _ hs
      hostDirectory [a, b] false _ _ hwhole rfl
    exact ((hreport _ rfl).2.2 rfl).2.2 (by decide)

end Scanner
end SourceAudit
