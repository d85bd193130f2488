import SourceAudit.Proofs.Verdict
import SourceAudit.Scan.Files

/-! When a scan comes to something. The window of a statement is made of that statement and of what stands
around it, if machine words hold its end. A text has all its windows or none, and without them neither the
text nor its file nor a list of paths with that file is scanned to an end. -/
namespace SourceAudit

/-! ### Passes over a list -/

theorem mapM_eq_some_iff {f : α → Option β} {xs : List α} {ys : List β} :
    xs.mapM f = some ys ↔ xs.map f = ys.map some := by
  induction xs generalizing ys with
  | nil => cases ys <;> simp
  | cons x xs ih =>
    simp only [List.mapM_cons, Option.bind_eq_bind, Option.bind_eq_some_iff, Option.pure_def,
      Option.some.injEq, List.map_cons]
    constructor
    · rintro ⟨y, hy, zs, hzs, rfl⟩
      rw [hy, ih.mp hzs, List.map_cons]
    · intro h
      obtain ⟨y, zs, rfl, hy, hzs⟩ := List.map_eq_cons_iff.mp h.symm
      exact ⟨y, hy.symm, zs, ih.mpr hzs.symm, rfl⟩

theorem filterMap_of_mapM {f : α → Option β} {xs : List α} {ys : List β} (h : xs.mapM f = some ys) :
    xs.filterMap f = ys := by
  calc xs.filterMap f
      = (xs.map f).filterMap id := by rw [List.filterMap_map]; rfl
    _ = ys := by rw [mapM_eq_some_iff.mp h, List.filterMap_map]; exact List.filterMap_some

theorem isSome_mapM_iff {f : α → Option β} {xs : List α} :
    (xs.mapM f).isSome = true ↔ ∀ x ∈ xs, (f x).isSome = true := by
  induction xs with
  | nil => simp
  | cons x xs ih =>
    simp only [List.mapM_cons, Option.bind_eq_bind, Option.pure_def, List.forall_mem_cons, ← ih]
    cases f x <;> cases xs.mapM f <;> simp

theorem mapM_congr {f g : α → Option β} {xs : List α} (h : ∀ x ∈ xs, f x = g x) :
    xs.mapM f = xs.mapM g := by
  apply Option.ext
  intro ys
  rw [mapM_eq_some_iff, mapM_eq_some_iff, List.map_congr_left h]

theorem map_mapM (f : α → Option β) (r : β → γ) (xs : List α) :
    (xs.mapM f).map (List.map r) = xs.mapM fun x => (f x).map r := by
  induction xs with
  | nil => rfl
  | cons x xs ih =>
    simp only [List.mapM_cons, Option.bind_eq_bind, Option.pure_def, ← ih]
    cases f x <;> cases xs.mapM f <;> rfl

theorem exists_mapM_of_perm {f : α → Option β} {xs xs' : List α} {ys : List β} (hperm : xs.Perm xs')
    (h : xs.mapM f = some ys) : ∃ ys', xs'.mapM f = some ys' ∧ ys.Perm ys' := by
  have hall := isSome_mapM_iff.mp (Option.isSome_of_eq_some h)
  obtain ⟨ys', h'⟩ := Option.isSome_iff_exists.mp
    (isSome_mapM_iff.mpr fun x hx => hall x (hperm.mem_iff.mpr hx))
  refine ⟨ys', h', ?_⟩
  rw [← filterMap_of_mapM h, ← filterMap_of_mapM h']
  exact hperm.filterMap f

/-! ### The window of one statement -/

def Window.among (source : Source) (ss : List Statement) (width lookbehind : UInt64) (index : Nat)
    (s : Statement) : Window :=
  .around source ss.length width lookbehind index (ss.take index).reverse s (ss.drop (index + 1))

theorem Window.among?_eq (source : Source) (ss : List Statement) (width lookbehind : UInt64)
    (index : Nat) :
    among? source ss width lookbehind index =
      if fits index width then ss[index]?.map (among source ss width lookbehind index) else none := by
  unfold among? around?
  split
  next => cases ss[index]? <;> rfl
  next => cases ss[index]? <;> rfl

namespace Source

variable {source : Source} {width lookbehind : UInt64}

theorem windowAt?_eq (source : Source) (width lookbehind : UInt64) (index : Nat) :
    source.windowAt? width lookbehind index =
      if Window.fits index width then
        (statements source.fragments.toList)[index]?.map
          (Window.among source (statements source.fragments.toList) width lookbehind index)
      else none :=
  Window.among?_eq source _ width lookbehind index

theorem windowAt?_eq_some_iff {index : Nat} {w : Window} :
    source.windowAt? width lookbehind index = some w ↔
      Window.fits index width = true ∧
      ∃ s, (statements source.fragments.toList)[index]? = some s ∧
        .among source (statements source.fragments.toList) width lookbehind index s = w := by
  rw [windowAt?_eq]
  split
  next h => simp [h]
  next h => simp [h]

/-! ### All windows of a text -/

/-- Every statement of the text has a window of this width. -/
def WindowsFit (source : Source) (width : UInt64) : Prop :=
  ∀ index < (statements source.fragments.toList).length, Window.fits index width = true

instance (source : Source) (width : UInt64) : Decidable (source.WindowsFit width) :=
  inferInstanceAs (Decidable (∀ index < _, _))

theorem windowsFrom?_eq_mapM (source : Source) (width lookbehind : UInt64)
    (before after : List Statement) (done : Array Window) :
    windowsFrom? source (before ++ after).length width lookbehind before.length before.reverse done
        after =
      ((List.range' before.length after.length).mapM
        (Window.among? source (before ++ after) width lookbehind)).map (done ++ ·.toArray) := by
  induction after generalizing before done with
  | nil => simp [windowsFrom?]
  | cons s after ih =>
    have hat : Window.among? source (before ++ s :: after) width lookbehind before.length =
        Window.around? source (before ++ s :: after).length width lookbehind before.length
          before.reverse s after := by
      have hafter : (before ++ s :: after).drop (before.length + 1) = after := by
        rw [List.drop_append, List.drop_eq_nil_of_le (Nat.le_succ _)]
        simp
      simp [Window.among?, hafter]
    rw [windowsFrom?, ← hat, List.length_cons, List.range'_succ, List.mapM_cons]
    cases Window.among? source (before ++ s :: after) width lookbehind before.length with
    | none => rfl
    | some w =>
      have hmore := ih (before ++ [s]) (done.push w)
      simp only [List.append_assoc, List.singleton_append, List.length_append, List.length_singleton,
        List.reverse_append, List.reverse_singleton] at hmore
      simp only [Option.bind_some, List.length_append, hmore]
      cases (List.range' (before.length + 1) after.length).mapM
        (Window.among? source (before ++ s :: after) width lookbehind) <;> simp

theorem windows?_eq_mapM (source : Source) (width lookbehind : UInt64) :
    source.windows? width lookbehind =
      (List.range (statements source.fragments.toList).length).mapM
        (source.windowAt? width lookbehind) := by
  have hloop := windowsFrom?_eq_mapM source width lookbehind [] (statements source.fragments.toList) #[]
  rw [List.nil_append, List.length_nil, List.reverse_nil, ← List.range_eq_range'] at hloop
  have hid : Array.toList ∘ (fun ws : List Window => #[] ++ ws.toArray) = id := by
    funext ws
    simp
  rw [windows?, hloop, Option.map_map, hid, Option.map_id]
  rfl

theorem isSome_windows?_iff :
    (source.windows? width lookbehind).isSome = true ↔ source.WindowsFit width := by
  rw [windows?_eq_mapM, isSome_mapM_iff, WindowsFit]
  refine forall_congr' fun index => ?_
  rw [List.mem_range]
  refine imp_congr_right fun hindex => ?_
  rw [windowAt?_eq]
  split
  next h => simp [h, hindex]
  next h => simp [h]

variable {ws : List Window}

theorem getElem?_of_windows? (h : source.windows? width lookbehind = some ws) (index : Nat) :
    ws[index]? = source.windowAt? width lookbehind index := by
  rw [windows?_eq_mapM, mapM_eq_some_iff] at h
  have hat := congrArg (·[index]?) h
  simp only [List.getElem?_map] at hat
  by_cases hindex : index < (statements source.fragments.toList).length
  · rw [List.getElem?_range hindex] at hat
    obtain ⟨w, hw, heq⟩ := Option.map_eq_some_iff.mp hat.symm
    rw [hw, heq]
  · rw [List.getElem?_eq_none (by simpa using hindex)] at hat
    rw [Option.map_eq_none_iff.mp hat.symm, windowAt?_eq, List.getElem?_eq_none (by omega)]
    simp

theorem exists_windowAt?_of_mem (h : source.windows? width lookbehind = some ws) {w : Window}
    (hw : w ∈ ws) : ∃ index, source.windowAt? width lookbehind index = some w := by
  obtain ⟨index, hindex⟩ := List.mem_iff_getElem?.mp hw
  exact ⟨index, getElem?_of_windows? h index ▸ hindex⟩

theorem source_of_windowAt? {index : Nat} {w : Window}
    (h : source.windowAt? width lookbehind index = some w) : w.source = source := by
  obtain ⟨-, s, -, rfl⟩ := windowAt?_eq_some_iff.mp h
  rfl

theorem map_statement_of_windows? (h : source.windows? width lookbehind = some ws) :
    ws.map Window.statement = statements source.fragments.toList := by
  have hfit := isSome_windows?_iff.mp (Option.isSome_of_eq_some h)
  apply List.ext_getElem?
  intro index
  rw [List.getElem?_map, getElem?_of_windows? h, windowAt?_eq]
  by_cases hindex : index < (statements source.fragments.toList).length
  · rw [if_pos (hfit index hindex), Option.map_map]
    exact Option.map_id' ..
  · rw [List.getElem?_eq_none (by omega)]
    simp

end Source

theorem Rule.hitAt?_eq (rule : Rule) (source : Source) (width lookbehind : UInt64) (index : Nat) :
    rule.hitAt? source width lookbehind index =
      if Window.fits index width then
        (statements source.fragments.toList)[index]?.map fun s =>
          rule.matcher (.among source (statements source.fragments.toList) width lookbehind index s)
      else none := by
  rw [hitAt?, Source.windowAt?_eq]
  split
  next => rw [Option.map_map]; rfl
  next => rfl

theorem Rule.hitAt?_eq_some_some_iff {rule : Rule} {source : Source} {width lookbehind : UInt64}
    {index : Nat} {hit : Hit} :
    rule.hitAt? source width lookbehind index = some (some hit) ↔
      Window.fits index width = true ∧
      ∃ s, (statements source.fragments.toList)[index]? = some s ∧
        rule.matcher (.among source (statements source.fragments.toList) width lookbehind index s) =
          some hit := by
  rw [hitAt?_eq]
  split
  next h => simp [h]
  next h => simp [h]

/-! ### Scans that come to an outcome -/

def FileSystem.WindowsFit (fs : FileSystem) (path : Path) (width : UInt64) : Prop :=
  ∀ bytes source, fs.read path = .ok bytes → Source.ofBytes path bytes = .ok source →
    source.WindowsFit width

theorem FileSystem.windowsFit_of_read {fs : FileSystem} {path : Path} {bytes : ByteArray} {width : UInt64}
    (hread : fs.read path = .ok bytes)
    (hfit : (Source.ofBytes path bytes).toOption.all (fun source => decide (source.WindowsFit width)) = true) :
    fs.WindowsFit path width := by
  intro bytes' source hbytes hok
  obtain rfl := Except.ok.inj (hread.symm.trans hbytes)
  rw [hok] at hfit
  exact of_decide_eq_true hfit

namespace Scanner

variable {s : Scanner}

theorem isSome_scan?_iff {source : Source} :
    (s.scan? source).isSome = true ↔ source.WindowsFit s.options.windowWidth := by
  rw [isSome_scan?, windows?, Source.isSome_windows?_iff]

theorem isSome_scanBytes?_iff {path : Path} {bytes : ByteArray} :
    (s.scanBytes? path bytes).isSome = true ↔
      ∀ source, Source.ofBytes path bytes = .ok source →
        source.WindowsFit s.options.windowWidth := by
  unfold scanBytes?
  cases Source.ofBytes path bytes with
  | ok source => simp [isSome_scan?_iff]
  | error m => simp

theorem isSome_scanFile?_iff {fs : FileSystem} {path : Path} :
    (s.scanFile? fs path).isSome = true ↔ fs.WindowsFit path s.options.windowWidth := by
  unfold scanFile? FileSystem.WindowsFit
  cases fs.read path with
  | ok bytes =>
    dsimp only
    rw [isSome_scanBytes?_iff]
    constructor
    · rintro h _ source ⟨⟩
      exact h source
    · exact fun h source => h bytes source rfl
  | error e => simp

theorem isSome_scanPaths?_iff {fs : FileSystem} {paths : List Path} :
    (s.scanPaths? fs paths false).isSome = true ↔
      ∀ p ∈ paths, fs.WindowsFit p s.options.windowWidth := by
  simp only [scanPaths?, Bool.false_eq_true, if_false, Option.isSome_map, isSome_mapM_iff,
    isSome_scanFile?_iff]

end Scanner
end SourceAudit
