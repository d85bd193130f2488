import Mathlib
import SourceAudit.Proofs.Outlook
import SourceAudit.Proofs.Windows

/-! How far a window reaches. One that looks further back shows more guards and more credentials, one
that looks further ahead shows more uses of what its head builds. -/
namespace SourceAudit

structure Window.Within (v w : Window) : Prop where
  source : v.source = w.source
  statement : v.statement = w.statement
  preceding : v.preceding <:+ w.preceding
  rest : v.rest <+: w.rest

theorem takeWhile_take_prefix {m n : Nat} (h : m ≤ n) (p : Statement → Bool) (ss : List Statement) :
    (ss.take m).takeWhile p <+: (ss.take n).takeWhile p := by
  obtain ⟨more, hmore⟩ := List.take_prefix_take_left (l := ss) h
  rw [← hmore, List.takeWhile_append]
  split
  next hall =>
    rw [(List.takeWhile_prefix p).eq_of_length hall]
    exact List.prefix_append _ _
  next => exact List.prefix_refl _

namespace Window

theorem fits_of_le {index : Nat} {width wider : UInt64} (hle : width ≤ wider)
    (hfits : fits index wider = true) : fits index width = true := by
  rw [UInt64.le_iff_toNat_le] at hle
  simp only [fits, decide_eq_true_eq] at hfits ⊢
  omega

theorem toNat_lastIndex {index : Nat} {width : UInt64} (hfits : fits index width = true)
    (count : UInt64) :
    (lastIndex index.toUInt64 width count).toNat =
      (UInt64.size - 1 + min (index + max width.toNat 1) count.toNat) % UInt64.size := by
  simp only [fits, decide_eq_true_eq] at hfits
  have hindex : index.toUInt64.toNat = index := UInt64.toNat_ofNat_of_lt' (by omega)
  have hwidth : (max width 1).toNat = max width.toNat 1 := UInt64.toNat_max width 1
  have hstop : (index.toUInt64 + max width 1).toNat = index + max width.toNat 1 := by
    rw [UInt64.toNat_add, hwidth, hindex]
    exact Nat.mod_eq_of_lt hfits
  -- what is left is the step back from the end, which wraps when there is no statement
  rw [lastIndex, UInt64.toNat_sub, UInt64.toNat_min, hstop]
  rfl

theorem restCount_le {index : Nat} {width wider : UInt64} (hle : width ≤ wider)
    (hfits : fits index wider = true) (count : Nat) :
    restCount index count width ≤ restCount index count wider := by
  rw [restCount, restCount, toNat_lastIndex (fits_of_le hle hfits), toNat_lastIndex hfits]
  simp only [UInt64.le_iff_toNat_le] at hle
  have hcount := count.toUInt64.toNat_lt
  simp only [UInt64.size]
  omega

theorem within_among (source : Source) (ss : List Statement) (s : Statement) {index : Nat}
    {width wider short long : UInt64} (hwidth : width ≤ wider) (hfits : fits index wider = true)
    (hlookbehind : short ≤ long) :
    (among source ss width short index s).Within (among source ss wider long index s) where
  source := rfl
  statement := rfl
  preceding := by
    have hprefix := takeWhile_take_prefix (UInt64.le_iff_toNat_le.mp hlookbehind)
      (·.scope == s.scope) (ss.take index).reverse
    exact (List.reverse_suffix.mpr hprefix).flatMap _
  rest := (List.take_prefix_take_left (restCount_le hwidth hfits ss.length)).flatMap _

variable {v w : Window}

theorem Within.head (h : v.Within w) : v.head = w.head := head_eq h.statement

theorem Within.context_suffix (h : v.Within w) : v.context <:+ w.context := by
  obtain ⟨more, hmore⟩ := h.preceding
  refine ⟨more, ?_⟩
  rw [context, context, h.head, ← hmore, List.append_assoc]

end Window

section

variable {v w : Window} {r : Rule} {hit : Hit}

theorem PathTraversal.guarded_of_within (h : v.Within w) (hv : guarded v = true) :
    guarded w = true := by
  rw [guarded, List.any_eq_true] at hv ⊢
  obtain ⟨f, hf, hguard⟩ := hv
  exact ⟨f, h.context_suffix.mem hf, isGuard_eq h.source ▸ hguard⟩

theorem PathTraversal.matcher_of_within (hr : r ∈ rules) (h : v.Within w) (hrest : v.rest = w.rest)
    (hw : r.matcher w = some hit) : r.matcher v = some hit := by
  simp only [rules, List.mem_cons, List.not_mem_nil, or_false] at hr
  obtain rfl | rfl := hr
  · simp only [openConcat, Option.ite_none_left_eq_some, h.head] at hw ⊢
    exact ⟨mt (guarded_of_within h) hw.1, hw.2⟩
  · simp only [builtThenOpened, builtThenUsed, Option.ite_none_left_eq_some, h.head, hrest] at hw ⊢
    exact ⟨mt (guarded_of_within h) hw.1, hw.2⟩

theorem RequestForgery.guarded_of_within (h : v.Within w) (hv : guarded v = true) :
    guarded w = true := by
  rw [guarded, requests, h.head] at hv
  rw [guarded, requests]
  rw [List.any_eq_true] at hv ⊢
  obtain ⟨f, hf, hallow⟩ := hv
  rw [List.mem_filter] at hf
  exact ⟨f, List.mem_filter.mpr ⟨h.context_suffix.mem hf.1, hf.2⟩, hallow⟩

theorem RequestForgery.matcher_of_within (hr : r ∈ rules) (h : v.Within w) (hrest : v.rest = w.rest)
    (hw : r.matcher w = some hit) : r.matcher v = some hit := by
  simp only [rules, List.mem_cons, List.not_mem_nil, or_false] at hr
  obtain rfl | rfl := hr
  · simp only [dynamicUrl, Option.ite_none_left_eq_some, h.head] at hw ⊢
    exact ⟨mt (guarded_of_within h) hw.1, hw.2⟩
  · simp only [builtThenRequested, builtThenUsed, Option.ite_none_left_eq_some, h.head,
      hrest] at hw ⊢
    exact ⟨mt (guarded_of_within h) hw.1, hw.2⟩

theorem WeakCrypto.weakHashCredential_of_within (h : v.Within w)
    (hv : weakHashCredential v = some hit) : weakHashCredential w = some hit := by
  simp only [weakHashCredential, weakCall?, h.head] at hv ⊢
  split at hv
  next => cases hv
  next f name hcall =>
    split at hv
    next hcredential =>
      obtain ⟨g, hg, hmentions⟩ := List.any_eq_true.mp hcredential
      rw [if_pos (List.any_eq_true.mpr ⟨g, h.context_suffix.mem hg, hmentions⟩), hv]
    next => cases hv

theorem Registry.matcher_of_within (hr : r ∈ builtin.rules)
    (hcategory : r.category ∈ [.pathTraversal, .ssrf]) (h : v.Within w) (hrest : v.rest = w.rest)
    (hw : r.matcher w = some hit) : r.matcher v = some hit := by
  have helsewhere : ∀ r ∈ CommandInjection.rules ++ SqlInjection.rules ++ HardcodedSecret.rules ++
      WeakCrypto.rules, r.category ∉ [.pathTraversal, .ssrf] := by decide
  simp only [builtin, List.mem_append] at hr helsewhere
  obtain ((((hr | hr) | hr) | hr) | hr) | hr := hr
  · exact absurd hcategory (helsewhere r (by simp [hr]))
  · exact absurd hcategory (helsewhere r (by simp [hr]))
  · exact PathTraversal.matcher_of_within hr h hrest hw
  · exact RequestForgery.matcher_of_within hr h hrest hw
  · exact absurd hcategory (helsewhere r (by simp [hr]))
  · exact absurd hcategory (helsewhere r (by simp [hr]))

theorem Registry.matcher_of_id_eq (hr : r ∈ builtin.rules)
    (hid : r.id = "crypto_weak_hash_credential") : r.matcher = WeakCrypto.weakHashCredential := by
  obtain rfl := eq_of_id_eq WeakCrypto.rules[0] (by simp [builtin, WeakCrypto.rules]) hr hid
  rfl

theorem Rule.hitAt?_eq_of_sameFor {custom : List CustomRule} {registry : Registry}
    (hregistry : Registry.withCustom custom = .ok registry) (hr : r ∈ registry.rules)
    {source : Source} {width width' lookbehind lookbehind' : UInt64} {index : Nat}
    (hfits : Window.fits index width = Window.fits index width')
    (h : r ∈ Registry.builtin.rules → ∀ s, Window.SameFor r.id
      (.among source (statements source.fragments.toList) width lookbehind index s)
      (.among source (statements source.fragments.toList) width' lookbehind' index s)) :
    r.hitAt? source width lookbehind index = r.hitAt? source width' lookbehind' index := by
  have hmatcher (s : Statement) :
      r.matcher (.among source (statements source.fragments.toList) width lookbehind index s) =
        r.matcher (.among source (statements source.fragments.toList) width' lookbehind' index s) := by
    refine Registry.matcher_eq_withCustom hregistry hr ?_ ?_ fun hbuiltin => h hbuiltin s
    · rfl
    · rfl
  simp only [hitAt?_eq, hmatcher, hfits]

end

def Source.distantBasename : Source :=
  ⟨⟨"n.py"⟩, .python, "basename(p)\nx = 1\nopen(\"/\" + p)"⟩

/-- Both hits are assignments of the statement, and `earlier` does not come after `hit`. -/
def Statement.AssignsInOrder (s : Statement) (earlier hit : Hit) : Prop :=
  ∃ i j : Nat, i ≤ j ∧
    ((s.fragments.filter Fragment.isAssignment)[i]?).map Hit.of = some earlier ∧
    ((s.fragments.filter Fragment.isAssignment)[j]?).map Hit.of = some hit

theorem exists_find?_of_imp {α : Type} {p q : α → Bool} {xs : List α} {a : α}
    (hpq : ∀ x, p x = true → q x = true) (ha : xs.find? p = some a) :
    ∃ b, xs.find? q = some b ∧ ∃ i j : Nat, i ≤ j ∧ xs[i]? = some b ∧ xs[j]? = some a := by
  obtain ⟨hp, j, hj, rfl, -⟩ := List.find?_eq_some_iff_getElem.mp ha
  cases hfind : xs.find? q with
  | none => exact absurd (hpq _ hp) (List.find?_eq_none.mp hfind _ (List.getElem_mem hj))
  | some b =>
    obtain ⟨-, i, hi, rfl, hbefore⟩ := List.find?_eq_some_iff_getElem.mp hfind
    -- an element that meets `p` cannot be among those passed over for `q`
    have hle : i ≤ j := by
      by_contra hlt
      have hq := hbefore j (by omega)
      simp [hpq _ hp] at hq
    exact ⟨xs[i], rfl, i, j, hle, List.getElem?_eq_getElem hi, List.getElem?_eq_getElem hj⟩

section

variable {v w : Window} {r : Rule} {hit : Hit}

theorem builtThenUsed_of_within (h : v.Within w) {built : Expr → Bool} {sink : Fragment → Bool}
    (hv : builtThenUsed v built sink = some hit) :
    ∃ earlier, builtThenUsed w built sink = some earlier ∧
      w.statement.AssignsInOrder earlier hit := by
  rw [builtThenUsed, h.head] at hv
  obtain ⟨a, ha, rfl⟩ := Option.map_eq_some_iff.mp hv
  have hmore : ∀ a : Fragment,
      (a.value?.any built && v.rest.any fun f => sink f && f.uses a.text) = true →
      (a.value?.any built && w.rest.any fun f => sink f && f.uses a.text) = true := by
    intro a hused
    simp only [Bool.and_eq_true, List.any_eq_true] at hused ⊢
    obtain ⟨hbuilt, f, hf, huse⟩ := hused
    exact ⟨hbuilt, f, h.rest.mem hf, huse⟩
  obtain ⟨b, hb, i, j, hle, hi, hj⟩ := exists_find?_of_imp hmore ha
  refine ⟨.of b, ?_, i, j, hle, ?_, ?_⟩
  · rw [builtThenUsed, hb, Option.map_some]
  · exact congrArg (Option.map Hit.of) hi
  · exact congrArg (Option.map Hit.of) hj

theorem Registry.matcher_of_within_forward (hr : r ∈ builtin.rules) (hid : r.id ∈ forwardIds)
    (h : v.Within w) (hpreceding : v.preceding = w.preceding) (hv : r.matcher v = some hit) :
    ∃ earlier, r.matcher w = some earlier ∧ w.statement.AssignsInOrder earlier hit := by
  -- a wider window shows no more guards
  have hcontext := Window.context_eq h.statement hpreceding
  simp only [forwardIds, List.mem_cons, List.not_mem_nil, or_false] at hid
  obtain hid | hid | hid | hid := hid
  · obtain rfl :=
      eq_of_id_eq CommandInjection.rules[2] (by simp [builtin, CommandInjection.rules]) hr hid
    exact builtThenUsed_of_within h hv
  · obtain rfl := eq_of_id_eq SqlInjection.rules[2] (by simp [builtin, SqlInjection.rules]) hr hid
    exact builtThenUsed_of_within h hv
  · obtain rfl := eq_of_id_eq PathTraversal.rules[1] (by simp [builtin, PathTraversal.rules]) hr hid
    simp only [PathTraversal.rules, List.getElem_cons_succ, List.getElem_cons_zero,
      PathTraversal.builtThenOpened, PathTraversal.guarded_eq h.source hcontext,
      Option.ite_none_left_eq_some] at hv ⊢
    obtain ⟨earlier, hearlier, horder⟩ := builtThenUsed_of_within h hv.2
    exact ⟨earlier, ⟨hv.1, hearlier⟩, horder⟩
  · obtain rfl := eq_of_id_eq RequestForgery.rules[1] (by simp [builtin, RequestForgery.rules]) hr hid
    simp only [RequestForgery.rules, List.getElem_cons_succ, List.getElem_cons_zero,
      RequestForgery.builtThenRequested, RequestForgery.guarded_eq h.head hcontext,
      Option.ite_none_left_eq_some] at hv ⊢
    obtain ⟨earlier, hearlier, horder⟩ := builtThenUsed_of_within h hv.2
    exact ⟨earlier, ⟨hv.1, hearlier⟩, horder⟩

end

def Source.sharedValue : Source := ⟨⟨"n.py"⟩, .python, "a = b = \"x\" + q\nexec(b)\nexec(a)"⟩

def Source.builtCommand : Source := ⟨⟨"n.py"⟩, .python, "x = 1\nc = \"ls \" + d\nexec(c)"⟩

end SourceAudit
