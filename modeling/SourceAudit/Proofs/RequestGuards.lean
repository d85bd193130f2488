import SourceAudit.Proofs.Finds
import SourceAudit.Proofs.Windows

/-! Guards in front of requests. A name between the brackets of a request is not taken for an allow-list,
whether it is passed by position or by keyword. A key between braces is: it is found as an assignment, and
the request hides behind its own argument. -/
namespace SourceAudit

theorem Source.within_of_encloses {source : Source} {c : Walk.Find} {f : Fragment}
    (hc : c ∈ source.finds) (hf : f ∈ source.fragments.toList) (hcall : c.fragment.kind = .call)
    (hname : f.kind = .identifier) (h : c.Encloses f) :
    c.fragment.span.start < f.span.start ∧ f.span.stop ≤ c.fragment.span.stop := by
  obtain ⟨d, hd, rfl⟩ := exists_find hf
  have hplace := Walk.suffix_of_mem_finds {} (tokenize source.language source.text).toList
  exact h.within (pairwise_before_tokenize _ _) (hplace c hc) (hplace d hd) hcall hname

namespace RequestForgery

def InRequest (source : Source) (w : Window) (f : Fragment) : Prop :=
  ∃ c ∈ source.finds, c.fragment ∈ requests w ∧ c.Encloses f

theorem isInside_of_inRequest {source : Source} {w : Window} {f : Fragment}
    (hf : f ∈ source.fragments.toList) (hname : f.kind = .identifier) (h : InRequest source w f) :
    isInside (requests w) f = true := by
  obtain ⟨c, hc, hrequest, hencloses⟩ := h
  have hsink := (List.mem_filter.mp hrequest).2
  have hcall : c.fragment.kind = .call := of_decide_eq_true (Bool.and_eq_true_iff.mp hsink).1
  obtain ⟨hstart, hstop⟩ := Source.within_of_encloses hc hf hcall hname hencloses
  have hany : (requests w).any (fun s =>
      decide (s.span.start < f.span.start) && decide (f.span.stop ≤ s.span.stop)) = true :=
    List.any_eq_true.mpr ⟨c.fragment, hrequest, by simp [hstart, hstop]⟩
  rw [isInside, hany, decide_eq_true hname]
  rfl

theorem guarded_eq_true_iff {w : Window} :
    guarded w = true ↔
      ∃ f ∈ w.context, isAllowList f = true ∧ isInside (requests w) f = false := by
  simp only [guarded, List.any_eq_true, List.mem_filter, Bool.not_eq_true']
  constructor
  · rintro ⟨f, ⟨hf, houtside⟩, hallow⟩
    exact ⟨f, hf, hallow, houtside⟩
  · rintro ⟨f, hf, hallow, houtside⟩
    exact ⟨f, ⟨hf, houtside⟩, hallow⟩

theorem isInside_of_assignment {calls : List Fragment} {f : Fragment} (h : f.kind = .assignment) :
    isInside calls f = false := by
  simp [isInside, h]

/-! ### What is reported when nothing guards -/

section

variable {w : Window} (hguarded : guarded w = false)
include hguarded

theorem isSome_dynamicUrl {c : Fragment} (hc : c ∈ requests w)
    (hsplices : (c.positional.take 2).any Expr.splices = true) : (dynamicUrl w).isSome = true := by
  obtain ⟨hhead, hsink⟩ := List.mem_filter.mp hc
  rw [dynamicUrl, if_neg (by simp [hguarded]), Option.isSome_map, List.find?_isSome]
  exact ⟨c, hhead, by rw [hsink, hsplices]; rfl⟩

theorem isSome_builtThenRequested {a c : Fragment} (ha : a ∈ w.head) (hassigns : a.isAssignment = true)
    (hbuilt : a.value?.any (fun e => e.splices && looksLikeUrl e) = true) (hc : c ∈ w.rest)
    (hsink : c.isSink requestSinks = true) (huses : c.uses a.text = true) :
    (builtThenRequested w).isSome = true := by
  rw [builtThenRequested, if_neg (by simp [hguarded]), builtThenUsed, Option.isSome_map,
    List.find?_isSome]
  refine ⟨a, List.mem_filter.mpr ⟨ha, hassigns⟩, ?_⟩
  rw [hbuilt, Bool.true_and, List.any_eq_true]
  exact ⟨c, hc, by rw [hsink, huses]; rfl⟩

end

/-- An allow-list in sight is the name of an assignment. No round or square bracket holds an assignment
directly, so this is a key between braces or the target of a statement, not a keyword of a call. -/
def AssignsAllowList (source : Source) (w : Window) : Prop :=
  ∃ d ∈ source.finds, d.fragment ∈ w.context ∧ isAllowList d.fragment = true ∧
    d.fragment.kind = .assignment ∧ d.walk.atStatementLevel = true

/-- Where allow-lists are named only between the brackets of the requests that the head sends, they guard
just when one of them is assigned there. Where none is, both rules report what they look for. -/
theorem arguments_guard_iff_assigned {source : Source} {width lookbehind : UInt64} {index : Nat}
    {w : Window} (hw : source.windowAt? width lookbehind index = some w)
    (h : ∀ f ∈ w.context, isAllowList f = true →
      (f.kind = .identifier ∨ f.kind = .assignment) ∧ InRequest source w f) :
    (guarded w = true ↔ AssignsAllowList source w) ∧
    (¬AssignsAllowList source w →
      (∀ c ∈ requests w, (c.positional.take 2).any Expr.splices = true →
        (dynamicUrl w).isSome = true) ∧
      ∀ a ∈ w.head, a.isAssignment = true →
        a.value?.any (fun e => e.splices && looksLikeUrl e) = true →
        ∀ c ∈ w.rest, c.isSink requestSinks = true → c.uses a.text = true →
          (builtThenRequested w).isSome = true) := by
  have hcontext {f : Fragment} (hf : f ∈ w.context) : f ∈ source.fragments.toList := by
    rw [Source.windowAt?_eq, Option.ite_none_right_eq_some] at hw
    obtain ⟨s, hs, rfl⟩ := Option.map_eq_some_iff.mp hw.2
    exact Window.mem_fragments_of_mem_context hs hf
  have hiff : guarded w = true ↔ AssignsAllowList source w := by
    rw [guarded_eq_true_iff]
    constructor
    · rintro ⟨f, hf, hallow, houtside⟩
      -- only a name is ever set aside as an argument
      obtain ⟨hname | hassigned, hrequest⟩ := h f hf hallow
      · rw [isInside_of_inRequest (hcontext hf) hname hrequest] at houtside
        cases houtside
      · obtain ⟨d, hd, rfl⟩ := Source.exists_find (hcontext hf)
        exact ⟨d, hd, hf, hallow, hassigned, d.yields.atStatementLevel hassigned⟩
    · rintro ⟨d, -, hd, hallow, hassigned, -⟩
      exact ⟨d.fragment, hd, hallow, isInside_of_assignment hassigned⟩
  refine ⟨hiff, fun hnone => ?_⟩
  have hguarded : guarded w = false := by rwa [← Bool.not_eq_true, hiff]
  exact ⟨fun _ => isSome_dynamicUrl hguarded,
    fun _ ha hassigns hbuilt _ => isSome_builtThenRequested hguarded ha hassigns hbuilt⟩

/-! ### Texts of one statement -/

theorem context_of_single {source : Source} {width lookbehind : UInt64} {w : Window}
    (hw : source.windowAt? width lookbehind 0 = some w)
    (hone : (statements source.fragments.toList).length = 1) :
    w.preceding = [] ∧ w.head = source.fragments.toList := by
  rw [Source.windowAt?_eq, Option.ite_none_right_eq_some] at hw
  obtain ⟨s, hs, rfl⟩ := Option.map_eq_some_iff.mp hw.2
  obtain ⟨s', hs'⟩ := List.length_eq_one_iff.mp hone
  rw [hs'] at hs
  obtain rfl : s' = s := by simpa using hs
  refine ⟨by simp [Window.among, Window.around], ?_⟩
  have hall := flatMap_fragments_statements source.fragments.toList
  rw [hs'] at hall
  simpa [Window.head, Window.among, Window.around] using hall

theorem inRequest_of_single {source : Source} {width lookbehind : UInt64} {w : Window}
    (hw : source.windowAt? width lookbehind 0 = some w)
    (hone : (statements source.fragments.toList).length = 1)
    (h : ∀ d ∈ source.finds, isAllowList d.fragment = true →
      (d.fragment.kind = .identifier ∨ d.fragment.kind = .assignment) ∧
      ∃ c ∈ source.finds, c.fragment.isSink requestSinks = true ∧ c.Encloses d.fragment) :
    ∀ f ∈ w.context, isAllowList f = true →
      (f.kind = .identifier ∨ f.kind = .assignment) ∧ InRequest source w f := by
  obtain ⟨hpreceding, hhead⟩ := context_of_single hw hone
  intro f hf hallow
  rw [Window.context, hpreceding, hhead, List.nil_append] at hf
  obtain ⟨d, hd, rfl⟩ := Source.exists_find hf
  obtain ⟨hkind, c, hc, hsink, hencloses⟩ := h d hd hallow
  refine ⟨hkind, c, hc, List.mem_filter.mpr ⟨?_, hsink⟩, hencloses⟩
  rw [hhead, ← source.map_fragment_finds]
  exact List.mem_map_of_mem hc

def keywordRequest : Source :=
  ⟨⟨"n.py"⟩, .python, "requests.get(\"http://\" + h, allowed=1)"⟩

theorem arguments_guard_iff_assigned_keyword :
    ∃ w, keywordRequest.windowAt? 1 8 0 = some w ∧
      (∀ f ∈ w.context, isAllowList f = true →
        (f.kind = .identifier ∨ f.kind = .assignment) ∧ InRequest keywordRequest w f) ∧
      w.context.any isAllowList = true ∧ guarded w = false ∧ (dynamicUrl w).isSome = true := by
  have hone : (statements keywordRequest.fragments.toList).length = 1 := by decide +kernel
  have hfinds : ∀ d ∈ keywordRequest.finds, isAllowList d.fragment = true →
      d.fragment.kind = .identifier ∧
      ∃ c ∈ keywordRequest.finds, c.fragment.isSink requestSinks = true ∧
        c.Encloses d.fragment := by decide +kernel
  have hshown : (keywordRequest.windowAt? 1 8 0).any (fun w => w.context.any isAllowList &&
      (requests w).any fun c => (c.positional.take 2).any Expr.splices) = true := by decide +kernel
  obtain ⟨w, hw, hshown⟩ := (Option.any_eq_true _ _).mp hshown
  obtain ⟨hallow, hspliced⟩ := Bool.and_eq_true_iff.mp hshown
  have hrequests := inRequest_of_single hw hone fun d hd hallow => (hfinds d hd hallow).imp_left .inl
  obtain ⟨hiff, hreports⟩ := arguments_guard_iff_assigned hw hrequests
  have hnone : ¬AssignsAllowList keywordRequest w := by
    rintro ⟨d, hd, -, hallow, hassigned, -⟩
    rw [(hfinds d hd hallow).1] at hassigned
    cases hassigned
  obtain ⟨c, hc, hsplices⟩ := List.any_eq_true.mp hspliced
  refine ⟨w, hw, hrequests, hallow, ?_, (hreports hnone).1 c hc hsplices⟩
  rwa [← Bool.not_eq_true, hiff]

def keyedRequest : Source := ⟨⟨"a.js"⟩, .javaScript, "fetch(\"http://\" + h, \x7ballowed: 1\x7d)"⟩

/-- A key in an argument of a request is taken for an allow-list, and the request goes unreported. -/
theorem exists_request_guarded_by_own_key :
    ∃ w, keyedRequest.windowAt? 1 8 0 = some w ∧
      (∀ f ∈ w.context, isAllowList f = true →
        (f.kind = .identifier ∨ f.kind = .assignment) ∧ InRequest keyedRequest w f) ∧
      guarded w = true ∧ dynamicUrl w = none ∧
      ∃ c ∈ requests w, (c.positional.take 2).any Expr.splices = true := by
  have hone : (statements keyedRequest.fragments.toList).length = 1 := by decide +kernel
  have hfinds : ∀ d ∈ keyedRequest.finds, isAllowList d.fragment = true →
      (d.fragment.kind = .identifier ∨ d.fragment.kind = .assignment) ∧
      ∃ c ∈ keyedRequest.finds, c.fragment.isSink requestSinks = true ∧
        c.Encloses d.fragment := by decide +kernel
  have hshown : (keyedRequest.windowAt? 1 8 0).any (fun w => guarded w &&
      (requests w).any fun c => (c.positional.take 2).any Expr.splices) = true := by decide +kernel
  obtain ⟨w, hw, hshown⟩ := (Option.any_eq_true _ _).mp hshown
  obtain ⟨hguarded, hspliced⟩ := Bool.and_eq_true_iff.mp hshown
  refine ⟨w, hw, inRequest_of_single hw hone hfinds, hguarded, ?_, List.any_eq_true.mp hspliced⟩
  rw [dynamicUrl, if_pos hguarded]

end RequestForgery
end SourceAudit
