import Mathlib.Data.List.Nodup
import SourceAudit.Proofs.Registry

/-! What a rule looks at. All rules look at the head of a window. Beyond it, four look at the statements
that follow, five at those that come before, and three into the text that the fragments were taken
from; a declared rule searches the text of the head. -/
namespace SourceAudit

namespace Registry

def forwardIds : List String :=
  ["cmd_built_then_executed", "sql_built_then_executed", "path_built_then_opened",
    "ssrf_built_then_requested"]

def backwardIds : List String :=
  ["path_open_concat", "path_built_then_opened", "ssrf_dynamic_url", "ssrf_built_then_requested",
    "crypto_weak_hash_credential"]

def textIds : List String := ["cmd_shell_flag", "path_open_concat", "path_built_then_opened"]

end Registry

structure Window.SameFor (id : String) (v w : Window) : Prop where
  statement : v.statement = w.statement
  rest : id ∈ Registry.forwardIds → v.rest = w.rest
  preceding : id ∈ Registry.backwardIds → v.preceding = w.preceding
  source : id ∈ Registry.textIds → v.source = w.source

section

variable {v w : Window} {r : Rule}

theorem Window.head_eq (h : v.statement = w.statement) : v.head = w.head :=
  congrArg Statement.fragments h

theorem Window.context_eq (hstatement : v.statement = w.statement)
    (hpreceding : v.preceding = w.preceding) : v.context = w.context := by
  rw [context, context, hpreceding, head_eq hstatement]

theorem Window.SameFor.head {id : String} (h : Window.SameFor id v w) : v.head = w.head :=
  head_eq h.statement

theorem Window.SameFor.context {id : String} (h : Window.SameFor id v w)
    (hid : id ∈ Registry.backwardIds) : v.context = w.context :=
  context_eq h.statement (h.preceding hid)

theorem CommandInjection.matcher_eq (hr : r ∈ rules) (h : Window.SameFor r.id v w) :
    r.matcher v = r.matcher w := by
  simp only [rules, List.mem_cons, List.not_mem_nil, or_false] at hr
  obtain rfl | rfl | rfl := hr
  · simp only [shellConcat, h.head]
  · simp only [shellFlag, h.head, Window.textOf, h.source (by decide)]
  · simp only [builtThenExecuted, builtThenUsed, h.head, h.rest (by decide)]

theorem SqlInjection.matcher_eq (hr : r ∈ rules) (h : Window.SameFor r.id v w) :
    r.matcher v = r.matcher w := by
  simp only [rules, List.mem_cons, List.not_mem_nil, or_false] at hr
  obtain rfl | rfl | rfl := hr
  · simp only [execDynamic, h.head]
  · simp only [stringFormat, h.head]
  · simp only [builtThenExecuted, builtThenUsed, h.head, h.rest (by decide)]

theorem PathTraversal.isGuard_eq (hsource : v.source = w.source) : isGuard v = isGuard w := by
  funext f
  unfold isGuard isParentComparison
  rw [hsource]

theorem PathTraversal.guarded_eq (hsource : v.source = w.source) (hcontext : v.context = w.context) :
    guarded v = guarded w := by
  rw [guarded, guarded, isGuard_eq hsource, hcontext]

theorem PathTraversal.matcher_eq (hr : r ∈ rules) (h : Window.SameFor r.id v w) :
    r.matcher v = r.matcher w := by
  simp only [rules, List.mem_cons, List.not_mem_nil, or_false] at hr
  obtain rfl | rfl := hr
  · have hguarded := guarded_eq (h.source (by decide)) (h.context (by decide))
    simp only [openConcat, hguarded, h.head]
  · have hguarded := guarded_eq (h.source (by decide)) (h.context (by decide))
    simp only [builtThenOpened, builtThenUsed, hguarded, h.head, h.rest (by decide)]

theorem RequestForgery.guarded_eq (hhead : v.head = w.head) (hcontext : v.context = w.context) :
    guarded v = guarded w := by
  simp only [guarded, requests, hhead, hcontext]

theorem RequestForgery.matcher_eq (hr : r ∈ rules) (h : Window.SameFor r.id v w) :
    r.matcher v = r.matcher w := by
  simp only [rules, List.mem_cons, List.not_mem_nil, or_false] at hr
  obtain rfl | rfl := hr
  · have hguarded := guarded_eq h.head (h.context (by decide))
    simp only [dynamicUrl, hguarded, h.head]
  · have hguarded := guarded_eq h.head (h.context (by decide))
    simp only [builtThenRequested, builtThenUsed, hguarded, h.head, h.rest (by decide)]

theorem HardcodedSecret.matcher_eq (hr : r ∈ rules) (h : Window.SameFor r.id v w) :
    r.matcher v = r.matcher w := by
  simp only [rules, List.mem_cons, List.not_mem_nil, or_false] at hr
  obtain rfl | rfl | rfl | rfl := hr
  · simp only [tokenPrefix, h.head]
  · simp only [privateKey, h.head]
  · simp only [highEntropy, h.head]
  · simp only [namedCredential, h.head]

theorem WeakCrypto.matcher_eq (hr : r ∈ rules) (h : Window.SameFor r.id v w) :
    r.matcher v = r.matcher w := by
  simp only [rules, List.mem_cons, List.not_mem_nil, or_false] at hr
  obtain rfl | rfl := hr
  · simp only [weakHashCredential, weakCall?, h.head, h.context (by decide)]
  · simp only [weakHash, weakCall?, h.head]

theorem Registry.matcher_eq_builtin (hr : r ∈ builtin.rules) (h : Window.SameFor r.id v w) :
    r.matcher v = r.matcher w := by
  simp only [builtin, List.mem_append] at hr
  obtain ((((hr | hr) | hr) | hr) | hr) | hr := hr
  · exact CommandInjection.matcher_eq hr h
  · exact SqlInjection.matcher_eq hr h
  · exact PathTraversal.matcher_eq hr h
  · exact RequestForgery.matcher_eq hr h
  · exact HardcodedSecret.matcher_eq hr h
  · exact WeakCrypto.matcher_eq hr h

theorem Registry.eq_of_id_eq (known : Rule) (hknown : known ∈ builtin.rules) (hr : r ∈ builtin.rules)
    (h : r.id = known.id) : r = known :=
  List.inj_on_of_nodup_map nodup_ids_builtin hr hknown h

theorem Rule.SearchesText.matcher_eq (hr : r.SearchesText) (hstatement : v.statement = w.statement)
    (hsource : v.source = w.source) : r.matcher v = r.matcher w := by
  obtain ⟨-, p, hp⟩ := hr
  simp only [hp, patternMatcher, Window.headText, Window.headSpan, hstatement, hsource]

theorem Registry.matcher_eq_withCustom {custom : List CustomRule} {registry : Registry}
    (hregistry : withCustom custom = .ok registry) (hr : r ∈ registry.rules)
    (hstatement : v.statement = w.statement) (hsource : v.source = w.source)
    (h : r ∈ builtin.rules → Window.SameFor r.id v w) : r.matcher v = r.matcher w := by
  obtain hbuiltin | hsearch := mem_rules_withCustom hregistry r hr
  · exact matcher_eq_builtin hbuiltin (h hbuiltin)
  · exact hsearch.matcher_eq hstatement hsource

end
end SourceAudit
