import SourceAudit.Proofs.BracketStack

/-! Chains of calls. A walk notes the closing bracket of each call together with the callee at the root of its
chain, and a name behind a dot looks that bracket up. Every root it knows is the callee of an earlier call that
begins a chain; and a chain is carried on, link by link, as long as the walk comes out of each bracket as it
went in. -/
namespace SourceAudit

structure Fragment.Begins (f : Fragment) (root : String) : Prop where
  kind : f.kind = .call
  text : f.text = root
  chain : f.chain = none

namespace Walk

/-! ### Where roots come from -/

def Rooted (w : Walk) (done : List Fragment) : Prop := ∀ e ∈ w.roots, ∃ g ∈ done, g.Begins e.2

theorem mem_roots_of_chainRoot? {w : Walk} {root : String} (h : w.chainRoot? = some root) :
    ∃ k, (k, root) ∈ w.roots := by
  unfold chainRoot? at h
  split at h
  next => cases h
  next =>
    split at h
    next =>
      dsimp only at h
      split at h
      next =>
        obtain ⟨front, back, hroots, -⟩ := List.lookup_eq_some_iff.mp h
        exact ⟨_, hroots ▸ List.mem_append_right _ List.mem_cons_self⟩
      next => cases h
    next => cases h

theorem roots_close (w : Walk) (fits : Bracket → Bool) : (w.close fits).roots = w.roots := by
  unfold close
  split <;> rfl

theorem roots_onMark (w : Walk) (t : Token) : (w.onMark t).roots = w.roots := by
  unfold onMark
  split
  · split <;> rfl
  · split <;> rfl
  · rfl
  · rfl
  · dsimp only
    split <;> rfl
  · dsimp only
    split
    · exact roots_close w _
    · exact roots_close w _
  · exact roots_close w _
  · exact roots_close w _
  · rfl

theorem rooted_step {w : Walk} {done : List Fragment} (h : w.Rooted done) (t : Token) (rest : List Token) :
    (w.step t rest).walk.Rooted (done ++ (w.step t rest).found.toList) ∧
    ∀ f ∈ (w.step t rest).found, ∀ root, f.chain = some root → f.kind = .call ∧ ∃ g ∈ done, g.Begins root := by
  have hkeep (found : List Fragment) : w.Rooted (done ++ found) := by
    intro e he
    obtain ⟨g, hg, hbegins⟩ := h e he
    exact ⟨g, List.mem_append_left _ hg, hbegins⟩
  have htakes := takes_step w t rest
  generalize w.step t rest = s at htakes ⊢
  cases htakes with
  | newline _ hwalk =>
    obtain rfl | rfl := hwalk
    · exact ⟨hkeep _, nofun⟩
    · exact ⟨hkeep _, nofun⟩
  | mark =>
    refine ⟨?_, nofun⟩
    unfold Rooted
    rw [roots_onMark]
    exact hkeep _
  | number | function | declaration | keyword => exact ⟨hkeep _, nofun⟩
  | literal | name | assignment =>
    refine ⟨hkeep _, fun f hf root hroot => ?_⟩
    cases hf
    cases hroot
  | call =>
    obtain ⟨f, hfound, hkind, htext, hchain, -⟩ := exists_found_onCall w t ..
    rw [hfound, walk_onCall]
    constructor
    · intro e he
      obtain he | he := List.mem_append.mp he
      · obtain ⟨-, -, rfl⟩ := eq_of_mem_rootOfCall he
        cases hroot : w.chainRoot? with
        | none => exact ⟨f, by simp, hkind, htext, hchain.trans hroot⟩
        | some root =>
          obtain ⟨k, hk⟩ := mem_roots_of_chainRoot? hroot
          exact hkeep _ (k, root) hk
      · exact hkeep _ e he
    · intro _ hf root hroot
      obtain rfl := Option.some.inj hf
      obtain ⟨k, hk⟩ := mem_roots_of_chainRoot? (hchain.symm.trans hroot)
      exact ⟨hkind, h _ hk⟩

theorem rooted_fragments (w : Walk) (ts : List Token) {f : Fragment} {root : String}
    (hroot : f.chain = some root) (after : List Fragment) :
    ∀ done, w.Rooted done → ∀ before, w.fragments ts = before ++ f :: after →
      f.kind = .call ∧ ∃ g ∈ done ++ before, g.Begins root := by
  fun_induction fragments w ts with
  | case1 => simp
  | case2 w t rest s ih =>
    intro done h before hf
    obtain ⟨hwalk, hfound⟩ := rooted_step h t rest
    cases hs : s.found with
    | none =>
      rw [show (w.step t rest).found = none from hs, Option.toList_none, List.append_nil] at hwalk
      rw [hs, Option.toList_none, List.nil_append] at hf
      exact ih done hwalk before hf
    | some g =>
      rw [show (w.step t rest).found = some g from hs] at hwalk hfound
      rw [hs, Option.toList_some, List.singleton_append] at hf
      cases before with
      | nil =>
        obtain ⟨rfl, -⟩ := List.cons.inj hf
        rw [List.append_nil]
        exact hfound g rfl root hroot
      | cons first before =>
        obtain ⟨rfl, hbehind⟩ := List.cons.inj hf
        have hlater := ih _ hwalk before hbehind
        rwa [Option.toList_some, List.append_assoc, List.singleton_append] at hlater

/-! ### Links -/

structure Link where
  breaks : List Token
  dot : Token
  name : Token
  group : Group
  isNewline : ∀ b ∈ breaks, b.isNewline = true
  isDot : dot.isPunct "." = true ∨ dot.isPunct "?." = true
  isIdent : name.isIdent = true
  notKeyword : name.text ∉ Vocabulary.keywords
  isRound : group.opener.isPunct "(" = true

def Link.tokens (l : Link) : List Token := l.breaks ++ l.dot :: l.name :: l.group.tokens

/-- The walk stands right behind the closing bracket of a call whose chain began with `root`. -/
structure Carries (w : Walk) (root : String) : Prop where
  expectsName : w.expectsName = false
  depth : w.stack.length < Expr.maxNesting
  closer : ∃ closer more, w.before = closer :: more ∧ closer.isNewline = false
  root : w.roots.lookup (w.index - 1) = some root

/-- Calls inside the bracket have closing brackets of their own, so the root of the call is not lost. -/
theorem Behind.carries {w v : Walk} {g : Group} {root : String} (h : w.Behind g v)
    (hdepth : w.stack.length < Expr.maxNesting)
    (hroot : w.roots.lookup (w.index + g.inner.length + 1) = some root) : v.Carries root where
  expectsName := h.expectsName
  depth := h.stack ▸ hdepth
  closer := by
    refine ⟨g.closer, (g.opener :: g.inner).reverse ++ w.before, by simp [h.before, Group.tokens], ?_⟩
    simp [Token.isNewline, Expr.kind_of_isClose (Token.isClose_of_closes g.closes)]
  root := by
    obtain ⟨new, hnew, hlt⟩ := h.roots
    have hindex : v.index - 1 = w.index + g.inner.length + 1 := by
      rw [h.index, g.length_tokens]
      omega
    have hinside : new.lookup (w.index + g.inner.length + 1) = none := by
      apply List.lookup_eq_none_iff.mpr
      intro e he
      have hkey := hlt e he
      rw [g.length_tokens] at hkey
      simp only [bne_iff_ne]
      omega
    rw [hindex, hnew, List.lookup_append, hinside, Option.none_or, hroot]

theorem finds_breaks {w : Walk} (hexpects : w.expectsName = false) {breaks : List Token}
    (hbreaks : ∀ b ∈ breaks, b.isNewline = true) (behind : List Token) :
    ∃ (ds : List Find) (v : Walk), w.finds (breaks ++ behind) = ds ++ v.finds behind ∧
      v.expectsName = false ∧ v.stack = w.stack ∧ v.roots = w.roots ∧
      v.before = breaks.reverse ++ w.before ∧ v.index = w.index + breaks.length := by
  induction breaks generalizing w with
  | nil => exact ⟨[], w, rfl, hexpects, rfl, rfl, rfl, rfl⟩
  | cons b breaks ih =>
    obtain ⟨hbreak, hbreaks⟩ := List.forall_mem_cons.mp hbreaks
    obtain ⟨v, hstep, hv⟩ : ∃ v, w.step b (breaks ++ behind) = { walk := v } ∧ (v = w ∨ v = w.endStatement) := by
      rw [step, of_decide_eq_true hbreak]
      dsimp only
      split
      · exact ⟨_, rfl, .inr rfl⟩
      · exact ⟨_, rfl, .inl rfl⟩
    have hsame : v.expectsName = false ∧ v.stack = w.stack ∧ v.roots = w.roots ∧ v.before = w.before ∧
        v.index = w.index := by
      obtain rfl | rfl := hv
      · exact ⟨hexpects, rfl, rfl, rfl, rfl⟩
      · exact ⟨rfl, rfl, rfl, rfl, rfl⟩
    obtain ⟨hname, hstack, hroots, hbefore, hindex⟩ := hsame
    obtain ⟨ds, u, hfinds, huname, hustack, huroots, hubefore, huindex⟩ :=
      ih (w := v.passed [b]) hname hbreaks
    refine ⟨w.findsHere b (breaks ++ behind) ++ ds, u, ?_, huname, hustack.trans hstack, huroots.trans hroots,
      ?_, ?_⟩
    · rw [List.cons_append, finds_cons, hstep, List.take_zero, List.drop_zero, hfinds, List.append_assoc]
    · rw [hubefore, List.reverse_cons, List.append_assoc, ← hbefore]
      rfl
    · have hpassed : (v.passed [b]).index = v.index + 1 := rfl
      rw [huindex, List.length_cons]
      omega

theorem onMark_of_text (w : Walk) {t : Token}
    (h : t.text ∉ [";", ",", "(", "[", "\x7b", "\x7d", ")", "]"]) : w.onMark t = w := by
  unfold onMark
  split <;> simp_all

theorem chainRoot?_eq {w : Walk} {dot closer : Token} {breaks more : List Token}
    (hdot : dot.isPunct "." = true ∨ dot.isPunct "?." = true) (hbreaks : ∀ b ∈ breaks, b.isNewline = true)
    (hcloser : closer.isNewline = false) (hbefore : w.before = dot :: (breaks ++ closer :: more)) :
    w.chainRoot? = w.roots.lookup (w.index - 2 - breaks.length) := by
  have htake : (breaks ++ closer :: more).takeWhile Token.isNewline = breaks := by
    rw [List.takeWhile_append_of_pos hbreaks, List.takeWhile_cons_of_neg (by simp [hcloser]), List.append_nil]
  have hdot : (dot.isPunct "." || dot.isPunct "?.") = true := by simpa using hdot
  simp only [chainRoot?, hbefore, hdot, if_true, htake]
  rw [if_pos (by simp)]

theorem step_link {w : Walk} (hexpects : w.expectsName = false) (l : Link) (behind : List Token) :
    w.step l.name (l.group.tokens ++ behind) =
      w.onCall l.name ⟨l.name, []⟩ false (l.group.tokens ++ behind) := by
  have hround := l.isRound
  have hword {words : List String} (hwords : ∀ word ∈ words, word ∈ Vocabulary.keywords) :
      words.contains l.name.text = false := by
    rw [← Bool.not_eq_true, List.contains_iff_mem]
    exact fun hmem => l.notKeyword (hwords _ hmem)
  have hfunction := @hword Vocabulary.functionWords (by decide)
  have hdeclaration := @hword Vocabulary.declarationWords (by decide)
  have hkeyword := @hword Vocabulary.keywords fun _ h => h
  have hmore : Expr.segments (l.group.tokens ++ behind) = [] := by
    have hmark : Expr.isPathMark l.group.opener = false := by
      simp [Expr.isPathMark, Token.isPunct, text_of_isPunct hround]
    rw [Group.tokens, List.cons_append]
    cases l.group.inner ++ [l.group.closer] ++ behind with
    | nil => rfl
    | cons u us => simp [Expr.segments, hmark]
  have hpath : Expr.DottedPath.read l.name (l.group.tokens ++ behind) = ⟨l.name, []⟩ := by
    rw [Expr.DottedPath.read, hmore]
  have hopen (nameEnd : Nat) : Expr.callOpen? nameEnd (l.group.tokens ++ behind) = some false := by
    simp [Group.tokens, Expr.callOpen?, hround]
  rw [step, of_decide_eq_true l.isIdent]
  dsimp only
  rw [onIdent, hfunction, hdeclaration, Expr.startsPath, hkeyword]
  simp [onPath, hpath, hopen, hexpects, Expr.DottedPath.length, Expr.callGap]

theorem rootOfCall_group {w : Walk} (hdepth : w.stack.length < Expr.maxNesting) (path : Expr.DottedPath)
    (isMacro : Bool) (g : Group) (behind : List Token) :
    w.rootOfCall path isMacro (g.tokens ++ behind) =
      [(w.index + path.length + Expr.callGap isMacro + (g.inner.length + 1),
        w.chainRoot?.getD (Expr.calleeText path.text isMacro))] := by
  have hclose : (Expr.readArgs w.stack.length (g.tokens ++ behind)).2 = some (g.inner.length + 1) := by
    rw [Group.tokens, List.cons_append, List.append_assoc, List.singleton_append]
    exact Expr.readGroup_nested _ behind g.opens g.closes g.nested
  rw [rootOfCall, if_neg (Nat.not_le.mpr hdepth), hclose]
  rfl

theorem passed_passed (w : Walk) (ts us : List Token) : (w.passed ts).passed us = w.passed (ts ++ us) := by
  simp [passed, Nat.add_assoc]

theorem finds_bracket {w : Walk} {path : Expr.DottedPath} {isMacro : Bool} {g : Group} {ts : List Token}
    (behind : List Token) (hdepth : w.stack.length < Expr.maxNesting) (hexpects : w.expectsName = false)
    (hts : ts.length = path.length + Expr.callGap isMacro) (hg : g.Straight) :
    ∃ (ds : List Find) (u : Walk),
      ((w.calling path isMacro (g.tokens ++ behind)).passed ts).finds (g.tokens ++ behind) =
        ds ++ u.finds behind ∧
      u.Carries (w.chainRoot?.getD (Expr.calleeText path.text isMacro)) := by
  let v := (w.calling path isMacro (g.tokens ++ behind)).passed ts
  obtain ⟨ds, u, hfinds, hbehind⟩ := finds_group (w := v) hexpects rfl hg behind
  refine ⟨ds, u, hfinds, hbehind.carries hdepth ?_⟩
  have hindex : v.index + g.inner.length + 1 =
      w.index + path.length + Expr.callGap isMacro + (g.inner.length + 1) := by
    change w.index + ts.length + g.inner.length + 1 = _
    omega
  change (w.rootOfCall path isMacro (g.tokens ++ behind) ++ w.roots).lookup (v.index + g.inner.length + 1) = _
  rw [rootOfCall_group hdepth, hindex, List.singleton_append, List.lookup_cons_self]

structure Link.Found (l : Link) (root : String) (f : Fragment) : Prop where
  kind : f.kind = .call
  text : f.text = l.name.text
  start : f.span.start = l.name.span.start
  chain : f.chain = some root

theorem finds_name {w : Walk} {root : String} (hexpects : w.expectsName = false)
    (hdepth : w.stack.length < Expr.maxNesting) (hroot : w.chainRoot? = some root) {l : Link}
    (hl : l.group.Straight) (behind : List Token) :
    ∃ (ds : List Find) (u : Walk), w.finds (l.name :: (l.group.tokens ++ behind)) = ds ++ u.finds behind ∧
      u.Carries root ∧ ∃ d ∈ ds, l.Found root d.fragment := by
  have hstep := step_link hexpects l behind
  obtain ⟨ds, u, hfinds, hcarries⟩ := @finds_bracket w ⟨l.name, []⟩ false l.group [l.name] behind hdepth
    hexpects rfl hl
  rw [hroot] at hcarries
  obtain ⟨f, hfound, hkind, htext, hchain, hstart⟩ :=
    exists_found_onCall w l.name ⟨l.name, []⟩ false (l.group.tokens ++ behind)
  have htext : f.text = l.name.text := htext.trans (by simp [Expr.calleeText, Expr.DottedPath.text])
  rw [← hstep] at hfound
  refine ⟨w.findsHere l.name (l.group.tokens ++ behind) ++ ds, u, ?_, hcarries, ⟨_, _, _, f, hfound⟩, ?_,
    hkind, htext, hstart, hchain.trans hroot⟩
  · rw [finds_cons, hstep, walk_onCall, more_onCall, List.append_assoc, ← hfinds]
    rfl
  · exact List.mem_append_left _ (mem_findsHere.mpr ⟨rfl, rfl, rfl⟩)

theorem finds_link {w : Walk} {root : String} (h : w.Carries root) {l : Link} (hl : l.group.Straight)
    (behind : List Token) :
    ∃ (ds : List Find) (u : Walk), w.finds (l.tokens ++ behind) = ds ++ u.finds behind ∧ u.Carries root ∧
      ∃ d ∈ ds, l.Found root d.fragment := by
  obtain ⟨closer, more, hcloser, hnewline⟩ := h.closer
  obtain ⟨ds, v, hfinds, hexpects, hstack, hroots, hbefore, hindex⟩ :=
    finds_breaks h.expectsName l.isNewline (l.dot :: l.name :: (l.group.tokens ++ behind))
  have hmark : v.onMark l.dot = v := by
    apply onMark_of_text
    obtain hdot | hdot := l.isDot
    · simp [text_of_isPunct hdot]
    · simp [text_of_isPunct hdot]
  -- at the name, the bracket that is looked up is the one before the line breaks
  have hroot : (v.passed [l.dot]).chainRoot? = some root := by
    have hbreaks : ∀ b ∈ l.breaks.reverse, b.isNewline = true := by simpa using l.isNewline
    rw [hcloser] at hbefore
    rw [chainRoot?_eq l.isDot hbreaks hnewline (congrArg (l.dot :: ·) hbefore)]
    change v.roots.lookup (v.index + 1 - 2 - l.breaks.reverse.length) = _
    rw [hroots, hindex, ← h.root, List.length_reverse]
    congr 1
    omega
  obtain ⟨es, u, hfinds', hcarries, d, hd, hfound⟩ :=
    finds_name (w := v.passed [l.dot]) hexpects (hstack ▸ h.depth) hroot hl behind
  refine ⟨ds ++ (v.findsHere l.dot (l.name :: (l.group.tokens ++ behind)) ++ es), u, ?_, hcarries, d, ?_, hfound⟩
  · rw [Link.tokens, List.append_assoc, List.cons_append, List.cons_append, hfinds, finds_cons,
      step_of_kind_punct v (l.isDot.elim kind_of_isPunct kind_of_isPunct), hmark, List.take_zero, List.drop_zero,
      hfinds', List.append_assoc, List.append_assoc]
  · exact List.mem_append_right _ (List.mem_append_right _ hd)

theorem found_links {w : Walk} {root : String} (h : w.Carries root) {links : List Link}
    (hlinks : ∀ l ∈ links, l.group.Straight) (behind : List Token) :
    ∀ l ∈ links, ∃ d ∈ w.finds (links.flatMap Link.tokens ++ behind), l.Found root d.fragment := by
  induction links generalizing w with
  | nil => simp
  | cons first links ih =>
    obtain ⟨hfirst, hlinks⟩ := List.forall_mem_cons.mp hlinks
    rw [List.flatMap_cons, List.append_assoc]
    obtain ⟨ds, u, hfinds, hcarries, d, hd, hfound⟩ := finds_link h hfirst (links.flatMap Link.tokens ++ behind)
    rw [hfinds]
    intro l hl
    obtain rfl | hl := List.mem_cons.mp hl
    · exact ⟨d, List.mem_append_left _ hd, hfound⟩
    · obtain ⟨d, hd, hfound⟩ := ih hcarries hlinks l hl
      exact ⟨d, List.mem_append_right _ hd, hfound⟩

/-! ### The call at the root -/

theorem finds_subset (w : Walk) (ts : List Token) :
    ∀ p ∈ w.finds ts, p.walk.finds (p.token :: p.rest) ⊆ w.finds ts := by
  fun_induction finds w ts with
  | case1 => simp
  | case2 w t rest s ih =>
    intro p hp
    obtain hp | hp := List.mem_append.mp hp
    · obtain ⟨rfl, rfl, rfl⟩ := mem_findsHere.mp hp
      rw [finds_cons]
      exact List.Subset.refl _
    · exact fun d hd => List.mem_append_right _ (ih p hp hd)

theorem finds_gap (w : Walk) {nameEnd : Nat} {ts : List Token} {isMacro : Bool}
    (hopen : Expr.callOpen? nameEnd ts = some isMacro) :
    (ts.take (Expr.callGap isMacro)).length = Expr.callGap isMacro ∧
    ∃ ds, w.finds ts = ds ++
      (w.passed (ts.take (Expr.callGap isMacro))).finds (ts.drop (Expr.callGap isMacro)) := by
  cases ts with
  | nil => cases hopen
  | cons t ts =>
    rw [Expr.callOpen?] at hopen
    split at hopen
    next =>
      cases hopen
      exact ⟨rfl, [], rfl⟩
    next =>
      split at hopen
      next hmacro =>
        cases hopen
        simp only [Bool.and_eq_true] at hmacro
        have hbang := hmacro.1.1
        refine ⟨rfl, w.findsHere t ts, ?_⟩
        rw [finds_cons, step_of_kind_punct w (kind_of_isPunct hbang),
          onMark_of_text w (by simp [text_of_isPunct hbang])]
        rfl
      next => cases hopen

namespace Find

theorem step_call {p : Find} (hkind : p.fragment.kind = .call) :
    ∃ isMacro, p.walk.expectsName = false ∧
      Expr.callOpen? (Expr.DottedPath.read p.token p.rest).last.span.stop (Expr.behindPath p.token p.rest) =
        some isMacro ∧
      p.walk.step p.token p.rest = p.walk.onCall p.token (.read p.token p.rest) isMacro p.bracket := by
  have hfound := p.found
  have htakes := takes_step p.walk p.token p.rest
  generalize p.walk.step p.token p.rest = s at hfound htakes ⊢
  cases htakes with
  | newline | mark | number | function | declaration | keyword => cases hfound
  | literal | name =>
    rw [← Option.some.inj hfound] at hkind
    cases hkind
  | assignment =>
    rw [kind_onAssignment hfound] at hkind
    cases hkind
  | call _ hexpects hopen => exact ⟨_, hexpects, hopen, by simp only [bracket, hopen]⟩

theorem finds_of_call {p : Find} (hkind : p.fragment.kind = .call)
    (hdepth : p.walk.stack.length < Expr.maxNesting) {g : Group} {behind : List Token}
    (hbracket : p.bracket = g.tokens ++ behind) (hg : g.Straight) :
    ∃ (ds : List Find) (u : Walk), p.walk.finds (p.token :: p.rest) = ds ++ u.finds behind ∧
      u.Carries (p.fragment.chain.getD p.fragment.text) := by
  obtain ⟨isMacro, hexpects, hopen, hstep⟩ := p.step_call hkind
  have hafter : (Expr.behindPath p.token p.rest).drop (Expr.callGap isMacro) = g.tokens ++ behind := by
    rw [← hbracket, bracket, hopen]
  obtain ⟨f, hfound, -, htext, hchain, -⟩ :=
    exists_found_onCall p.walk p.token (.read p.token p.rest) isMacro p.bracket
  obtain rfl : f = p.fragment := by
    rw [← hstep, p.found] at hfound
    exact (Option.some.inj hfound).symm
  have hpath : (p.token :: p.rest.take ((Expr.DottedPath.read p.token p.rest).length - 1)).length =
      (Expr.DottedPath.read p.token p.rest).length := by
    have hlength := congrArg List.length hafter
    rw [Expr.behindPath, List.length_drop, List.length_drop, List.length_append, g.length_tokens] at hlength
    rw [List.length_cons, List.length_take]
    simp only [Expr.DottedPath.length] at hlength ⊢
    omega
  obtain ⟨hgap, ds, hfinds⟩ := finds_gap ((p.walk.calling (.read p.token p.rest) isMacro p.bracket).passed
    (p.token :: p.rest.take ((Expr.DottedPath.read p.token p.rest).length - 1))) hopen
  rw [hafter, passed_passed, hbracket] at hfinds
  have hpassed := List.length_append.trans (congrArg₂ (· + ·) hpath hgap)
  obtain ⟨es, u, hfinds', hcarries⟩ := finds_bracket behind hdepth hexpects hpassed hg
  refine ⟨p.walk.findsHere p.token p.rest ++ (ds ++ es), u, ?_, by rwa [hchain, htext]⟩
  rw [finds_cons, hstep, walk_onCall, more_onCall, hbracket, ← Expr.behindPath, hfinds, hfinds',
    List.append_assoc, List.append_assoc]

end Find
end Walk

/-- The roots of chains. A fragment that has one is a call, and comes after the call of that name which begins
the chain. Conversely, let a call stand at a depth at which its arguments are read, and let links follow its
bracket, each a dot, a name that is no keyword and a bracket, with or without a line break before the dot. Then
every link is found as a call with the root of the first call, or else with that call for its root, unless
something in the brackets leads the walk astray. -/
theorem Source.chains_keep_root (s : Source) :
    (∀ before f after root, s.fragments.toList = before ++ f :: after → f.chain = some root →
      f.kind = .call ∧ ∃ g ∈ before, g.Begins root) ∧
    ∀ p ∈ s.finds, p.fragment.kind = .call → p.walk.stack.length < Expr.maxNesting →
      ∀ (group : Walk.Group) (links : List Walk.Link) (rest : List Token),
        p.bracket = group.tokens ++ (links.flatMap Walk.Link.tokens ++ rest) →
        group.Straight → (∀ l ∈ links, l.group.Straight) →
        ∀ l ∈ links, ∃ f ∈ s.fragments.toList, l.Found (p.fragment.chain.getD p.fragment.text) f := by
  constructor
  · intro before f after root hfragments hroot
    rw [toList_fragments] at hfragments
    exact Walk.rooted_fragments {} _ hroot after [] nofun before hfragments
  · intro p hp hkind hdepth group links rest hbracket hgroup hlinks l hl
    obtain ⟨ds, u, hfinds, hcarries⟩ := Walk.Find.finds_of_call hkind hdepth hbracket hgroup
    obtain ⟨d, hd, hfound⟩ := Walk.found_links hcarries hlinks rest l hl
    have hall := Walk.finds_subset {} _ p hp (hfinds ▸ List.mem_append_right ds hd)
    refine ⟨d.fragment, ?_, hfound⟩
    rw [← map_fragment_finds]
    exact List.mem_map_of_mem hall

namespace Walk

def GroupAt (ts : List Token) (i n : Nat) : Prop :=
  (ts.getD i default).isOpen = true ∧
  (ts.getD (i + n + 1) default).isPunct (Token.closerOf (ts.getD i default).text) = true ∧
  Expr.Nested ((ts.drop (i + 1)).take n)

instance (ts : List Token) (i n : Nat) : Decidable (GroupAt ts i n) :=
  inferInstanceAs (Decidable (_ ∧ _ ∧ _))

def GroupAt.group {ts : List Token} {i n : Nat} (h : GroupAt ts i n) : Group where
  opener := ts.getD i default
  inner := (ts.drop (i + 1)).take n
  closer := ts.getD (i + n + 1) default
  opens := h.1
  closes := h.2.1
  nested := h.2.2

def LinkAt (ts : List Token) (breaks i : Nat) : Prop :=
  (∀ b ∈ (ts.drop (i - 2 - breaks)).take breaks, b.isNewline = true) ∧
  ((ts.getD (i - 2) default).isPunct "." = true ∨ (ts.getD (i - 2) default).isPunct "?." = true) ∧
  (ts.getD (i - 1) default).isIdent = true ∧ (ts.getD (i - 1) default).text ∉ Vocabulary.keywords ∧
  (ts.getD i default).isPunct "(" = true

instance (ts : List Token) (breaks i : Nat) : Decidable (LinkAt ts breaks i) :=
  inferInstanceAs (Decidable (_ ∧ _ ∧ _ ∧ _ ∧ _))

def LinkAt.link {ts : List Token} {breaks i n : Nat} (h : LinkAt ts breaks i) (hgroup : GroupAt ts i n) :
    Link where
  breaks := (ts.drop (i - 2 - breaks)).take breaks
  dot := ts.getD (i - 2) default
  name := ts.getD (i - 1) default
  group := hgroup.group
  isNewline := h.1
  isDot := h.2.1
  isIdent := h.2.2.1
  notKeyword := h.2.2.2.1
  isRound := h.2.2.2.2

end Walk

def linked : Source := ⟨⟨"k.ts"⟩, .typeScript, "p(\x7bf();let z:[u]=b\x7d).m(q(2))\n?.n()"⟩

def linkedTokens : List Token := (tokenize linked.language linked.text).toList

theorem linkedTokens_groups :
    Walk.GroupAt linkedTokens 1 14 ∧ Walk.GroupAt linkedTokens 19 4 ∧ Walk.GroupAt linkedTokens 28 0 ∧
    Walk.LinkAt linkedTokens 0 19 ∧ Walk.LinkAt linkedTokens 1 28 := by
  decide +kernel

def linkedBracket : Walk.Group := linkedTokens_groups.1.group

def linkedLinks : List Walk.Link :=
  [linkedTokens_groups.2.2.2.1.link linkedTokens_groups.2.1,
    linkedTokens_groups.2.2.2.2.link linkedTokens_groups.2.2.1]

theorem chains_keep_root_across_lines :
    linkedLinks.map (·.name.text) = ["m", "n"] ∧
    ∃ p ∈ linked.finds, p.fragment.kind = .call ∧ p.walk.stack.length < Expr.maxNesting ∧
      p.bracket = linkedBracket.tokens ++ (linkedLinks.flatMap Walk.Link.tokens ++ []) ∧
      ∀ l ∈ linkedLinks, l.group.Straight ∧ ∃ before f after,
        linked.fragments.toList = before ++ f :: after ∧ l.Found "p" f ∧ ∃ g ∈ before, g.Begins "p" := by
  obtain ⟨horigin, hlinks⟩ := linked.chains_keep_root
  obtain ⟨p, hp, hkind, hdepth, hbracket, hroot⟩ : ∃ p ∈ linked.finds, p.fragment.kind = .call ∧
      p.walk.stack.length < Expr.maxNesting ∧
      p.bracket = linkedBracket.tokens ++ (linkedLinks.flatMap Walk.Link.tokens ++ []) ∧
      p.fragment.chain.getD p.fragment.text = "p" := by decide +kernel
  obtain ⟨hgroup, hgroups⟩ : linkedBracket.Straight ∧ ∀ l ∈ linkedLinks, l.group.Straight := by decide +kernel
  refine ⟨by decide +kernel, p, hp, hkind, hdepth, hbracket, fun l hl => ⟨hgroups l hl, ?_⟩⟩
  obtain ⟨f, hf, hfound⟩ := hlinks p hp hkind hdepth _ _ _ hbracket hgroup hgroups l hl
  rw [hroot] at hfound
  obtain ⟨before, after, hfragments⟩ := List.append_of_mem hf
  exact ⟨before, f, after, hfragments, hfound, (horigin before f after _ hfragments hfound.chain).2⟩

/-- A declaration whose `=` is taken from inside a bracket, since a comparison seems to close that bracket. -/
def jumped : Source :=
  ⟨⟨"a.cpp"⟩, .cpp, "p([&]\x7bf();const F x(a>b,c=d);\x7d,val,y).m(k>1,v=2);"⟩

def jumpedTokens : List Token := (tokenize jumped.language jumped.text).toList

theorem jumpedTokens_groups :
    Walk.GroupAt jumpedTokens 1 26 ∧ Walk.LinkAt jumpedTokens 0 31 ∧ Walk.GroupAt jumpedTokens 31 7 := by
  decide +kernel

def jumpedBracket : Walk.Group := jumpedTokens_groups.1.group

def jumpedLink : Walk.Link := jumpedTokens_groups.2.1.link jumpedTokens_groups.2.2

/-- The bracket of `x` is jumped into, so its closing bracket counts for that of `p`, and the next declaration
jumps over the whole link. -/
theorem exists_link_not_found :
    (∃ p ∈ jumped.finds, p.fragment.kind = .call ∧ p.walk.stack.length < Expr.maxNesting ∧
      p.bracket = jumpedBracket.tokens ++ (jumpedLink.tokens ++ jumpedTokens.drop 40)) ∧
    (∀ u ∈ jumpedTokens, u.isIdent = true → u.text ∉ Vocabulary.functionWords) ∧
    jumpedLink.name.text = "m" ∧ ∀ f ∈ jumped.fragments.toList, f.kind = .call → f.text ≠ "m" := by
  decide +kernel

end SourceAudit
