import SourceAudit.Registry

/-! What holds of every registry that a scan can be given: its rules have different ids, and beyond the
built-in ones each searches the head's text for a pattern. -/
namespace SourceAudit

def Rule.SearchesText (r : Rule) : Prop :=
  r.kinds = .all ∧ ∃ p : Pattern, r.matcher = patternMatcher p

namespace CustomRule

theorem compile_eq_ok_iff {c : CustomRule} {rule : Rule} :
    c.compile = .ok rule ↔
      (trim c.id).isEmpty = false ∧ ∃ category severity regex,
        Category.parse c.category = .ok category ∧ Severity.parse c.severity = .ok severity ∧
        Regex.parse? c.pattern c.caseInsensitive = some regex ∧
        rule =
          { id := trim c.id, category, severity
            description :=
              if c.description.isEmpty then s!"Custom rule `{trim c.id}`" else c.description
            remediation := c.remediation
            kinds := .all
            matcher := patternMatcher (.ofRegex regex) } := by
  unfold compile
  simp only [bind, Except.bind, pure, Except.pure, throw, throwThe, MonadExceptOf.throw]
  by_cases hid : (trim c.id).isEmpty = true
  · simp [hid]
  · cases hcategory : Category.parse c.category with
    | error e => simp [hid]
    | ok category =>
      cases hseverity : Severity.parse c.severity with
      | error e => simp [hid]
      | ok severity =>
        cases hregex : Regex.parse? c.pattern c.caseInsensitive with
        | none => simp [hid]
        | some regex =>
          rw [if_neg hid]
          constructor
          · intro h
            cases h
            exact ⟨by simpa using hid, category, severity, regex, rfl, rfl, rfl, rfl⟩
          · rintro ⟨-, _, _, _, ⟨⟩, ⟨⟩, ⟨⟩, rfl⟩
            rfl

theorem searchesText_of_compile {c : CustomRule} {rule : Rule} (h : c.compile = .ok rule) :
    rule.SearchesText := by
  obtain ⟨-, _, _, regex, -, -, -, rfl⟩ := compile_eq_ok_iff.mp h
  refine ⟨rfl, .ofRegex regex, ?_⟩
  dsimp only

def internalHost : CustomRule where
  id := " internal-host "
  category := "ssrf"
  severity := "low"
  pattern := "internal\\.corp"

def ofPattern (id severity pattern : String) : CustomRule :=
  { id, category := "ssrf", severity, pattern }

end CustomRule

namespace Registry

/-- What holds of a registry still holds after declared rules were added, if each one that has a new id
preserves it. -/
theorem add_induction {P : Registry → Prop} {custom : List CustomRule}
    (step : ∀ (r : Registry) (rule : Rule), (∃ c ∈ custom, c.compile = .ok rule) → rule.id ∉ r.ids →
      P r → P ⟨r.rules ++ [rule]⟩)
    {r r' : Registry} (h : r.add custom = .ok r') (hr : P r) : P r' := by
  induction custom generalizing r with
  | nil =>
    cases h
    exact hr
  | cons c cs ih =>
    rw [add] at h
    split at h
    next => cases h
    next rule hrule =>
      split at h
      next => cases h
      next hnew =>
        refine ih ?_ h ?_
        · rintro r rule ⟨d, hd, hcompile⟩
          exact step r rule ⟨d, List.mem_cons_of_mem c hd, hcompile⟩
        · apply step r rule ⟨c, List.mem_cons_self, hrule⟩ _ hr
          simpa using hnew

theorem nodup_ids_builtin : builtin.ids.Nodup := by
  decide

theorem nodup_ids_withCustom {custom : List CustomRule} {registry : Registry}
    (h : withCustom custom = .ok registry) : registry.ids.Nodup := by
  apply add_induction (P := fun r => r.ids.Nodup) _ h nodup_ids_builtin
  intro r rule _ hnew hr
  rw [ids, List.map_append]
  apply List.nodup_append.mpr
  refine ⟨hr, by simp, ?_⟩
  intro a ha b hb
  obtain rfl : b = rule.id := by simpa using hb
  exact fun hab => hnew (hab ▸ ha)

theorem declared_of_mem_rules {custom : List CustomRule} {registry : Registry}
    (h : withCustom custom = .ok registry) :
    ∀ rule ∈ registry.rules, rule ∈ builtin.rules ∨ ∃ c ∈ custom, c.compile = .ok rule := by
  apply add_induction
    (P := fun r => ∀ rule ∈ r.rules, rule ∈ builtin.rules ∨ ∃ c ∈ custom, c.compile = .ok rule) _ h
  · exact fun rule hr => .inl hr
  · intro r rule hdeclared _ hr other hother
    obtain hother | hother := List.mem_append.mp hother
    · exact hr other hother
    · rw [List.mem_singleton.mp hother]
      exact .inr hdeclared

theorem mem_rules_withCustom {custom : List CustomRule} {registry : Registry}
    (h : withCustom custom = .ok registry) :
    ∀ rule ∈ registry.rules, rule ∈ builtin.rules ∨ rule.SearchesText := by
  intro rule hr
  obtain hbuiltin | ⟨c, -, hcompile⟩ := declared_of_mem_rules h rule hr
  · exact .inl hbuiltin
  · exact .inr (CustomRule.searchesText_of_compile hcompile)

theorem exists_withCustom_of_map {custom : List CustomRule} {g : Registry → β} {b : β}
    (h : (withCustom custom).toOption.map g = some b) :
    ∃ registry, withCustom custom = .ok registry ∧ g registry = b := by
  cases hcustom : withCustom custom with
  | error e =>
    rw [hcustom] at h
    cases h
  | ok registry =>
    rw [hcustom] at h
    exact ⟨registry, rfl, Option.some.inj h⟩

theorem exists_withCustom_internalHost :
    ∃ registry, withCustom [.internalHost] = .ok registry := by
  have hrun : (withCustom [.internalHost]).toOption.map (fun _ => ()) = some () := by decide +kernel
  obtain ⟨registry, h, -⟩ := exists_withCustom_of_map hrun
  exact ⟨registry, h⟩

end Registry
end SourceAudit
