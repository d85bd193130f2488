import Mathlib.Data.List.Nodup
import SourceAudit.Proofs.Registry

/-! How declared rules get into a registry. Main statement: a list of declarations is taken as a whole,
or the first declaration that cannot be taken is named. What is wrong with a declaration itself goes
before an id that is already in use. -/
namespace SourceAudit

theorem Category.parse_eq_error {text : String} (h : ∀ category, parse text ≠ .ok category) :
    parse text = .error (.unknownCategory text) := by
  simp only [parse] at h ⊢
  split at h
  next category _ => exact absurd rfl (h category)
  next => rfl

theorem Severity.parse_eq_error {text : String} (h : ∀ severity, parse text ≠ .ok severity) :
    parse text = .error (.unknownSeverity text) := by
  unfold parse at h ⊢
  split at h
  next => exact absurd rfl (h low)
  next => exact absurd rfl (h medium)
  next => exact absurd rfl (h high)
  next => exact absurd rfl (h critical)
  next => rfl

namespace CustomRule

def ruleId (c : CustomRule) : String := trim c.id

structure Sound (c : CustomRule) : Prop where
  id : c.ruleId ≠ ""
  category : ∃ category, Category.parse c.category = .ok category
  severity : ∃ severity, Severity.parse c.severity = .ok severity
  pattern : ∃ regex, Regex.parse? c.pattern c.caseInsensitive = some regex

/-- Why a declaration is refused while the ids in `taken` are in use: the first of its checks that fails,
and only then the id that is taken. -/
inductive Refused (taken : List String) (c : CustomRule) : ConfigError → Prop where
  | id (hid : c.ruleId = "") : Refused taken c (.emptyRuleId c.id)
  | category (hid : c.ruleId ≠ "") (hcategory : ∀ category, Category.parse c.category ≠ .ok category) :
      Refused taken c (.unknownCategory c.category)
  | severity (hid : c.ruleId ≠ "") (hcategory : ∃ category, Category.parse c.category = .ok category)
      (hseverity : ∀ severity, Severity.parse c.severity ≠ .ok severity) :
      Refused taken c (.unknownSeverity c.severity)
  | pattern (hid : c.ruleId ≠ "") (hcategory : ∃ category, Category.parse c.category = .ok category)
      (hseverity : ∃ severity, Severity.parse c.severity = .ok severity)
      (hpattern : Regex.parse? c.pattern c.caseInsensitive = none) :
      Refused taken c (.badPattern c.ruleId)
  | duplicate (hsound : c.Sound) (htaken : c.ruleId ∈ taken) :
      Refused taken c (.duplicateRuleId c.ruleId)

section

variable {c : CustomRule} {rule : Rule} {taken : List String} {e : ConfigError}

theorem isEmpty_trim_iff : (trim c.id).isEmpty = true ↔ c.ruleId = "" := String.isEmpty_iff

theorem id_of_compile (h : c.compile = .ok rule) : rule.id = c.ruleId := by
  obtain ⟨-, _, _, _, -, -, -, rfl⟩ := compile_eq_ok_iff.mp h
  rfl

theorem sound_iff_compile : c.Sound ↔ ∃ rule, c.compile = .ok rule := by
  simp only [compile_eq_ok_iff]
  constructor
  · rintro ⟨hid, ⟨category, hcategory⟩, ⟨severity, hseverity⟩, regex, hregex⟩
    have hid : (trim c.id).isEmpty = false := eq_false_of_ne_true (isEmpty_trim_iff.not.mpr hid)
    exact ⟨_, hid, category, severity, regex, hcategory, hseverity, hregex, rfl⟩
  · rintro ⟨-, hid, category, severity, regex, hcategory, hseverity, hregex, -⟩
    exact ⟨isEmpty_trim_iff.not.mp (ne_true_of_eq_false hid), ⟨category, hcategory⟩,
      ⟨severity, hseverity⟩, regex, hregex⟩

theorem compile_eq_error_of_refused (h : c.Refused taken e) (hsound : ¬ c.Sound) :
    c.compile = .error e := by
  unfold compile
  simp only [bind, Except.bind, pure, Except.pure, throw, throwThe, MonadExceptOf.throw]
  cases h with
  | id hid =>
    rw [if_pos (isEmpty_trim_iff.mpr hid)]
  | category hid hcategory =>
    rw [if_neg (isEmpty_trim_iff.not.mpr hid), Category.parse_eq_error hcategory]
  | severity hid hcategory hseverity =>
    obtain ⟨category, hcategory⟩ := hcategory
    rw [if_neg (isEmpty_trim_iff.not.mpr hid), hcategory, Severity.parse_eq_error hseverity]
  | pattern hid hcategory hseverity hpattern =>
    obtain ⟨category, hcategory⟩ := hcategory
    obtain ⟨severity, hseverity⟩ := hseverity
    rw [if_neg (isEmpty_trim_iff.not.mpr hid), hcategory, hseverity, hpattern]
    rfl
  | duplicate h => exact absurd h hsound

theorem exists_refused (taken : List String) (hsound : ¬ c.Sound) : ∃ e, c.Refused taken e := by
  by_cases hid : c.ruleId = ""
  · exact ⟨_, .id hid⟩
  by_cases hcategory : ∃ category, Category.parse c.category = .ok category
  · by_cases hseverity : ∃ severity, Severity.parse c.severity = .ok severity
    · cases hpattern : Regex.parse? c.pattern c.caseInsensitive with
      | none => exact ⟨_, .pattern hid hcategory hseverity hpattern⟩
      | some regex => exact absurd ⟨hid, hcategory, hseverity, regex, hpattern⟩ hsound
    · exact ⟨_, .severity hid hcategory (not_exists.mp hseverity)⟩
  · exact ⟨_, .category hid (not_exists.mp hcategory)⟩

theorem refused_iff_of_error (h : c.compile = .error e) {e' : ConfigError} :
    c.Refused taken e' ↔ e' = e := by
  have hsound : ¬ c.Sound := by
    intro hsound
    obtain ⟨rule, hrule⟩ := sound_iff_compile.mp hsound
    cases h.symm.trans hrule
  have huniq {e' : ConfigError} (he : c.Refused taken e') : e' = e :=
    Except.error.inj ((compile_eq_error_of_refused he hsound).symm.trans h)
  refine ⟨huniq, ?_⟩
  rintro rfl
  obtain ⟨e', he⟩ := exists_refused taken hsound
  exact huniq he ▸ he

theorem refused_iff_of_ok (h : c.compile = .ok rule) :
    c.Refused taken e ↔ rule.id ∈ taken ∧ e = .duplicateRuleId rule.id := by
  have hsound : c.Sound := sound_iff_compile.mpr ⟨rule, h⟩
  rw [id_of_compile h]
  constructor
  · intro he
    cases he with
    | id hid => exact absurd hid hsound.id
    | category _ hcategory => exact absurd hsound.category (not_exists.mpr hcategory)
    | severity _ _ hseverity => exact absurd hsound.severity (not_exists.mpr hseverity)
    | pattern _ _ _ hpattern =>
      obtain ⟨regex, hregex⟩ := hsound.pattern
      cases hpattern.symm.trans hregex
    | duplicate _ htaken => exact ⟨htaken, rfl⟩
  · rintro ⟨htaken, rfl⟩
    exact .duplicate hsound htaken

theorem Refused.unique {e' : ConfigError} (h : c.Refused taken e) (h' : c.Refused taken e') :
    e = e' := by
  cases hcompile : c.compile with
  | error =>
    rw [refused_iff_of_error hcompile] at h h'
    exact h.trans h'.symm
  | ok rule =>
    rw [refused_iff_of_ok hcompile] at h h'
    exact h.2.trans h'.2.symm

end
end CustomRule

namespace Registry

structure Admits (r : Registry) (custom : List CustomRule) : Prop where
  sound : ∀ c ∈ custom, c.Sound
  distinct : (custom.map CustomRule.ruleId).Nodup
  fresh : ∀ c ∈ custom, c.ruleId ∉ r.ids

section

variable {r : Registry} {c : CustomRule} {cs : List CustomRule} {rule : Rule}

theorem ids_push (r : Registry) (rule : Rule) : (mk (r.rules ++ [rule])).ids = r.ids ++ [rule.id] :=
  List.map_append

theorem admits_nil (r : Registry) : r.Admits [] := ⟨by simp, by simp, by simp⟩

theorem admits_cons_iff (hrule : c.compile = .ok rule) :
    r.Admits (c :: cs) ↔ rule.id ∉ r.ids ∧ (mk (r.rules ++ [rule])).Admits cs := by
  have hid : rule.id = c.ruleId := CustomRule.id_of_compile hrule
  have hsound : c.Sound := CustomRule.sound_iff_compile.mpr ⟨rule, hrule⟩
  constructor
  · rintro ⟨hsounds, hdistinct, hfresh⟩
    obtain ⟨hother, hdistinct⟩ := List.nodup_cons.mp hdistinct
    obtain ⟨hnew, hfresh⟩ := List.forall_mem_cons.mp hfresh
    refine ⟨hid ▸ hnew, (List.forall_mem_cons.mp hsounds).2, hdistinct, ?_⟩
    intro d hd
    rw [ids_push, List.mem_append, List.mem_singleton, hid]
    rintro (hold | hsame)
    · exact hfresh d hd hold
    · exact hother (hsame ▸ List.mem_map_of_mem hd)
  · rintro ⟨hnew, hsounds, hdistinct, hfresh⟩
    simp only [ids_push, List.mem_append, List.mem_singleton, not_or] at hfresh
    refine ⟨List.forall_mem_cons.mpr ⟨hsound, hsounds⟩, List.nodup_cons.mpr ⟨?_, hdistinct⟩,
      List.forall_mem_cons.mpr ⟨hid ▸ hnew, fun d hd => (hfresh d hd).1⟩⟩
    intro hmem
    obtain ⟨d, hd, hsame⟩ := List.mem_map.mp hmem
    exact (hfresh d hd).2 (hsame.trans hid.symm)

theorem Admits.not_refused {e : ConfigError} (h : r.Admits (c :: cs)) : ¬ c.Refused r.ids e := by
  obtain ⟨rule, hrule⟩ := CustomRule.sound_iff_compile.mp (h.sound c List.mem_cons_self)
  rw [CustomRule.refused_iff_of_ok hrule]
  exact fun htaken => ((admits_cons_iff hrule).mp h).1 htaken.1

theorem add_cons (r : Registry) (c : CustomRule) (cs : List CustomRule) :
    (∃ e, c.Refused r.ids e ∧ r.add (c :: cs) = .error e) ∨
      ∃ rule, c.compile = .ok rule ∧ rule.id ∉ r.ids ∧
        r.add (c :: cs) = (mk (r.rules ++ [rule])).add cs := by
  rw [add]
  cases hcompile : c.compile with
  | error e => exact .inl ⟨e, (CustomRule.refused_iff_of_error hcompile).mpr rfl, rfl⟩
  | ok rule =>
    by_cases htaken : rule.id ∈ r.ids
    · refine .inl ⟨_, (CustomRule.refused_iff_of_ok hcompile).mpr ⟨htaken, rfl⟩, ?_⟩
      simp [htaken]
    · exact .inr ⟨rule, rfl, htaken, by simp [htaken]⟩

end

section

variable {r r' : Registry} {custom : List CustomRule} {e : ConfigError}

theorem admits_of_add (h : r.add custom = .ok r') :
    r.Admits custom ∧ ∃ declared,
      List.Forall₂ (fun c rule => c.compile = .ok rule) custom declared ∧
        r'.rules = r.rules ++ declared := by
  induction custom generalizing r with
  | nil =>
    cases h
    exact ⟨admits_nil _, [], .nil, (List.append_nil _).symm⟩
  | cons c cs ih =>
    obtain ⟨e, -, hadd⟩ | ⟨rule, hrule, hnew, hadd⟩ := r.add_cons c cs
    · cases hadd.symm.trans h
    · obtain ⟨hadmits, declared, hcompile, hrules⟩ := ih (hadd.symm.trans h)
      refine ⟨(admits_cons_iff hrule).mpr ⟨hnew, hadmits⟩, rule :: declared, .cons hrule hcompile, ?_⟩
      rw [hrules, List.append_assoc]
      rfl

theorem exists_add_of_admits (h : r.Admits custom) : ∃ r', r.add custom = .ok r' := by
  induction custom generalizing r with
  | nil => exact ⟨r, rfl⟩
  | cons c cs ih =>
    obtain ⟨e, hrefused, -⟩ | ⟨rule, hrule, -, hadd⟩ := r.add_cons c cs
    · exact absurd hrefused h.not_refused
    · rw [hadd]
      exact ih ((admits_cons_iff hrule).mp h).2

/-- The first declaration that is refused stops the rest and gives its error. -/
theorem add_eq_error_iff :
    r.add custom = .error e ↔ ∃ earlier c later, custom = earlier ++ c :: later ∧
      r.Admits earlier ∧ c.Refused (r.ids ++ earlier.map CustomRule.ruleId) e := by
  induction custom generalizing r with
  | nil => simp [add]
  | cons c cs ih =>
    simp only [List.cons_eq_append_iff]
    obtain ⟨e', hrefused, hadd⟩ | ⟨rule, hrule, hnew, hadd⟩ := r.add_cons c cs
    · rw [hadd]
      constructor
      · rintro ⟨⟩
        exact ⟨[], c, cs, .inl ⟨rfl, rfl⟩, r.admits_nil, by simpa using hrefused⟩
      · rintro ⟨_, d, later, ⟨rfl, ⟨⟩⟩ | ⟨earlier, rfl, -⟩, hadmits, he⟩
        · rw [List.map_nil, List.append_nil] at he
          rw [he.unique hrefused]
        · exact absurd hrefused hadmits.not_refused
    · have hids (earlier : List CustomRule) :
          r.ids ++ (c :: earlier).map CustomRule.ruleId =
            (mk (r.rules ++ [rule])).ids ++ earlier.map CustomRule.ruleId := by
        rw [ids_push, CustomRule.id_of_compile hrule, List.map_cons, List.append_assoc]
        rfl
      rw [hadd, ih]
      constructor
      · rintro ⟨earlier, d, later, rfl, hadmits, he⟩
        exact ⟨c :: earlier, d, later, .inr ⟨earlier, rfl, rfl⟩,
          (admits_cons_iff hrule).mpr ⟨hnew, hadmits⟩, hids earlier ▸ he⟩
      · rintro ⟨_, d, later, ⟨rfl, ⟨⟩⟩ | ⟨earlier, rfl, rfl⟩, hadmits, he⟩
        · -- the first declaration is not the one that is refused
          rw [List.map_nil, List.append_nil, CustomRule.refused_iff_of_ok hrule] at he
          exact absurd he.1 hnew
        · exact ⟨earlier, d, later, rfl, ((admits_cons_iff hrule).mp hadmits).2, hids earlier ▸ he⟩

theorem get?_id_of_mem (hnodup : r.ids.Nodup) {rule : Rule} (h : rule ∈ r.rules) :
    r.get? rule.id = some rule := by
  cases hget : r.get? rule.id with
  | none =>
    have hother := List.find?_eq_none.mp hget rule h
    exact absurd (beq_self_eq_true rule.id) hother
  | some found =>
    have hid : found.id = rule.id := by simpa using List.find?_some hget
    rw [List.inj_on_of_nodup_map hnodup (List.mem_of_find?_eq_some hget) h hid]

end

end Registry
end SourceAudit
