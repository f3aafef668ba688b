import MailCode.Settings.Variables
import MailCode.Proofs.Text.Utf8
/-!
# What reading variables gives

A variable says a text when its bytes are that text in UTF-8; bytes that are no text say nothing.
Reading one variable gives what its text is parsed as, or the default where it says nothing
(`valueOr_eq_ok_iff`), and fails when the text cannot be parsed (`valueOr_eq_error_iff`).

Readings that follow one another are described by the demands they make, in order: they fail with
the first demand that is refused (`Loads`). The rules for `Loads` follow the program, so that what
a whole reading demands is put together from what its parts demand.
-/

namespace MailCode

variable {α β : Type} {vars : Variables}

namespace Variables

/-- The variable is set to the text. -/
def Says (vars : Variables) (name text : String) : Prop :=
  vars.lookup name = some text.toUTF8.toList

/-- The variable is not set, or not to a text. -/
def IsUnset (vars : Variables) (name : String) : Prop :=
  ∀ text, ¬ vars.Says name text

/-- The variable is read as `a`: its text is parsed as `a`, or it is unset and `a` the default. -/
def Reads (vars : Variables) (name : String) (parse : String → Except String α) (default a : α) :
    Prop :=
  (∃ text, vars.Says name text ∧ parse text = .ok a) ∨ (vars.IsUnset name ∧ a = default)

theorem text?_eq_some_iff {name text : String} :
    vars.text? name = some text ↔ vars.Says name text := by
  simp only [text?, Option.bind_eq_some_iff, Text.utf8Text?_eq_some_iff, ← Text.utf8_eq,
    exists_eq_right]
  rfl

theorem text?_eq_none_iff {name : String} : vars.text? name = none ↔ vars.IsUnset name := by
  simp only [Option.eq_none_iff_forall_ne_some, ne_eq, text?_eq_some_iff]
  rfl

theorem Says.unique {name text text' : String} (h : vars.Says name text)
    (h' : vars.Says name text') : text = text' :=
  Option.some.inj ((text?_eq_some_iff.2 h).symm.trans (text?_eq_some_iff.2 h'))

theorem exists_says_or_isUnset (vars : Variables) (name : String) :
    (∃ text, vars.Says name text) ∨ vars.IsUnset name := by
  rw [IsUnset, ← not_exists]
  exact Classical.em _

theorem isUnset_of_lookup {name : String} (h : vars.lookup name = none) : vars.IsUnset name :=
  fun _ hsays => nomatch h.symm.trans hsays

/-- A variable is read in one way only. -/
theorem Reads.unique {name : String} {parse : String → Except String α} {default a b : α}
    (ha : vars.Reads name parse default a) (hb : vars.Reads name parse default b) : a = b := by
  rcases ha with ⟨text, hsays, hparse⟩ | ⟨hunset, rfl⟩
  · rcases hb with ⟨text', hsays', hparse'⟩ | ⟨hunset, -⟩
    · obtain rfl := hsays.unique hsays'
      exact Except.ok.inj (hparse.symm.trans hparse')
    · exact absurd hsays (hunset text)
  · rcases hb with ⟨text, hsays, -⟩ | ⟨-, rfl⟩
    · exact absurd hsays (hunset text)
    · rfl

/-- What a free text is read as: it cannot be refused. -/
theorem reads_textOr (name default : String) :
    vars.Reads name .ok default (vars.textOr name default) := by
  rw [textOr]
  cases h : vars.text? name with
  | none => exact .inr ⟨text?_eq_none_iff.1 h, rfl⟩
  | some text => exact .inl ⟨text, text?_eq_some_iff.1 h, rfl⟩

theorem textOr_eq_iff {name default text : String} :
    vars.textOr name default = text ↔ vars.Reads name .ok default text :=
  ⟨fun h => h ▸ reads_textOr name default, fun h => (reads_textOr name default).unique h⟩

end Variables

/-! ## Demands -/

/-- A variable that must be parsed wherever it is set. -/
structure Demand where
  {Value : Type}
  name : String
  parse : String → Except String Value

namespace Demand

/-- The variable is unset, or what it says is parsed. -/
def IsMet (d : Demand) (vars : Variables) : Prop :=
  ∀ text, vars.Says d.name text → ∃ a, d.parse text = .ok a

/-- The variable says what cannot be parsed; `e` names it, its value as it stands and the reason. -/
structure Refuses (d : Demand) (vars : Variables) (e : InvalidSetting) : Prop where
  name : e.name = d.name
  said : vars.Says d.name e.value
  reason : d.parse e.value = .error e.reason

theorem isMet_iff {d : Demand} : d.IsMet vars ↔ ∀ e, ¬ d.Refuses vars e := by
  constructor
  · intro hmet e he
    obtain ⟨a, hparse⟩ := hmet e.value he.said
    cases hparse.symm.trans he.reason
  · intro hnone text hsays
    cases hparse : d.parse text with
    | ok a => exact ⟨a, rfl⟩
    | error reason => exact absurd ⟨rfl, hsays, hparse⟩ (hnone ⟨d.name, text, reason⟩)

theorem refuses_congr {d : Demand} {vars' : Variables} {e : InvalidSetting}
    (h : vars'.lookup d.name = vars.lookup d.name) : d.Refuses vars' e ↔ d.Refuses vars e := by
  have hsays : vars'.Says d.name e.value ↔ vars.Says d.name e.value := by
    rw [Variables.Says, h, Variables.Says]
  exact ⟨fun he => ⟨he.name, hsays.1 he.said, he.reason⟩,
    fun he => ⟨he.name, hsays.2 he.said, he.reason⟩⟩

/-- The demands before one of the list are met, and that one is refused. -/
def FirstRefused (vars : Variables) (demands : List Demand) (e : InvalidSetting) : Prop :=
  ∃ before d after, demands = before ++ d :: after ∧ (∀ d' ∈ before, d'.IsMet vars) ∧
    d.Refuses vars e

theorem not_firstRefused_nil (e : InvalidSetting) : ¬ FirstRefused vars [] e := by
  rintro ⟨before, d, after, h, -⟩
  exact List.append_ne_nil_of_right_ne_nil before (List.cons_ne_nil d after) h.symm

theorem firstRefused_cons {d : Demand} {demands : List Demand} {e : InvalidSetting} :
    FirstRefused vars (d :: demands) e ↔
      d.Refuses vars e ∨ d.IsMet vars ∧ FirstRefused vars demands e := by
  constructor
  · rintro ⟨before, d', after, hsplit, hbefore, he⟩
    cases before with
    | nil =>
      obtain ⟨rfl, -⟩ := List.cons.inj hsplit
      exact .inl he
    | cons first before =>
      obtain ⟨rfl, rfl⟩ := List.cons.inj hsplit
      obtain ⟨hfirst, hbefore⟩ := List.forall_mem_cons.1 hbefore
      exact .inr ⟨hfirst, before, d', after, rfl, hbefore, he⟩
  · rintro (he | ⟨hmet, before, d', after, rfl, hbefore, he⟩)
    · exact ⟨[], d, demands, rfl, List.forall_mem_nil _, he⟩
    · exact ⟨d :: before, d', after, rfl, List.forall_mem_cons.2 ⟨hmet, hbefore⟩, he⟩

theorem firstRefused_append {demands demands' : List Demand} {e : InvalidSetting} :
    FirstRefused vars (demands ++ demands') e ↔
      FirstRefused vars demands e ∨
        (∀ d ∈ demands, d.IsMet vars) ∧ FirstRefused vars demands' e := by
  induction demands with
  | nil => simp [not_firstRefused_nil]
  | cons d demands ih =>
    rw [List.cons_append, firstRefused_cons, ih, firstRefused_cons, List.forall_mem_cons,
      and_or_left, or_assoc, and_assoc]

theorem all_isMet_iff {demands : List Demand} :
    (∀ d ∈ demands, d.IsMet vars) ↔ ∀ e, ¬ FirstRefused vars demands e := by
  induction demands with
  | nil => simp [not_firstRefused_nil]
  | cons d demands ih =>
    simp only [List.forall_mem_cons, ih, firstRefused_cons, not_or, not_and, forall_and,
      ← isMet_iff]
    exact and_congr_right fun hmet => ⟨fun h e _ => h e, fun h e => h e hmet⟩

theorem firstRefused_congr {demands : List Demand} {vars' : Variables} {e : InvalidSetting}
    (h : ∀ d ∈ demands, vars'.lookup d.name = vars.lookup d.name) :
    FirstRefused vars' demands e ↔ FirstRefused vars demands e := by
  induction demands with
  | nil => simp only [not_firstRefused_nil]
  | cons d demands ih =>
    obtain ⟨hd, hdemands⟩ := List.forall_mem_cons.1 h
    rw [firstRefused_cons, firstRefused_cons, isMet_iff, isMet_iff, ih hdemands]
    simp only [refuses_congr hd]

end Demand

/-! ## Readings -/

open Demand

namespace Variables

section

variable {name text reason : String} {parse : String → Except String α} {default a : α}

theorem valueOr_of_isUnset (h : vars.IsUnset name) :
    vars.valueOr name default parse = .ok default := by
  rw [valueOr, value?, text?_eq_none_iff.2 h]
  rfl

theorem valueOr_of_ok (h : vars.Says name text) (hparse : parse text = .ok a) :
    vars.valueOr name default parse = .ok a := by
  simp only [valueOr, value?, text?_eq_some_iff.2 h, hparse]
  rfl

theorem valueOr_of_error (h : vars.Says name text) (hparse : parse text = .error reason) :
    vars.valueOr name default parse = .error ⟨name, text, reason⟩ := by
  simp only [valueOr, value?, text?_eq_some_iff.2 h, hparse]
  rfl

theorem valueOr_eq_ok_iff :
    vars.valueOr name default parse = .ok a ↔ vars.Reads name parse default a := by
  constructor
  · intro hok
    rcases vars.exists_says_or_isUnset name with ⟨text, hsays⟩ | hunset
    · cases hparse : parse text with
      | ok b =>
        obtain rfl := Except.ok.inj ((valueOr_of_ok hsays hparse).symm.trans hok)
        exact .inl ⟨text, hsays, hparse⟩
      | error reason => exact nomatch (valueOr_of_error hsays hparse).symm.trans hok
    · exact .inr ⟨hunset, Except.ok.inj (hok.symm.trans (valueOr_of_isUnset hunset))⟩
  · rintro (⟨text, hsays, hparse⟩ | ⟨hunset, rfl⟩)
    · exact valueOr_of_ok hsays hparse
    · exact valueOr_of_isUnset hunset

theorem valueOr_eq_error_iff {e : InvalidSetting} :
    vars.valueOr name default parse = .error e ↔ Refuses ⟨name, parse⟩ vars e := by
  constructor
  · intro herror
    rcases vars.exists_says_or_isUnset name with ⟨text, hsays⟩ | hunset
    · cases hparse : parse text with
      | ok b => exact nomatch (valueOr_of_ok hsays hparse).symm.trans herror
      | error reason =>
        obtain rfl := Except.error.inj ((valueOr_of_error hsays hparse).symm.trans herror)
        exact ⟨rfl, hsays, hparse⟩
    · exact nomatch (valueOr_of_isUnset hunset).symm.trans herror
  · intro he
    obtain ⟨_, text, reason⟩ := e
    obtain ⟨rfl, hsays, hreason⟩ := he
    exact valueOr_of_error hsays hreason

end

end Variables

theorem bind_eq_ok_iff {reading : Except InvalidSetting α} {next : α → Except InvalidSetting β}
    {b : β} : reading >>= next = .ok b ↔ ∃ a, reading = .ok a ∧ next a = .ok b := by
  cases reading with
  | ok a => exact ⟨fun h => ⟨a, rfl, h⟩, by rintro ⟨_, ⟨⟩, h⟩; exact h⟩
  | error e => exact ⟨nofun, by rintro ⟨_, ⟨⟩, -⟩⟩

/-- A reading fails with the first of the demands that is refused, and not otherwise. -/
def Loads (vars : Variables) (reading : Except InvalidSetting α) (demands : List Demand) : Prop :=
  ∀ e, reading = .error e ↔ FirstRefused vars demands e

namespace Loads

variable {reading : Except InvalidSetting α} {demands demands' : List Demand}

theorem succeeds_iff (h : Loads vars reading demands) :
    (∃ a, reading = .ok a) ↔ ∀ d ∈ demands, d.IsMet vars := by
  rw [all_isMet_iff]
  cases reading with
  | ok a =>
    refine ⟨fun _ e he => ?_, fun _ => ⟨a, rfl⟩⟩
    cases (h e).2 he
  | error e =>
    have hrefused : ¬ ∃ a, Except.error e = (.ok a : Except InvalidSetting α) := nofun
    exact ⟨fun ha => absurd ha hrefused, fun hnone => absurd ((h e).1 rfl) (hnone e)⟩

theorem pure (a : α) : Loads vars (pure a) [] :=
  fun e => ⟨nofun, fun he => absurd he (not_firstRefused_nil e)⟩

theorem valueOr (name : String) (parse : String → Except String α) (default : α) :
    Loads vars (vars.valueOr name default parse) [⟨name, parse⟩] := by
  intro e
  rw [Variables.valueOr_eq_error_iff, firstRefused_cons]
  simp only [not_firstRefused_nil, and_false, or_false]

theorem bind {next : α → Except InvalidSetting β} (h : Loads vars reading demands)
    (hnext : ∀ a, Loads vars (next a) demands') :
    Loads vars (reading >>= next) (demands ++ demands') := by
  intro e
  rw [firstRefused_append, ← h.succeeds_iff, ← h e]
  cases reading with
  | ok a =>
    have hmet : ∃ b, Except.ok a = (.ok b : Except InvalidSetting α) := ⟨a, rfl⟩
    simp only [hmet, true_and, reduceCtorEq, false_or]
    exact hnext a e
  | error e' =>
    have hrefused : ¬ ∃ b, Except.error e' = (.ok b : Except InvalidSetting α) := nofun
    have hends : Except.error e' >>= next = (.error e' : Except InvalidSetting β) := rfl
    simp only [hrefused, false_and, or_false, hends, Except.error.injEq]

end Loads

end MailCode
