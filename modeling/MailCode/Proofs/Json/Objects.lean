import MailCode.Json.Record
import MailCode.Proofs.Json.Denotation
import MailCode.Proofs.Json.Derivation
/-!
# The members of an object

What stands between the quotes of a document's names and strings is such that it can be told what it
says. Hence what an object lacks in the sense of the grammar (`Lacks`) is a field that the record
read off it lacks too (`lookup_of_lacks`).
-/

namespace MailCode.Json

/-! ## What a document holds -/

theorem inside_of_string {raw bs : Raw} (h : Spells (.string raw) bs) : Inside raw := by
  cases h with
  | string hraw => exact hraw

theorem inside_of_member {m : Raw × Tree} {bs : Raw} (h : SpellsMember m bs) :
    Inside m.1 ∧ ∀ raw, m.2 = .string raw → Inside raw := by
  cases h with
  | mk hkey _ _ hvalue =>
    refine ⟨hkey, ?_⟩
    rintro raw rfl
    exact inside_of_string hvalue

theorem inside_of_members {ms : List (Raw × Tree)} {bs : Raw} (h : SpellsMembers ms bs) :
    ∀ m ∈ ms, Inside m.1 ∧ ∀ raw, m.2 = .string raw → Inside raw := by
  cases h with
  | close => exact fun m hm => by cases hm
  | more _ _ hnext hmore =>
    intro m hm
    rcases List.mem_cons.1 hm with rfl | hm
    · exact inside_of_member hnext
    · exact inside_of_members hmore m hm

/-- Names and strings of an object are such as may stand between quotes. -/
theorem inside_of_object {members : List (Raw × Tree)} {body : Raw}
    (h : Document (.object members) body) :
    ∀ m ∈ members, Inside m.1 ∧ ∀ raw, m.2 = .string raw → Inside raw := by
  cases h with
  | mk _ hvalue _ =>
    cases hvalue with
    | emptyObject => exact fun m hm => by cases hm
    | object _ hfirst hmore =>
      intro m hm
      rcases List.mem_cons.1 hm with rfl | hm
      · exact inside_of_member hfirst
      · exact inside_of_members hmore m hm

theorem inside_of_array {raw body : Raw} (h : Document (.array [.string raw]) body) :
    Inside raw := by
  cases h with
  | mk _ hvalue _ =>
    cases hvalue with
    | array _ hfirst _ => exact inside_of_string hfirst

theorem isSome_text?_iff {raw : Raw} (h : Inside raw) :
    (Raw.text? raw).isSome ↔ ∃ name, Denotes raw name := by
  rw [Option.isSome_iff_exists]
  constructor
  · rintro ⟨s, hs⟩
    exact ⟨s.toList, (text?_eq_some_iff h).1 hs⟩
  · rintro ⟨name, hname⟩
    refine ⟨String.ofList name, (text?_eq_some_iff h).2 ?_⟩
    rwa [String.toList_ofList]

/-- The name of a member is read as what it says. -/
theorem name_eq_some_iff {members : List (Raw × Tree)} {body : Raw}
    (h : Document (.object members) body) {m : Raw × Tree} (hm : m ∈ members) {name : String} :
    Raw.text? m.1 = some name ↔ Denotes m.1 name.toList :=
  text?_eq_some_iff (inside_of_object h m hm).1

/-! ## Fields of a record -/

/-- The text is an object, and none of its members has the name. -/
def Lacks (name : String) (body : Raw) : Prop :=
  ∃ members, Document (.object members) body ∧ ∀ m ∈ members, ¬ Denotes m.1 name.toList

/-- Whether a text is an object without a member of the name, by reading it. -/
def lacksMember (name : String) (body : Raw) : Bool :=
  match Tree.parse? body with
  | some (.object members) => members.all fun m => Raw.text? m.1 != some name
  | _ => false

theorem lacksMember_iff {name : String} {body : Raw} :
    lacksMember name body = true ↔ Lacks name body := by
  constructor
  · intro h
    rw [lacksMember] at h
    split at h
    case h_1 members hparse =>
      have hdocument := parse?_eq_some_iff.1 hparse
      refine ⟨members, hdocument, fun m hm hdenotes => ?_⟩
      have hother := List.all_eq_true.1 h m hm
      rw [bne_iff_ne] at hother
      exact hother ((name_eq_some_iff hdocument hm).2 hdenotes)
    case h_2 => cases h
  · rintro ⟨members, hdocument, hlacks⟩
    rw [lacksMember, parse?_eq_some_iff.2 hdocument]
    refine List.all_eq_true.2 fun m hm => bne_iff_ne.2 fun htext => ?_
    exact hlacks m hm ((name_eq_some_iff hdocument hm).1 htext)

instance (name : String) (body : Raw) : Decidable (Lacks name body) :=
  decidable_of_iff _ lacksMember_iff

namespace Record

theorem named?_cons (m : Raw × Tree) (members : List (Raw × Tree)) :
    named? (m :: members) = (Raw.text? m.1).bind fun name =>
      (named? members).map fun r => (name, m.2) :: r := by
  obtain ⟨key, value⟩ := m
  rw [named?, named?, List.mapM_cons]
  dsimp only
  cases Raw.text? key with
  | none => rfl
  | some name => exact Option.map_eq_bind.symm

/-- Every field that is read off an object has its name from one of the members. -/
theorem exists_member_of_named? {members : List (Raw × Tree)} {r : Record}
    (h : named? members = some r) {field : String × Tree} (hfield : field ∈ r) :
    ∃ m ∈ members, Raw.text? m.1 = some field.1 := by
  induction members generalizing r with
  | nil =>
    cases h
    cases hfield
  | cons m members ih =>
    rw [named?_cons, Option.bind_eq_some_iff] at h
    obtain ⟨name, hname, h⟩ := h
    obtain ⟨r', hr', rfl⟩ := Option.map_eq_some_iff.1 h
    rcases List.mem_cons.1 hfield with rfl | hfield
    · exact ⟨m, List.mem_cons_self, hname⟩
    · obtain ⟨m', hm', htext⟩ := ih hr' hfield
      exact ⟨m', List.mem_cons_of_mem m hm', htext⟩

/-- What no member is named for is missing from the record. -/
theorem lookup_of_lacks {names : List String} {name : String} {body : Raw} {t : Tree} {r : Record}
    (hlacks : Lacks name body) (ht : Tree.parse? body = some t) (hr : ofTree? names t = some r) :
    r.lookup name = none := by
  obtain ⟨members, hdocument, hlacks⟩ := hlacks
  obtain rfl : .object members = t :=
    Option.some.inj ((parse?_eq_some_iff.2 hdocument).symm.trans ht)
  simp only [ofTree?, Option.bind_eq_bind, Option.bind_eq_some_iff] at hr
  obtain ⟨given, hgiven, hr⟩ := hr
  split at hr
  case isFalse => cases hr
  case isTrue =>
    obtain rfl := Option.some.inj hr
    rw [List.lookup_eq_none_iff]
    intro field hfield
    obtain ⟨m, hm, htext⟩ := exists_member_of_named? hgiven (List.mem_filter.1 hfield).1
    rw [bne_iff_ne]
    rintro rfl
    exact hlacks m hm ((name_eq_some_iff hdocument hm).1 htext)

/-- A field that no member is named for stands for its default. -/
theorem withDefault_of_lacks {α : Type} {names : List String} {name : String} {body : Raw}
    {t : Tree} {r : Record} (hlacks : Lacks name body) (ht : Tree.parse? body = some t)
    (hr : ofTree? names t = some r) (default : α) (read : Tree → Option α) :
    r.withDefault name default read = some default := by
  rw [withDefault, lookup_of_lacks hlacks ht hr]

end Record

end MailCode.Json
