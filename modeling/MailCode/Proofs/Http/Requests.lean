import MailCode.Http.Server
import MailCode.Proofs.Issuance.Verdict
import MailCode.Proofs.Json.Objects
import MailCode.Proofs.Json.RoundTrip
import MailCode.Rehearsal.Action
/-!
# Bodies and the requests in them
-/

namespace MailCode.Http

/-!
## How a body arrives does not matter

A body is read piece by piece and may break off. What becomes of it depends on the bytes that
arrive before that and on nothing else about the pieces (`readBody_eq`): it is refused for its
length, or for breaking off, or read whole. A body that does not break off is thus all one however
it is cut (`readBody_bytes`).
-/

/-- The pieces that arrive before a body breaks off, which are all of them if it does not. -/
def received : List Chunk → List (List UInt8)
  | .bytes piece :: rest => piece :: received rest
  | .broken :: _ | [] => []

theorem received_bytes (pieces : List (List UInt8)) : received (pieces.map .bytes) = pieces := by
  induction pieces with
  | nil => rfl
  | cons piece pieces ih => exact congrArg (piece :: ·) ih

theorem broken_notMem_bytes (pieces : List (List UInt8)) : .broken ∉ pieces.map Chunk.bytes := by
  simp

/-- What has been read so far counts towards the limit like what is still to come. -/
theorem readOnto_eq {limit : Nat} {read : List UInt8} (hread : read.length ≤ limit)
    (chunks : List Chunk) :
    readOnto limit read chunks =
      if limit < (read ++ (received chunks).flatten).length then .error .oversized
      else if .broken ∈ chunks then .error .unreadable
      else .ok (read ++ (received chunks).flatten) := by
  induction chunks generalizing read with
  | nil => simp [readOnto, received, hread]
  | cons chunk chunks ih =>
    cases chunk with
    | broken => simp [readOnto, received, hread]
    | bytes piece =>
      rw [readOnto, received, List.flatten_cons, ← List.append_assoc]
      split
      case isTrue hlt =>
        -- A piece that passes the limit is the end, whatever would have come after it.
        rw [if_pos]
        simp only [List.length_append] at hlt ⊢
        omega
      case isFalse hle =>
        rw [ih (by rw [List.length_append]; omega)]
        simp only [List.mem_cons, reduceCtorEq, false_or]

theorem readBody_eq (limit : Nat) (chunks : List Chunk) :
    readBody limit chunks =
      if limit < (received chunks).flatten.length then .error .oversized
      else if .broken ∈ chunks then .error .unreadable
      else .ok (received chunks).flatten :=
  readOnto_eq (Nat.zero_le limit) chunks

theorem readBody_bytes (limit : Nat) (pieces : List (List UInt8)) :
    readBody limit (pieces.map .bytes) =
      if pieces.flatten.length ≤ limit then .ok pieces.flatten else .error .oversized := by
  rw [readBody_eq, received_bytes, if_neg (broken_notMem_bytes pieces)]
  simp only [← Nat.not_le, ite_not]

/-!
## Which bodies are requests

A body asks for a code if it is an object that names an address once, however it is written and
whatever else it holds (`Asks`). Nothing else should be a request; but as records are also read from
arrays, a body that lists the address and nothing else is one too (`Lists`), and then there are no
more (`requestOfBody?_eq_some_iff`). A request is served with the address that was written, any
other body is answered without anybody being asked.
-/

open MailCode.Json

/-- The body is an object with names that can be read, one of which is `email`, and only once; its
value is a string that says the address. -/
def Asks (email : String) (body : Raw) : Prop :=
  ∃ members, Document (.object members) body ∧ (∀ m ∈ members, ∃ name, Denotes m.1 name) ∧
    ∃ before key raw after, members = before ++ (key, .string raw) :: after ∧
      Denotes key "email".toList ∧ Denotes raw email.toList ∧
      ∀ m ∈ before ++ after, ¬ Denotes m.1 "email".toList

/-- The body is an array of one string that says the address. -/
def Lists (email : String) (body : Raw) : Prop :=
  ∃ raw, Document (.array [.string raw]) body ∧ Denotes raw email.toList

/-! ### Reading the address -/

/-- Whether a member has the name that is asked for. -/
def namesEmail (m : Raw × Tree) : Bool :=
  Raw.text? m.1 == some "email"

/-- The names can be read together if each can be read, and then the fields that are kept are the
members with the name. -/
theorem named?_spec (members : List (Raw × Tree)) :
    ((Record.named? members).isSome ↔ ∀ m ∈ members, (Raw.text? m.1).isSome) ∧
      ∀ r ∈ Record.named? members, (r.filter fun (name, _) => ["email"].contains name) =
        (members.filter namesEmail).map fun m => ("email", m.2) := by
  induction members with
  | nil => simp [Record.named?]
  | cons m members ih =>
    obtain ⟨hreadable, hkept⟩ := ih
    rw [Record.named?_cons, List.forall_mem_cons, ← hreadable]
    cases hname : Raw.text? m.1 with
    | none => simp
    | some name =>
      refine ⟨by simp, ?_⟩
      intro r hr
      obtain ⟨r', hr', rfl⟩ := Option.map_eq_some_iff.1 hr
      rw [List.filter_cons, List.filter_cons, hkept r' hr']
      by_cases he : name = "email" <;> simp [namesEmail, hname, he]

/-- A record with the one field is read off an object in which just one member has its name. -/
theorem ofTree?_object_eq_some_iff {members : List (Raw × Tree)} {email : String} :
    CodeRequest.ofTree? (.object members) = some ⟨email⟩ ↔
      (∀ m ∈ members, (Raw.text? m.1).isSome) ∧
        ∃ m, members.filter namesEmail = [m] ∧ m.2.text? = some email := by
  obtain ⟨hreadable, hkept⟩ := named?_spec members
  rw [← hreadable, CodeRequest.ofTree?, Record.ofTree?]
  cases hnamed : Record.named? members with
  | none => simp
  | some r =>
    have hgiven := hkept r hnamed
    simp only [Option.bind_eq_bind, Option.bind_some, hgiven, Option.isSome_some, true_and]
    -- No such member is a field that is missing, and two of them are one that is given twice.
    rcases members.filter namesEmail with _ | ⟨m, _ | ⟨m', rest⟩⟩
    · simp [Record.required]
    · simp [Record.required, Option.bind_eq_some_iff]
    · simp

theorem ofTree?_array_eq_some_iff {ts : List Tree} {email : String} :
    CodeRequest.ofTree? (.array ts) = some ⟨email⟩ ↔ ∃ t, ts = [t] ∧ t.text? = some email := by
  rcases ts with _ | ⟨t, _ | ⟨t', ts⟩⟩
  · simp [CodeRequest.ofTree?, Record.ofTree?, Record.required]
  · simp [CodeRequest.ofTree?, Record.ofTree?, Record.required, Option.bind_eq_some_iff]
  · simp [CodeRequest.ofTree?, Record.ofTree?]

theorem tree_text?_eq_some_iff {t : Tree} {s : String} :
    t.text? = some s ↔ ∃ raw, t = .string raw ∧ Raw.text? raw = some s := by
  cases t <;> simp [Tree.text?]

theorem namesEmail_iff {m : Raw × Tree} (h : Inside m.1) :
    namesEmail m ↔ Denotes m.1 "email".toList := by
  rw [namesEmail, beq_iff_eq, text?_eq_some_iff h]

theorem mem_of_mem_append {α : Type} {a x : α} {before after : List α}
    (h : x ∈ before ++ after) : x ∈ before ++ a :: after := by
  rcases List.mem_append.1 h with hx | hx
  · exact List.mem_append_left _ hx
  · exact List.mem_append_right _ (List.mem_cons_of_mem _ hx)

/-- A test that just one element passes cuts a list in two. -/
theorem filter_eq_singleton_iff {α : Type} {p : α → Bool} {l : List α} {a : α} :
    l.filter p = [a] ↔
      ∃ before after, l = before ++ a :: after ∧ p a ∧ ∀ x ∈ before ++ after, ¬ p x := by
  constructor
  · intro h
    obtain ⟨before, after, rfl, hbefore, ha, hafter⟩ := List.filter_eq_cons_iff.1 h
    refine ⟨before, after, rfl, ha, fun x hx => ?_⟩
    rcases List.mem_append.1 hx with hx | hx
    · exact hbefore x hx
    · exact List.filter_eq_nil_iff.1 hafter x hx
  · rintro ⟨before, after, rfl, ha, hothers⟩
    have hbefore : before.filter p = [] :=
      List.filter_eq_nil_iff.2 fun x hx => hothers x (List.mem_append_left _ hx)
    have hafter : after.filter p = [] :=
      List.filter_eq_nil_iff.2 fun x hx => hothers x (List.mem_append_right _ hx)
    rw [List.filter_append, List.filter_cons_of_pos ha, hbefore, hafter]
    rfl

/-- Objects that are read as a request are those that ask. -/
theorem asks_iff {body : Raw} {email : String} :
    Asks email body ↔ ∃ members, Document (.object members) body ∧
      CodeRequest.ofTree? (.object members) = some ⟨email⟩ := by
  refine exists_congr fun members => and_congr_right fun hdocument => ?_
  -- The grammar speaks of what strings say, and the reader of what it can make of them.
  have hinside := inside_of_object hdocument
  rw [ofTree?_object_eq_some_iff]
  refine and_congr ?_ ?_
  · exact forall_congr' fun m => forall_congr' fun hm => (isSome_text?_iff (hinside m hm).1).symm
  · simp only [filter_eq_singleton_iff]
    constructor
    · rintro ⟨before, key, raw, after, rfl, hkey, hraw, hothers⟩
      obtain ⟨hinkey, hinraw⟩ := hinside (key, .string raw) (by simp)
      refine ⟨_, ⟨before, after, rfl, (namesEmail_iff hinkey).2 hkey, fun m hm hnames => ?_⟩,
        (text?_eq_some_iff (hinraw raw rfl)).2 hraw⟩
      exact hothers m hm ((namesEmail_iff (hinside m (mem_of_mem_append hm)).1).1 hnames)
    · rintro ⟨⟨key, t⟩, ⟨before, after, rfl, hnames, hothers⟩, ht⟩
      obtain ⟨raw, rfl, hraw⟩ := tree_text?_eq_some_iff.1 ht
      obtain ⟨hinkey, hinraw⟩ := hinside (key, .string raw) (by simp)
      refine ⟨before, key, raw, after, rfl, (namesEmail_iff hinkey).1 hnames,
        (text?_eq_some_iff (hinraw raw rfl)).1 hraw, fun m hm hdenotes => ?_⟩
      exact hothers m hm ((namesEmail_iff (hinside m (mem_of_mem_append hm)).1).2 hdenotes)

theorem lists_iff {body : Raw} {email : String} :
    Lists email body ↔ ∃ ts, Document (.array ts) body ∧
      CodeRequest.ofTree? (.array ts) = some ⟨email⟩ := by
  constructor
  · rintro ⟨raw, hdocument, hraw⟩
    refine ⟨_, hdocument, ofTree?_array_eq_some_iff.2 ⟨_, rfl, ?_⟩⟩
    exact (text?_eq_some_iff (inside_of_array hdocument)).2 hraw
  · rintro ⟨ts, hdocument, hread⟩
    obtain ⟨t, rfl, ht⟩ := ofTree?_array_eq_some_iff.1 hread
    obtain ⟨raw, rfl, hraw⟩ := tree_text?_eq_some_iff.1 ht
    exact ⟨raw, hdocument, (text?_eq_some_iff (inside_of_array hdocument)).1 hraw⟩

/-- A body is read as a request just when it asks for a code in an object, or lists the address in
an array. -/
theorem requestOfBody?_eq_some_iff {body : Raw} {email : String} :
    requestOfBody? body = some ⟨email⟩ ↔ Asks email body ∨ Lists email body := by
  rw [requestOfBody?, Option.bind_eq_some_iff, asks_iff, lists_iff]
  simp only [parse?_eq_some_iff]
  constructor
  · rintro ⟨t, hdocument, hread⟩
    cases t with
    | array ts => exact .inr ⟨ts, hdocument, hread⟩
    | object members => exact .inl ⟨members, hdocument, hread⟩
    | null | bool | number | string => cases hread
  · rintro (⟨members, hdocument, hread⟩ | ⟨ts, hdocument, hread⟩)
    · exact ⟨_, hdocument, hread⟩
    · exact ⟨_, hdocument, hread⟩

/-- Whether a body is an object. -/
def isObject (body : Raw) : Bool :=
  match Tree.parse? body with
  | some (.object _) => true
  | _ => false

theorem isObject_of_asks {body : Raw} {email : String} (h : Asks email body) :
    isObject body = true := by
  obtain ⟨members, hdocument, -⟩ := h
  rw [isObject, parse?_eq_some_iff.2 hdocument]

theorem isObject_of_lists {body : Raw} {email : String} (h : Lists email body) :
    isObject body = false := by
  obtain ⟨raw, hdocument, -⟩ := h
  rw [isObject, parse?_eq_some_iff.2 hdocument]

theorem asks_iff_isObject {body : Raw} {email : String} :
    Asks email body ↔ requestOfBody? body = some ⟨email⟩ ∧ isObject body = true := by
  rw [requestOfBody?_eq_some_iff]
  constructor
  · exact fun hasks => ⟨.inl hasks, isObject_of_asks hasks⟩
  · rintro ⟨hasks | hlists, hobject⟩
    · exact hasks
    · exact absurd hobject (by simp [isObject_of_lists hlists])

theorem lists_iff_isObject {body : Raw} {email : String} :
    Lists email body ↔ requestOfBody? body = some ⟨email⟩ ∧ isObject body = false := by
  rw [requestOfBody?_eq_some_iff]
  constructor
  · exact fun hlists => ⟨.inr hlists, isObject_of_lists hlists⟩
  · rintro ⟨hasks | hlists, hobject⟩
    · exact absurd hobject (by simp [isObject_of_asks hasks])
    · exact hlists

instance (email : String) (body : Raw) : Decidable (Asks email body) :=
  decidable_of_iff _ asks_iff_isObject.symm

instance (email : String) (body : Raw) : Decidable (Lists email body) :=
  decidable_of_iff _ lists_iff_isObject.symm

/-! ### What becomes of a body -/

variable {σ : Type} (c : Collaborators σ) (settings : IssuingSettings) {limit : Nat}
  {pieces : List Raw} {email : String}

/-- What is left behind when a request for an address has been served. -/
def served (email : String) (s : σ) : Handled σ Response :=
  let p := Issuance.issue c settings email s
  ⟨⟨200, .answer (p.stage.answer?.getD ⟨email, .exception⟩)⟩, p.state, p.calls,
    processing email :: p.events⟩

/-- What is left behind when a body is no request: nobody has been asked for anything. -/
def refused (body : Raw) (s : σ) : Handled σ Response :=
  ⟨noRequest, s, [], [malformedRequest body.length]⟩

theorem getCode_of_request (hlimit : pieces.flatten.length ≤ limit)
    (h : requestOfBody? pieces.flatten = some ⟨email⟩) (s : σ) :
    getCode c settings limit (pieces.map .bytes) s = served c settings email s := by
  rw [getCode, readBody_bytes, if_pos hlimit]
  simp only [h]
  rfl

theorem getCode_of_noRequest (hlimit : pieces.flatten.length ≤ limit)
    (h : requestOfBody? pieces.flatten = none) (s : σ) :
    getCode c settings limit (pieces.map .bytes) s = refused pieces.flatten s := by
  rw [getCode, readBody_bytes, if_pos hlimit]
  simp only [h]
  rfl

/-- A body that asks for a code is served, in whatever pieces it arrives: one issuance runs for the
address that was written, and the response carries its answer as a text from which the answer is
read back, with that very address in it. -/
theorem getCode_of_asks (hlimit : pieces.flatten.length ≤ limit)
    (hasks : Asks email pieces.flatten) (s : σ) :
    let handled := getCode c settings limit (pieces.map .bytes) s
    let p := Issuance.issue c settings email s
    handled.state = p.state ∧ handled.calls = p.calls ∧
      handled.events = processing email :: p.events ∧ handled.response.status = 200 ∧
      ∃ answer, p.stage = .done answer ∧ answer.email = email ∧
        (Tree.parse? handled.response.content.toJson.compress.toUTF8.toList).bind Answer.ofTree? =
          some answer := by
  intro handled p
  have hhandled : handled = served c settings email s :=
    getCode_of_request c settings hlimit (requestOfBody?_eq_some_iff.2 (.inl hasks)) s
  obtain ⟨answer, hdone, htells⟩ := (Issuance.issue_course c settings email s).tells
  have hcontent : handled.response.content = .answer answer := by
    rw [hhandled, served, hdone]
    rfl
  rw [hcontent, hhandled]
  refine ⟨rfl, rfl, rfl, rfl, answer, hdone, htells.echoes, ?_⟩
  exact RoundTrips.of_toTree Answer.ofTree?_toTree answer

/-- Escapes in the name and a pair of surrogates in the address, cut in two between the pieces;
white space, and members that nobody asked for with all kinds of values in them. -/
theorem getCode_of_asks_escaped :
    let pieces := [
      "\n\x7b\"x\":[\x7b\"y\":[-1.5e+3,null,\x7b\x7d]\x7d,\"\\ud800\"]".toUTF8.toList,
      " , \"\\u0065mail\"\t: \"\\u0061\\ud83d".toUTF8.toList,
      "\\ude00@b.c\" , \"z\" : \"\\/\" \x7d\r".toUTF8.toList]
    let start : Rehearsal.World Memory := .fresh .empty (fun _ => "1234") fun _ => "id"
    let handled := getCode Rehearsal.cast ⟨.setIfAbsent, .strict⟩ 200 (pieces.map .bytes) start
    pieces.flatten.length ≤ 200 ∧ Asks "a😀@b.c" pieces.flatten ∧
      handled.response.status = 200 ∧
      (Tree.parse? handled.response.content.toJson.compress.toUTF8.toList).bind Answer.ofTree? =
        some ⟨"a😀@b.c", .success⟩ := by
  intro pieces start handled
  have hlimit : pieces.flatten.length ≤ 200 := by decide +kernel
  have hasks : Asks "a😀@b.c" pieces.flatten := by decide +kernel
  obtain ⟨-, -, -, hstatus, answer, hdone, -, hanswer⟩ :=
    getCode_of_asks Rehearsal.cast ⟨.setIfAbsent, .strict⟩ hlimit hasks start
  have hstage : (Issuance.issue Rehearsal.cast ⟨.setIfAbsent, .strict⟩ "a😀@b.c" start).stage =
      .done ⟨"a😀@b.c", .success⟩ := by decide +kernel
  cases hdone.symm.trans hstage
  exact ⟨hlimit, hasks, hstatus, hanswer⟩

theorem noRequest_text :
    noRequest.content.toJson.compress = "\x7b\"email\":\"\",\"error\":2\x7d" := by
  decide +kernel

/-- A body within the limit that neither asks for a code nor lists an address is refused, and nobody
is asked for anything. But a body that lists an address, which is no object, is served as if it had
asked. -/
theorem getCode_of_other (hlimit : pieces.flatten.length ≤ limit) (s : σ) :
    ((∀ email, ¬ Asks email pieces.flatten ∧ ¬ Lists email pieces.flatten) →
      let handled := getCode c settings limit (pieces.map .bytes) s
      handled.response.status = 200 ∧
        handled.response.content.toJson.compress = "\x7b\"email\":\"\",\"error\":2\x7d" ∧
        handled.state = s ∧ handled.calls = [] ∧
        handled.events = [malformedRequest pieces.flatten.length]) ∧
      ∀ email, Lists email pieces.flatten →
        getCode c settings limit (pieces.map .bytes) s = served c settings email s := by
  constructor
  · intro hno handled
    have hnone : requestOfBody? pieces.flatten = none := by
      rw [Option.eq_none_iff_forall_ne_some]
      rintro ⟨email⟩ hrequest
      rcases requestOfBody?_eq_some_iff.1 hrequest with hasks | hlists
      · exact (hno email).1 hasks
      · exact (hno email).2 hlists
    have hhandled : handled = refused pieces.flatten s :=
      getCode_of_noRequest c settings hlimit hnone s
    rw [hhandled]
    exact ⟨rfl, noRequest_text, rfl, rfl, rfl⟩
  · intro email hlists
    exact getCode_of_request c settings hlimit (requestOfBody?_eq_some_iff.2 (.inr hlists)) s

/-- A number is refused for all that it is JSON, and an array with an address is served. -/
theorem getCode_of_number_and_array :
    let number := "17".toUTF8.toList
    let array := "[\"a@b.c\"]".toUTF8.toList
    let start : Rehearsal.World Memory := .fresh .empty (fun _ => "1234") fun _ => "id"
    let handle (body : Raw) := getCode Rehearsal.cast ⟨.setIfAbsent, .strict⟩ 9 [.bytes body] start
    (handle number).response.content.toJson.compress = "\x7b\"email\":\"\",\"error\":2\x7d" ∧
      (handle number).calls = [] ∧
      handle array = served Rehearsal.cast ⟨.setIfAbsent, .strict⟩ "a@b.c" start := by
  intro number array start handle
  have hnumber : requestOfBody? [number].flatten = none := by decide +kernel
  have harray : Lists "a@b.c" [array].flatten := by decide +kernel
  obtain ⟨hrefused, -⟩ := getCode_of_other Rehearsal.cast ⟨.setIfAbsent, .strict⟩
    (by decide +kernel : [number].flatten.length ≤ 9) start
  obtain ⟨-, hserved⟩ := getCode_of_other Rehearsal.cast ⟨.setIfAbsent, .strict⟩
    (by decide +kernel : [array].flatten.length ≤ 9) start
  obtain ⟨-, hanswer, -, hcalls, -⟩ := hrefused fun email => by
    rw [← not_or, ← requestOfBody?_eq_some_iff, hnumber]
    exact nofun
  exact ⟨hanswer, hcalls, hserved "a@b.c" harray⟩

/-- An address alone in an array is no object that asks for a code, and yet it is served. -/
theorem getCode_serves_array :
    let body := "[\"a@b.c\"]".toUTF8.toList
    let start : Rehearsal.World Memory := .fresh .empty (fun _ => "1234") fun _ => "id"
    let handled := getCode Rehearsal.cast ⟨.setIfAbsent, .strict⟩ 100 [.bytes body] start
    body.length ≤ 100 ∧ (∀ email, ¬ Asks email body) ∧
      handled.response.content.toJson.compress = "\x7b\"email\":\"a@b.c\",\"error\":0\x7d" ∧
      handled.calls ≠ [] := by
  intro body start handled
  refine ⟨by decide +kernel, fun email hasks => ?_, by decide +kernel, by decide +kernel⟩
  have hobject := isObject_of_asks hasks
  revert hobject
  decide +kernel

end MailCode.Http
