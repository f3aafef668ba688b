import Mathlib.Data.List.TakeWhile
import MailCode.Cache.Basic
/-!
# What a mask tells

A mask cuts an address down at its first `@`. What it tells of an address is said by `Alike`: two
addresses have the same mask exactly if they are alike (`mask_eq_mask_iff`). Of a key the mask tells
what it tells of the address in it, and no other key looks like one (`masks_tell`).

An `@` in front of the domain ends the masking too early. What stands between it and the domain is
`exposed`, and `localPart_masked` says that nothing else is shown beyond the first character.
-/

namespace MailCode

namespace Address

/-! ## The first `@` -/

theorem split?_eq_none_iff {cs : List Char} : split? cs = none ↔ '@' ∉ cs := by
  induction cs with
  | nil => simp [split?]
  | cons c cs ih =>
    unfold split?
    by_cases hc : c = '@'
    · simp [hc]
    · rw [if_neg hc, Option.map_eq_none_iff, ih, List.mem_cons, not_or]
      exact ⟨fun h => ⟨Ne.symm hc, h⟩, And.right⟩

/-- A text is split where no `@` stands before. -/
theorem split?_eq_some_iff {cs before after : List Char} :
    split? cs = some (before, after) ↔ cs = before ++ '@' :: after ∧ '@' ∉ before := by
  induction cs generalizing before with
  | nil => simp [split?]
  | cons c cs ih =>
    unfold split?
    by_cases hc : c = '@'
    · subst hc
      cases before with
      | nil => simp
      | cons b before =>
        simp only [if_true, Option.some.injEq, Prod.mk.injEq, List.cons_append, List.cons.injEq,
          List.mem_cons, not_or]
        constructor
        · rintro ⟨h, -⟩
          cases h
        · rintro ⟨⟨hb, -⟩, hne, -⟩
          exact absurd hb hne
    · rw [if_neg hc]
      cases before with
      | nil => simp [hc]
      | cons b before =>
        simp only [Option.map_eq_some_iff, Prod.mk.injEq, List.cons.injEq, List.cons_append,
          List.mem_cons, not_or]
        constructor
        · rintro ⟨⟨before, after⟩, h, ⟨rfl, rfl⟩, rfl⟩
          obtain ⟨rfl, hbefore⟩ := ih.1 h
          exact ⟨⟨rfl, rfl⟩, Ne.symm hc, hbefore⟩
        · rintro ⟨⟨rfl, rfl⟩, -, hbefore⟩
          exact ⟨(before, after), ih.2 ⟨rfl, hbefore⟩, ⟨rfl, rfl⟩, rfl⟩

/-- What stands between the first `@` of a text and an `@` that is put behind the text. -/
def exposed (text : String) : String :=
  match split? text.toList with
  | some (_, after) => String.ofList after ++ "@"
  | none => ""

theorem exposed_eq_empty_iff {text : String} : exposed text = "" ↔ '@' ∉ text.toList := by
  rw [← split?_eq_none_iff]
  unfold exposed
  split
  · next before after h => simp [h]
  · next h => simp [h]

/-- Nothing is exposed by what holds no `@`. -/
theorem exposed_append {first : String} (h : '@' ∉ first.toList) (second : String) :
    exposed (first ++ second) = exposed second := by
  unfold exposed
  cases hsecond : split? second.toList with
  | none =>
    rw [split?_eq_none_iff] at hsecond
    rw [split?_eq_none_iff.2 (by simp [h, hsecond])]
  | some parts =>
    obtain ⟨before, after⟩ := parts
    obtain ⟨heq, hbefore⟩ := split?_eq_some_iff.1 hsecond
    have hsplit : split? (first ++ second).toList = some (first.toList ++ before, after) := by
      refine split?_eq_some_iff.2 ⟨?_, ?_⟩
      · rw [String.toList_append, heq, List.append_assoc]
      · simp [h, hbefore]
    rw [hsplit]

/-- A text with an `@` behind it is split at the first `@` of all. -/
theorem split?_append (text : String) (rest : List Char) :
    split? (text.toList ++ '@' :: rest) =
      some (text.toList.takeWhile (· ≠ '@'), (exposed text).toList ++ rest) := by
  unfold exposed
  rw [split?_eq_some_iff]
  cases htext : split? text.toList with
  | none =>
    have hmem : ∀ c ∈ text.toList, c ≠ '@' := by
      intro c hc hat
      exact split?_eq_none_iff.1 htext (hat ▸ hc)
    rw [List.takeWhile_eq_self_iff.2 (by simpa using hmem)]
    exact ⟨rfl, split?_eq_none_iff.1 htext⟩
  | some parts =>
    obtain ⟨before, after⟩ := parts
    obtain ⟨heq, hbefore⟩ := split?_eq_some_iff.1 htext
    have htake : text.toList.takeWhile (· ≠ '@') = before := by
      have hmem : ∀ c ∈ before, c ≠ '@' := fun c hc hat => hbefore (hat ▸ hc)
      rw [heq, List.takeWhile_append_of_pos (by simpa using hmem)]
      simp
    rw [htake, heq]
    simpa using hbefore

/-! ## What the mask of an address shows -/

theorem maskChars_of_split {cs before after : List Char} (h : split? cs = some (before, after)) :
    maskChars cs = before.head?.toList ++ ['*', '*', '*', '@'] ++ after := by
  unfold maskChars
  rw [h]
  cases before <;> rfl

theorem maskChars_of_notMem {cs : List Char} (hne : cs ≠ []) (h : '@' ∉ cs) :
    maskChars cs = ['*', '*', '*'] := by
  unfold maskChars
  rw [split?_eq_none_iff.2 h]
  simp [hne]

/-- Only of the empty address nothing at all is shown. -/
theorem maskChars_eq_empty {cs : List Char} :
    maskChars cs = ['<', 'e', 'm', 'p', 't', 'y', '>'] ↔ cs = [] := by
  constructor
  · intro h
    unfold maskChars at h
    split at h
    · simp at h
    · simp at h
    · split at h
      · simpa using ‹cs.isEmpty = true›
      · simp at h
  · rintro rfl
    rfl

theorem mask_eq_empty {address : String} : mask address = "<empty>" ↔ address = "" := by
  have hempty : "<empty>" = String.ofList ['<', 'e', 'm', 'p', 't', 'y', '>'] := rfl
  rw [mask, hempty, String.ofList_inj, maskChars_eq_empty, String.toList_eq_nil_iff]

/-- A mask is split where the address is. -/
theorem split?_maskChars (cs : List Char) :
    split? (maskChars cs) =
      (split? cs).map fun (before, after) => (before.head?.toList ++ ['*', '*', '*'], after) := by
  cases h : split? cs with
  | none =>
    by_cases hne : cs = []
    · subst hne
      rfl
    · rw [maskChars_of_notMem hne (split?_eq_none_iff.1 h)]
      rfl
  | some parts =>
    obtain ⟨before, after⟩ := parts
    rw [maskChars_of_split h]
    refine split?_eq_some_iff.2 ⟨by simp, ?_⟩
    have hfirst : '@' ∉ before.head?.toList := by
      intro hmem
      exact (split?_eq_some_iff.1 h).2 (List.mem_of_mem_head? (Option.mem_toList.1 hmem))
    simpa using hfirst

/-! ## Addresses with the same mask -/

/-- Addresses that differ in nothing that a mask tells. -/
inductive Alike : String → String → Prop
  | empty : Alike "" ""
  /-- Of a text without an `@` it is told only that it is not empty. -/
  | unsplit {s t : String} (hs : s ≠ "") (ht : t ≠ "") (hs' : '@' ∉ s.toList)
      (ht' : '@' ∉ t.toList) : Alike s t
  /-- Otherwise it is told what follows the first `@`, and with which character the text begins
  that comes before, if there is any. -/
  | split {before before' : String} (after : String) (h : '@' ∉ before.toList)
      (h' : '@' ∉ before'.toList) (hhead : before.toList.head? = before'.toList.head?) :
      Alike (before ++ "@" ++ after) (before' ++ "@" ++ after)

theorem mask_of_notMem {before : String} (h : '@' ∉ before.toList) (after : String) :
    mask (before ++ "@" ++ after) =
      String.ofList before.toList.head?.toList ++ "***@" ++ after := by
  have hsplit : split? (before ++ "@" ++ after).toList = some (before.toList, after.toList) :=
    split?_eq_some_iff.2 ⟨by simp, h⟩
  rw [mask, maskChars_of_split hsplit, ← String.toList_inj]
  simp

theorem Alike.mask_eq {s t : String} (h : Alike s t) : mask s = mask t := by
  cases h with
  | empty => rfl
  | unsplit hs ht hs' ht' =>
    have hs : s.toList ≠ [] := fun h => hs (String.toList_eq_nil_iff.1 h)
    have ht : t.toList ≠ [] := fun h => ht (String.toList_eq_nil_iff.1 h)
    rw [mask, mask, maskChars_of_notMem hs hs', maskChars_of_notMem ht ht']
  | split after h h' hhead => rw [mask_of_notMem h, mask_of_notMem h', hhead]

theorem eq_of_split {s : String} {before after : List Char}
    (h : split? s.toList = some (before, after)) :
    s = String.ofList before ++ "@" ++ String.ofList after := by
  rw [← String.toList_inj, (split?_eq_some_iff.1 h).1]
  simp

/-- Two addresses have the same mask exactly if they differ in nothing that it tells. -/
theorem mask_eq_mask_iff {s t : String} : mask s = mask t ↔ Alike s t := by
  refine ⟨fun h => ?_, Alike.mask_eq⟩
  have hsplit := congrArg split? (String.ofList_injective h)
  rw [split?_maskChars, split?_maskChars] at hsplit
  cases hs : split? s.toList with
  | none =>
    cases ht : split? t.toList with
    | some parts' =>
      rw [hs, ht] at hsplit
      cases hsplit
    | none =>
      have hempty : s = "" ↔ t = "" := by rw [← mask_eq_empty, h, mask_eq_empty]
      by_cases hnil : s = ""
      · obtain rfl := hempty.1 hnil
        subst hnil
        exact .empty
      · exact .unsplit hnil (mt hempty.2 hnil) (split?_eq_none_iff.1 hs)
          (split?_eq_none_iff.1 ht)
  | some parts =>
    obtain ⟨before, after⟩ := parts
    cases ht : split? t.toList with
    | none =>
      rw [hs, ht] at hsplit
      cases hsplit
    | some parts' =>
      obtain ⟨before', after'⟩ := parts'
      rw [hs, ht] at hsplit
      simp only [Option.map_some, Option.some.injEq, Prod.mk.injEq] at hsplit
      obtain ⟨hfirst, rfl⟩ := hsplit
      have hhead : before.head? = before'.head? := by
        simpa using congrArg List.head? (List.append_cancel_right hfirst)
      have hbefore := (split?_eq_some_iff.1 hs).2
      have hbefore' := (split?_eq_some_iff.1 ht).2
      rw [eq_of_split hs, eq_of_split ht]
      exact .split _ (by simpa using hbefore) (by simpa using hbefore') (by simpa using hhead)

end Address

/-! ## Keys -/

namespace CodeKey

theorem afterLead?_eq_some_iff {ls cs rest : List Char} :
    afterLead? ls cs = some rest ↔ cs = ls ++ rest := by
  induction ls generalizing cs with
  | nil => simp [afterLead?, eq_comm]
  | cons l ls ih =>
    cases cs with
    | nil => simp [afterLead?]
    | cons c cs =>
      unfold afterLead?
      by_cases h : l = c
      · simp [h, ih]
      · simp [h, Ne.symm h]

/-- What a log shows of the key for an address. -/
theorem mask_ofAddress (address : String) :
    mask (ofAddress address) = lead ++ Address.mask address := by
  have hlead : afterLead? lead.toList (ofAddress address).toList = some address.toList := by
    rw [afterLead?_eq_some_iff, ofAddress, String.toList_append]
  rw [mask, maskChars, hlead, Address.mask, String.ofList_append, String.ofList_toList]

/-- No mask of an address looks like a key. -/
theorem addressMask_ne_lead_append (address rest : String) :
    Address.mask address ≠ lead ++ rest := by
  intro h
  have hchars : Address.maskChars address.toList = lead.toList ++ rest.toList := by
    rw [← String.toList_append, ← h, Address.mask, String.toList_ofList]
  have hlead : lead.toList = ['c', 'o', 'd', 'e', '_'] := rfl
  rw [hlead] at hchars
  unfold Address.maskChars at hchars
  split at hchars
  · simp at hchars
  · simp at hchars
  · split at hchars <;> simp at hchars

/-- Masks of addresses are the same exactly if nothing that they tell differs, and keys that look
like the key for an address are keys for addresses with the same mask. -/
theorem masks_tell :
    (∀ s t, Address.mask s = Address.mask t ↔ Address.Alike s t) ∧
      ∀ key address, mask key = mask (ofAddress address) ↔
        ∃ other, key = ofAddress other ∧ Address.mask other = Address.mask address := by
  refine ⟨fun s t => Address.mask_eq_mask_iff, fun key address => ⟨fun h => ?_, ?_⟩⟩
  · rw [mask_ofAddress] at h
    cases hlead : afterLead? lead.toList key.toList with
    | none =>
      -- a key without the lead is masked like an address
      have hmask : mask key = Address.mask key := by rw [mask, maskChars, hlead, Address.mask]
      exact absurd (hmask.symm.trans h) (addressMask_ne_lead_append key _)
    | some rest =>
      have hkey : key = ofAddress (String.ofList rest) := by
        rw [← String.toList_inj, afterLead?_eq_some_iff.1 hlead, ofAddress, String.toList_append,
          String.toList_ofList]
      rw [hkey, mask_ofAddress, String.append_right_inj] at h
      exact ⟨_, hkey, h⟩
  · rintro ⟨other, rfl, h⟩
    rw [mask_ofAddress, mask_ofAddress, h]

end CodeKey

/-! ## What is exposed -/

namespace Address

/-- The address of a name at a domain; the name is not empty. -/
def named (first : Char) (others domain : String) : String :=
  String.singleton first ++ others ++ "@" ++ domain

/-- In front of the domain the mask shows a first character and what is exposed. -/
theorem mask_named (first : Char) (others domain : String) :
    mask (named first others domain) =
      (if first = '@' then "" else String.singleton first) ++ "***@" ++
        exposed (String.singleton first ++ others) ++ domain := by
  have hsplit := split?_append (String.singleton first ++ others) domain.toList
  have htoList : (named first others domain).toList =
      (String.singleton first ++ others).toList ++ '@' :: domain.toList := by
    simp [named]
  rw [mask, htoList, maskChars_of_split hsplit, List.head?_takeWhile, ← String.toList_inj]
  by_cases hfirst : first = '@' <;> simp [hfirst, Option.filter_some]

/-- The mask tells of a name its first character and what is exposed, and nothing else; and so does
the masked key. -/
theorem localPart_masked (first : Char) (others domain : String) :
    mask (named first others domain) =
        (if first = '@' then "" else String.singleton first) ++ "***@" ++
          exposed (String.singleton first ++ others) ++ domain ∧
      (mask (named first others domain) = String.singleton first ++ "***@" ++ domain ↔
        '@' ∉ (String.singleton first ++ others).toList) ∧
      CodeKey.mask (CodeKey.ofAddress (named first others domain)) =
        "code_" ++ mask (named first others domain) ∧
      ∀ others', mask (named first others' domain) = mask (named first others domain) ↔
        exposed (String.singleton first ++ others') =
          exposed (String.singleton first ++ others) := by
  have hmask (others : String) := mask_named first others domain
  refine ⟨hmask others, ?_, CodeKey.mask_ofAddress _, fun others' => ?_⟩
  · rw [hmask, ← exposed_eq_empty_iff, String.append_left_inj]
    by_cases hfirst : first = '@'
    · -- the mask begins with a star, and something is exposed
      have hexposed : exposed (String.singleton first ++ others) ≠ "" := by
        rw [Ne, exposed_eq_empty_iff]
        simp [hfirst]
      refine iff_of_false (fun h => ?_) hexposed
      rw [if_pos hfirst, hfirst, ← String.toList_inj] at h
      simp at h
    · rw [if_neg hfirst, String.append_eq_left_iff]
  · rw [hmask, hmask, String.append_left_inj, String.append_right_inj]

/-- A quoted name may hold an `@`, and what follows it is told. -/
theorem localPart_unmasked :
    mask "\"john@home\"@example.com" = "\"***@home\"@example.com" ∧
      mask "\"john@home\"@example.com" ≠ "\"***@example.com" := by
  decide +kernel

end Address

end MailCode
