import MailCode.Cache.Memory
import MailCode.Proofs.Issuance.Comparison
/-!
# Caches with other codes

A cache in memory never looks at the texts it keeps. Two caches with the same entries but for the
texts, which only correspond, answer alike to every operation, log the same, and differ again in
nothing but the texts. What corresponds to what is left open.
-/

namespace MailCode

variable {codes : String → String → Prop}

/-- Entries that die at the same moment, with texts that correspond. -/
structure Entry.Recoded (codes : String → String → Prop) (e e' : Entry) : Prop where
  value : codes e.value e'.value
  expiresAt : e'.expiresAt = e.expiresAt

theorem Entry.Recoded.isLive {e e' : Entry} (h : e.Recoded codes e') (now : Nat) :
    e'.isLive now = e.isLive now := by
  rw [Entry.isLive, Entry.isLive, h.expiresAt]

/-- Such entries under the same key. -/
def Entries.Paired (codes : String → String → Prop) (p p' : String × Entry) : Prop :=
  p'.1 = p.1 ∧ p.2.Recoded codes p'.2

/-- Such entries under the same keys, in the same order. -/
def Entries.Recoded (codes : String → String → Prop) (es es' : Entries) : Prop :=
  List.Forall₂ (Entries.Paired codes) es.toList es'.toList

namespace Entries.Recoded

variable {es es' : Entries}

theorem lookup {l l' : List (String × Entry)} (h : List.Forall₂ (Entries.Paired codes) l l')
    (key : String) : Option.Rel (Entry.Recoded codes) (l.lookup key) (l'.lookup key) := by
  induction h with
  | nil => exact .none
  | @cons p p' l l' hp _ ih =>
    obtain ⟨k, e⟩ := p
    obtain ⟨_, e'⟩ := p'
    obtain ⟨rfl, he⟩ := hp
    rw [List.lookup_cons, List.lookup_cons]
    cases hkey : key == _ with
    | true => exact .some he
    | false => exact ih

theorem get? (h : es.Recoded codes es') (key : String) :
    Option.Rel (Entry.Recoded codes) (es.get? key) (es'.get? key) :=
  lookup h key

theorem filter {keep : String × Entry → Bool} (h : es.Recoded codes es')
    (hkeep : ∀ p p', Entries.Paired codes p p' → keep p' = keep p) :
    (es.filter keep).Recoded codes (es'.filter keep) := by
  refine List.rel_filter ?_ h
  intro p p' hp
  simp only [hkeep p p' hp]

theorem erase (h : es.Recoded codes es') (key : String) :
    (es.erase key).Recoded codes (es'.erase key) :=
  h.filter fun _ _ hp => congrArg (· != key) hp.1

theorem insert (h : es.Recoded codes es') (key : String) {e e' : Entry} (he : e.Recoded codes e') :
    (es.insert key e).Recoded codes (es'.insert key e') :=
  .cons ⟨rfl, he⟩ (h.erase key)

theorem size (h : es.Recoded codes es') : es'.size = es.size :=
  (List.Forall₂.length_eq h).symm

end Entries.Recoded

namespace Memory

/-- The same cache with other texts. -/
structure Recoded (codes : String → String → Prop) (m m' : Memory) : Prop where
  entries : m.entries.Recoded codes m'.entries
  writes : m'.writes = m.writes
  poisoned : m'.poisoned = m.poisoned

/-- Caches belong together if they differ in texts only, and their events are to be the same. -/
def likeness (codes : String → String → Prop) : Likeness Memory Memory :=
  ⟨Recoded codes, codes, fun _ => true⟩

namespace Recoded

variable {m m' : Memory}

theorem liveEntry (h : m.Recoded codes m') (now : Nat) (key : String) :
    Option.Rel (Entry.Recoded codes) (m.liveEntry now key).1 (m'.liveEntry now key).1 ∧
      (m.liveEntry now key).2.1.Recoded codes (m'.liveEntry now key).2.1 ∧
      (m'.liveEntry now key).2.2 = (m.liveEntry now key).2.2 := by
  have hget := h.entries.get? key
  unfold Memory.liveEntry
  generalize m.entries.get? key = o at hget ⊢
  generalize m'.entries.get? key = o' at hget ⊢
  cases hget with
  | none => exact ⟨.none, h, rfl⟩
  | @some e e' he =>
    dsimp only
    rw [he.isLive]
    split
    · exact ⟨.some he, h, rfl⟩
    · exact ⟨.none, ⟨h.entries.erase key, h.writes, h.poisoned⟩, rfl⟩

theorem sweep (h : m.Recoded codes m') (now : Nat) :
    (m.sweep now).1.Recoded codes (m'.sweep now).1 ∧ (m'.sweep now).2 = (m.sweep now).2 := by
  have hkept : (m.sweep now).1.entries.Recoded codes (m'.sweep now).1.entries :=
    h.entries.filter fun p p' hp => hp.2.isLive now
  have hsize := hkept.size
  refine ⟨⟨hkept, h.writes, h.poisoned⟩, ?_⟩
  simp only [Memory.sweep] at hsize ⊢
  rw [h.entries.size, hsize]

variable {α β : Type} {values : α → β → Prop}

theorem locked {operation : Memory → Reply Memory CacheError α}
    {operation' : Memory → Reply Memory CacheError β} (h : m.Recoded codes m')
    (hop : (operation m).Akin (likeness codes) values (operation' m')) :
    (m.locked operation).Akin (likeness codes) values (m'.locked operation') := by
  unfold Memory.locked
  rw [h.poisoned]
  split
  · exact ⟨.error _, h, .refl _ _⟩
  · exact hop

theorem withLiveEntry (h : m.Recoded codes m') (now : Nat) (key : String)
    {read : Option Entry → α} {read' : Option Entry → β}
    (hread : ∀ o o', Option.Rel (Entry.Recoded codes) o o' → values (read o) (read' o')) :
    (m.withLiveEntry now key read).Akin (likeness codes) values
      (m'.withLiveEntry now key read') := by
  obtain ⟨hentry, hstate, hevents⟩ := h.liveEntry now key
  exact h.locked ⟨.ok (hread _ _ hentry), hstate, .of_eq hevents⟩

theorem insert (h : m.Recoded codes m') (now : Nat) (key : String) {value value' : String}
    (hvalue : codes value value') (lifetime : Nat) :
    (m.insert now key value lifetime).Akin (likeness codes) Eq
      (m'.insert now key value' lifetime) := by
  unfold Memory.insert
  split
  · exact ⟨.panic _, ⟨h.entries, h.writes, rfl⟩, .refl _ _⟩
  · have hwritten : Memory.Recoded codes
        { m with
          entries := m.entries.insert key ⟨value, now + lifetime * 1000⟩
          writes := m.writes + 1 }
        { m' with
          entries := m'.entries.insert key ⟨value', now + lifetime * 1000⟩
          writes := m.writes + 1 } :=
      ⟨h.entries.insert key ⟨hvalue, rfl⟩, rfl, h.poisoned⟩
    obtain ⟨hswept, hevents⟩ := hwritten.sweep now
    simp only [h.writes]
    split
    · exact ⟨.ok rfl, hswept, .of_eq hevents⟩
    · exact ⟨.ok rfl, hwritten, .refl _ _⟩

theorem storeIfAbsent (h : m.Recoded codes m') (now : Nat) (key : String) {value value' : String}
    (hvalue : codes value value') (lifetime : Nat) :
    (m.storeIfAbsent now key value lifetime).Akin (likeness codes) (StoreOutcome.Akin codes)
      (m'.storeIfAbsent now key value' lifetime) := by
  obtain ⟨hentry, hstate, hevents⟩ := h.liveEntry now key
  refine h.locked ?_
  dsimp only
  generalize (m.liveEntry now key).1 = o at hentry ⊢
  generalize (m'.liveEntry now key).1 = o' at hentry ⊢
  cases hentry with
  | some he => exact ⟨.ok (.existing he.value), hstate, .of_eq hevents⟩
  | none =>
    obtain ⟨houtcome, hinserted, hmore⟩ := hstate.insert now key hvalue lifetime
    exact ⟨houtcome.map fun _ _ _ => .inserted, hinserted,
      Likeness.Logged.append (.of_eq hevents) hmore⟩

theorem lookup (h : m.Recoded codes m') (now : Nat) (key : String) :
    (Memory.lookup now key m).Akin (likeness codes) (Option.Rel codes)
      (Memory.lookup now key m') := by
  refine h.withLiveEntry now key fun o o' ho => ?_
  cases ho with
  | none => exact .none
  | some he => exact .some he.value

theorem contains (h : m.Recoded codes m') (now : Nat) (key : String) :
    (Memory.contains now key m).Akin (likeness codes) Eq (Memory.contains now key m') := by
  refine h.withLiveEntry now key fun o o' ho => ?_
  cases ho <;> rfl

theorem timeLeft (h : m.Recoded codes m') (now : Nat) (key : String) :
    (Memory.timeLeft now key m).Akin (likeness codes) Eq (Memory.timeLeft now key m') := by
  refine h.withLiveEntry now key fun o o' ho => ?_
  cases ho with
  | none => rfl
  | some he => simp only [Option.map_some, he.expiresAt]

theorem store (h : m.Recoded codes m') (now : Nat) (key : String) {value value' : String}
    (hvalue : codes value value') (lifetime : Nat) :
    (Memory.store now key value lifetime m).Akin (likeness codes) Eq
      (Memory.store now key value' lifetime m') :=
  h.locked (h.insert now key hvalue lifetime)

end Recoded

end Memory

end MailCode
