import Mathlib.Logic.Function.Basic
import MailCode.Cache.Memory
/-!
# The cache in memory as a map
-/

namespace MailCode.Memory

/-!
## Runs of cache operations

A run is a list of operations with time passing in between. `run` takes it through anything that
carries operations out, the cache in memory or something to compare it with, and keeps a
transcript of the answers.
-/

/-- One step of a run. -/
inductive Step where
  | act (action : Action)
  /-- Time passes, in milliseconds. -/
  | wait (duration : Nat)
  deriving DecidableEq, Repr

/-- The moment and the state that a run ends in, and what each operation answered on the way. -/
structure Run (κ : Type) where
  now : Nat
  state : κ
  transcript : List (Action × Outcome CacheError Result)

section
variable {κ : Type} (perform : Nat → Action → κ → Reply κ CacheError Result)

/-- Takes the steps one after the other. -/
def run : List Step → Nat → κ → Run κ
  | [], now, s => ⟨now, s, []⟩
  | .wait duration :: steps, now, s => run steps (now + duration) s
  | .act action :: steps, now, s =>
    let reply := perform now action s
    let rest := run steps now reply.state
    { rest with transcript := (action, reply.outcome) :: rest.transcript }

end

/-- Whether the clock can count the lifetime that an operation asks for. -/
def Action.isCountable : Action → Bool
  | .store _ _ lifetime | .storeIfAbsent _ _ lifetime => lifetime < lifetimeLimit
  | _ => true

/-- Whether every lifetime that a step asks for can be counted. -/
def Step.isCountable : Step → Bool
  | .act action => action.isCountable
  | .wait _ => true

end MailCode.Memory

namespace MailCode

/-!
## What the cache in memory holds that is live

`Memory.live?` reads a cache as a map from keys to live entries. Every operation is summed up by
what it answers and by what it does to that map, so that nobody needs to know when dead entries
are dropped. `live?_later` moves the map to a later moment.
-/

theorem Entry.isLive_of_le {now later : Nat} {e : Entry} (hle : now ≤ later) (h : e.isLive later) :
    e.isLive now := by
  simp only [Entry.isLive, decide_eq_true_eq] at h ⊢
  omega

/-- What is live later is live now. -/
theorem Entry.filter_isLive_later {now later : Nat} (hle : now ≤ later) (o : Option Entry) :
    (o.filter (·.isLive now)).filter (·.isLive later) = o.filter (·.isLive later) := by
  rw [Option.filter_filter]
  congr 1
  funext e
  by_cases h : e.isLive later
  · simp [h, Entry.isLive_of_le hle h]
  · simp [h]

/-- Every address has a key of its own. -/
theorem CodeKey.ofAddress_inj {address address' : String} :
    ofAddress address = ofAddress address' ↔ address = address' := by
  simp [ofAddress, String.ext_iff]

namespace Entries

/-! ### Entries by their keys -/

theorem lookup_cons_of_ne {α : Type} {key k : String} (h : key ≠ k) (a : α) (l : List (String × α)) :
    ((k, a) :: l).lookup key = l.lookup key := by
  have hb : (key == k) = false := beq_eq_false_iff_ne.2 h
  rw [List.lookup_cons, hb]

/-- Among distinct keys a filter keeps what a key holds, or drops it. -/
theorem lookup_filter {α : Type} (keep : String × α → Bool) (key : String) :
    ∀ l : List (String × α), (l.map (·.1)).Nodup →
      (l.filter keep).lookup key = (l.lookup key).filter fun a => keep (key, a)
  | [], _ => rfl
  | (k, a) :: l, hd => by
    obtain ⟨hk, hd⟩ := List.nodup_cons.1 hd
    have ih := lookup_filter keep key l hd
    by_cases he : key = k
    · subst he
      have hnone : l.lookup key = none := List.lookup_eq_none_iff.2 fun p hp =>
        bne_iff_ne.2 fun he => hk (List.mem_map.2 ⟨p, hp, he.symm⟩)
      rw [List.lookup_cons_self, List.filter_cons, Option.filter_some]
      split
      · exact List.lookup_cons_self
      · rw [ih, hnone]
        rfl
    · rw [lookup_cons_of_ne he, List.filter_cons]
      split
      · rw [lookup_cons_of_ne he, ih]
      · exact ih

theorem get?_filter (keep : String × Entry → Bool) (es : Entries) (key : String) :
    (es.filter keep).get? key = (es.get? key).filter fun e => keep (key, e) :=
  lookup_filter keep key es.toList es.distinct

theorem get?_erase (es : Entries) (key k : String) :
    (es.erase key).get? k = if k = key then none else es.get? k := by
  rw [erase, get?_filter]
  by_cases hk : k = key <;> cases es.get? k <;> simp [hk]

theorem get?_insert (es : Entries) (key k : String) (e : Entry) :
    (es.insert key e).get? k = if k = key then some e else es.get? k := by
  by_cases hk : k = key
  · rw [if_pos hk, hk]
    exact List.lookup_cons_self
  · have herase := get?_erase es key k
    rw [if_neg hk] at herase ⊢
    rw [← herase]
    exact lookup_cons_of_ne hk e _

end Entries

namespace Memory

variable {now : Nat}

/-! ### The live entries -/

/-- The entry under a key, if it is live. -/
def live? (m : Memory) (now : Nat) (key : String) : Option Entry :=
  (m.entries.get? key).filter (·.isLive now)

/-- The entry that a write puts under a key; with a lifetime of 0 it is dead at once. -/
def fresh? (now : Nat) (value : String) (lifetime : Nat) : Option Entry :=
  (some ⟨value, now + lifetime * 1000⟩ : Option Entry).filter (·.isLive now)

theorem isLive_of_live? {m : Memory} {key : String} {e : Entry} (h : m.live? now key = some e) :
    e.isLive now :=
  (Option.filter_eq_some_iff.1 h).2

/-- What is live later is live now, and lives long enough. -/
theorem live?_later {later : Nat} (hle : now ≤ later) (m : Memory) (key : String) :
    m.live? later key = (m.live? now key).filter (·.isLive later) :=
  (Entry.filter_isLive_later hle (m.entries.get? key)).symm

/-! ### Dropping dead entries -/

theorem live?_sweep (now : Nat) (m : Memory) : (m.sweep now).1.live? now = m.live? now := by
  funext key
  simp only [live?, sweep, Entries.get?_filter, Option.filter_filter, Bool.and_self]

/-- Asking for a key finds what it holds that is live, and changes nothing that is live. -/
theorem liveEntry_spec (now : Nat) (key : String) (m : Memory) :
    (m.liveEntry now key).1 = m.live? now key ∧
      (m.liveEntry now key).2.1.live? now = m.live? now ∧
      (m.liveEntry now key).2.1.poisoned = m.poisoned ∧
      (m.liveEntry now key).2.1.writes = m.writes := by
  unfold liveEntry live?
  cases hget : m.entries.get? key with
  | none => exact ⟨rfl, rfl, rfl, rfl⟩
  | some e =>
    by_cases hlive : e.isLive now
    · simp [hlive, Option.filter_some_pos]
    · refine ⟨by simp [hlive, Option.filter_some_neg], ?_, by simp [hlive], by simp [hlive]⟩
      -- The entry that is dropped was dead, so it was not in view before either.
      funext k
      by_cases hk : k = key
      · simp [hlive, hk, hget, Entries.get?_erase, Option.filter_some_neg]
      · simp [hlive, hk, Entries.get?_erase]

/-! ### The operations -/

theorem locked_of_poisoned {α : Type} {m : Memory} (h : m.poisoned = true)
    (operation : Memory → Reply Memory CacheError α) :
    m.locked operation = ⟨.error poisonedError, m, []⟩ := by
  rw [locked, if_pos h]

theorem locked_of_sound {α : Type} {m : Memory} (h : m.poisoned = false)
    (operation : Memory → Reply Memory CacheError α) : m.locked operation = operation m := by
  rw [locked, if_neg (by simp [h])]

/-- A question about a key is answered from what it holds that is live. -/
theorem withLiveEntry_outcome {α : Type} {m : Memory} (h : m.poisoned = false) (key : String)
    (read : Option Entry → α) :
    (m.withLiveEntry now key read).outcome = .ok (read (m.live? now key)) := by
  rw [withLiveEntry, locked_of_sound h, ← (liveEntry_spec now key m).1]

theorem live?_withLiveEntry {α : Type} (now : Nat) (m : Memory) (key : String)
    (read : Option Entry → α) :
    (m.withLiveEntry now key read).state.live? now = m.live? now := by
  cases h : m.poisoned with
  | true => rw [withLiveEntry, locked_of_poisoned h]
  | false =>
    rw [withLiveEntry, locked_of_sound h]
    exact (liveEntry_spec now key m).2.1

@[simp] theorem poisoned_withLiveEntry {α : Type} (now : Nat) (m : Memory) (key : String)
    (read : Option Entry → α) :
    (m.withLiveEntry now key read).state.poisoned = m.poisoned := by
  cases h : m.poisoned with
  | true => rw [withLiveEntry, locked_of_poisoned h, h]
  | false =>
    rw [withLiveEntry, locked_of_sound h, ← h]
    exact (liveEntry_spec now key m).2.2.1

/-- A write that can be counted succeeds and changes what its own key holds, sweep or no sweep. -/
theorem insert_spec {lifetime : Nat} (hl : lifetime < lifetimeLimit) (now : Nat)
    (key value : String) (m : Memory) :
    (m.insert now key value lifetime).outcome = .ok () ∧
      (m.insert now key value lifetime).state.live? now =
        Function.update (m.live? now) key (fresh? now value lifetime) ∧
      (m.insert now key value lifetime).state.poisoned = m.poisoned := by
  have hwritten : ∀ n, live? { m with
      entries := m.entries.insert key ⟨value, now + lifetime * 1000⟩, writes := n } now =
        Function.update (m.live? now) key (fresh? now value lifetime) := by
    intro n
    funext k
    by_cases hk : k = key
    · simp [live?, fresh?, Entries.get?_insert, hk]
    · simp [live?, Entries.get?_insert, hk]
  unfold insert
  rw [if_neg (by omega)]
  dsimp only
  -- Every so many writes a sweep follows, and it shows no more than the count of writes does.
  split
  · exact ⟨rfl, (live?_sweep now _).trans (hwritten _), rfl⟩
  · exact ⟨rfl, hwritten _, rfl⟩

/-- A write that cannot be counted panics and poisons the lock. -/
theorem insert_of_overflow {lifetime : Nat} (hl : lifetimeLimit ≤ lifetime) (now : Nat)
    (key value : String) (m : Memory) :
    m.insert now key value lifetime = ⟨.panic lifetimePanic, { m with poisoned := true }, []⟩ := by
  rw [insert, if_pos hl]

theorem storeIfAbsent_of_live {m : Memory} {key : String} {e : Entry} (h : m.poisoned = false)
    (he : m.live? now key = some e) (value : String) (lifetime : Nat) :
    (m.storeIfAbsent now key value lifetime).outcome = .ok (.existing e.value) ∧
      (m.storeIfAbsent now key value lifetime).state.live? now = m.live? now ∧
      (m.storeIfAbsent now key value lifetime).state.poisoned = false := by
  obtain ⟨h1, h2, h3, -⟩ := liveEntry_spec now key m
  rw [storeIfAbsent, locked_of_sound h]
  dsimp only
  rw [h1, he]
  exact ⟨rfl, h2, h3.trans h⟩

/-- A key that holds nothing live takes the write as if it had never been written. -/
theorem storeIfAbsent_of_free {m : Memory} {key : String} {lifetime : Nat}
    (h : m.poisoned = false) (he : m.live? now key = none) (hl : lifetime < lifetimeLimit)
    (value : String) :
    (m.storeIfAbsent now key value lifetime).outcome = .ok .inserted ∧
      (m.storeIfAbsent now key value lifetime).state.live? now =
        Function.update (m.live? now) key (fresh? now value lifetime) ∧
      (m.storeIfAbsent now key value lifetime).state.poisoned = false := by
  obtain ⟨h1, h2, h3, -⟩ := liveEntry_spec now key m
  obtain ⟨i1, i2, i3⟩ := insert_spec hl now key value (m.liveEntry now key).2.1
  rw [storeIfAbsent, locked_of_sound h]
  dsimp only
  rw [h1, he]
  refine ⟨?_, ?_, i3.trans (h3.trans h)⟩
  · dsimp only
    rw [i1]
    rfl
  · rw [← h2]
    exact i2

/-! ### Keys that an operation does not write -/

/-- The key that an operation writes. -/
def Action.target? : Action → Option String
  | .store key _ _ | .storeIfAbsent key _ _ => some key
  | _ => none

theorem live?_insert_of_ne {key k : String} (hk : k ≠ key) (now : Nat) (value : String)
    (lifetime : Nat) (m : Memory) :
    (m.insert now key value lifetime).state.live? now k = m.live? now k := by
  by_cases hl : lifetime < lifetimeLimit
  · rw [(insert_spec hl now key value m).2.1, Function.update_of_ne hk]
  · rw [insert_of_overflow (by omega)]
    rfl

theorem live?_storeIfAbsent_of_ne {key k : String} (hk : k ≠ key) (now : Nat) (value : String)
    (lifetime : Nat) (m : Memory) :
    (m.storeIfAbsent now key value lifetime).state.live? now k = m.live? now k := by
  cases hm : m.poisoned with
  | true => rw [storeIfAbsent, locked_of_poisoned hm]
  | false =>
    have hentry := congrFun (liveEntry_spec now key m).2.1 k
    rw [storeIfAbsent, locked_of_sound hm]
    dsimp only
    split
    · exact hentry
    · exact (live?_insert_of_ne hk now value lifetime _).trans hentry

/-- An operation changes no live entry but the one under the key that it writes. -/
theorem live?_perform_of_ne {action : Action} {k : String} (hk : action.target? ≠ some k)
    (now : Nat) (m : Memory) : (perform now action m).state.live? now k = m.live? now k := by
  cases action with
  | lookup key | contains key | timeLeft key => exact congrFun (live?_withLiveEntry now m key _) k
  | store key value lifetime =>
    have hne : k ≠ key := fun h => hk (by rw [h]; rfl)
    cases hm : m.poisoned with
    | true => simp only [perform, store, locked_of_poisoned hm, Reply.map]
    | false =>
      simp only [perform, store, locked_of_sound hm, Reply.map]
      exact live?_insert_of_ne hne now value lifetime m
  | storeIfAbsent key value lifetime =>
    exact live?_storeIfAbsent_of_ne (fun h => hk (by rw [h]; rfl)) now value lifetime m
  | size | isEmpty | held =>
    cases hm : m.poisoned with
    | true => simp only [perform, isEmpty, size, held, locked_of_poisoned hm, Reply.map]
    | false => simp only [perform, isEmpty, size, held, locked_of_sound hm, Reply.map]
  | purge =>
    cases hm : m.poisoned with
    | true => simp only [perform, purge, locked_of_poisoned hm, Reply.map]
    | false =>
      simp only [perform, purge, locked_of_sound hm, Reply.map]
      exact congrFun (live?_sweep now m) k
  | healthy => rfl

end Memory

end MailCode
