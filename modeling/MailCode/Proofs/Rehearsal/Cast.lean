import MailCode.Proofs.Cache.View
import MailCode.Proofs.Issuance.Course
import MailCode.Rehearsal.Action
/-!
# What the collaborators of a rehearsal do to the world

Seen from outside, a world is the live entries of its cache, the moment, and the faults that are
set. A question changes nothing of that, and neither do the generator and the mailbox; a write
changes one entry. `Wrote` sums up what can come of writing a code, for either strategy.
-/

namespace MailCode.Rehearsal

variable {w w' w₁ w₂ : World Memory} {email : String}

namespace World

/-- The live entry that holds the code for an address. -/
def record? (w : World Memory) (email : String) : Option Entry :=
  w.cache.live? w.now (CodeKey.ofAddress email)

/-- The world has come to hold some live entries, at the same moment and under the same faults. -/
structure Becomes (w w' : World Memory) (live : String → Option Entry) : Prop where
  now : w'.now = w.now
  faults : w'.faults = w.faults
  poisoned : w'.cache.poisoned = w.cache.poisoned
  live : w'.cache.live? w.now = live

/-- Nothing has happened that could be seen from outside. -/
def Quiet (w w' : World Memory) : Prop :=
  w.Becomes w' (w.cache.live? w.now)

theorem Quiet.refl (w : World Memory) : w.Quiet w :=
  ⟨rfl, rfl, rfl, rfl⟩

theorem Quiet.becomes {live : String → Option Entry} (h : w.Quiet w₁) (h' : w₁.Becomes w₂ live) :
    w.Becomes w₂ live :=
  ⟨h'.now.trans h.now, h'.faults.trans h.faults, h'.poisoned.trans h.poisoned, h.now ▸ h'.live⟩

theorem Becomes.quiet {live : String → Option Entry} (h : w.Becomes w₁ live) (h' : w₁.Quiet w₂) :
    w.Becomes w₂ live := by
  refine ⟨h'.now.trans h.now, h'.faults.trans h.faults, h'.poisoned.trans h.poisoned, ?_⟩
  have hlive := h'.live
  rw [h.now, h.live] at hlive
  exact hlive

theorem Quiet.trans (h : w.Quiet w₁) (h' : w₁.Quiet w₂) : w.Quiet w₂ :=
  Becomes.quiet h h'

theorem Becomes.record?_eq {live : String → Option Entry} (h : w.Becomes w' live)
    (email : String) : w'.record? email = live (CodeKey.ofAddress email) := by
  rw [record?, h.now, h.live]

theorem Quiet.record?_eq (h : w.Quiet w') (email : String) : w'.record? email = w.record? email :=
  Becomes.record?_eq h email

/-! ## Questions -/

theorem askCache_none {α : Type} (w : World Memory) (ask : Memory → Reply Memory CacheError α) :
    w.askCache none ask = (ask w.cache).mapState fun cache => { w with cache } := rfl

/-- Asking the cache changes nothing else. -/
theorem askCache_state {α : Type} (fault : Option (Fault CacheError)) (w : World Memory)
    (ask : Memory → Reply Memory CacheError α) :
    ∃ cache, (w.askCache fault ask).state = { w with cache } := by
  cases fault with
  | some f => exact ⟨w.cache, rfl⟩
  | none => exact ⟨_, rfl⟩

section
variable {α : Type} (fault : Option (Fault CacheError)) (w : World Memory) (key : String)
  (read : Option Entry → α)

theorem quiet_ask :
    w.Quiet (w.askCache fault fun m => m.withLiveEntry w.now key read).state := by
  cases fault with
  | some f => exact .refl w
  | none =>
    exact ⟨rfl, rfl, Memory.poisoned_withLiveEntry w.now w.cache key read,
      Memory.live?_withLiveEntry w.now w.cache key read⟩

/-- Only an answer can tell anything, and it tells what is live. -/
theorem eq_of_ask {a : α}
    (h : (w.askCache fault fun m => m.withLiveEntry w.now key read).outcome = .ok a) :
    a = read (w.cache.live? w.now key) := by
  cases fault with
  | some f => cases f <;> cases h
  | none =>
    cases hm : w.cache.poisoned with
    | true =>
      rw [askCache_none, Memory.withLiveEntry, Memory.locked_of_poisoned hm] at h
      cases h
    | false =>
      have ho : (w.cache.withLiveEntry w.now key read).outcome = .ok a := h
      rw [Memory.withLiveEntry_outcome hm] at ho
      cases ho
      rfl

theorem ask_outcome (hsound : w.cache.poisoned = false) (hfault : fault = none) :
    (w.askCache fault fun m => m.withLiveEntry w.now key read).outcome =
      .ok (read (w.cache.live? w.now key)) := by
  subst hfault
  exact Memory.withLiveEntry_outcome hsound key read

end

end World

open World

theorem quiet_lookup (w : World Memory) (key : String) : w.Quiet (cast.lookup key w).state :=
  quiet_ask w.faults.lookup w key _

/-- A code that is found is live. -/
theorem eq_of_lookup {found : Option String}
    (h : (cast.lookup (CodeKey.ofAddress email) w).outcome = .ok found) :
    found = (w.record? email).map Entry.value :=
  eq_of_ask w.faults.lookup w _ _ h

theorem lookup_outcome (hsound : w.cache.poisoned = false) (hfault : w.faults.lookup = none)
    (email : String) :
    (cast.lookup (CodeKey.ofAddress email) w).outcome = .ok ((w.record? email).map Entry.value) :=
  ask_outcome w.faults.lookup w _ _ hsound hfault

theorem contains_outcome (hsound : w.cache.poisoned = false) (hfault : w.faults.contains = none)
    (email : String) :
    (cast.contains (CodeKey.ofAddress email) w).outcome = .ok (w.record? email).isSome :=
  ask_outcome w.faults.contains w _ _ hsound hfault

theorem timeLeft_outcome (hsound : w.cache.poisoned = false) (hfault : w.faults.timeLeft = none)
    (email : String) :
    (cast.timeLeft (CodeKey.ofAddress email) w).outcome =
      .ok ((w.record? email).map fun e => (e.expiresAt - w.now) / 1000) :=
  ask_outcome w.faults.timeLeft w _ _ hsound hfault

/-- A lookup leaves the mailbox and the supply of codes as they are. -/
theorem lookup_state (key : String) (w : World Memory) :
    ∃ cache, (cast.lookup key w).state = { w with cache } :=
  askCache_state w.faults.lookup w (Memory.gateway.lookup w.now key)

theorem quiet_cacheHealthy (w : World Memory) : w.Quiet (Issuance.cacheHealthy cast w).state := by
  have hquiet : w.Quiet (cast.healthy w).state := by
    have hcast : cast.healthy w = w.askHealth Memory.gateway := rfl
    rw [hcast, askHealth]
    split <;> exact .refl w
  unfold Issuance.cacheHealthy
  dsimp only
  split <;> exact hquiet

/-! ## The generator and the mailbox -/

theorem cast_generate (w : World Memory) : cast.generate w = w.drawCode := rfl

theorem cast_send (mail : Mail) (w : World Memory) : cast.send mail w = w.sendMail mail := rfl

theorem quiet_generate (w : World Memory) : w.Quiet (cast.generate w).state := by
  rw [cast_generate, drawCode]
  split <;> exact ⟨rfl, rfl, rfl, rfl⟩

theorem generate_outcome (hfault : w.faults.generate = none) :
    (cast.generate w).outcome = .ok (w.codes w.drawn) := by
  rw [cast_generate, drawCode, hfault]

theorem quiet_send (w : World Memory) (mail : Mail) : w.Quiet (cast.send mail w).state := by
  rw [cast_send, sendMail]
  split <;> exact ⟨rfl, rfl, rfl, rfl⟩

/-! ## Writing a code -/

/-- The live entries once a code has been written for an address. -/
def World.withCode (w : World Memory) (email code : String) : String → Option Entry :=
  Function.update (w.cache.live? w.now) (CodeKey.ofAddress email)
    (some ⟨code, w.now + codeLifetime * 1000⟩)

theorem World.Quiet.withCode_eq (h : w.Quiet w') (email code : String) :
    w'.withCode email code = w.withCode email code := by
  have hlive := h.live
  rw [withCode, withCode, h.now, hlive]

/-- A code that is written concerns nobody but its own address. -/
theorem World.Becomes.record?_withCode {code : String} (h : w.Becomes w' (w.withCode email code))
    (email' : String) :
    w'.record? email' =
      if email' = email then some ⟨code, w.now + codeLifetime * 1000⟩ else w.record? email' := by
  rw [h.record?_eq, withCode, Function.update_apply]
  simp only [CodeKey.ofAddress_inj, record?]

theorem fresh?_codeLifetime (now : Nat) (code : String) :
    Memory.fresh? now code codeLifetime = some ⟨code, now + codeLifetime * 1000⟩ := by
  have hlive : (⟨code, now + codeLifetime * 1000⟩ : Entry).isLive now := by
    have hlifetime : codeLifetime = 600 := rfl
    simp only [Entry.isLive, decide_eq_true_eq]
    omega
  exact Option.filter_some_pos hlive

/-- What can come of writing a code: it is written, which overwrites a live code only without
`setIfAbsent`; or a live code is found; or nothing at all. -/
inductive Wrote (strategy : Strategy) (email code : String) (w : World Memory) :
    Outcome CacheError StoreOutcome → World Memory → Prop
  | inserted {w' : World Memory} : (strategy = .setIfAbsent → w.record? email = none) →
      w.Becomes w' (w.withCode email code) → Wrote strategy email code w (.ok .inserted) w'
  | existing {entry : Entry} {w' : World Memory} : strategy = .setIfAbsent → w.record? email = some entry →
      w.Quiet w' → Wrote strategy email code w (.ok (.existing entry.value)) w'
  | failed {o : Outcome CacheError StoreOutcome} {w' : World Memory} {e : IssuanceError} :
      o.failure? .cache = some e → w.Quiet w' → Wrote strategy email code w o w'

theorem codeLifetime_lt : codeLifetime < Memory.lifetimeLimit := by decide

theorem insert_code (w : World Memory) (email code : String) :
    let reply := w.cache.insert w.now (CodeKey.ofAddress email) code codeLifetime
    reply.outcome = .ok () ∧
      w.Becomes { w with cache := reply.state } (w.withCode email code) := by
  obtain ⟨ho, hlive, hsound⟩ :=
    Memory.insert_spec codeLifetime_lt w.now (CodeKey.ofAddress email) code w.cache
  rw [fresh?_codeLifetime] at hlive
  exact ⟨ho, rfl, rfl, hsound, hlive⟩

theorem write_checkThenSet (email code : String) (w : World Memory) :
    Issuance.write cast .checkThenSet email code w =
      (w.askCache w.faults.store fun m =>
        m.store w.now (CodeKey.ofAddress email) code codeLifetime).map fun () => .inserted := rfl

theorem write_setIfAbsent (email code : String) (w : World Memory) :
    Issuance.write cast .setIfAbsent email code w =
      w.askCache w.faults.storeIfAbsent fun m =>
        m.storeIfAbsent w.now (CodeKey.ofAddress email) code codeLifetime := rfl

theorem write_state (strategy : Strategy) (email code : String) (w : World Memory) :
    ∃ cache, (Issuance.write cast strategy email code w).state = { w with cache } := by
  cases strategy with
  | checkThenSet =>
    rw [write_checkThenSet, Reply.map]
    exact askCache_state w.faults.store w _
  | setIfAbsent =>
    rw [write_setIfAbsent]
    exact askCache_state w.faults.storeIfAbsent w _

theorem write_wrote (strategy : Strategy) (email code : String) (w : World Memory) :
    Wrote strategy email code w (Issuance.write cast strategy email code w).outcome
      (Issuance.write cast strategy email code w).state := by
  obtain ⟨hinsert, hwritten⟩ := insert_code w email code
  cases strategy with
  | checkThenSet =>
    rw [write_checkThenSet]
    cases w.faults.store with
    | some f => cases f <;> exact .failed rfl (.refl w)
    | none =>
      rw [askCache_none]
      cases hm : w.cache.poisoned with
      | true =>
        rw [Memory.store, Memory.locked_of_poisoned hm]
        exact .failed rfl (.refl w)
      | false =>
        rw [Memory.store, Memory.locked_of_sound hm]
        simp only [Reply.map, Reply.mapState, hinsert, Outcome.map]
        exact .inserted (fun h => by cases h) hwritten
  | setIfAbsent =>
    rw [write_setIfAbsent]
    cases w.faults.storeIfAbsent with
    | some f => cases f <;> exact .failed rfl (.refl w)
    | none =>
      rw [askCache_none]
      cases hm : w.cache.poisoned with
      | true =>
        rw [Memory.storeIfAbsent, Memory.locked_of_poisoned hm]
        exact .failed rfl (.refl w)
      | false =>
        cases hlive : w.cache.live? w.now (CodeKey.ofAddress email) with
        | some entry =>
          obtain ⟨ho, hstate, hsound⟩ := Memory.storeIfAbsent_of_live hm hlive code codeLifetime
          simp only [Reply.mapState, ho]
          exact .existing rfl hlive ⟨rfl, rfl, hsound.trans hm.symm, hstate⟩
        | none =>
          obtain ⟨ho, hstate, hsound⟩ := Memory.storeIfAbsent_of_free hm hlive codeLifetime_lt code
          rw [fresh?_codeLifetime] at hstate
          simp only [Reply.mapState, ho]
          exact .inserted (fun _ => hlive) ⟨rfl, rfl, hsound.trans hm.symm, hstate⟩

/-- A code that nothing stands in the way of is written. -/
theorem write_outcome {strategy : Strategy} (hsound : w.cache.poisoned = false)
    (hfault : w.faults.write strategy = none) (hfree : w.record? email = none) (code : String) :
    (Issuance.write cast strategy email code w).outcome = .ok .inserted := by
  cases strategy with
  | checkThenSet =>
    have hnone : w.faults.store = none := hfault
    rw [write_checkThenSet, hnone, askCache_none, Memory.store, Memory.locked_of_sound hsound]
    simp only [Reply.map, Reply.mapState, (insert_code w email code).1, Outcome.map]
  | setIfAbsent =>
    have hnone : w.faults.storeIfAbsent = none := hfault
    rw [write_setIfAbsent, hnone, askCache_none]
    exact (Memory.storeIfAbsent_of_free hsound hfree codeLifetime_lt code).1

end MailCode.Rehearsal
