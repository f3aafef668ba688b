import MailCode.Proofs.Cache.View
import MailCode.Proofs.Issuance.Verdict
/-!
# A poisoned cache

Only a write can panic, and only for a lifetime that no clock can count; `perform_isPanic_iff` says
exactly when. The lock is poisoned then, and there is nothing that would mend it: from a poisoned
cache every operation that takes the lock is refused and changes nothing (`perform_of_poisoned`), so
a run of them goes on like that to its end (`run_of_poisoned`).
-/

namespace MailCode.Memory

/-- The lifetime that an operation comes to write with: a write only where there is nothing live
does not come to write if there is. -/
def Action.inserts? (now : Nat) (m : Memory) : Action → Option Nat
  | .store _ _ lifetime => some lifetime
  | .storeIfAbsent key _ lifetime =>
    match m.live? now key with
    | some _ => none
    | none => some lifetime
  | _ => none

/-- What a poisoned cache answers: it is well as ever, and otherwise refuses. -/
def refusal : Action → Outcome CacheError Result
  | .healthy => .ok (.flag true)
  | _ => .error ⟨"memory cache lock poisoned"⟩

variable {now : Nat} {m : Memory} {action : Action}

/-! ## What a poisoned cache does -/

theorem perform_of_poisoned (h : m.poisoned = true) (now : Nat) (action : Action) :
    perform now action m = ⟨refusal action, m, []⟩ := by
  cases action with
  | lookup key | contains key | timeLeft key =>
    simp only [perform, lookup, contains, timeLeft, withLiveEntry, locked_of_poisoned h]
    rfl
  | store key value lifetime | storeIfAbsent key value lifetime =>
    simp only [perform, store, storeIfAbsent, locked_of_poisoned h]
    rfl
  | size | isEmpty | held | purge =>
    simp only [perform, isEmpty, size, held, purge, locked_of_poisoned h]
    rfl
  | healthy => rfl

theorem run_of_poisoned (h : m.poisoned = true) (steps : List Step) (now : Nat) :
    (run perform steps now m).state = m ∧
      ∀ told ∈ (run perform steps now m).transcript, told.2 = refusal told.1 := by
  induction steps generalizing now with
  | nil => exact ⟨rfl, by simp [run]⟩
  | cons step steps ih =>
    cases step with
    | wait duration => exact ih (now + duration)
    | act action =>
      obtain ⟨hstate, htold⟩ := ih now
      rw [run, perform_of_poisoned h]
      refine ⟨hstate, fun told hmem => ?_⟩
      rcases List.mem_cons.1 hmem with rfl | hmem
      · rfl
      · exact htold told hmem

/-! ## How a cache comes to be poisoned -/

/-- A write panics just if its lifetime cannot be counted, and then poisons the lock. -/
theorem insert_isPanic (now : Nat) (key value : String) (lifetime : Nat) (m : Memory) :
    (m.insert now key value lifetime).outcome.isPanic = decide (lifetimeLimit ≤ lifetime) ∧
      (m.insert now key value lifetime).state.poisoned =
        (m.poisoned || decide (lifetimeLimit ≤ lifetime)) := by
  by_cases hl : lifetimeLimit ≤ lifetime
  · rw [insert_of_overflow hl]
    simp [hl, Outcome.isPanic]
  · obtain ⟨hok, -, hsound⟩ := insert_spec (Nat.lt_of_not_le hl) now key value m
    rw [hok, hsound]
    simp [hl, Outcome.isPanic]

/-- Where the lock is sound, an operation panics just if it comes to write with a lifetime that
cannot be counted, and that is what poisons the lock. -/
theorem perform_of_sound (h : m.poisoned = false) (now : Nat) (action : Action) :
    (perform now action m).outcome.isPanic =
        (action.inserts? now m).any (fun lifetime => lifetimeLimit ≤ lifetime) ∧
      (perform now action m).state.poisoned = (perform now action m).outcome.isPanic := by
  cases action with
  | lookup key | contains key | timeLeft key =>
    simp only [perform, lookup, contains, timeLeft, Reply.map, Outcome.isPanic_map,
      withLiveEntry_outcome h, poisoned_withLiveEntry, h]
    exact ⟨rfl, rfl⟩
  | store key value lifetime =>
    obtain ⟨hpanic, hpoisoned⟩ := insert_isPanic now key value lifetime m
    simp only [perform, store, locked_of_sound h, Reply.map, Outcome.isPanic_map, hpanic, hpoisoned,
      h, Bool.false_or]
    exact ⟨rfl, trivial⟩
  | storeIfAbsent key value lifetime =>
    simp only [perform, Reply.map, Outcome.isPanic_map, Action.inserts?]
    cases hlive : m.live? now key with
    | some e =>
      obtain ⟨hok, -, hsound⟩ := storeIfAbsent_of_live h hlive value lifetime
      rw [hok, hsound]
      exact ⟨rfl, rfl⟩
    | none =>
      -- The dead entry that may have been there is gone, and the rest is as for any write.
      obtain ⟨hentry, -, hsound, -⟩ := liveEntry_spec now key m
      obtain ⟨hpanic, hpoisoned⟩ := insert_isPanic now key value lifetime (m.liveEntry now key).2.1
      rw [storeIfAbsent, locked_of_sound h]
      dsimp only
      rw [hentry, hlive]
      simp only [Outcome.isPanic_map, hpanic, hpoisoned, hsound, h, Bool.false_or]
      exact ⟨rfl, trivial⟩
  | size | isEmpty | held | purge =>
    simp only [perform, isEmpty, size, held, purge, locked_of_sound h]
    exact ⟨rfl, h⟩
  | healthy => exact ⟨rfl, h⟩

theorem perform_isPanic_iff :
    (perform now action m).outcome.isPanic ↔
      m.poisoned = false ∧
        ∃ lifetime, action.inserts? now m = some lifetime ∧ 0x8000000000000000 ≤ lifetime := by
  cases h : m.poisoned with
  | true =>
    rw [perform_of_poisoned h]
    cases action <;> simp [refusal, Outcome.isPanic]
  | false =>
    rw [(perform_of_sound h now action).1]
    simp only [Option.any_eq_true, decide_eq_true_eq, true_and]
    rfl

/-- A panic leaves the lock poisoned. -/
theorem poisoned_of_isPanic (h : (perform now action m).outcome.isPanic) :
    (perform now action m).state.poisoned = true := by
  have hsound := (perform_isPanic_iff.1 h).1
  rw [(perform_of_sound hsound now action).2]
  exact h

end MailCode.Memory
