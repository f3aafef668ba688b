import MailCode.Proofs.Cache.Poisoning
import MailCode.Proofs.Rehearsal.Reuse
import MailCode.Proofs.Rehearsal.Together
/-!
# Requests over a poisoned cache

A poisoned cache stays poisoned whatever is done next, and everything that asks it is refused. A
request that begins then fails closed: it looks its code up, takes the error for an answer, and
neither the generator nor the provider hears of it. That holds of a request on its own
(`issue_of_poisoned`) and of one that takes turns with others (`turns_of_poisoned`).
-/

namespace MailCode.Rehearsal

open Issuance World

/-- A request for an address comes to nothing but a lookup that is refused. -/
structure Refuses (settings : IssuingSettings) (email : String) (w : World Memory) : Prop where
  answer : (issue cast settings email w).stage = .done ⟨email, .cacheError⟩
  said : dialogue cast settings email w =
    [.lookup (CodeKey.ofAddress email) (.error Memory.poisonedError)]

/-- Where a request stands that began over a poisoned cache, by the number of its turns. -/
def refusedStage (email : String) : Nat → Stage
  | 0 => .start
  | 1 => .lookedUp (.error Memory.poisonedError)
  | _ + 2 => .done ⟨email, .cacheError⟩

variable {settings : IssuingSettings} {email : String} {w : World Memory}
  {crowd : Crowd (World Memory)}

/-! ## One request -/

theorem lookup_of_poisoned (h : w.cache.poisoned = true) (hfault : w.faults.lookup = none)
    (key : String) : cast.lookup key w = ⟨.error Memory.poisonedError, w, []⟩ := by
  have hcast : cast.lookup key w =
      w.askCache w.faults.lookup fun m => m.withLiveEntry w.now key _ := rfl
  rw [hcast, hfault, askCache_none, Memory.withLiveEntry, Memory.locked_of_poisoned h]
  rfl

theorem issue_of_poisoned (h : w.cache.poisoned = true) (hfault : w.faults.lookup = none)
    (hne : email ≠ "") (settings : IssuingSettings) : Refuses settings email w := by
  have hcourse : Course cast settings email w _ _ :=
    .lookupFailed hne (lookup_of_poisoned h hfault (CodeKey.ofAddress email)) rfl
  exact ⟨congrArg Progress.stage hcourse.eq_issue, hcourse.eq_dialogue⟩

/-! ## The lock is not mended -/

/-- An issuance writes nothing that could poison the lock, and mends nothing. -/
theorem turn_poisoned (settings : IssuingSettings) (crowd : Crowd (World Memory)) (place : Nat) :
    (Move.play settings crowd (.turn place)).state.cache.poisoned = crowd.state.cache.poisoned := by
  cases htask : crowd.tasks[place]? with
  | none => rw [play_turn_of_none htask]
  | some task =>
    rw [state_play_turn htask]
    obtain ⟨live, hbecomes⟩ := (Turn.turned_of settings crowd place task).becomes
    exact hbecomes.poisoned

theorem turns_poisoned (settings : IssuingSettings) (places : List Nat)
    (crowd : Crowd (World Memory)) :
    (play settings (places.map .turn) crowd).state.cache.poisoned = crowd.state.cache.poisoned := by
  induction places generalizing crowd with
  | nil => rfl
  | cons place places ih =>
    rw [List.map_cons, play_cons, ih, turn_poisoned]

/-- Whatever is done, a poisoned cache is poisoned afterwards. -/
theorem perform_poisoned (h : w.cache.poisoned = true) (settings : IssuingSettings)
    (action : Action) : (perform settings action w).world.cache.poisoned = true := by
  cases action with
  | issue email =>
    rcases issue_writes settings email w with ⟨code, -, hbecomes⟩ | ⟨-, hquiet⟩
    · exact hbecomes.poisoned.trans h
    · exact hquiet.poisoned.trans h
  | issueTogether emails points =>
    obtain ⟨⟨places, hplaces⟩, -⟩ :=
      together_eq_play settings (givesWay points settings.strategy w.faults) emails w
    simp only [perform, hplaces, turns_poisoned]
    exact h
  | hasLiveCode email =>
    exact (quiet_ask w.faults.contains w (CodeKey.ofAddress email) _).poisoned.trans h
  | codeTimeLeft email =>
    exact (quiet_ask w.faults.timeLeft w (CodeKey.ofAddress email) _).poisoned.trans h
  | cacheHealthy => exact (quiet_cacheHealthy w).poisoned.trans h
  | rig change => exact h
  | setMailboxFailing failing => exact h
  | resetMailbox => exact h
  | wait duration => exact h
  | direct action =>
    simp only [perform, Memory.perform_of_poisoned h]
    exact h

theorem move_poisoned (h : crowd.state.cache.poisoned = true) (settings : IssuingSettings)
    (move : Move) : (move.play settings crowd).state.cache.poisoned = true := by
  cases move with
  | turn place => rw [turn_poisoned, h]
  | meanwhile action => exact perform_poisoned h settings action

theorem play_poisoned (h : crowd.state.cache.poisoned = true) (settings : IssuingSettings)
    (moves : List Move) : (play settings moves crowd).state.cache.poisoned = true := by
  induction moves generalizing crowd with
  | nil => exact h
  | cons move moves ih => exact ih (move_poisoned h settings move)

/-! ## Requests that take turns -/

/-- One more turn of a request that is being refused. -/
theorem step_refusedStage (h : w.cache.poisoned = true) (hne : email ≠ "") {n : Nat}
    (hreach : n = 0 → w.faults.lookup = none) (settings : IssuingSettings) :
    (step cast settings email (refusedStage email n) w).stage = refusedStage email (n + 1) ∧
      ∀ call ∈ (step cast settings email (refusedStage email n) w).calls,
        call = .lookup (CodeKey.ofAddress email) := by
  rcases n with _ | _ | n
  · have hlookup := lookup_of_poisoned h (hreach rfl) (CodeKey.ofAddress email)
    simp [refusedStage, step, lookUp, hne, hlookup]
  · exact ⟨rfl, by simp [refusedStage, step, afterLookup, fail]⟩
  · exact ⟨rfl, by simp [refusedStage, step]⟩

/-- A request that begins over a poisoned cache is refused in its turns, whoever else has turns
and whatever happens meanwhile. -/
theorem turns_of_poisoned (hne : email ≠ "") {place : Nat} (moves : List Move)
    (crowd : Crowd (World Memory)) {n : Nat} (h : crowd.state.cache.poisoned = true)
    (htask : crowd.tasks[place]? = some ⟨email, refusedStage email n⟩)
    (hreach : ∀ t ∈ history settings moves crowd, t.place = place → t.task.stage = .start →
      t.world.faults.lookup = none) :
    let own := (history settings moves crowd).filter (·.place = place)
    (play settings moves crowd).tasks[place]? = some ⟨email, refusedStage email (n + own.length)⟩ ∧
      ∀ t ∈ own, ∀ call ∈ t.progress.calls, call = .lookup (CodeKey.ofAddress email) := by
  induction moves, crowd using schedule_induction settings generalizing n with
  | nil crowd => exact ⟨htask, by simp [history]⟩
  | meanwhile action moves crowd ih =>
    exact ih (move_poisoned h settings (.meanwhile action)) htask hreach
  | vacant place' moves crowd hvacant ih =>
    rw [history_turn_of_none hvacant] at hreach ⊢
    rw [play_cons, play_turn_of_none hvacant]
    exact ih h htask hreach
  | turn place' task moves crowd hplace ih =>
    rw [history_turn_of_some hplace] at hreach ⊢
    have hnext := move_poisoned h settings (.turn place')
    have hlater := fun t ht => hreach t (List.mem_cons_of_mem _ ht)
    rw [play_cons]
    by_cases hp : place' = place
    · -- Its own turn: one step of the refusal.
      subst hp
      obtain rfl := Option.some.inj (hplace.symm.trans htask)
      have hstart : n = 0 → crowd.state.faults.lookup = none := by
        rintro rfl
        exact hreach _ List.mem_cons_self rfl rfl
      obtain ⟨hstage, hcalls⟩ := step_refusedStage h hne hstart settings
      have htask' := task_play_turn settings hplace
      simp only [Turn.of, hstage] at htask'
      obtain ⟨hend, hrest⟩ := ih hnext htask' hlater
      rw [List.filter_cons_of_pos (by simp [Turn.of])]
      refine ⟨?_, fun t ht => ?_⟩
      · rw [hend, List.length_cons, Nat.add_assoc, Nat.add_comm 1]
      · rcases List.mem_cons.1 ht with rfl | ht
        · exact hcalls
        · exact hrest t ht
    · have hstill := (tasks_play_turn_of_ne settings crowd (Ne.symm hp)).trans htask
      rw [List.filter_cons_of_neg (by simp [Turn.of, hp])]
      exact ih hnext hstill hlater

/-! ## From a panic on -/

/-- An operation panics just if it comes to write, under a sound lock, with a lifetime of `2 ^ 63`
seconds or more; a live key keeps `storeIfAbsent` from writing. From then on the cache refuses
everything but the question how it is, and so do the requests that begin later: one on its own, and
one that takes turns with others. A lookup that a fault answers does not reach the cache. -/
theorem poisoning_final (now : Nat) (m : Memory) (action : Memory.Action) :
    let reply := Memory.perform now action m
    (reply.outcome.isPanic ↔ m.poisoned = false ∧
      ∃ lifetime, action.inserts? now m = some lifetime ∧ 0x8000000000000000 ≤ lifetime) ∧
    (∀ key value lifetime e, action = .storeIfAbsent key value lifetime → m.poisoned = false →
      m.live? now key = some e → reply.outcome = .ok (.stored (.existing e.value))) ∧
    (reply.outcome.isPanic →
      (∀ steps later, ∀ told ∈ (Memory.run Memory.perform steps later reply.state).transcript,
        told.2 = Memory.refusal told.1) ∧
      ∀ settings moves crowd, crowd.state.cache = reply.state →
        let after := play settings moves crowd
        (∀ later action,
          (Memory.perform later action after.state.cache).outcome = Memory.refusal action) ∧
        (∀ email, email ≠ "" → after.state.faults.lookup = none →
          Refuses settings email after.state) ∧
        ∀ place email, email ≠ "" → crowd.tasks[place]? = some ⟨email, .start⟩ →
          (∀ t ∈ history settings moves crowd, t.place = place → t.task.stage = .start →
            t.world.faults.lookup = none) →
          let own := (history settings moves crowd).filter (·.place = place)
          after.tasks[place]? = some ⟨email, refusedStage email own.length⟩ ∧
            ∀ t ∈ own, ∀ call ∈ t.progress.calls, call = .lookup (CodeKey.ofAddress email)) := by
  intro reply
  refine ⟨Memory.perform_isPanic_iff, ?_, fun hpanic => ?_⟩
  · rintro key value lifetime e rfl hsound hlive
    exact congrArg (Outcome.map _) (Memory.storeIfAbsent_of_live hsound hlive value lifetime).1
  · have hpoisoned : reply.state.poisoned = true := Memory.poisoned_of_isPanic hpanic
    refine ⟨fun steps later => (Memory.run_of_poisoned hpoisoned steps later).2, ?_⟩
    intro settings moves crowd hcache after
    have hbefore : crowd.state.cache.poisoned = true := by rw [hcache, hpoisoned]
    have hafter : after.state.cache.poisoned = true := play_poisoned hbefore settings moves
    refine ⟨fun later action => ?_, fun email hne hreach => ?_, ?_⟩
    · rw [Memory.perform_of_poisoned hafter]
    · exact issue_of_poisoned hafter hreach hne settings
    · intro place email hne htask hreach own
      obtain ⟨hstage, hcalls⟩ := turns_of_poisoned (n := 0) hne moves crowd hbefore htask hreach
      rw [Nat.zero_add] at hstage
      exact ⟨hstage, hcalls⟩

/-- A code that should live for ever is stored behind the service's back, and a request for
another address is refused in the two turns that follow. -/
theorem request_refused_after_overflow :
    let action : Memory.Action := .store "k" "v" 0x8000000000000000
    let reply := Memory.perform 0 action .empty
    let settings : IssuingSettings := ⟨.setIfAbsent, .bestEffort⟩
    let crowd := Crowd.gather ["a"] (World.fresh reply.state (fun _ => "1234") fun _ => "id")
    let after := play settings [.turn 0, .meanwhile (.wait 1000), .turn 0] crowd
    reply.outcome.isPanic ∧
      (Memory.perform 1000 .size after.state.cache).outcome =
        .error ⟨"memory cache lock poisoned"⟩ ∧
      Refuses settings "b" after.state ∧
      after.tasks[0]? = some ⟨"a", .done ⟨"a", .cacheError⟩⟩ ∧
      after.calls = [.lookup (CodeKey.ofAddress "a")] := by
  intro action reply settings crowd after
  have hpanic : reply.outcome.isPanic := by decide
  obtain ⟨hdirect, halone, hturns⟩ := (poisoning_final 0 .empty action).2.2 hpanic |>.2 settings
    [.turn 0, .meanwhile (.wait 1000), .turn 0] crowd rfl
  refine ⟨hpanic, hdirect 1000 .size, halone "b" (by decide) rfl, ?_, by decide +kernel⟩
  exact (hturns 0 "a" (by decide) rfl (by decide +kernel)).1

end MailCode.Rehearsal
