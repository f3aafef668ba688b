import Mathlib.Data.List.Basic
import MailCode.Proofs.Issuance.Verdict
import MailCode.Proofs.Rehearsal.Schedule
/-!
# Answers do not depend on the order of the turns

Which issuance finds a code and which one writes it depends on who has a turn first, and so does
the code that is mailed. What is answered does not. `ahead` foretells it from the stage that an
issuance has come to and from the world: no step of the issuance itself makes it come out
differently (`ahead_step`), and neither does a step of another one, since the worlds before and
after are `Alike`. The one thing by which steps of others can be felt is whether an address has a
live code, and where anybody can write one it makes no difference to the answer whether there is
one already.
-/

namespace MailCode.Rehearsal

open Issuance World

/-! ## What will be answered -/

/-- What the answer says once a mail has been handed over. -/
def mailing (policy : DeliveryPolicy) (w : World Memory) : ErrorCode :=
  match w.faults.send with
  | some fault => sentCode policy fault.outcome
  | none => if w.mailbox.failing && policy == .strict then .deliveryError else .success

/-- What the answer says if the cache does not do what it is asked, under a fault that may be
set. -/
def obstacle (fault : Option (Fault CacheError)) (w : World Memory) : Option ErrorCode :=
  match fault with
  | some (.error _) => some .cacheError
  | some (.panic _) => some .exception
  | none => if w.cache.poisoned then some .cacheError else none

/-- What the answer says of an issuance that found no live code. -/
def creating (settings : IssuingSettings) (w : World Memory) : ErrorCode :=
  match w.faults.generate with
  | some (.error _) | some (.panic _) => .exception
  | some (.ok _) | none =>
    (obstacle (w.faults.write settings.strategy) w).getD (mailing settings.policy w)

/-- What an issuance for an address will answer that has come to a stage. -/
def ahead (settings : IssuingSettings) (email : String) (w : World Memory) : Stage → Answer
  | .start =>
    ⟨email,
      if email = "" then .exception
      else (obstacle w.faults.lookup w).getD
        (if (w.record? email).isSome then mailing settings.policy w else creating settings w)⟩
  | .lookedUp (.ok none) => ⟨email, creating settings w⟩
  | .lookedUp (.ok (some _)) | .written _ (.ok _) | .handedOver _ =>
    ⟨email, mailing settings.policy w⟩
  | .lookedUp (.error _) | .written _ (.error _) => ⟨email, .cacheError⟩
  | .done answer => answer

variable {settings : IssuingSettings} {email : String} {w w' w'' : World Memory}

theorem deliver_ahead (policy : DeliveryPolicy) (email code : String) (w : World Memory) :
    (deliver cast policy email code w).stage = .done ⟨email, mailing policy w⟩ := by
  rw [deliver_answer, cast_send, sendMail, mailing]
  cases w.faults.send with
  | some fault => rfl
  | none =>
    simp only [Reply.mapState, Mailbox.send]
    cases w.mailbox.failing <;> cases policy <;> rfl

/-- What an outcome of the cache means for the answer, if it is the end of the issuance. -/
def hindrance {α : Type} : Outcome CacheError α → Option ErrorCode
  | .ok _ => none
  | .error _ => some .cacheError
  | .panic _ => some .exception

theorem hindrance_map {α β : Type} (f : α → β) (o : Outcome CacheError α) :
    hindrance (o.map f) = hindrance o := by
  cases o <;> rfl

/-- What the cache would do without fault and poison cannot stand in the way. -/
theorem hindrance_askCache {α : Type} (fault : Option (Fault CacheError)) (w : World Memory)
    {operation : Memory → Reply Memory CacheError α} (hok : (operation w.cache).outcome.isOk) :
    hindrance (w.askCache fault fun m => m.locked operation).outcome = obstacle fault w := by
  cases fault with
  | some f => cases f <;> rfl
  | none =>
    cases hm : w.cache.poisoned with
    | true =>
      rw [askCache_none, Memory.locked_of_poisoned hm]
      simp [Reply.mapState, hindrance, obstacle, hm]
    | false =>
      rw [askCache_none, Memory.locked_of_sound hm]
      cases ho : (operation w.cache).outcome with
      | ok a => simp [Reply.mapState, hindrance, obstacle, hm, ho]
      | error e | panic p => simp [ho, Outcome.isOk] at hok

theorem obstacle_congr {fault : Option (Fault CacheError)}
    (h : w'.cache.poisoned = w.cache.poisoned) : obstacle fault w' = obstacle fault w := by
  rcases fault with _ | (e | p)
  · rw [obstacle, obstacle, h]
  · rfl
  · rfl

theorem hindrance_lookup (w : World Memory) (email : String) :
    hindrance (cast.lookup (CodeKey.ofAddress email) w).outcome = obstacle w.faults.lookup w :=
  hindrance_askCache w.faults.lookup w rfl

theorem hindrance_write (strategy : Strategy) (email code : String) (w : World Memory) :
    hindrance (write cast strategy email code w).outcome =
      obstacle (w.faults.write strategy) w := by
  have hinsert (m : Memory) :
      (m.insert w.now (CodeKey.ofAddress email) code codeLifetime).outcome = .ok () :=
    (Memory.insert_spec codeLifetime_lt _ _ _ m).1
  cases strategy with
  | checkThenSet =>
    rw [write_checkThenSet, Reply.map, hindrance_map]
    refine hindrance_askCache w.faults.store w ?_
    rw [hinsert]
    rfl
  | setIfAbsent =>
    rw [write_setIfAbsent]
    refine hindrance_askCache w.faults.storeIfAbsent w ?_
    dsimp only
    split
    · rfl
    · simp only [hinsert]
      rfl

theorem lookUp_ahead (settings : IssuingSettings) (email : String) (w : World Memory) :
    ahead settings email w (lookUp cast email w).stage = ahead settings email w .start := by
  unfold lookUp
  by_cases hne : email = ""
  · simp [hne, fail, ahead, IssuanceError.code]
  · rw [if_neg (by simpa using hne)]
    have hfound := @eq_of_lookup w email
    have hobstacle := hindrance_lookup w email
    dsimp only
    cases ho : (cast.lookup (CodeKey.ofAddress email) w).outcome with
    | ok found =>
      rw [ho] at hfound hobstacle
      obtain rfl := hfound rfl
      simp only [ahead, if_neg hne, ← hobstacle, hindrance, Option.getD_none]
      cases w.record? email <;> rfl
    | error e | panic p =>
      rw [ho] at hobstacle
      simp [ahead, hne, ← hobstacle, hindrance, fail, panicked, IssuanceError.code]

/-- `creating` follows the generator. -/
theorem creating_of_generate (settings : IssuingSettings) (w : World Memory) :
    creating settings w =
      if (cast.generate w).outcome.isOk then
        (obstacle (w.faults.write settings.strategy) w).getD (mailing settings.policy w)
      else .exception := by
  rw [cast_generate, drawCode, creating]
  rcases w.faults.generate with _ | (code | e | p) <;> rfl

theorem create_ahead (settings : IssuingSettings) (email : String) (w : World Memory) :
    ahead settings email w (create cast settings.strategy email w).stage =
      ⟨email, creating settings w⟩ := by
  have hquiet := quiet_generate w
  have hobstacle (code : String) :=
    hindrance_write settings.strategy email code (cast.generate w).state
  rw [creating_of_generate]
  unfold create
  dsimp only
  cases (cast.generate w).outcome with
  | error e | panic p => rfl
  | ok code =>
    specialize hobstacle code
    rw [hquiet.faults, obstacle_congr hquiet.poisoned] at hobstacle
    dsimp only
    rw [← hobstacle]
    cases (write cast settings.strategy email code (cast.generate w).state).outcome <;> rfl

/-- No step of an issuance makes it come out differently. -/
theorem ahead_step (settings : IssuingSettings) (email : String) (stage : Stage)
    (w : World Memory) :
    ahead settings email w (step cast settings email stage w).stage =
      ahead settings email w stage := by
  cases stage with
  | start => exact lookUp_ahead settings email w
  | lookedUp found =>
    rcases found with e | (_ | code)
    · rfl
    · exact create_ahead settings email w
    · rfl
  | written code outcome =>
    rcases outcome with e | (_ | winner) <;> rfl
  | handedOver code =>
    rw [step, deliver_ahead]
    rfl
  | done answer => rfl

/-! ## Steps of others -/

/-- Worlds in which every issuance comes out the same. -/
structure Alike (settings : IssuingSettings) (w w' : World Memory) : Prop where
  faults : w'.faults = w.faults
  poisoned : w'.cache.poisoned = w.cache.poisoned
  failing : w'.mailbox.failing = w.mailbox.failing
  /-- No live code comes to be, or it makes no difference whether there is one. -/
  live : creating settings w = mailing settings.policy w ∨
    ∀ email, w'.record? email = w.record? email

namespace Alike

theorem refl (settings : IssuingSettings) (w : World Memory) : Alike settings w w :=
  ⟨rfl, rfl, rfl, .inr fun _ => rfl⟩

theorem mailing_eq (h : Alike settings w w') :
    mailing settings.policy w' = mailing settings.policy w := by
  rw [mailing, mailing, h.faults, h.failing]

theorem creating_eq (h : Alike settings w w') : creating settings w' = creating settings w := by
  rw [creating, creating, h.faults, obstacle_congr h.poisoned, h.mailing_eq]

theorem trans (h : Alike settings w w') (h' : Alike settings w' w'') : Alike settings w w'' := by
  refine ⟨h'.faults.trans h.faults, h'.poisoned.trans h.poisoned, h'.failing.trans h.failing, ?_⟩
  -- Whether it makes a difference that a code is live is settled in the first world.
  rcases h.live with hsame | hlive
  · exact .inl hsame
  · rcases h'.live with hsame' | hlive'
    · left
      rwa [h.creating_eq, h.mailing_eq] at hsame'
    · exact .inr fun email => (hlive' email).trans (hlive email)

theorem ahead_eq (h : Alike settings w w') (email : String) (stage : Stage) :
    ahead settings email w' stage = ahead settings email w stage := by
  cases stage with
  | start =>
    rw [ahead, ahead, h.faults, obstacle_congr h.poisoned, h.mailing_eq, h.creating_eq]
    -- Either both answers to the lookup lead to the same, or the lookup is answered the same.
    rcases h.live with hsame | hlive
    · rw [hsame, ite_self, ite_self]
    · rw [hlive]
  | lookedUp found =>
    rcases found with e | (_ | code)
    · rfl
    · rw [ahead, ahead, h.creating_eq]
    · rw [ahead, ahead, h.mailing_eq]
  | written code outcome =>
    rcases outcome with e | outcome
    · rfl
    · rw [ahead, ahead, h.mailing_eq]
  | handedOver code => rw [ahead, ahead, h.mailing_eq]
  | done answer => rfl

end Alike

theorem failing_lookUp (email : String) (w : World Memory) :
    (lookUp cast email w).state.mailbox.failing = w.mailbox.failing := by
  obtain ⟨cache, hstate⟩ := lookup_state (CodeKey.ofAddress email) w
  unfold lookUp
  split
  · rfl
  · dsimp only
    split <;> simp [fail, hstate]

theorem failing_create (strategy : Strategy) (email : String) (w : World Memory) :
    (create cast strategy email w).state.mailbox.failing = w.mailbox.failing := by
  have hgenerate : (cast.generate w).state.mailbox = w.mailbox := by
    rw [cast_generate, drawCode]
    split <;> rfl
  unfold create
  dsimp only
  split
  · simp [fail, hgenerate]
  · simp [fail, hgenerate]
  · rename_i code _
    obtain ⟨cache, hstate⟩ := write_state strategy email code (cast.generate w).state
    split <;> simp [fail, hstate, hgenerate]

/-- No step makes the mailbox refuse mails or take them again. -/
theorem failing_step (settings : IssuingSettings) (email : String) (stage : Stage)
    (w : World Memory) :
    (step cast settings email stage w).state.mailbox.failing = w.mailbox.failing := by
  cases stage with
  | start => exact failing_lookUp email w
  | lookedUp found =>
    rcases found with e | (_ | code)
    · rfl
    · exact failing_create settings.strategy email w
    · rfl
  | written code outcome =>
    rcases outcome with e | (_ | winner) <;> rfl
  | handedOver code =>
    rw [step, deliver_state, cast_send, sendMail]
    split
    · rfl
    · simp only [Reply.mapState, Mailbox.send]
      split <;> rfl
  | done answer => rfl

/-- A step leaves a world in which every issuance comes out the same, its own included. -/
theorem alike_step (settings : IssuingSettings) (email : String) (stage : Stage)
    (w : World Memory) : Alike settings w (step cast settings email stage w).state := by
  have hahead := ahead_step settings email stage w
  have hfailing := failing_step settings email stage w
  have hturn := turned_step settings email stage w
  generalize step cast settings email stage w = p at hahead hfailing hturn
  cases hturn with
  | hit _ hquiet | missed _ hquiet | lost _ _ hquiet | ended _ _ _ hquiet _ =>
    exact ⟨hquiet.faults, hquiet.poisoned, hfailing, .inr hquiet.record?_eq⟩
  | handedOver => exact .refl settings w
  | inserted _ hbecomes =>
    -- A code has been written, so nothing kept the issuance from coming to its mail.
    refine ⟨hbecomes.faults, hbecomes.poisoned, hfailing, .inl ?_⟩
    exact (congrArg Answer.error hahead).symm

/-! ## Whole schedules -/

/-- What the issuances of a crowd will answer. -/
def outlook (settings : IssuingSettings) (crowd : Crowd (World Memory)) : List Answer :=
  crowd.tasks.map fun task => ahead settings task.email crowd.state task.stage

theorem outlook_turn (settings : IssuingSettings) (crowd : Crowd (World Memory)) (place : Nat) :
    outlook settings (Move.play settings crowd (.turn place)) = outlook settings crowd := by
  cases htask : crowd.tasks[place]? with
  | none => rw [play_turn_of_none htask]
  | some task =>
    have halike := alike_step settings task.email task.stage crowd.state
    have hown := ahead_step settings task.email task.stage crowd.state
    apply List.ext_getElem?
    intro place'
    simp only [outlook, List.getElem?_map, tasks_play_turn htask, state_play_turn htask, Turn.of,
      halike.ahead_eq]
    split
    · rename_i hplace
      simp [hplace, htask, hown]
    · rfl

/-- Whatever turns are taken, the answers to come are the same. -/
theorem outlook_play (settings : IssuingSettings) (places : List Nat)
    (crowd : Crowd (World Memory)) :
    outlook settings (play settings (places.map .turn) crowd) = outlook settings crowd := by
  induction places generalizing crowd with
  | nil => rfl
  | cons place places ih => rw [List.map_cons, play_cons, ih, outlook_turn]

theorem length_play (settings : IssuingSettings) (places : List Nat)
    (crowd : Crowd (World Memory)) :
    (play settings (places.map .turn) crowd).tasks.length = crowd.tasks.length := by
  simpa [outlook] using congrArg List.length (outlook_play settings places crowd)

theorem outlook_gather (settings : IssuingSettings) (emails : List String) (w : World Memory) :
    outlook settings (Crowd.gather emails w) =
      emails.map fun email => ahead settings email w .start := by
  simp [outlook, Crowd.gather]

/-- The answers are those that were to come, once they are all there. -/
theorem answers_eq_outlook {crowd : Crowd (World Memory)}
    (hdone : ∀ task ∈ crowd.tasks, task.stage.isDone) (settings : IssuingSettings) :
    crowd.answers = outlook settings crowd := by
  have hanswer : ∀ task ∈ crowd.tasks,
      task.stage.answer? = some (ahead settings task.email crowd.state task.stage) := by
    intro task htask
    have hstage := hdone task htask
    cases hs : task.stage with
    | done answer => rfl
    | start | lookedUp | written | handedOver =>
      rw [hs] at hstage
      cases hstage
  exact List.filterMap_eq_map_iff_forall_eq_some.2 hanswer

/-- Every turn brings its issuance closer to the answer. -/
theorem left_play (settings : IssuingSettings) (places : List Nat) {crowd : Crowd (World Memory)}
    {place : Nat} {task : Task} (htask : crowd.tasks[place]? = some task) :
    ∃ task', (play settings (places.map .turn) crowd).tasks[place]? = some task' ∧
      task'.stage.left ≤ task.stage.left - places.count place := by
  -- A turn of its own takes the issuance one step on, a turn of another leaves it where it is.
  induction places generalizing crowd task with
  | nil => exact ⟨task, htask, Nat.le_refl _⟩
  | cons first places ih =>
    rw [List.map_cons, play_cons, List.count_cons]
    by_cases hp : first = place
    · subst hp
      obtain ⟨task', htask', hle⟩ := ih (task_play_turn settings htask)
      have hstep := step_left_le cast settings task.email task.stage crowd.state
      refine ⟨task', htask', ?_⟩
      simp only [Turn.of] at hle
      simp only [beq_self_eq_true, if_true]
      omega
    · have hstill := (tasks_play_turn_of_ne settings crowd (Ne.symm hp)).trans htask
      simpa [hp] using ih hstill

/-! ## One after the other -/

/-- The answers to requests that are served one after the other. -/
def inOrder (settings : IssuingSettings) : List String → World Memory → List Answer
  | [], _ => []
  | email :: emails, w =>
    let p := issue cast settings email w
    p.stage.answer?.toList ++ inOrder settings emails p.state

theorem next_ahead {p : Progress (World Memory)} {answer : Answer}
    (h : Alike settings w p.state ∧ ahead settings email w p.stage = answer) :
    Alike settings w (p.next cast settings email).state ∧
      ahead settings email w (p.next cast settings email).stage = answer := by
  obtain ⟨halike, hahead⟩ := h
  have hstep := ahead_step settings email p.stage p.state
  rw [halike.ahead_eq, halike.ahead_eq, hahead] at hstep
  exact ⟨halike.trans (alike_step settings email p.stage p.state), hstep⟩

/-- A request that is served alone is answered as foretold. -/
theorem issue_ahead (settings : IssuingSettings) (email : String) (w : World Memory) :
    Alike settings w (issue cast settings email w).state ∧
      (issue cast settings email w).stage = .done (ahead settings email w .start) := by
  have hbegin : Alike settings w (Progress.begin w).state ∧
      ahead settings email w (Progress.begin w).stage = ahead settings email w .start :=
    ⟨.refl settings w, rfl⟩
  obtain ⟨halike, hahead⟩ := next_ahead (next_ahead (next_ahead (next_ahead hbegin)))
  obtain ⟨answer, hdone⟩ := issue_answer? cast settings email w
  refine ⟨halike, ?_⟩
  rw [← hahead]
  exact hdone.trans (congrArg Stage.done (congrArg (ahead settings email w) hdone).symm)

theorem inOrder_eq (settings : IssuingSettings) (emails : List String) (w : World Memory) :
    inOrder settings emails w = emails.map fun email => ahead settings email w .start := by
  induction emails generalizing w with
  | nil => rfl
  | cons email emails ih =>
    obtain ⟨halike, hdone⟩ := issue_ahead settings email w
    simp only [inOrder, hdone, Stage.answer?, Option.toList_some, ih, halike.ahead_eq]
    rfl

theorem done_of_count {emails : List String} {start : World Memory} {places : List Nat}
    {place : Nat} {task : Task} (hturns : 4 ≤ places.count place)
    (htask : (play settings (places.map .turn) (Crowd.gather emails start)).tasks[place]? =
      some task)
    (hplace : place < emails.length) : task.stage.isDone := by
  have hgathered : (Crowd.gather emails start).tasks[place]? = some ⟨emails[place], .start⟩ := by
    simp [Crowd.gather, hplace]
  obtain ⟨task', htask', hleft⟩ := left_play settings places hgathered
  obtain rfl : task = task' := Option.some.inj (htask.symm.trans htask')
  have hstart : Stage.start.left = 4 := rfl
  have hzero : task.stage.left = 0 := by
    rw [hstart] at hleft
    omega
  obtain ⟨answer, hdone⟩ := Stage.answer?_of_left hzero
  rw [hdone]
  rfl

/-- In whatever order the issuances of a crowd have their turns, each of them gets the answer that
it would have got if they had been served one after the other: every answer that is there is that
one, and all are there at the latest when each of them has had four turns. -/
theorem answers_independent (settings : IssuingSettings) (emails : List String)
    (start : World Memory) (places : List Nat) :
    let final := play settings (places.map .turn) (Crowd.gather emails start)
    let expected := inOrder settings emails start
    expected.map Answer.email = emails ∧
      (∀ (place : Nat) email answer, final.tasks[place]? = some ⟨email, .done answer⟩ →
        expected[place]? = some answer) ∧
      ((∀ task ∈ final.tasks, task.stage.isDone) → final.answers = expected) ∧
      ((∀ place < emails.length, 4 ≤ places.count place) →
        ∀ task ∈ final.tasks, task.stage.isDone) := by
  intro final expected
  have houtlook : outlook settings final = expected := by
    rw [outlook_play, outlook_gather, ← inOrder_eq]
  refine ⟨?_, ?_, ?_, ?_⟩
  · simp [expected, inOrder_eq, ahead, Function.comp_def]
  · intro place email answer htask
    rw [← houtlook, outlook, List.getElem?_map, htask]
    rfl
  · intro hdone
    rw [answers_eq_outlook hdone settings, houtlook]
  · intro hturns task htask
    obtain ⟨place, hplace, rfl⟩ := List.getElem_of_mem htask
    have hlt : place < emails.length := by
      simpa [final, length_play, Crowd.gather] using hplace
    exact done_of_count (hturns place hlt) (List.getElem?_eq_getElem hplace) hlt

end MailCode.Rehearsal
