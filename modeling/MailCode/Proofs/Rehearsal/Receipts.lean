import MailCode.Proofs.Rehearsal.Schedule
/-!
# What the mail provider receives

The calls of a crowd say that a mail is sent where an issuance hands it over, and the provider gets
it in the next step of that issuance. Here the exchanges with the collaborators are written down
while a schedule is played, which changes nothing (`playAllRecorded_eq`), and what stands in them
is compared with the calls: in its own order, every mail that an issuance hands over is received
once, and none is received that was not handed over (`mails_received`).
-/

namespace MailCode

/-- The mail that a provider receives in an exchange. -/
def Exchange.received? (x : Exchange) : Option Mail :=
  x.call?.bind Call.mail?

namespace Issuance

variable {σ : Type}

/-- The mail that the provider has not received yet. -/
def Task.pending (t : Task) : List Mail :=
  match t.stage with
  | .handedOver code => [Mail.ofCode t.email code]
  | _ => []

theorem Task.pending_of_done {t : Task} (h : t.stage.isDone) : t.pending = [] := by
  obtain ⟨email, stage⟩ := t
  cases stage with
  | done answer => rfl
  | start | lookedUp | written | handedOver => cases h

/-! ## One step -/

theorem mail?_writeCall (strategy : Strategy) (email code : String) :
    (writeCall strategy email code).mail? = none := by
  cases strategy <;> rfl

theorem received?_writeExchange (strategy : Strategy) (email code : String)
    (reply : Outcome CacheError StoreOutcome) :
    (writeExchange strategy email code reply).received? = none := by
  rw [Exchange.received?, call?_writeExchange]
  exact mail?_writeCall strategy email code

/-- A mail is sent exactly in the step that hands it over. -/
theorem mails_step (c : Collaborators σ) (settings : IssuingSettings) (email : String)
    (stage : Stage) (s : σ) :
    (step c settings email stage s).calls.filterMap Call.mail? =
      Task.pending ⟨email, (step c settings email stage s).stage⟩ := by
  cases stage with
  | start =>
    simp only [step, lookUp]
    split
    · rfl
    · split <;> rfl
  | lookedUp found =>
    have hwrite (code : String) :
        [Call.generate, writeCall settings.strategy email code].filterMap Call.mail? = [] := by
      rw [List.filterMap_cons_none rfl, List.filterMap_cons_none (mail?_writeCall _ _ _)]
      rfl
    simp only [step, afterLookup, create]
    split
    · rfl
    · split
      · rfl
      · rfl
      · split <;> exact hwrite _
    · rfl
  | written code outcome =>
    simp only [step, afterWrite]
    split <;> rfl
  | handedOver code =>
    obtain ⟨answer, hdone⟩ := deliver_stage c settings.policy email code s
    simp only [step, deliver_calls, hdone]
    rfl
  | done answer => rfl

/-- What a step leaves behind, with some exchanges written down behind others. -/
def Progress.noting (p : Progress σ) (log said : List Exchange) : Progress (List Exchange × σ) :=
  ⟨p.stage, (log ++ said, p.state), p.calls, p.events⟩

/-- A step that is the same when what is said is written down, and in which some mails are
received. -/
def Records (p : Progress σ) (log : List Exchange) (mails : List Mail)
    (q : Progress (List Exchange × σ)) : Prop :=
  ∃ said, q = p.noting log said ∧ said.filterMap Exchange.received? = mails

variable (c : Collaborators σ) (email : String) (log : List Exchange) (s : σ)

/-- Where nothing is said nothing is written down. -/
theorem records_silent {p : Progress σ} :
    Records p log [] ⟨p.stage, (log, p.state), p.calls, p.events⟩ :=
  ⟨[], by rw [Progress.noting, List.append_nil], rfl⟩

theorem lookUp_records : Records (lookUp c email s) log [] (lookUp c.recorded email (log, s)) := by
  unfold lookUp
  split
  · exact records_silent log
  · refine ⟨[.lookup (CodeKey.ofAddress email) (c.lookup (CodeKey.ofAddress email) s).outcome],
      ?_, rfl⟩
    simp only [Collaborators.recorded, Reply.noted]
    split <;> rfl

theorem create_records (strategy : Strategy) :
    Records (create c strategy email s) log [] (create c.recorded strategy email (log, s)) := by
  unfold create
  have hgenerate : c.recorded.generate (log, s) = (c.generate s).noted log .generate := rfl
  rw [hgenerate]
  rcases c.generate s with ⟨code | e | p, s₁, events⟩
  · simp only [Reply.noted, write_recorded, List.append_assoc, List.cons_append, List.nil_append]
    refine ⟨[.generate (.ok code), writeExchange strategy email code
      (write c strategy email code s₁).outcome], ?_, ?_⟩
    · split <;> rfl
    · rw [List.filterMap_cons_none rfl, List.filterMap_cons_none (received?_writeExchange _ _ _ _)]
      rfl
  · exact ⟨[.generate (.error e)], rfl, rfl⟩
  · exact ⟨[.generate (.panic p)], rfl, rfl⟩

theorem deliver_records (policy : DeliveryPolicy) (code : String) :
    Records (deliver c policy email code s) log [Mail.ofCode email code]
      (deliver c.recorded policy email code (log, s)) := by
  refine ⟨[.send (Mail.ofCode email code) (c.send (Mail.ofCode email code) s).outcome], ?_, rfl⟩
  unfold deliver
  simp only [Collaborators.recorded, Reply.noted, Reply.mapError]
  split
  · rfl
  · split <;> rfl
  · rfl

/-- Writing down what is said changes no step, and a mail is received exactly in the step behind
the one that hands it over. -/
theorem step_records (settings : IssuingSettings) (stage : Stage) :
    Records (step c settings email stage s) log (Task.pending ⟨email, stage⟩)
      (step c.recorded settings email stage (log, s)) := by
  cases stage with
  | start => exact lookUp_records c email log s
  | lookedUp found =>
    rcases found with e | (_ | code)
    · exact records_silent log
    · exact create_records c email log s settings.strategy
    · exact records_silent log
  | written code outcome =>
    rcases outcome with e | (_ | winner)
    · exact records_silent log
    · exact records_silent log
    · exact records_silent log
  | handedOver code => exact deliver_records c email log s settings.policy code
  | done answer => exact records_silent log

/-- A crowd with what has been written down beside its state. -/
def Crowd.noting (crowd : Crowd σ) (log : List Exchange) : Crowd (List Exchange × σ) :=
  ⟨crowd.tasks, (log, crowd.state), crowd.calls, crowd.events⟩

end Issuance

namespace Rehearsal

open Issuance

/-! ## Turn after turn -/

/-- The mails that the provider receives in a turn. -/
def Turn.received (t : Turn) : List Mail :=
  t.task.pending

/-- Makes a move and writes down what is said. -/
def Move.playRecorded (settings : IssuingSettings) (crowd : Crowd (List Exchange × World Memory)) :
    Move → Crowd (List Exchange × World Memory)
  | .turn place => crowd.turn cast.recorded settings place
  | .meanwhile action =>
    { crowd with state := (crowd.state.1, (perform settings action crowd.state.2).world) }

/-- Makes moves, one after the other, and writes down what is said. -/
def playRecorded (settings : IssuingSettings) (moves : List Move)
    (crowd : Crowd (List Exchange × World Memory)) : Crowd (List Exchange × World Memory) :=
  moves.foldl (Move.playRecorded settings) crowd

variable {settings : IssuingSettings} {crowd : Crowd (World Memory)} {place : Nat} {task : Task}

theorem playRecorded_turn (settings : IssuingSettings) (htask : crowd.tasks[place]? = some task)
    (log : List Exchange) :
    ∃ said, Move.playRecorded settings (crowd.noting log) (.turn place) =
        (Move.play settings crowd (.turn place)).noting (log ++ said) ∧
      said.filterMap Exchange.received? = (Turn.of settings crowd place task).received := by
  obtain ⟨said, hstep, hreceived⟩ :=
    step_records cast task.email log crowd.state settings task.stage
  refine ⟨said, ?_, hreceived⟩
  simp only [Move.playRecorded, Move.play, Crowd.turn, Crowd.noting, htask, hstep]
  rfl

/-- Writing down what is said changes nothing, and it tells which mails are received in the turns
that are taken. -/
theorem playRecorded_eq (settings : IssuingSettings) (moves : List Move)
    (crowd : Crowd (World Memory)) (log : List Exchange) :
    ∃ said, playRecorded settings moves (crowd.noting log) =
        (play settings moves crowd).noting (log ++ said) ∧
      said.filterMap Exchange.received? =
        (history settings moves crowd).flatMap Turn.received := by
  induction moves, crowd using schedule_induction settings generalizing log with
  | nil crowd => exact ⟨[], by rw [List.append_nil]; rfl, rfl⟩
  | meanwhile action moves crowd ih => exact ih log
  | vacant place moves crowd htask ih =>
    obtain ⟨said, hplayed, hreceived⟩ := ih log
    have hsame : Move.playRecorded settings (crowd.noting log) (.turn place) =
        crowd.noting log := by
      simp only [Move.playRecorded, Crowd.turn, Crowd.noting, htask]
    rw [history_turn_of_none htask, play_cons, play_turn_of_none htask]
    exact ⟨said, (congrArg (playRecorded settings moves) hsame).trans hplayed, hreceived⟩
  | turn place task moves crowd htask ih =>
    obtain ⟨said₁, hturn, hreceived₁⟩ := playRecorded_turn settings htask log
    obtain ⟨said₂, hplayed, hreceived₂⟩ := ih (log ++ said₁)
    refine ⟨said₁ ++ said₂, ?_, ?_⟩
    · rw [← List.append_assoc]
      exact (congrArg (playRecorded settings moves) hturn).trans hplayed
    · rw [history_turn_of_some htask, List.flatMap_cons, List.filterMap_append, hreceived₁,
        hreceived₂]

/-- The mail of an issuance that the provider has not received yet. -/
def pendingAt (crowd : Crowd (World Memory)) (place : Nat) : List Mail :=
  crowd.tasks[place]?.elim [] Task.pending

/-- The turns of one issuance. -/
def turnsAt (place : Nat) (turns : List Turn) : List Turn :=
  turns.filter (·.place = place)

theorem turnsAt_history (settings : IssuingSettings) (htask : crowd.tasks[place]? = some task)
    (moves : List Move) (place' : Nat) :
    turnsAt place' (history settings (.turn place :: moves) crowd) =
      (if place' = place then [Turn.of settings crowd place task] else []) ++
        turnsAt place' (history settings moves (Move.play settings crowd (.turn place))) := by
  rw [history_turn_of_some htask]
  by_cases hp : place' = place
  · rw [if_pos hp]
    exact List.filter_cons_of_pos (decide_eq_true hp.symm)
  · rw [if_neg hp]
    exact List.filter_cons_of_neg fun heq => hp (of_decide_eq_true heq).symm

theorem pendingAt_turn (settings : IssuingSettings) (htask : crowd.tasks[place]? = some task)
    (place' : Nat) :
    pendingAt (Move.play settings crowd (.turn place)) place' =
      if place' = place then (Turn.of settings crowd place task).mails
      else pendingAt crowd place' := by
  rw [pendingAt, tasks_play_turn htask]
  split
  · exact (mails_step cast settings task.email task.stage crowd.state).symm
  · rfl

/-- What an issuance hands over in some turns joins what is pending, and what is received leaves
it, in the same order. -/
theorem pending_history (settings : IssuingSettings) (moves : List Move)
    (crowd : Crowd (World Memory)) (place : Nat) :
    pendingAt crowd place ++
        (turnsAt place (history settings moves crowd)).flatMap Turn.mails =
      (turnsAt place (history settings moves crowd)).flatMap Turn.received ++
        pendingAt (play settings moves crowd) place := by
  induction moves, crowd using schedule_induction settings with
  | nil crowd => exact List.append_nil _
  | meanwhile action moves crowd ih => exact ih
  | vacant place' moves crowd htask ih =>
    rw [history_turn_of_none htask, play_cons, play_turn_of_none htask]
    exact ih
  | turn place' task moves crowd htask ih =>
    rw [pendingAt_turn settings htask] at ih
    rw [turnsAt_history settings htask, play_cons]
    by_cases hp : place = place'
    · -- What was pending is received in this turn, and what it hands over is pending from here on.
      subst hp
      have hreceived : pendingAt crowd place = (Turn.of settings crowd place task).received := by
        rw [pendingAt, htask]
        rfl
      rw [if_pos rfl] at ih
      rw [if_pos rfl, List.singleton_append, List.flatMap_cons, List.flatMap_cons,
        List.append_assoc, hreceived]
      exact congrArg (_ ++ ·) ih
    · rw [if_neg hp] at ih
      rw [if_neg hp]
      exact ih

/-- However a schedule interleaves some issuances, what is written down on the way changes nothing,
and it tells which mails the provider receives: those of the turns in which a mail is waited for.
Of each issuance these are the mails that its calls send, in the same order, less one that is still
on its way. -/
theorem mails_received (settings : IssuingSettings) (moves : List Move) (emails : List String)
    (start : World Memory) :
    let crowd := Crowd.gather emails start
    let final := play settings moves crowd
    let turns := history settings moves crowd
    ∃ said, playRecorded settings moves (crowd.noting []) = final.noting said ∧
      said.filterMap Exchange.received? = turns.flatMap Turn.received ∧
      ∀ place, (turnsAt place turns).flatMap Turn.mails =
        (turnsAt place turns).flatMap Turn.received ++ pendingAt final place := by
  intro crowd final turns
  obtain ⟨said, hplayed, hreceived⟩ := playRecorded_eq settings moves crowd []
  refine ⟨said, hplayed, hreceived, fun place => ?_⟩
  have hnone : pendingAt crowd place = [] := by
    simp only [pendingAt, crowd, Crowd.gather, List.getElem?_map]
    cases emails[place]? <;> rfl
  have hpending := pending_history settings moves crowd place
  rw [hnone, List.nil_append] at hpending
  exact hpending

/-- Once the issuances have ended nothing is on its way: the provider has received what the calls
send. -/
theorem mails_received_of_done (settings : IssuingSettings) (moves : List Move)
    (emails : List String) (start : World Memory)
    (hdone : ∀ task ∈ (play settings moves (Crowd.gather emails start)).tasks,
      task.stage.isDone) (place : Nat) :
    let turns := turnsAt place (history settings moves (Crowd.gather emails start))
    turns.flatMap Turn.mails = turns.flatMap Turn.received := by
  intro turns
  obtain ⟨said, -, -, hmails⟩ := mails_received settings moves emails start
  have hnone : pendingAt (play settings moves (Crowd.gather emails start)) place = [] := by
    rw [pendingAt]
    cases htask : (play settings moves (Crowd.gather emails start)).tasks[place]? with
    | none => rfl
    | some task => exact Task.pending_of_done (hdone task (List.mem_of_getElem? htask))
  exact (hmails place).trans (by rw [hnone, List.append_nil])

end Rehearsal

end MailCode
