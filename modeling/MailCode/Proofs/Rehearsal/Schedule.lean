import MailCode.Issuance.Crowd
import MailCode.Proofs.Rehearsal.Cast
/-!
# Schedules of several issuances

A schedule is a list of moves: an issuance of a crowd has its turn, or something else happens
meanwhile, such as time passing. `play` carries a schedule out and `history` lists the turns that
were taken, each with the world it started from and what it left behind.

`Turned` sums up what a turn can do to the world and to its own issuance, with either strategy.
What is said about whole schedules rests on it and not on the steps.
-/

namespace MailCode

/-- The code that an issuance has settled on. -/
def Issuance.Stage.code? : Stage → Option String
  | .lookedUp (.ok found) => found
  | .written code (.ok .inserted) => some code
  | .written _ (.ok (.existing winner)) => some winner
  | .handedOver code => some code
  | _ => none

/-- The mail that a call sends. -/
def Call.mail? : Call → Option Mail
  | .send mail => some mail
  | _ => none

namespace Rehearsal

open Issuance World

/-- One move of a schedule. -/
inductive Move where
  /-- The issuance at a place has its turn. -/
  | turn (place : Nat)
  | meanwhile (action : Action)

/-- Makes a move. -/
def Move.play (settings : IssuingSettings) (crowd : Crowd (World Memory)) :
    Move → Crowd (World Memory)
  | .turn place => crowd.turn cast settings place
  | .meanwhile action => { crowd with state := (perform settings action crowd.state).world }

/-- Makes moves, one after the other. -/
def play (settings : IssuingSettings) (moves : List Move) (crowd : Crowd (World Memory)) :
    Crowd (World Memory) :=
  moves.foldl (Move.play settings) crowd

/-- A turn that was taken: by whom, in which world, and what came of it. -/
structure Turn where
  place : Nat
  task : Task
  world : World Memory
  progress : Progress (World Memory)

/-- The turn that a move is. Nobody has a turn at an empty place. -/
def Move.turn? (settings : IssuingSettings) (crowd : Crowd (World Memory)) : Move → Option Turn
  | .turn place => crowd.tasks[place]?.map fun task =>
    ⟨place, task, crowd.state, step cast settings task.email task.stage crowd.state⟩
  | .meanwhile _ => none

/-- The turns that are taken in the course of some moves. -/
def history (settings : IssuingSettings) : List Move → Crowd (World Memory) → List Turn
  | [], _ => []
  | move :: moves, crowd =>
    (move.turn? settings crowd).toList ++ history settings moves (move.play settings crowd)

namespace Turn

/-- The mails that were sent, which the provider receives in a later turn. -/
def mails (t : Turn) : List Mail :=
  t.progress.calls.filterMap Call.mail?

/-- A fresh code was written. -/
def Inserts (t : Turn) : Prop :=
  t.task.stage = .lookedUp (.ok none) ∧ ∃ code, t.progress.stage = .written code (.ok .inserted)

/-- The issuance settled on the code of an entry, which was live at that moment. -/
def Resolves (t : Turn) (e : Entry) : Prop :=
  t.task.stage.code? = none ∧ t.progress.stage.code? = some e.value ∧
    t.progress.state.record? t.task.email = some e

/-- This is where the issuance at a place settled on a code for an address. -/
def Settles (t : Turn) (place : Nat) (email code : String) : Prop :=
  t.place = place ∧ t.task.email = email ∧ ∃ e, t.Resolves e ∧ e.value = code

end Turn

/-! ## What a turn can do -/

/-- What one step of an issuance for an address can come to. -/
inductive Turned (strategy : Strategy) (email : String) (w : World Memory) :
    Stage → Progress (World Memory) → Prop
  | hit {e : Entry} {w' : World Memory} {events : List Event} :
      w.record? email = some e → w.Quiet w' →
      Turned strategy email w .start
        ⟨.lookedUp (.ok (some e.value)), w', [.lookup (CodeKey.ofAddress email)], events⟩
  | missed {w' : World Memory} {events : List Event} :
      w.record? email = none → w.Quiet w' →
      Turned strategy email w .start
        ⟨.lookedUp (.ok none), w', [.lookup (CodeKey.ofAddress email)], events⟩
  | inserted {code : String} {w' : World Memory} {events : List Event} :
      (strategy = .setIfAbsent → w.record? email = none) →
      w.Becomes w' (w.withCode email code) →
      Turned strategy email w (.lookedUp (.ok none))
        ⟨.written code (.ok .inserted), w', [.generate, writeCall strategy email code], events⟩
  /-- Another code was found where the fresh one should have been written. -/
  | lost {code : String} {e : Entry} {w' : World Memory} {events : List Event} :
      strategy = .setIfAbsent → w.record? email = some e → w.Quiet w' →
      Turned strategy email w (.lookedUp (.ok none))
        ⟨.written code (.ok (.existing e.value)), w', [.generate, writeCall strategy email code],
          events⟩
  | handedOver {stage : Stage} {code : String} {events : List Event} :
      stage.code? = some code →
      Turned strategy email w stage
        ⟨.handedOver code, w, [.send (Mail.ofCode email code)], events⟩
  /-- The issuance ends, or is about to end with an error. -/
  | ended {stage : Stage} {p : Progress (World Memory)} :
      p.stage.code? = none → p.stage ≠ .lookedUp (.ok none) →
      (stage.code? ≠ none ∨ stage.isDone → p.stage.isDone) →
      w.Quiet p.state → p.calls.filterMap Call.mail? = [] → Turned strategy email w stage p

variable {strategy : Strategy} {email : String} {w : World Memory}

/-- A failure is the end. -/
theorem turned_fail {w' : World Memory} {calls : List Call} (hquiet : w.Quiet w')
    (hcalls : calls.filterMap Call.mail? = []) (stage : Stage) (e : IssuanceError)
    (events : List Event) :
    Turned strategy email w stage (fail email e w' calls events) :=
  .ended rfl (by simp [fail]) (fun _ => rfl) hquiet hcalls

/-- An error of the cache is remembered until the next turn. -/
theorem turned_refused {w' : World Memory} {stage stage' : Stage} {calls : List Call}
    (hstage : stage = .start ∨ stage = .lookedUp (.ok none)) (hcode : stage'.code? = none)
    (hstage' : stage' ≠ .lookedUp (.ok none)) (hquiet : w.Quiet w')
    (hcalls : calls.filterMap Call.mail? = []) (events : List Event) :
    Turned strategy email w stage ⟨stage', w', calls, events⟩ := by
  refine .ended hcode hstage' ?_ hquiet hcalls
  rcases hstage with rfl | rfl
  · rintro (h | h)
    · exact absurd rfl h
    · cases h
  · rintro (h | h)
    · exact absurd rfl h
    · cases h

theorem turned_lookUp (strategy : Strategy) (email : String) (w : World Memory) :
    Turned strategy email w .start (lookUp cast email w) := by
  unfold lookUp
  split
  · exact turned_fail (.refl w) rfl _ _ _
  · have hquiet := quiet_lookup w (CodeKey.ofAddress email)
    have hfound := @eq_of_lookup w email
    dsimp only
    generalize cast.lookup (CodeKey.ofAddress email) w = reply at hquiet hfound ⊢
    rcases reply with ⟨found | e | p, w', events⟩
    · obtain rfl := hfound rfl
      cases hrecord : w.record? email with
      | some e => exact .hit hrecord hquiet
      | none => exact .missed hrecord hquiet
    · exact turned_refused (.inl rfl) rfl (by simp) hquiet rfl _
    · exact turned_fail hquiet rfl _ _ _

theorem turned_create (strategy : Strategy) (email : String) (w : World Memory) :
    Turned strategy email w (.lookedUp (.ok none)) (create cast strategy email w) := by
  have hmails (code : String) :
      [Call.generate, writeCall strategy email code].filterMap Call.mail? = [] := by
    cases strategy <;> rfl
  unfold create
  have hmade := quiet_generate w
  dsimp only
  generalize cast.generate w = made at hmade ⊢
  rcases made with ⟨code | e | p, w₁, events⟩
  · have hwrote := write_wrote strategy email code w₁
    dsimp only at hmade ⊢
    generalize write cast strategy email code w₁ = reply at hwrote ⊢
    rcases reply with ⟨o, w', events'⟩
    cases hwrote with
    | inserted hfree hbecomes =>
      rw [hmade.withCode_eq] at hbecomes
      rw [hmade.record?_eq] at hfree
      exact .inserted hfree (hmade.becomes hbecomes)
    | existing hstrategy hrecord hquiet =>
      rw [hmade.record?_eq] at hrecord
      exact .lost hstrategy hrecord (hmade.trans hquiet)
    | failed ho hquiet =>
      cases o with
      | ok outcome => cases ho
      | error e =>
        exact turned_refused (.inr rfl) rfl (by simp) (hmade.trans hquiet) (hmails code) _
      | panic p => exact turned_fail (hmade.trans hquiet) (hmails code) _ _ _
  · exact turned_fail hmade rfl _ _ _
  · exact turned_fail hmade rfl _ _ _

theorem turned_deliver (strategy : Strategy) (policy : DeliveryPolicy) (email code : String)
    (w : World Memory) :
    Turned strategy email w (.handedOver code) (deliver cast policy email code w) := by
  obtain ⟨answer, hdone⟩ := deliver_stage cast policy email code w
  have hquiet := quiet_send w (Mail.ofCode email code)
  rw [← deliver_state cast policy] at hquiet
  refine .ended ?_ ?_ ?_ hquiet ?_
  · rw [hdone]
    rfl
  · rw [hdone]
    simp
  · rw [hdone]
    exact fun _ => rfl
  · rw [deliver_calls]
    rfl

/-- Every step is one of these. -/
theorem turned_step (settings : IssuingSettings) (email : String) (stage : Stage)
    (w : World Memory) :
    Turned settings.strategy email w stage (step cast settings email stage w) := by
  cases stage with
  | start => exact turned_lookUp settings.strategy email w
  | lookedUp found =>
    rcases found with e | (_ | code)
    · exact turned_fail (.refl w) rfl _ _ _
    · exact turned_create settings.strategy email w
    · exact .handedOver rfl
  | written code outcome =>
    rcases outcome with e | (_ | winner)
    · exact turned_fail (.refl w) rfl _ _ _
    · exact .handedOver rfl
    · exact .handedOver rfl
  | handedOver code => exact turned_deliver settings.strategy settings.policy email code w
  | done answer => exact .ended rfl (by simp [step]) (fun _ => rfl) (.refl w) rfl

/-- A turn changes nothing but what is live. -/
theorem Turned.becomes {stage : Stage} {p : Progress (World Memory)}
    (h : Turned strategy email w stage p) : ∃ live, w.Becomes p.state live := by
  cases h with
  | hit _ hquiet | missed _ hquiet | lost _ _ hquiet | ended _ _ _ hquiet _ => exact ⟨_, hquiet⟩
  | inserted _ hbecomes => exact ⟨_, hbecomes⟩
  | handedOver => exact ⟨_, Quiet.refl w⟩

/-- A turn moves no clock. -/
theorem Turned.now_eq {stage : Stage} {p : Progress (World Memory)}
    (h : Turned strategy email w stage p) : p.state.now = w.now := by
  obtain ⟨live, hbecomes⟩ := h.becomes
  exact hbecomes.now

/-- A code is settled on when it is live, and kept from then on. -/
theorem Turned.code? {stage : Stage} {p : Progress (World Memory)} {code : String}
    (h : Turned strategy email w stage p) (hcode : p.stage.code? = some code) :
    stage.code? = some code ∨
      stage.code? = none ∧ ∃ e, p.state.record? email = some e ∧ e.value = code := by
  cases h with
  | @hit e w' events hrecord hquiet =>
    cases hcode
    exact .inr ⟨rfl, e, (hquiet.record?_eq email).trans hrecord, rfl⟩
  | missed => cases hcode
  | @inserted code' w' events hfree hbecomes =>
    cases hcode
    refine .inr ⟨rfl, ⟨code, w.now + codeLifetime * 1000⟩, ?_, rfl⟩
    have hrecord := hbecomes.record?_withCode email
    rwa [if_pos rfl] at hrecord
  | @lost code' e w' events hstrategy hrecord hquiet =>
    cases hcode
    exact .inr ⟨rfl, e, (hquiet.record?_eq email).trans hrecord, rfl⟩
  | handedOver hstage =>
    cases hcode
    exact .inl hstage
  | ended hnone =>
    rw [hnone] at hcode
    cases hcode

/-- A turn that says that it has written a code has. -/
theorem Turned.record?_of_inserted {p : Progress (World Memory)} {code : String}
    (h : Turned strategy email w (.lookedUp (.ok none)) p)
    (hstage : p.stage = .written code (.ok .inserted)) :
    (strategy = .setIfAbsent → w.record? email = none) ∧
      p.state.record? email = some ⟨code, w.now + codeLifetime * 1000⟩ := by
  cases h with
  | inserted hfree hbecomes =>
    cases hstage
    have hrecord := hbecomes.record?_withCode email
    rw [if_pos rfl] at hrecord
    exact ⟨hfree, hrecord⟩
  | lost => cases hstage
  | handedOver hcode => cases hcode
  | ended hnone =>
    rw [hstage] at hnone
    cases hnone

/-- A mail carries the code that was settled on before. -/
theorem Turned.mail {stage : Stage} {p : Progress (World Memory)} {mail : Mail}
    (h : Turned strategy email w stage p) (hmail : mail ∈ p.calls.filterMap Call.mail?) :
    ∃ code, stage.code? = some code ∧ mail = Mail.ofCode email code := by
  cases h with
  | hit | missed => cases hmail
  | inserted | lost =>
    cases strategy <;> cases hmail
  | @handedOver _ code events hstage =>
    obtain rfl : mail = Mail.ofCode email code := List.mem_singleton.1 hmail
    exact ⟨code, hstage, rfl⟩
  | ended _ _ _ _ hnone =>
    rw [hnone] at hmail
    cases hmail

/-- An issuance has settled on a code, or it has ended. -/
def Settled (stage : Stage) : Prop :=
  stage.code? ≠ none ∨ stage.isDone

/-- Who has settled neither settles again nor unsettles. -/
theorem Turned.settled {stage : Stage} {p : Progress (World Memory)}
    (h : Turned strategy email w stage p) (hs : Settled stage) :
    Settled p.stage ∧ (stage.code? = none → p.stage.code? = none) := by
  cases h with
  | hit | missed | inserted | lost =>
    rcases hs with hs | hs
    · exact absurd rfl hs
    · cases hs
  | handedOver hstage =>
    refine ⟨.inl (by simp [Stage.code?]), fun hnone => ?_⟩
    rw [hstage] at hnone
    cases hnone
  | ended hcode _ hdone => exact ⟨.inr (hdone hs), fun _ => hcode⟩

/-! ## Turn after turn -/

section
variable {settings : IssuingSettings} {crowd : Crowd (World Memory)} {place : Nat} {task : Task}

theorem play_cons (settings : IssuingSettings) (move : Move) (moves : List Move)
    (crowd : Crowd (World Memory)) :
    play settings (move :: moves) crowd = play settings moves (move.play settings crowd) := rfl

theorem play_append (settings : IssuingSettings) (moves moves' : List Move)
    (crowd : Crowd (World Memory)) :
    play settings (moves ++ moves') crowd = play settings moves' (play settings moves crowd) :=
  List.foldl_append

theorem play_turn_of_none (h : crowd.tasks[place]? = none) :
    Move.play settings crowd (.turn place) = crowd := by
  simp only [Move.play, Crowd.turn, h]

/-- The turn that an issuance has in a crowd. -/
def Turn.of (settings : IssuingSettings) (crowd : Crowd (World Memory)) (place : Nat)
    (task : Task) : Turn :=
  ⟨place, task, crowd.state, step cast settings task.email task.stage crowd.state⟩

theorem Turn.turned_of (settings : IssuingSettings) (crowd : Crowd (World Memory)) (place : Nat)
    (task : Task) :
    Turned settings.strategy task.email crowd.state task.stage
      (Turn.of settings crowd place task).progress :=
  turned_step settings task.email task.stage crowd.state

theorem state_play_turn (h : crowd.tasks[place]? = some task) :
    (Move.play settings crowd (.turn place)).state =
      (Turn.of settings crowd place task).progress.state := by
  simp only [Move.play, Crowd.turn, h, Turn.of]

/-- A turn moves one issuance on and leaves the others where they are. -/
theorem tasks_play_turn (h : crowd.tasks[place]? = some task) (place' : Nat) :
    (Move.play settings crowd (.turn place)).tasks[place']? =
      if place' = place then
        some { task with stage := (Turn.of settings crowd place task).progress.stage }
      else crowd.tasks[place']? := by
  have hlt : place < crowd.tasks.length := (List.getElem?_eq_some_iff.1 h).1
  simp only [Move.play, Crowd.turn, h, Turn.of]
  by_cases hp : place' = place
  · subst hp
    rw [if_pos rfl, List.getElem?_set_self hlt]
  · rw [if_neg hp, List.getElem?_set_ne (Ne.symm hp)]

theorem task_play_turn (settings : IssuingSettings) (h : crowd.tasks[place]? = some task) :
    (Move.play settings crowd (.turn place)).tasks[place]? =
      some { task with stage := (Turn.of settings crowd place task).progress.stage } :=
  (tasks_play_turn h place).trans (if_pos rfl)

theorem tasks_play_turn_of_ne (settings : IssuingSettings) (crowd : Crowd (World Memory))
    {place' : Nat} (h : place' ≠ place) :
    (Move.play settings crowd (.turn place)).tasks[place']? = crowd.tasks[place']? := by
  cases htask : crowd.tasks[place]? with
  | none => rw [play_turn_of_none htask]
  | some task => rw [tasks_play_turn htask, if_neg h]

theorem history_turn_of_none (h : crowd.tasks[place]? = none) (moves : List Move) :
    history settings (.turn place :: moves) crowd = history settings moves crowd := by
  rw [history, play_turn_of_none h, Move.turn?, h]
  rfl

theorem history_turn_of_some (h : crowd.tasks[place]? = some task) (moves : List Move) :
    history settings (.turn place :: moves) crowd =
      Turn.of settings crowd place task ::
        history settings moves (Move.play settings crowd (.turn place)) := by
  rw [history, Move.turn?, h]
  rfl

/-- A move has nothing to do with the crowd, or changes nothing, or is a turn. -/
theorem move_cases (settings : IssuingSettings) (crowd : Crowd (World Memory)) (move : Move) :
    (∃ action, move = .meanwhile action) ∨ move.play settings crowd = crowd ∨
      ∃ place task, move = .turn place ∧ crowd.tasks[place]? = some task := by
  cases move with
  | meanwhile action => exact .inl ⟨action, rfl⟩
  | turn place =>
    cases htask : crowd.tasks[place]? with
    | none => exact .inr (.inl (play_turn_of_none htask))
    | some task => exact .inr (.inr ⟨place, task, rfl, htask⟩)

end

/-- Induction over a schedule and the crowd that it is played with: the turns at empty places can
be passed over. -/
theorem schedule_induction (settings : IssuingSettings)
    {motive : List Move → Crowd (World Memory) → Prop} (nil : ∀ crowd, motive [] crowd)
    (meanwhile : ∀ action moves crowd,
      motive moves (Move.play settings crowd (.meanwhile action)) →
      motive (.meanwhile action :: moves) crowd)
    (vacant : ∀ place moves crowd, crowd.tasks[place]? = none → motive moves crowd →
      motive (.turn place :: moves) crowd)
    (turn : ∀ place task moves crowd, crowd.tasks[place]? = some task →
      motive moves (Move.play settings crowd (.turn place)) → motive (.turn place :: moves) crowd)
    (moves : List Move) (crowd : Crowd (World Memory)) : motive moves crowd := by
  induction moves generalizing crowd with
  | nil => exact nil crowd
  | cons move moves ih =>
    cases move with
    | meanwhile action => exact meanwhile action moves crowd (ih _)
    | turn place =>
      cases htask : crowd.tasks[place]? with
      | none => exact vacant place moves crowd htask (ih crowd)
      | some task => exact turn place task moves crowd htask (ih _)

section
variable {settings : IssuingSettings} {crowd : Crowd (World Memory)} {moves : List Move}

/-- What every move keeps holds at the end, and at the start of every turn. -/
theorem history_induction (allowed : Move → Prop) (known : Crowd (World Memory) → Prop)
    (hkeep : ∀ crowd move, known crowd → allowed move → known (move.play settings crowd))
    (hallowed : ∀ move ∈ moves, allowed move) (hknown : known crowd) :
    known (play settings moves crowd) ∧
      ∀ t ∈ history settings moves crowd, ∃ crowd place task, known crowd ∧
        crowd.tasks[place]? = some task ∧ t = Turn.of settings crowd place task := by
  induction moves, crowd using schedule_induction settings with
  | nil crowd => exact ⟨hknown, fun t ht => by cases ht⟩
  | meanwhile action moves crowd ih =>
    have hnext := hkeep crowd _ hknown (hallowed _ List.mem_cons_self)
    exact ih (fun m hm => hallowed m (List.mem_cons_of_mem _ hm)) hnext
  | vacant place moves crowd htask ih =>
    rw [history_turn_of_none htask, play_cons, play_turn_of_none htask]
    exact ih (fun m hm => hallowed m (List.mem_cons_of_mem _ hm)) hknown
  | turn place task moves crowd htask ih =>
    have hnext := hkeep crowd _ hknown (hallowed _ List.mem_cons_self)
    obtain ⟨hend, hrest⟩ := ih (fun m hm => hallowed m (List.mem_cons_of_mem _ hm)) hnext
    refine ⟨hend, fun t ht => ?_⟩
    rw [history_turn_of_some htask] at ht
    rcases List.mem_cons.1 ht with rfl | ht
    · exact ⟨crowd, place, task, hknown, htask, rfl⟩
    · exact hrest t ht

theorem Turn.progress_of_mem {t : Turn} (ht : t ∈ history settings moves crowd) :
    t.progress = step cast settings t.task.email t.task.stage t.world := by
  obtain ⟨crowd, place, task, -, -, rfl⟩ := (history_induction (fun _ => True) (fun _ => True)
    (fun _ _ _ _ => trivial) (fun _ _ => trivial) trivial).2 t ht
  rfl

theorem Turn.turned_of_mem {t : Turn} (ht : t ∈ history settings moves crowd) :
    Turned settings.strategy t.task.email t.world t.task.stage t.progress := by
  rw [Turn.progress_of_mem ht]
  exact turned_step settings t.task.email t.task.stage t.world

/-- To know something of every two turns, it is enough to know it of the first one and a later
one, wherever the schedule begins. -/
theorem history_pairwise (allowed : Move → Prop) (rel : Turn → Turn → Prop)
    (hrel : ∀ crowd place task moves, crowd.tasks[place]? = some task →
      (∀ move ∈ moves, allowed move) →
      ∀ t ∈ history settings moves (Move.play settings crowd (.turn place)),
        rel (Turn.of settings crowd place task) t)
    (hallowed : ∀ move ∈ moves, allowed move) (crowd : Crowd (World Memory)) :
    (history settings moves crowd).Pairwise rel := by
  induction moves, crowd using schedule_induction settings with
  | nil crowd => exact .nil
  | meanwhile action moves crowd ih =>
    exact ih fun m hm => hallowed m (List.mem_cons_of_mem _ hm)
  | vacant place moves crowd htask ih =>
    rw [history_turn_of_none htask]
    exact ih fun m hm => hallowed m (List.mem_cons_of_mem _ hm)
  | turn place task moves crowd htask ih =>
    have hmoves : ∀ m ∈ moves, allowed m := fun m hm => hallowed m (List.mem_cons_of_mem _ hm)
    rw [history_turn_of_some htask]
    exact .cons (hrel crowd place task moves htask hmoves) (ih hmoves)

/-- The turns account for every call that the issuances made. -/
theorem play_calls (settings : IssuingSettings) (moves : List Move)
    (crowd : Crowd (World Memory)) :
    (play settings moves crowd).calls =
      crowd.calls ++ (history settings moves crowd).flatMap (·.progress.calls) := by
  induction moves, crowd using schedule_induction settings with
  | nil crowd => exact (List.append_nil _).symm
  | meanwhile action moves crowd ih => exact ih
  | vacant place moves crowd htask ih =>
    rw [history_turn_of_none htask, play_cons, play_turn_of_none htask]
    exact ih
  | turn place task moves crowd htask ih =>
    have hcalls : (Move.play settings crowd (.turn place)).calls =
        crowd.calls ++ (Turn.of settings crowd place task).progress.calls := by
      simp only [Move.play, Crowd.turn, htask, Turn.of]
    rw [history_turn_of_some htask, List.flatMap_cons, ← List.append_assoc, ← hcalls]
    exact ih

end

/-! ## Where a turn stands in a schedule -/

section
variable {settings : IssuingSettings} {crowd : Crowd (World Memory)} {moves : List Move}
  {before after : List Turn} {t : Turn}

/-- The moves that lead up to a turn, and those that follow it. -/
theorem history_split (h : history settings moves crowd = before ++ t :: after) :
    ∃ earlier later, moves = earlier ++ .turn t.place :: later ∧
      before = history settings earlier crowd ∧
      (play settings earlier crowd).tasks[t.place]? = some t.task ∧
      t = Turn.of settings (play settings earlier crowd) t.place t.task ∧
      after = history settings later
        (Move.play settings (play settings earlier crowd) (.turn t.place)) := by
  induction moves, crowd using schedule_induction settings generalizing before with
  | nil crowd => cases before <;> cases h
  | meanwhile action moves crowd ih =>
    obtain ⟨earlier, later, rfl, hbefore, hrest⟩ := ih h
    exact ⟨.meanwhile action :: earlier, later, rfl, hbefore, hrest⟩
  | vacant place moves crowd htask ih =>
    rw [history_turn_of_none htask] at h
    obtain ⟨earlier, later, rfl, hbefore, hrest⟩ := ih h
    refine ⟨.turn place :: earlier, later, rfl, ?_⟩
    rw [history_turn_of_none htask, play_cons, play_turn_of_none htask]
    exact ⟨hbefore, hrest⟩
  | turn place task moves crowd htask ih =>
    rw [history_turn_of_some htask] at h
    cases before with
    | nil =>
      obtain ⟨rfl, rfl⟩ := List.cons.inj h
      exact ⟨[], moves, rfl, rfl, htask, rfl, rfl⟩
    | cons first before =>
      obtain ⟨rfl, hrest⟩ := List.cons.inj h
      obtain ⟨earlier, later, rfl, hbefore, hrest⟩ := ih hrest
      refine ⟨.turn place :: earlier, later, rfl, ?_, hrest⟩
      rw [history_turn_of_some htask, ← hbefore]

/-- A turn starts where the issuance was left by the last turn that it had before, or where the
schedule found it. -/
theorem previous_turn (h : history settings moves crowd = before ++ t :: after) :
    ((∀ u ∈ before, u.place ≠ t.place) ∧ crowd.tasks[t.place]? = some t.task) ∨
      ∃ earlier r later, before = earlier ++ r :: later ∧ r.place = t.place ∧
        t.task = { r.task with stage := r.progress.stage } := by
  induction moves, crowd using schedule_induction settings generalizing before with
  | nil crowd => cases before <;> cases h
  | meanwhile action moves crowd ih => exact ih h
  | vacant place moves crowd htask ih =>
    rw [history_turn_of_none htask] at h
    exact ih h
  | turn place task moves crowd htask ih =>
    rw [history_turn_of_some htask] at h
    cases before with
    | nil =>
      obtain ⟨rfl, -⟩ := List.cons.inj h
      exact .inl ⟨by simp, htask⟩
    | cons first before =>
      obtain ⟨rfl, hrest⟩ := List.cons.inj h
      rcases ih hrest with ⟨hnone, hfound⟩ | ⟨earlier, r, later, rfl, hplace, htask'⟩
      · -- No other turn lies between, so this one is the last before if it is the issuance's own.
        rw [tasks_play_turn htask] at hfound
        split at hfound
        · rename_i hplace
          refine .inr ⟨[], _, before, rfl, hplace.symm, ?_⟩
          exact (Option.some.inj hfound).symm
        · rename_i hplace
          refine .inl ⟨fun u hu => ?_, hfound⟩
          rcases List.mem_cons.1 hu with rfl | hu
          · exact Ne.symm hplace
          · exact hnone u hu
      · exact .inr ⟨_ :: earlier, r, later, rfl, hplace, htask'⟩

/-- The first turn that an issuance still has starts where it stands. -/
theorem next_turn {place : Nat} {task : Task} (htask : crowd.tasks[place]? = some task)
    (h : ∃ t ∈ history settings moves crowd, t.place = place) :
    ∃ t ∈ history settings moves crowd, t.place = place ∧ t.task = task := by
  induction moves, crowd using schedule_induction settings with
  | nil crowd => simp [history] at h
  | meanwhile action moves crowd ih => exact ih htask h
  | vacant place' moves crowd htask' ih =>
    rw [history_turn_of_none htask'] at h ⊢
    exact ih htask h
  | turn place' task' moves crowd htask' ih =>
    rw [history_turn_of_some htask'] at h ⊢
    by_cases hp : place = place'
    · subst hp
      cases htask.symm.trans htask'
      exact ⟨_, List.mem_cons_self, rfl, rfl⟩
    · obtain ⟨t, ht, rfl⟩ := h
      have ht := (List.mem_cons.1 ht).resolve_left (by rintro rfl; exact hp rfl)
      have hstill := (tasks_play_turn_of_ne settings crowd hp).trans htask
      obtain ⟨s, hs, hrest⟩ := ih hstill ⟨t, ht, rfl⟩
      exact ⟨s, List.mem_cons_of_mem _ hs, hrest⟩

end

/-! ## Settling on a code -/

section
variable {settings : IssuingSettings} {crowd : Crowd (World Memory)}

/-- What has settled stays settled, whatever moves are made. -/
theorem settled_play {place : Nat} (move : Move)
    (h : ∃ task, crowd.tasks[place]? = some task ∧ Settled task.stage) :
    ∃ task, (move.play settings crowd).tasks[place]? = some task ∧ Settled task.stage := by
  obtain ⟨task, htask, hs⟩ := h
  rcases move_cases settings crowd move with ⟨action, rfl⟩ | hsame | ⟨place', task', rfl, htask'⟩
  · exact ⟨task, htask, hs⟩
  · rw [hsame]
    exact ⟨task, htask, hs⟩
  · rw [tasks_play_turn htask']
    by_cases hp : place = place'
    · subst hp
      cases htask.symm.trans htask'
      rw [if_pos rfl]
      exact ⟨_, rfl, ((Turn.turned_of settings crowd place task).settled hs).1⟩
    · rw [if_neg hp]
      exact ⟨task, htask, hs⟩

/-- Nobody settles who has settled before. -/
theorem not_resolves_of_settled {place : Nat} {moves : List Move}
    (h : ∃ task, crowd.tasks[place]? = some task ∧ Settled task.stage) :
    ∀ t ∈ history settings moves crowd, t.place = place → ∀ e, ¬t.Resolves e := by
  rintro t ht rfl e ⟨hnone, hcode, -⟩
  obtain ⟨crowd', place, task, ⟨task', htask', hs⟩, htask, rfl⟩ :=
    (history_induction (fun _ => True)
      (fun crowd => ∃ task, crowd.tasks[t.place]? = some task ∧ Settled task.stage)
      (fun _ move hknown _ => settled_play move hknown) (fun _ _ => trivial) h).2 t ht
  cases htask'.symm.trans htask
  rw [((Turn.turned_of settings crowd' place task).settled hs).2 hnone] at hcode
  cases hcode

/-- An issuance settles on a code once. -/
theorem resolves_once (settings : IssuingSettings) (moves : List Move)
    (crowd : Crowd (World Memory)) :
    (history settings moves crowd).Pairwise fun t t' =>
      t.place = t'.place → ∀ e e', ¬(t.Resolves e ∧ t'.Resolves e') := by
  refine history_pairwise (fun _ => True) _ ?_ (fun _ _ => trivial) crowd
  intro crowd place task moves htask _ t ht hplace e e' hboth
  have hsettled : Settled (Turn.of settings crowd place task).progress.stage :=
    .inl (by simp [hboth.1.2.1])
  exact not_resolves_of_settled ⟨_, task_play_turn settings htask, hsettled⟩ t ht hplace.symm e'
    hboth.2

/-- Whoever has settled on a code did so in one of the turns. -/
def Traced (turns : List Turn) (crowd : Crowd (World Memory)) : Prop :=
  ∀ place task code, crowd.tasks[place]? = some task → task.stage.code? = some code →
    ∃ r ∈ turns, r.Settles place task.email code

theorem traced_gather (emails : List String) (w : World Memory) :
    Traced [] (Crowd.gather emails w) := by
  intro place task code htask hcode
  simp only [Crowd.gather, List.getElem?_map, Option.map_eq_some_iff] at htask
  obtain ⟨email, -, rfl⟩ := htask
  cases hcode

theorem Traced.meanwhile {turns : List Turn} (h : Traced turns crowd) (action : Action) :
    Traced turns (Move.play settings crowd (.meanwhile action)) := h

theorem Traced.turn {turns : List Turn} {place : Nat} {task : Task} (h : Traced turns crowd)
    (htask : crowd.tasks[place]? = some task) :
    Traced (turns ++ [Turn.of settings crowd place task])
      (Move.play settings crowd (.turn place)) := by
  intro place' task' code htask' hcode
  -- Only the issuance that had the turn can have settled on anything new.
  rw [tasks_play_turn htask] at htask'
  by_cases hp : place' = place
  · subst hp
    rw [if_pos rfl] at htask'
    cases htask'
    rcases (Turn.turned_of settings crowd place' task).code? hcode with hold | ⟨hnone, e, he, hv⟩
    · obtain ⟨r, hr, hsettles⟩ := h place' task code htask hold
      exact ⟨r, List.mem_append_left _ hr, hsettles⟩
    · subst hv
      exact ⟨_, List.mem_append_right _ List.mem_cons_self, rfl, rfl, e, ⟨hnone, hcode, he⟩, rfl⟩
  · rw [if_neg hp] at htask'
    obtain ⟨r, hr, hsettles⟩ := h place' task' code htask' hcode
    exact ⟨r, List.mem_append_left _ hr, hsettles⟩

/-- Whatever code a turn starts with, one of the turns before it was where the issuance settled on
it. -/
theorem Traced.history {moves : List Move} {turns before after : List Turn} {t : Turn}
    {code : String} (h : Traced turns crowd)
    (hsplit : history settings moves crowd = before ++ t :: after)
    (hcode : t.task.stage.code? = some code) :
    ∃ r ∈ turns ++ before, r.Settles t.place t.task.email code := by
  induction moves, crowd using schedule_induction settings generalizing turns before with
  | nil crowd => cases before <;> cases hsplit
  | meanwhile action moves crowd ih => exact ih (h.meanwhile action) hsplit
  | vacant place moves crowd htask ih =>
    rw [history_turn_of_none htask] at hsplit
    exact ih h hsplit
  | turn place task moves crowd htask ih =>
    rw [history_turn_of_some htask] at hsplit
    cases before with
    | nil =>
      obtain ⟨rfl, -⟩ := List.cons.inj hsplit
      obtain ⟨r, hr, hsettles⟩ := h place task code htask hcode
      exact ⟨r, List.mem_append_left _ hr, hsettles⟩
    | cons first before =>
      obtain ⟨rfl, hrest⟩ := List.cons.inj hsplit
      obtain ⟨r, hr, hsettles⟩ := ih (h.turn htask) hrest
      rw [List.append_assoc] at hr
      exact ⟨r, hr, hsettles⟩

/-- Every mail carries the code that its issuance has settled on. -/
theorem mailed_history (emails : List String) (start : World Memory) {moves : List Move}
    {before after : List Turn} {t : Turn}
    (hsplit : history settings moves (Crowd.gather emails start) = before ++ t :: after)
    {mail : Mail} (hmail : mail ∈ t.mails) :
    ∃ r ∈ before, ∃ code, r.Settles t.place t.task.email code ∧
      mail = Mail.ofCode t.task.email code := by
  have ht : t ∈ history settings moves (Crowd.gather emails start) :=
    hsplit ▸ List.mem_append_right _ List.mem_cons_self
  obtain ⟨code, hcode, rfl⟩ := (Turn.turned_of_mem ht).mail hmail
  obtain ⟨r, hr, hsettles⟩ := (traced_gather emails start).history hsplit hcode
  exact ⟨r, hr, code, hsettles, rfl⟩

end

end Rehearsal

end MailCode
