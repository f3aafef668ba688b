import MailCode.Proofs.Rehearsal.Schedule
/-!
# Issuances for one address converge on one code

With `setIfAbsent` a live code is never overwritten, so an entry, once it is there, stays until it
expires: `Reserves` says this of a world, and every move keeps it. Whoever settles on a code
settles on the one that is live, hence everybody who does so in the lifetime of one entry mails
the same code, however the turns are interleaved and whatever the clock does between them.
-/

namespace MailCode.Rehearsal

open Issuance World

variable {settings : IssuingSettings} {crowd : Crowd (World Memory)} {email : String} {e : Entry}
  {w w' : World Memory}

/-- An action that writes nothing under the key of a code. -/
def Action.SparesCodes : Action → Prop
  | .issue _ | .issueTogether .. => False
  | .direct action => ∀ email, action.target? ≠ some (CodeKey.ofAddress email)
  | _ => True

/-- A move by which nobody writes a code but the crowd. -/
def Move.SparesCodes : Move → Prop
  | .turn _ => True
  | .meanwhile action => action.SparesCodes

/-! ## An entry stays until it expires -/

/-- An entry is there unless it has expired. -/
def World.Reserves (w : World Memory) (email : String) (e : Entry) : Prop :=
  w.now < e.expiresAt → w.record? email = some e

theorem World.lt_of_record? (h : w.record? email = some e) : w.now < e.expiresAt :=
  of_decide_eq_true (Memory.isLive_of_live? h)

/-- Time has passed, and the entries that have not expired are still there. -/
structure World.Ages (w w' : World Memory) : Prop where
  now : w.now ≤ w'.now
  record : ∀ email, w'.record? email = (w.record? email).filter (·.isLive w'.now)

theorem World.ages_of_record?_eq (hnow : w'.now = w.now)
    (hrecord : ∀ email, w'.record? email = w.record? email) : w.Ages w' := by
  refine ⟨Nat.le_of_eq hnow.symm, fun email => ?_⟩
  rw [hrecord, hnow]
  exact Memory.live?_later (Nat.le_refl w.now) w.cache (CodeKey.ofAddress email)

theorem World.Quiet.ages (h : w.Quiet w') : w.Ages w' :=
  ages_of_record?_eq h.now h.record?_eq

theorem World.Reserves.ages (h : w.Reserves email e) (hages : w.Ages w') : w'.Reserves email e := by
  intro hlt
  rw [hages.record, h (Nat.lt_of_le_of_lt hages.now hlt)]
  exact Option.filter_some_pos (decide_eq_true hlt)

theorem ages_of_sparesCodes {action : Action} (h : action.SparesCodes) (settings : IssuingSettings)
    (w : World Memory) : w.Ages (perform settings action w).world := by
  cases action with
  | issue email => cases h
  | issueTogether emails points => cases h
  | hasLiveCode email =>
    exact (quiet_ask w.faults.contains w (CodeKey.ofAddress email) _).ages
  | codeTimeLeft email =>
    exact (quiet_ask w.faults.timeLeft w (CodeKey.ofAddress email) _).ages
  | cacheHealthy => exact (quiet_cacheHealthy w).ages
  | rig change | setMailboxFailing failing | resetMailbox =>
    exact ages_of_record?_eq rfl fun _ => rfl
  | wait duration =>
    have hle : w.now ≤ w.now + duration := Nat.le_add_right _ _
    exact ⟨hle, fun email => Memory.live?_later hle w.cache (CodeKey.ofAddress email)⟩
  | direct action =>
    exact ages_of_record?_eq rfl fun email => Memory.live?_perform_of_ne (h email) w.now w.cache

/-- No turn takes the place of a live entry. -/
theorem World.Reserves.turned {email' : String} {stage : Stage} {p : Progress (World Memory)}
    (h : w.Reserves email e) (hturn : Turned .setIfAbsent email' w stage p) :
    p.state.Reserves email e := by
  cases hturn with
  | hit _ hquiet | missed _ hquiet | lost _ _ hquiet | ended _ _ _ hquiet _ =>
    exact h.ages hquiet.ages
  | handedOver => exact h
  | inserted hfree hbecomes =>
    intro hlt
    -- For the entry's own address the write would have found the entry.
    have hrecord := h (hbecomes.now ▸ hlt)
    rw [hbecomes.record?_withCode]
    by_cases he : email = email'
    · subst he
      rw [hfree rfl] at hrecord
      cases hrecord
    · rw [if_neg he]
      exact hrecord

theorem now_le_play {move : Move} (hspares : move.SparesCodes) :
    crowd.state.now ≤ (move.play settings crowd).state.now := by
  rcases move_cases settings crowd move with ⟨action, rfl⟩ | hsame | ⟨place, task, rfl, htask⟩
  · exact (ages_of_sparesCodes hspares settings crowd.state).now
  · exact Nat.le_of_eq (by rw [hsame])
  · have hnow := (Turn.turned_of settings crowd place task).now_eq
    rw [← state_play_turn htask] at hnow
    exact Nat.le_of_eq hnow.symm

theorem reserves_play_move (hstrategy : settings.strategy = .setIfAbsent) {move : Move}
    (hspares : move.SparesCodes) (h : crowd.state.Reserves email e) :
    (move.play settings crowd).state.Reserves email e := by
  rcases move_cases settings crowd move with ⟨action, rfl⟩ | hsame | ⟨place, task, rfl, htask⟩
  · exact h.ages (ages_of_sparesCodes hspares settings crowd.state)
  · rwa [hsame]
  · have hturn := Turn.turned_of settings crowd place task
    rw [hstrategy] at hturn
    rw [state_play_turn htask]
    exact h.turned hturn

/-- What is reserved stays so in the course of any moves. -/
theorem history_reserves (hstrategy : settings.strategy = .setIfAbsent) {moves : List Move}
    (hspares : ∀ move ∈ moves, move.SparesCodes) (h : crowd.state.Reserves email e) :
    (play settings moves crowd).state.Reserves email e ∧
      ∀ t ∈ history settings moves crowd, t.world.Reserves email e := by
  obtain ⟨hend, hturns⟩ := history_induction Move.SparesCodes
    (fun crowd => crowd.state.Reserves email e)
    (fun _ _ hknown hmove => reserves_play_move hstrategy hmove hknown) hspares h
  refine ⟨hend, fun t ht => ?_⟩
  obtain ⟨crowd', place, task, hknown, -, rfl⟩ := hturns t ht
  exact hknown

theorem now_le_history {moves : List Move} (hspares : ∀ move ∈ moves, move.SparesCodes) :
    ∀ t ∈ history settings moves crowd, crowd.state.now ≤ t.world.now := by
  intro t ht
  obtain ⟨crowd', place, task, hknown, -, rfl⟩ := (history_induction Move.SparesCodes
    (fun later => crowd.state.now ≤ later.state.now)
    (fun _ _ hknown hmove => Nat.le_trans hknown (now_le_play hmove)) hspares
    (Nat.le_refl _)).2 t ht
  exact hknown

/-- An entry that is there after a turn is there until it expires. -/
theorem reserves_of_mem (hstrategy : settings.strategy = .setIfAbsent) {moves : List Move}
    (hspares : ∀ move ∈ moves, move.SparesCodes) {t : Turn}
    (ht : t ∈ history settings moves crowd) (hrecord : t.progress.state.record? email = some e) :
    (play settings moves crowd).state.Reserves email e := by
  induction moves, crowd using schedule_induction settings with
  | nil crowd => cases ht
  | meanwhile action moves crowd ih =>
    exact ih (fun m hm => hspares m (List.mem_cons_of_mem _ hm)) ht
  | vacant place moves crowd htask ih =>
    rw [history_turn_of_none htask] at ht
    rw [play_cons, play_turn_of_none htask]
    exact ih (fun m hm => hspares m (List.mem_cons_of_mem _ hm)) ht
  | turn place task moves crowd htask ih =>
    have hmoves : ∀ m ∈ moves, m.SparesCodes := fun m hm => hspares m (List.mem_cons_of_mem _ hm)
    rw [history_turn_of_some htask] at ht
    rcases List.mem_cons.1 ht with rfl | ht
    · rw [← state_play_turn htask] at hrecord
      exact (history_reserves hstrategy hmoves fun _ => hrecord).1
    · exact ih hmoves ht

/-! ## Convergence -/

/-- What holds of the turns between two moments, however they are interleaved. -/
structure Converges (start : World Memory) (turns : List Turn) (final : World Memory) : Prop where
  /-- The codes that are written for an address are written a lifetime apart, -/
  apart : turns.Pairwise fun t t' => t.Inserts → t'.Inserts → t.task.email = t'.task.email →
    t.world.now + 600 * 1000 ≤ t'.world.now
  /-- and none while an entry from before is live. -/
  spared : ∀ t ∈ turns, t.Inserts → ∀ e, start.record? t.task.email = some e →
    e.expiresAt ≤ t.world.now
  /-- An issuance settles on a code once, -/
  once : turns.Pairwise fun t t' => t.place = t'.place → ∀ e e', ¬(t.Resolves e ∧ t'.Resolves e')
  /-- and every mail carries the code that its issuance has settled on. -/
  mailed : ∀ before t after, turns = before ++ t :: after → ∀ mail ∈ t.mails,
    ∃ r ∈ before, ∃ code, r.Settles t.place t.task.email code ∧
      mail = Mail.ofCode t.task.email code
  /-- Those who settle before an entry expires that another has settled on settle on it too. -/
  same : turns.Pairwise fun t t' => ∀ e e', t.Resolves e → t'.Resolves e' →
    t.task.email = t'.task.email → t'.world.now < e.expiresAt → e' = e
  /-- While the clock stands still all mails to an address carry the code that is live at the
  end. -/
  still : final.now = start.now → ∀ t ∈ turns, ∀ mail ∈ t.mails,
    ∃ e, final.record? t.task.email = some e ∧ mail = Mail.ofCode t.task.email e.value

theorem apart_history (hstrategy : settings.strategy = .setIfAbsent) {moves : List Move}
    (hspares : ∀ move ∈ moves, move.SparesCodes) (crowd : Crowd (World Memory)) :
    (history settings moves crowd).Pairwise fun t t' => t.Inserts → t'.Inserts →
      t.task.email = t'.task.email → t.world.now + 600 * 1000 ≤ t'.world.now := by
  refine history_pairwise Move.SparesCodes _ ?_ hspares crowd
  rintro crowd place task moves htask hmoves t ht ⟨hstage, code, hcode⟩ ⟨hstage', code', hcode'⟩
    hemail
  have hturn := Turn.turned_of settings crowd place task
  have hturn' := Turn.turned_of_mem ht
  rw [show task.stage = _ from hstage] at hturn
  rw [hstage'] at hturn'
  have hrecord := (hturn.record?_of_inserted hcode).2
  have hfree := (hturn'.record?_of_inserted hcode').1 hstrategy
  rw [← state_play_turn htask] at hrecord
  have hreserves := (history_reserves hstrategy hmoves fun _ => hrecord).2 t ht
  by_contra hlt
  have hlive := hreserves (Nat.lt_of_not_le hlt)
  rw [show task.email = _ from hemail, hfree] at hlive
  cases hlive

theorem spared_history (hstrategy : settings.strategy = .setIfAbsent) {moves : List Move}
    (hspares : ∀ move ∈ moves, move.SparesCodes) {t : Turn}
    (ht : t ∈ history settings moves crowd) (hinserts : t.Inserts)
    (hrecord : crowd.state.record? t.task.email = some e) : e.expiresAt ≤ t.world.now := by
  obtain ⟨hstage, code, hcode⟩ := hinserts
  have hturn := Turn.turned_of_mem ht
  rw [hstage] at hturn
  have hfree := (hturn.record?_of_inserted hcode).1 hstrategy
  have hreserves := (history_reserves hstrategy hspares fun _ => hrecord).2 t ht
  by_contra hlt
  have hlive := hreserves (Nat.lt_of_not_le hlt)
  rw [hfree] at hlive
  cases hlive

theorem same_history (hstrategy : settings.strategy = .setIfAbsent) {moves : List Move}
    (hspares : ∀ move ∈ moves, move.SparesCodes) (crowd : Crowd (World Memory)) :
    (history settings moves crowd).Pairwise fun t t' => ∀ e e', t.Resolves e → t'.Resolves e' →
      t.task.email = t'.task.email → t'.world.now < e.expiresAt → e' = e := by
  refine history_pairwise Move.SparesCodes _ ?_ hspares crowd
  rintro crowd place task moves htask hmoves t ht e e' ⟨-, -, hrecord⟩ ⟨-, -, hrecord'⟩ hemail hlt
  rw [← state_play_turn htask] at hrecord
  have hreserves := (history_reserves hstrategy hmoves fun _ => hrecord).2 t ht
  have hturn := Turn.turned_of_mem ht
  rw [hstrategy] at hturn
  have hlive := hreserves.turned hturn (hturn.now_eq ▸ hlt)
  rw [hemail, hrecord'] at hlive
  cases hlive
  rfl

/-- What somebody has settled on is live at the end if no time has passed. -/
theorem still_history (hstrategy : settings.strategy = .setIfAbsent) {moves : List Move}
    (hspares : ∀ move ∈ moves, move.SparesCodes)
    (hstill : (play settings moves crowd).state.now = crowd.state.now) {r : Turn}
    (hr : r ∈ history settings moves crowd) (hresolves : r.Resolves e) :
    (play settings moves crowd).state.record? r.task.email = some e := by
  obtain ⟨-, -, hrecord⟩ := hresolves
  have hle := now_le_history hspares r hr
  have hnow := (Turn.turned_of_mem hr).now_eq
  have hlive := lt_of_record? hrecord
  have hlt : crowd.state.now < e.expiresAt := by omega
  exact reserves_of_mem hstrategy hspares hr hrecord (hstill ▸ hlt)

/-- With `setIfAbsent` the issuances of a crowd converge, whatever the cache holds at the start,
whichever faults are set, in whatever order they have their turns and however much time passes
between them, as long as nobody else writes codes. -/
theorem setIfAbsent_converges (settings : IssuingSettings)
    (hstrategy : settings.strategy = .setIfAbsent) (emails : List String) (start : World Memory)
    (moves : List Move) (hspares : ∀ move ∈ moves, move.SparesCodes) :
    let crowd := Crowd.gather emails start
    let turns := history settings moves crowd
    (play settings moves crowd).calls = turns.flatMap (·.progress.calls) ∧
      Converges start turns (play settings moves crowd).state := by
  intro crowd turns
  refine ⟨play_calls settings moves crowd, ?_⟩
  constructor
  case apart => exact apart_history hstrategy hspares crowd
  case spared =>
    intro t ht hinserts e hrecord
    exact spared_history hstrategy hspares ht hinserts hrecord
  case once => exact resolves_once settings moves crowd
  case mailed =>
    intro before t after hsplit mail hmail
    exact mailed_history emails start hsplit hmail
  case same => exact same_history hstrategy hspares crowd
  case still =>
    intro hstill t ht mail hmail
    obtain ⟨before, after, hsplit⟩ := List.append_of_mem ht
    obtain ⟨r, hr, code, ⟨-, hemail, e, hresolves, rfl⟩, rfl⟩ :=
      mailed_history emails start hsplit hmail
    have hr : r ∈ turns := hsplit ▸ List.mem_append_left _ hr
    have hend := still_history hstrategy hspares hstill hr hresolves
    rw [hemail] at hend
    exact ⟨e, hend, rfl⟩

/-- Two issuances that both missed: the second one to write was late by one millisecond less than a
lifetime, and mails the code of the first. -/
theorem setIfAbsent_converges_after_race :
    let settings : IssuingSettings := ⟨.setIfAbsent, .strict⟩
    let start : World Memory :=
      .fresh .empty (fun n => if n = 0 then "1234" else "5678") fun _ => "id"
    let moves : List Move := [.turn 0, .turn 1, .turn 1, .meanwhile (.wait 599999), .turn 0,
      .turn 0, .turn 1]
    let crowd := Crowd.gather ["a", "a"] start
    (∀ move ∈ moves, move.SparesCodes) ∧
      (history settings moves crowd).flatMap Turn.mails =
        [Mail.ofCode "a" "1234", Mail.ofCode "a" "1234"] ∧
      Converges start (history settings moves crowd) (play settings moves crowd).state := by
  intro settings start moves crowd
  have hspares : ∀ move ∈ moves, move.SparesCodes := by
    simp [moves, Move.SparesCodes, Action.SparesCodes]
  refine ⟨hspares, by decide +kernel, ?_⟩
  exact (setIfAbsent_converges settings rfl ["a", "a"] start moves hspares).2

end MailCode.Rehearsal
