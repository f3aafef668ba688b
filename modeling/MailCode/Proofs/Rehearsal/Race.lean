import Mathlib.Data.List.Pairwise
import MailCode.Proofs.Rehearsal.Schedule
/-!
# The race between a check and a set

Without `setIfAbsent` an issuance that found no live code writes its own, whatever has been written
since it looked. So issuances that all looked before the first of them wrote overwrite each other's
codes, and each of them mails its own; who looks later mails the code that was written last by then.
`Races` says so, `Undisturbed` says that none of this happens where a code was live to begin with.

Both rest on two facts about turns: what is live is what was written last (`record?_play`), and a
turn starts where the issuance's last turn has left it (`previous_turn`).
-/

namespace MailCode

/-- The code that an issuance has just written. -/
def Issuance.Stage.written? : Stage → Option String
  | .written code (.ok .inserted) => some code
  | _ => none

namespace Rehearsal

open Issuance World

/-- The code that the turn wrote for an address. -/
def Turn.written? (email : String) (t : Turn) : Option String :=
  if t.task.email = email then t.progress.stage.written? else none

/-- The code that was written last for an address. -/
def lastWritten? (email : String) : List Turn → Option String
  | [] => none
  | t :: turns => (lastWritten? email turns).or (t.written? email)

/-- The entry that holds a code which was written at the given moment. -/
def codeEntry (now : Nat) (code : String) : Entry :=
  ⟨code, now + codeLifetime * 1000⟩

/-- Some turns were taken before the issuance at a place looked its address up. -/
def LooksUpAfter (turns : List Turn) (place : Nat) (earlier : List Turn) : Prop :=
  ∃ r later, turns = earlier ++ r :: later ∧ r.place = place ∧ r.task.stage = .start

/-- What becomes of the issuances for an address whose code is live from the start. -/
structure Undisturbed (email : String) (e : Entry) (turns : List Turn)
    (final : Crowd (World Memory)) : Prop where
  /-- Nobody writes a code for it, or tries to, -/
  spared : ∀ code lifetime, .store (CodeKey.ofAddress email) code lifetime ∉ final.calls
  /-- so the entry stays, -/
  stays : (∀ t ∈ turns, t.world.record? email = some e) ∧ final.state.record? email = some e
  /-- and all mails carry its code. -/
  mailed : ∀ t ∈ turns, t.task.email = email → ∀ mail ∈ t.mails, mail = Mail.ofCode email e.value

/-- What becomes of the issuances for an address that has no live code at the start, at the moment
`now`. -/
structure Races (email : String) (now : Nat) (turns : List Turn) (final : Crowd (World Memory)) :
    Prop where
  /-- At every turn the code is live that was written last, -/
  live : ∀ before t after, turns = before ++ t :: after →
    t.world.record? email = (lastWritten? email before).map (codeEntry now)
  /-- and so it is at the end. -/
  final : final.state.record? email = (lastWritten? email turns).map (codeEntry now)
  /-- An issuance looks its address up once. -/
  once : ∀ place earlier earlier', LooksUpAfter turns place earlier →
    LooksUpAfter turns place earlier' → earlier = earlier'
  /-- Whoever writes has looked before anybody wrote, -/
  early : ∀ w ∈ turns, ∀ code, w.written? email = some code →
    ∃ earlier, LooksUpAfter turns w.place earlier ∧ lastWritten? email earlier = none
  /-- mails no code but its own, -/
  own : ∀ w ∈ turns, ∀ code, w.written? email = some code →
    ∀ t ∈ turns, t.place = w.place → ∀ mail ∈ t.mails, mail = Mail.ofCode email code
  /-- and does mail it as soon as it has another turn. -/
  mails : ∀ before w after code, turns = before ++ w :: after → w.written? email = some code →
    (∃ t ∈ after, t.place = w.place) →
      ∃ t ∈ after, t.place = w.place ∧ t.mails = [Mail.ofCode email code]
  /-- Everybody else mails the code that was written last before they looked. -/
  others : ∀ t ∈ turns, t.task.email = email →
    (∀ w ∈ turns, w.place = t.place → w.written? email = none) →
    ∀ mail ∈ t.mails, ∃ earlier code, LooksUpAfter turns t.place earlier ∧
      lastWritten? email earlier = some code ∧ mail = Mail.ofCode email code
  /-- In any case a code that is mailed was the live one at an earlier turn of the same issuance. -/
  wasLive : ∀ before t after, turns = before ++ t :: after → t.task.email = email →
    ∀ mail ∈ t.mails, ∃ r ∈ before, r.place = t.place ∧
      ∃ e, r.progress.state.record? email = some e ∧ mail = Mail.ofCode email e.value

variable {settings : IssuingSettings} {crowd : Crowd (World Memory)} {email : String}

/-! ## The live code is the one written last -/

/-- What a turn leaves live. -/
theorem Turned.record?_eq {strategy : Strategy} {email' : String} {w : World Memory} {stage : Stage}
    {p : Progress (World Memory)} (h : Turned strategy email' w stage p) (email : String) :
    p.state.record? email =
      ((if email' = email then p.stage.written? else none).map (codeEntry w.now)).or
        (w.record? email) := by
  cases h with
  | hit _ hquiet | missed _ hquiet | lost _ _ hquiet =>
    simp [Stage.written?, hquiet.record?_eq]
  | handedOver => simp [Stage.written?]
  | @inserted code w' events hfree hbecomes =>
    rw [hbecomes.record?_withCode]
    by_cases he : email' = email
    · simp [he, Stage.written?, codeEntry]
    · simp [he, Ne.symm he]
  | @ended _ p hcode _ _ hquiet _ =>
    have hnone : p.stage.written? = none := by
      unfold Stage.written?
      split
      · rename_i hstage
        rw [hstage] at hcode
        cases hcode
      · rfl
    simp [hnone, hquiet.record?_eq]

/-- As long as nothing happens but turns, the clock stands still, -/
theorem now_play (places : List Nat) :
    (play settings (places.map .turn) crowd).state.now = crowd.state.now := by
  induction places generalizing crowd with
  | nil => rfl
  | cons place places ih =>
    rw [List.map_cons, play_cons, ih]
    cases htask : crowd.tasks[place]? with
    | none => rw [play_turn_of_none htask]
    | some task =>
      rw [state_play_turn htask]
      exact (Turn.turned_of settings crowd place task).now_eq

/-- and the live code of an address is the one that was written last. -/
theorem record?_play (places : List Nat) (email : String) :
    (play settings (places.map .turn) crowd).state.record? email =
      ((lastWritten? email (history settings (places.map .turn) crowd)).map
        (codeEntry crowd.state.now)).or (crowd.state.record? email) := by
  induction places generalizing crowd with
  | nil => rfl
  | cons place places ih =>
    rw [List.map_cons, play_cons, ih]
    cases htask : crowd.tasks[place]? with
    | none => rw [play_turn_of_none htask, history_turn_of_none htask]
    | some task =>
      have hturn := Turn.turned_of settings crowd place task
      rw [history_turn_of_some htask, lastWritten?, Option.map_or, Option.or_assoc,
        state_play_turn htask, hturn.now_eq, hturn.record?_eq]
      rfl

theorem record?_of_split {places : List Nat} {before after : List Turn} {t : Turn}
    (h : history settings (places.map .turn) crowd = before ++ t :: after) (email : String) :
    t.world.record? email =
      ((lastWritten? email before).map (codeEntry crowd.state.now)).or
        (crowd.state.record? email) := by
  obtain ⟨earlier, later, hmoves, rfl, -, ht, -⟩ := history_split h
  obtain ⟨places', -, -, rfl, -⟩ := List.map_eq_append_iff.1 hmoves
  rw [ht, ← record?_play]
  rfl

theorem lastWritten?_eq_none {turns : List Turn} (h : ∀ t ∈ turns, t.written? email = none) :
    lastWritten? email turns = none := by
  induction turns with
  | nil => rfl
  | cons t turns ih =>
    rw [lastWritten?, h t List.mem_cons_self, ih fun u hu => h u (List.mem_cons_of_mem _ hu)]
    rfl

/-! ## How an issuance has come where it is -/

section
variable {strategy : Strategy} {w : World Memory} {stage : Stage} {p : Progress (World Memory)}

/-- Only a lookup tells that there is no live code. -/
theorem Turned.of_missed (h : Turned strategy email w stage p)
    (hp : p.stage = .lookedUp (.ok none)) : stage = .start ∧ w.record? email = none := by
  cases h with
  | hit | inserted | lost | handedOver => cases hp
  | missed hnone => exact ⟨rfl, hnone⟩
  | ended _ hother => exact absurd hp hother

/-- Only who knows of no live code writes one. -/
theorem Turned.of_inserted {code : String} (h : Turned strategy email w stage p)
    (hp : p.stage = .written code (.ok .inserted)) : stage = .lookedUp (.ok none) := by
  cases h with
  | hit | missed | lost | handedOver => cases hp
  | inserted => rfl
  | ended hcode =>
    rw [hp] at hcode
    cases hcode

/-- Without `setIfAbsent` a code that is settled on was found or has just been written. -/
theorem Turned.of_resolved {code : String} (h : Turned .checkThenSet email w stage p)
    (hnone : stage.code? = none) (hcode : p.stage.code? = some code) :
    (stage = .start ∧ ∃ e, w.record? email = some e ∧ e.value = code) ∨
      p.stage = .written code (.ok .inserted) := by
  cases h with
  | @hit e w' events hrecord =>
    cases hcode
    exact .inl ⟨rfl, e, hrecord, rfl⟩
  | missed => cases hcode
  | inserted =>
    cases hcode
    exact .inr rfl
  | lost hstrategy => cases hstrategy
  | handedOver hstage =>
    rw [hnone] at hstage
    cases hstage
  | ended hended =>
    rw [hended] at hcode
    cases hcode

end

/-- No step leads back to the start. -/
theorem step_stage_ne_start (settings : IssuingSettings) (email : String) (stage : Stage)
    (w : World Memory) : (step cast settings email stage w).stage ≠ .start := by
  intro hstart
  have hleft := step_left_le cast settings email stage w
  have hle : stage.left ≤ 4 := by cases stage <;> simp [Stage.left]
  rw [hstart] at hleft
  simp only [Stage.left] at hleft hle
  omega

theorem create_calls (c : Collaborators (World Memory)) (strategy : Strategy) (email : String)
    (w : World Memory) :
    (create c strategy email w).calls = [.generate] ∨
      ∃ code, (create c strategy email w).calls = [.generate, writeCall strategy email code] := by
  unfold create
  dsimp only
  split
  · exact .inl rfl
  · exact .inl rfl
  · rename_i code _
    refine .inr ⟨code, ?_⟩
    split <;> rfl

/-- Only who knows of no live code tries to write one. -/
theorem step_of_store {code : String} {lifetime : Nat} {email' : String} {stage : Stage}
    {w : World Memory} (settings : IssuingSettings)
    (h : .store (CodeKey.ofAddress email) code lifetime ∈
      (step cast settings email' stage w).calls) :
    stage = .lookedUp (.ok none) ∧ email' = email := by
  cases stage with
  | start =>
    simp only [step, lookUp] at h
    split at h
    · simp [fail] at h
    · split at h <;> simp [fail] at h
  | lookedUp found =>
    rcases found with e | (_ | found)
    · simp [step, afterLookup, fail] at h
    · refine ⟨rfl, ?_⟩
      simp only [step, afterLookup] at h
      rcases create_calls cast settings.strategy email' w with hcalls | ⟨made, hcalls⟩
      · simp [hcalls] at h
      · simp only [hcalls, writeCall] at h
        cases hstrategy : settings.strategy with
        | checkThenSet =>
          simp only [hstrategy, List.mem_cons, Call.store.injEq, CodeKey.ofAddress_inj] at h
          simp_all
        | setIfAbsent => simp [hstrategy] at h
    · simp [step, afterLookup, handOver] at h
  | written code' outcome =>
    rcases outcome with e | (_ | winner) <;> simp [step, afterWrite, handOver, fail] at h
  | handedOver code' =>
    simp only [step, deliver_calls] at h
    cases h
  | done answer => simp [step] at h

section
variable {moves : List Move} {turns before after : List Turn} {t : Turn}

/-- A lookup is the first turn of its issuance. -/
theorem place_ne_of_start (h : history settings moves crowd = before ++ t :: after)
    (hstart : t.task.stage = .start) : ∀ u ∈ before, u.place ≠ t.place := by
  rcases previous_turn h with ⟨hnone, -⟩ | ⟨earlier, r, later, rfl, -, htask⟩
  · exact hnone
  · have hr : r ∈ history settings moves crowd := by simp [h]
    rw [htask, Turn.progress_of_mem hr] at hstart
    exact absurd hstart (step_stage_ne_start settings _ _ _)

theorem looksUpAfter_unique {place : Nat} {earlier earlier' : List Turn}
    (h : LooksUpAfter (history settings moves crowd) place earlier)
    (h' : LooksUpAfter (history settings moves crowd) place earlier') : earlier = earlier' := by
  obtain ⟨r, later, hsplit, hplace, hstart⟩ := h
  obtain ⟨r', later', hsplit', hplace', hstart'⟩ := h'
  -- Were one of the lookups before the other, the other would not be a first turn.
  rcases List.append_eq_append_iff.1 (hsplit.symm.trans hsplit') with
    ⟨middle, rfl, hrest⟩ | ⟨middle, rfl, hrest⟩
  · cases middle with
    | nil => simp
    | cons first middle =>
      obtain ⟨rfl, -⟩ := List.cons.inj hrest
      exact absurd (hplace.trans hplace'.symm) (place_ne_of_start hsplit' hstart' r (by simp))
  · cases middle with
    | nil => simp
    | cons first middle =>
      obtain ⟨rfl, -⟩ := List.cons.inj hrest
      exact absurd (hplace'.trans hplace.symm) (place_ne_of_start hsplit hstart r' (by simp))

/-- Who settles on a code does so in one turn only. -/
theorem resolves_unique {e e' : Entry} {u : Turn} (ht : t ∈ history settings moves crowd)
    (hu : u ∈ history settings moves crowd) (hplace : t.place = u.place) (hresolves : t.Resolves e)
    (hresolves' : u.Resolves e') : t = u := by
  by_contra hne
  have hsymm : Std.Symm fun t t' : Turn =>
      t.place = t'.place → ∀ e e', ¬(t.Resolves e ∧ t'.Resolves e') :=
    ⟨fun t t' h hplace e e' hboth => h hplace.symm e' e hboth.symm⟩
  exact (resolves_once settings moves crowd).forall ht hu hne hplace e e'
    ⟨hresolves, hresolves'⟩

/-- What is known of a turn that wrote a code. -/
theorem of_written? {code : String} (ht : t ∈ history settings moves crowd)
    (h : t.written? email = some code) :
    t.task.email = email ∧ t.task.stage = .lookedUp (.ok none) ∧
      t.progress.stage = .written code (.ok .inserted) ∧ ∃ e, t.Resolves e ∧ e.value = code := by
  have hturn := Turn.turned_of_mem ht
  obtain ⟨hemail, hwritten⟩ : t.task.email = email ∧ t.progress.stage.written? = some code := by
    simpa [Turn.written?] using h
  have hstage : t.progress.stage = .written code (.ok .inserted) := by
    unfold Stage.written? at hwritten
    split at hwritten
    · rename_i hstage
      cases hwritten
      exact hstage
    · cases hwritten
  have hmissed := hturn.of_inserted hstage
  refine ⟨hemail, hmissed, hstage, ⟨code, t.world.now + codeLifetime * 1000⟩, ?_, rfl⟩
  have hrecord := ((hmissed ▸ hturn).record?_of_inserted hstage).2
  exact ⟨by rw [hmissed]; rfl, by rw [hstage]; rfl, hrecord⟩

end

/-! ## Issuances from the start -/

section
variable {emails : List String} {start : World Memory} {places : List Nat}
  {before after : List Turn} {t : Turn}

/-- Who knows of no live code has looked, at a moment when there was none. -/
theorem looksUpAfter_of_missed
    (h : history settings (places.map .turn) (Crowd.gather emails start) = before ++ t :: after)
    (hmissed : t.task.stage = .lookedUp (.ok none)) :
    ∃ earlier r later, before = earlier ++ r :: later ∧ r.place = t.place ∧
      r.task.stage = .start ∧
      ((lastWritten? t.task.email earlier).map (codeEntry start.now)).or
        (start.record? t.task.email) = none := by
  rcases previous_turn h with ⟨-, hfound⟩ | ⟨earlier, r, later, rfl, hplace, htask⟩
  · simp only [Crowd.gather, List.getElem?_map, Option.map_eq_some_iff] at hfound
    obtain ⟨email, -, htask⟩ := hfound
    rw [← htask] at hmissed
    cases hmissed
  · have hsplit : history settings (places.map .turn) (Crowd.gather emails start) =
        earlier ++ r :: (later ++ t :: after) := by
      rw [h, List.append_assoc, List.cons_append]
    have hr : r ∈ history settings (places.map .turn) (Crowd.gather emails start) := by
      simp [hsplit]
    have hemail : t.task.email = r.task.email := by rw [htask]
    have hstage : r.progress.stage = .lookedUp (.ok none) := by rw [← hmissed, htask]
    obtain ⟨hstart, hnone⟩ := (Turn.turned_of_mem hr).of_missed hstage
    refine ⟨earlier, r, later, rfl, hplace, hstart, ?_⟩
    rw [hemail, ← hnone]
    exact (record?_of_split hsplit r.task.email).symm

/-- Who mails a code has found it, or has written it. -/
theorem mailed_cases (hstrategy : settings.strategy = .checkThenSet) {mail : Mail}
    (h : history settings (places.map .turn) (Crowd.gather emails start) = before ++ t :: after)
    (hmail : mail ∈ t.mails) :
    ∃ earlier r later code, before = earlier ++ r :: later ∧
      r.Settles t.place t.task.email code ∧ mail = Mail.ofCode t.task.email code ∧
      ((r.task.stage = .start ∧ ∃ e, e.value = code ∧
          ((lastWritten? t.task.email earlier).map (codeEntry start.now)).or
            (start.record? t.task.email) = some e) ∨
        r.written? t.task.email = some code) := by
  obtain ⟨r, hr, code, hsettles, hmail⟩ := mailed_history emails start h hmail
  obtain ⟨earlier, later, rfl⟩ := List.append_of_mem hr
  have hsplit : history settings (places.map .turn) (Crowd.gather emails start) =
      earlier ++ r :: (later ++ t :: after) := by
    rw [h, List.append_assoc, List.cons_append]
  have hr : r ∈ history settings (places.map .turn) (Crowd.gather emails start) := by
    simp [hsplit]
  have hturn := Turn.turned_of_mem hr
  rw [hstrategy] at hturn
  obtain ⟨-, hemail, e, ⟨hnone, hcode, -⟩, hvalue⟩ := id hsettles
  refine ⟨earlier, r, later, code, rfl, hsettles, hmail, ?_⟩
  -- The turn that settled on the code was the lookup, or it was the write.
  rcases hturn.of_resolved hnone hcode with ⟨hstart, e', hrecord, hvalue'⟩ | hwritten
  · refine .inl ⟨hstart, e', hvalue'.trans hvalue, ?_⟩
    rw [← hrecord, ← hemail]
    exact (record?_of_split hsplit r.task.email).symm
  · right
    rw [Turn.written?, if_pos hemail, hwritten, ← hvalue]
    rfl

theorem undisturbed (hstrategy : settings.strategy = .checkThenSet) {e : Entry}
    (hlive : start.record? email = some e) :
    Undisturbed email e (history settings (places.map .turn) (Crowd.gather emails start))
      (play settings (places.map .turn) (Crowd.gather emails start)) := by
  -- Every lookup finds the code, so nobody comes to write one.
  have hmissed : ∀ t ∈ history settings (places.map .turn) (Crowd.gather emails start),
      t.task.email = email → t.task.stage ≠ .lookedUp (.ok none) := by
    rintro t ht rfl hstage
    obtain ⟨before, after, hsplit⟩ := List.append_of_mem ht
    obtain ⟨earlier, -, -, -, -, -, hnone⟩ := looksUpAfter_of_missed hsplit hstage
    rw [hlive] at hnone
    cases Option.or_eq_none_iff.1 hnone |>.2
  have hwritten : ∀ t ∈ history settings (places.map .turn) (Crowd.gather emails start),
      t.written? email = none := by
    intro t ht
    by_contra hsome
    obtain ⟨code, hcode⟩ := Option.ne_none_iff_exists'.1 hsome
    obtain ⟨hemail, hstage, -⟩ := of_written? ht hcode
    exact hmissed t ht hemail hstage
  constructor
  case spared =>
    intro code lifetime hmem
    rw [play_calls] at hmem
    obtain ⟨t, ht, hcall⟩ := List.mem_flatMap.1 (by simpa [Crowd.gather] using hmem)
    rw [Turn.progress_of_mem ht] at hcall
    obtain ⟨hstage, hemail⟩ := step_of_store settings hcall
    exact hmissed t ht hemail hstage
  case stays =>
    refine ⟨fun t ht => ?_, ?_⟩
    · obtain ⟨before, after, hsplit⟩ := List.append_of_mem ht
      have hnone : lastWritten? email before = none :=
        lastWritten?_eq_none fun u hu => hwritten u (by simp [hsplit, hu])
      rw [record?_of_split hsplit, hnone]
      exact hlive
    · rw [record?_play, lastWritten?_eq_none hwritten]
      exact hlive
  case mailed =>
    rintro t ht rfl mail hmail
    obtain ⟨before, after, hsplit⟩ := List.append_of_mem ht
    obtain ⟨earlier, r, later, code, rfl, -, rfl, ⟨-, e', rfl, hfound⟩ | hcode⟩ :=
      mailed_cases hstrategy hsplit hmail
    · have hnone : lastWritten? t.task.email earlier = none :=
        lastWritten?_eq_none fun u hu => hwritten u (by simp [hsplit, hu])
      rw [hnone, hlive] at hfound
      cases hfound
      rfl
    · rw [hwritten r (by simp [hsplit])] at hcode
      cases hcode

theorem races (hstrategy : settings.strategy = .checkThenSet)
    (hfree : start.record? email = none) :
    Races email start.now (history settings (places.map .turn) (Crowd.gather emails start))
      (play settings (places.map .turn) (Crowd.gather emails start)) := by
  constructor
  case live =>
    intro before t after hsplit
    rw [record?_of_split hsplit]
    exact (congrArg _ hfree).trans Option.or_none
  case final =>
    rw [record?_play]
    exact (congrArg _ hfree).trans Option.or_none
  case once =>
    intro place earlier earlier' h h'
    exact looksUpAfter_unique h h'
  case early =>
    intro w hw code hcode
    obtain ⟨before, after, hsplit⟩ := List.append_of_mem hw
    obtain ⟨rfl, hstage, -⟩ := of_written? hw hcode
    obtain ⟨earlier, r, later, rfl, hplace, hstart, hnone⟩ := looksUpAfter_of_missed hsplit hstage
    refine ⟨earlier, ⟨r, later ++ w :: after, by simp [hsplit], hplace, hstart⟩, ?_⟩
    exact Option.map_eq_none_iff.1 (Option.or_eq_none_iff.1 hnone).1
  case own =>
    intro w hw code hcode t ht hplace mail hmail
    obtain ⟨hemail, -, -, e, hresolves, hvalue⟩ := of_written? hw hcode
    obtain ⟨before, after, hsplit⟩ := List.append_of_mem ht
    obtain ⟨r, hr, code', ⟨hplace', hemail', e', hresolves', rfl⟩, rfl⟩ :=
      mailed_history emails start hsplit hmail
    have hr : r ∈ history settings (places.map .turn) (Crowd.gather emails start) := by
      simp [hsplit, hr]
    obtain rfl := resolves_unique hr hw (hplace'.trans hplace) hresolves' hresolves
    -- Writing a code settles on it, and nobody settles twice: this is what is mailed.
    have hsame := hresolves'.2.1.symm.trans hresolves.2.1
    rw [← hemail', hemail, ← hvalue, Option.some.inj hsame]
  case mails =>
    intro before w after code hsplit hcode hlater
    have hw : w ∈ history settings (places.map .turn) (Crowd.gather emails start) := by
      simp [hsplit]
    obtain ⟨hemail, -, hstage, -⟩ := of_written? hw hcode
    obtain ⟨earlier, later, -, -, htask, hw', rfl⟩ := history_split hsplit
    -- The next turn starts where the write has left off, and that is where a mail is handed over.
    have hnext := task_play_turn settings htask
    rw [← hw'] at hnext
    obtain ⟨t, ht, hplace, htask'⟩ := next_turn hnext hlater
    refine ⟨t, ht, hplace, ?_⟩
    rw [Turn.mails, Turn.progress_of_mem ht, htask', hstage, hemail]
    rfl
  case others =>
    rintro t ht rfl hnobody mail hmail
    obtain ⟨before, after, hsplit⟩ := List.append_of_mem ht
    obtain ⟨earlier, r, later, code, rfl, ⟨hplace, -⟩, rfl, ⟨hstart, e, rfl, hfound⟩ | hcode⟩ :=
      mailed_cases hstrategy hsplit hmail
    · rw [hfree, Option.or_none] at hfound
      obtain ⟨code, hcode, rfl⟩ := Option.map_eq_some_iff.1 hfound
      exact ⟨earlier, code, ⟨r, later ++ t :: after, by simp [hsplit], hplace, hstart⟩, hcode, rfl⟩
    · rw [hnobody r (by simp [hsplit]) hplace] at hcode
      cases hcode
  case wasLive =>
    rintro before t after hsplit rfl mail hmail
    obtain ⟨r, hr, code, ⟨hplace, hemail, e, hresolves, rfl⟩, rfl⟩ :=
      mailed_history emails start hsplit hmail
    exact ⟨r, hr, hplace, e, hemail ▸ hresolves.2.2, rfl⟩

end

/-- The whole race, for any address, whatever the cache holds at the start, whichever faults are
set and in whatever order the issuances have their turns. -/
theorem checkThenSet_races (policy : DeliveryPolicy) (emails : List String) (start : World Memory)
    (places : List Nat) :
    let settings : IssuingSettings := ⟨.checkThenSet, policy⟩
    let crowd := Crowd.gather emails start
    let turns := history settings (places.map .turn) crowd
    let final := play settings (places.map .turn) crowd
    final.calls = turns.flatMap (·.progress.calls) ∧ final.state.now = start.now ∧ ∀ email,
      match start.record? email with
      | some e => Undisturbed email e turns final
      | none => Races email start.now turns final := by
  intro settings crowd turns final
  refine ⟨play_calls settings (places.map .turn) crowd, now_play places, fun email => ?_⟩
  cases hrecord : start.record? email with
  | some e => exact undisturbed rfl hrecord
  | none => exact races rfl hrecord

/-- Two issuances that both missed: the code that the first one mails is no longer live. -/
example :
    let settings : IssuingSettings := ⟨.checkThenSet, .strict⟩
    let crowd := Crowd.gather ["a", "a"]
      (.fresh .empty (fun n => if n = 0 then "1234" else "5678") fun _ => "id")
    let moves := [0, 1, 0, 1, 0, 0, 1, 1].map Move.turn
    (history settings moves crowd).flatMap Turn.mails =
        [Mail.ofCode "a" "1234", Mail.ofCode "a" "5678"] ∧
      (play settings moves crowd).state.record? "a" = some ⟨"5678", 600000⟩ := by
  decide +kernel

end Rehearsal

end MailCode
