import MailCode.Proofs.Cache.Renaming
import MailCode.Rehearsal.Action
/-!
# A log tells addresses only by their masked forms

Two runs are compared: in the second one every address goes by its other name (`Renaming`). Their
worlds and their issuances remain twins, whatever happens, and the events that are logged on the way
are the same but for the message ids, which are made up for each run. Whoever reads the log can
therefore tell an address by its masked form and by where it occurs again, and by nothing else.

The step that an issuance makes is the heart of it (`twin_step`). It is proved for any cache that is
`Impartial`, so that the cache in memory and the one behind a server are two cases of one theorem.
-/

namespace MailCode

/-- The event without the message id that it may carry. -/
def Event.unnamed (e : Event) : Event :=
  { e with fields := e.fields.filter fun f => f.1 != "message_id" }

namespace Issuance

/-- The stage with another name for the address that is answered to. -/
def Stage.rename (rename : String → String) : Stage → Stage
  | .done answer => .done { answer with email := rename answer.email }
  | stage => stage

/-- The issuance for an address under its other name. -/
def Task.rename (rename : String → String) (task : Task) : Task :=
  ⟨rename task.email, task.stage.rename rename⟩

end Issuance

namespace Rehearsal

open Issuance World

/-! ## Runs -/

/-- One thing that happens to the service. -/
inductive Episode where
  /-- A request comes in, and has its turns later. -/
  | request (email : String)
  /-- The request that came in at a place has a turn. -/
  | turn (place : Nat)
  /-- A request that is served at one go. -/
  | issue (email : String)
  | hasLiveCode (email : String)
  | codeTimeLeft (email : String)
  | cacheHealthy
  /-- Faults are set or removed. -/
  | rig (change : Faults → Faults)
  /-- The mailbox starts or stops refusing mails. -/
  | setMailboxFailing (failing : Bool)
  | resetMailbox
  /-- Time passes, in milliseconds. -/
  | wait (duration : Nat)

/-- The address that an episode is about. -/
def Episode.address? : Episode → Option String
  | .request email | .issue email | .hasLiveCode email | .codeTimeLeft email => some email
  | _ => none

/-- The episode with another name for its address. -/
def Episode.rename (rename : String → String) : Episode → Episode
  | .request email => .request (rename email)
  | .issue email => .issue (rename email)
  | .hasLiveCode email => .hasLiveCode (rename email)
  | .codeTimeLeft email => .codeTimeLeft (rename email)
  | episode => episode

variable {κ : Type}

/-- The crowd after a question has been answered. -/
def asked {ε α : Type} (calls : List Call) (crowd : Crowd (World κ))
    (reply : Reply (World κ) ε α) : Crowd (World κ) :=
  { crowd with
    state := reply.state
    calls := crowd.calls ++ calls
    events := crowd.events ++ reply.events }

/-- Lets an episode happen. -/
def Episode.play (gateway : CacheGateway κ) (settings : IssuingSettings)
    (crowd : Crowd (World κ)) : Episode → Crowd (World κ)
  | .request email => { crowd with tasks := crowd.tasks ++ [⟨email, .start⟩] }
  | .turn place => crowd.turn (collaborators gateway) settings place
  | .issue email =>
    let p := Issuance.issue (collaborators gateway) settings email crowd.state
    { crowd with
      state := p.state
      calls := crowd.calls ++ p.calls
      events := crowd.events ++ p.events }
  | .hasLiveCode email =>
    asked [.contains (CodeKey.ofAddress email)] crowd
      (Issuance.hasLiveCode (collaborators gateway) email crowd.state)
  | .codeTimeLeft email =>
    asked [.timeLeft (CodeKey.ofAddress email)] crowd
      (Issuance.codeTimeLeft (collaborators gateway) email crowd.state)
  | .cacheHealthy =>
    asked [] crowd (Issuance.cacheHealthy (collaborators gateway) crowd.state)
  | .rig change => { crowd with state := { crowd.state with faults := change crowd.state.faults } }
  | .setMailboxFailing failing =>
    { crowd with
      state := { crowd.state with mailbox := crowd.state.mailbox.setFailing failing } }
  | .resetMailbox =>
    { crowd with state := { crowd.state with mailbox := crowd.state.mailbox.reset } }
  | .wait duration => { crowd with state := { crowd.state with now := crowd.state.now + duration } }

/-- The action that an episode is, unless it belongs to a request that is still under way. -/
def Episode.action? : Episode → Option Action
  | .request _ | .turn _ => none
  | .issue email => some (.issue email)
  | .hasLiveCode email => some (.hasLiveCode email)
  | .codeTimeLeft email => some (.codeTimeLeft email)
  | .cacheHealthy => some .cacheHealthy
  | .rig change => some (.rig change)
  | .setMailboxFailing failing => some (.setMailboxFailing failing)
  | .resetMailbox => some .resetMailbox
  | .wait duration => some (.wait duration)

/-- All that is logged in the course of a run. -/
def log (gateway : CacheGateway κ) (settings : IssuingSettings) (episodes : List Episode)
    (start : World κ) : List Event :=
  (episodes.foldl (Episode.play gateway settings) ⟨[], start, [], []⟩).events

/-! ## Twins -/

variable {used : List String} {φ : Renaming used} {related : κ → κ → Prop}

/-- Worlds that differ in the names of addresses, and in what has been mailed to whom under which
message id. -/
structure TwinWorlds (related : κ → κ → Prop) (w w' : World κ) : Prop where
  cache : related w.cache w'.cache
  now : w'.now = w.now
  faults : w'.faults = w.faults
  codes : w'.codes = w.codes
  drawn : w'.drawn = w.drawn
  failing : w'.mailbox.failing = w.mailbox.failing
  count : w'.mailbox.count = w.mailbox.count

/-- The same is logged but for message ids. -/
def LoggedAlike (events events' : List Event) : Prop :=
  events'.map Event.unnamed = events.map Event.unnamed

theorem LoggedAlike.append {events₁ events₁' events₂ events₂' : List Event}
    (h₁ : LoggedAlike events₁ events₁') (h₂ : LoggedAlike events₂ events₂') :
    LoggedAlike (events₁ ++ events₂) (events₁' ++ events₂') := by
  unfold LoggedAlike at *
  rw [List.map_append, List.map_append, h₁, h₂]

theorem LoggedAlike.of_eq {events events' : List Event} (h : events' = events) :
    LoggedAlike events events' :=
  congrArg _ h

theorem LoggedAlike.single {event event' : Event} (h : event'.unnamed = event.unnamed) :
    LoggedAlike [event] [event'] :=
  congrArg (fun event => [event]) h

/-- Steps that differ in the names of addresses only. -/
structure TwinSteps (φ : Renaming used) (related : κ → κ → Prop)
    (p p' : Progress (World κ)) : Prop where
  stage : p'.stage = p.stage.rename φ.rename
  state : TwinWorlds related p.state p'.state
  events : LoggedAlike p.events p'.events

/-- Crowds that differ in the names of addresses only. -/
structure TwinCrowds (φ : Renaming used) (related : κ → κ → Prop)
    (crowd crowd' : Crowd (World κ)) : Prop where
  known : ∀ task ∈ crowd.tasks, task.email ∈ used
  tasks : crowd'.tasks = crowd.tasks.map (Task.rename φ.rename)
  state : TwinWorlds related crowd.state crowd'.state
  events : LoggedAlike crowd.events crowd'.events

variable {g : CacheGateway κ} {a : String} {w w' : World κ}

/-! ## The collaborators -/

theorem twin_askCache {α : Type} (hw : TwinWorlds related w w')
    (fault : Option (Fault CacheError)) {ask ask' : κ → Reply κ CacheError α}
    (h : (ask w.cache).Twin related (ask' w'.cache)) :
    (w.askCache fault ask).Twin (TwinWorlds related) (w'.askCache fault ask') := by
  cases fault with
  | some f => exact ⟨rfl, hw, rfl⟩
  | none => exact ⟨h.outcome, { hw with cache := h.state }, h.events⟩

theorem twin_lookup (hg : g.Impartial φ related) (hw : TwinWorlds related w w') (ha : a ∈ used) :
    ((collaborators g).lookup (CodeKey.ofAddress a) w).Twin (TwinWorlds related)
      ((collaborators g).lookup (CodeKey.ofAddress (φ.rename a)) w') := by
  simp only [collaborators, hw.faults, hw.now]
  exact twin_askCache hw _ (hg.lookup w.now a ha _ _ hw.cache)

theorem twin_write (hg : g.Impartial φ related) (hw : TwinWorlds related w w') (ha : a ∈ used)
    (strategy : Strategy) (code : String) :
    (write (collaborators g) strategy a code w).Twin (TwinWorlds related)
      (write (collaborators g) strategy (φ.rename a) code w') := by
  cases strategy with
  | checkThenSet =>
    simp only [write, collaborators, hw.faults, hw.now]
    exact (twin_askCache hw _ (hg.store w.now code codeLifetime a ha _ _ hw.cache)).map _
  | setIfAbsent =>
    simp only [write, collaborators, hw.faults, hw.now]
    exact twin_askCache hw _ (hg.storeIfAbsent w.now code codeLifetime a ha _ _ hw.cache)

theorem twin_generate (hw : TwinWorlds related w w') :
    ((collaborators g).generate w).Twin (TwinWorlds related) ((collaborators g).generate w') := by
  simp only [collaborators, drawCode, hw.faults]
  cases w.faults.generate with
  | some outcome => exact ⟨rfl, hw, rfl⟩
  | none =>
    refine ⟨by simp only [hw.codes, hw.drawn], ?_, rfl⟩
    exact ⟨hw.cache, hw.now, rfl, hw.codes, congrArg (· + 1) hw.drawn, hw.failing, hw.count⟩

theorem unnamed_taken (mail : Mail) (id : String) (number : Nat) :
    (Mailbox.taken mail id number).unnamed =
      { Mailbox.taken mail id number with
        fields := [("provider", .text "mock"), ("email", .text (Address.mask mail.address)),
          ("message_number", .number number),
          ("body_length", .number mail.body.utf8ByteSize)] } := by
  rfl

/-- A mail to the other address ends the same way, though under another message id. -/
theorem twin_send (hw : TwinWorlds related w w') (ha : a ∈ used) (code : String) :
    let r := (collaborators g).send (Mail.ofCode a code) w
    let r' := (collaborators g).send (Mail.ofCode (φ.rename a) code) w'
    r'.outcome.map (fun _ => ()) = r.outcome.map (fun _ => ()) ∧
      TwinWorlds related r.state r'.state ∧ LoggedAlike r.events r'.events := by
  simp only [collaborators, sendMail, hw.faults]
  cases w.faults.send with
  | some f => exact ⟨rfl, hw, rfl⟩
  | none =>
    have hmask := φ.mask a ha
    simp only [Reply.mapState, Mailbox.send, hw.failing]
    split
    · refine ⟨rfl, ⟨hw.cache, hw.now, rfl, hw.codes, hw.drawn, hw.failing, hw.count⟩, ?_⟩
      apply LoggedAlike.single
      simp only [Mailbox.refusing, Mail.ofCode, hmask]
    · refine ⟨rfl, ⟨hw.cache, hw.now, rfl, hw.codes, hw.drawn, rfl, ?_⟩, ?_⟩
      · exact congrArg (· + 1) hw.count
      · apply LoggedAlike.single
        rw [unnamed_taken, unnamed_taken, hw.count]
        simp only [Mailbox.taken, Mail.ofCode, hmask]

/-! ## The events of an issuance -/

theorem about_rename (ha : a ∈ used) (level : Level) (name message : String)
    (more : List (String × Field)) :
    about level (φ.rename a) name message more = about level a name message more := by
  rw [about, about, φ.mask a ha]

theorem unnamed_codeDelivered (ha : a ∈ used) (id id' : String) :
    (codeDelivered (φ.rename a) id').unnamed = (codeDelivered a id).unnamed := by
  have hunnamed (email id : String) :
      (codeDelivered email id).unnamed =
        about .debug email "code_delivered" "Verification mail sent" [] := rfl
  rw [hunnamed, hunnamed, about_rename ha]

section
variable {calls calls' : List Call} {events events' : List Event}

theorem twin_fail (hw : TwinWorlds related w w') (ha : a ∈ used)
    (hevents : LoggedAlike events events') (e : IssuanceError) :
    TwinSteps φ related (fail a e w calls events) (fail (φ.rename a) e w' calls' events') :=
  ⟨rfl, hw, hevents.append (.single (congrArg Event.unnamed (about_rename ha ..)))⟩

theorem twin_succeed (hw : TwinWorlds related w w') (ha : a ∈ used)
    (hevents : LoggedAlike events events') :
    TwinSteps φ related (succeed a w events) (succeed (φ.rename a) w' events') :=
  ⟨rfl, hw, hevents.append (.single (congrArg Event.unnamed (about_rename ha ..)))⟩

end

theorem twin_handOver (hw : TwinWorlds related w w') (ha : a ∈ used) (code : String)
    {level : Level} {name message : String} {more : List (String × Field)} :
    TwinSteps φ related (handOver a code (about level a name message more) w)
      (handOver (φ.rename a) code (about level (φ.rename a) name message more) w') :=
  ⟨rfl, hw, .single (congrArg Event.unnamed (about_rename ha ..))⟩

/-! ## The steps of an issuance -/

theorem twin_lookUp (hg : g.Impartial φ related) (hw : TwinWorlds related w w') (ha : a ∈ used) :
    TwinSteps φ related (lookUp (collaborators g) a w)
      (lookUp (collaborators g) (φ.rename a) w') := by
  unfold lookUp
  rw [φ.isEmpty_rename ha]
  split
  · exact twin_fail hw ha (.of_eq rfl) _
  · obtain ⟨houtcome, hstate, hevents⟩ := twin_lookup hg hw ha
    dsimp only
    rw [houtcome]
    split
    · exact ⟨rfl, hstate, .of_eq hevents⟩
    · exact ⟨rfl, hstate, .of_eq hevents⟩
    · exact twin_fail hstate ha (.of_eq hevents) _

theorem twin_create (hg : g.Impartial φ related) (hw : TwinWorlds related w w') (ha : a ∈ used)
    (strategy : Strategy) :
    TwinSteps φ related (create (collaborators g) strategy a w)
      (create (collaborators g) strategy (φ.rename a) w') := by
  unfold create
  obtain ⟨hcode, hmade, hevents⟩ := twin_generate hw
  dsimp only
  rw [hcode]
  split
  · exact twin_fail hmade ha (.of_eq hevents) _
  · exact twin_fail hmade ha (.of_eq hevents) _
  · rename_i code _
    obtain ⟨houtcome, hstate, hmore⟩ := twin_write hg hmade ha strategy code
    have hlogged : LoggedAlike _ _ := (LoggedAlike.of_eq hevents).append (.of_eq hmore)
    rw [houtcome]
    split
    · exact ⟨rfl, hstate, hlogged⟩
    · exact ⟨rfl, hstate, hlogged⟩
    · exact twin_fail hstate ha hlogged _

theorem twin_deliver (hw : TwinWorlds related w w') (ha : a ∈ used) (policy : DeliveryPolicy)
    (code : String) :
    TwinSteps φ related (deliver (collaborators g) policy a code w)
      (deliver (collaborators g) policy (φ.rename a) code w') := by
  obtain ⟨houtcome, hstate, hevents⟩ := twin_send hw ha code
  unfold deliver
  dsimp only [Reply.mapError]
  generalize (collaborators g).send (Mail.ofCode a code) w = r at houtcome hstate hevents ⊢
  generalize (collaborators g).send (Mail.ofCode (φ.rename a) code) w' = r'
    at houtcome hstate hevents ⊢
  obtain ⟨o, s, es⟩ := r
  obtain ⟨o', s', es'⟩ := r'
  -- The two outcomes can differ in the message id only, which the log shows under its own name.
  cases o with
  | ok id =>
    cases o' with
    | ok id' =>
      exact twin_succeed hstate ha (hevents.append (.single (unnamed_codeDelivered ha id id')))
    | error e | panic p => cases houtcome
  | error e =>
    cases o' with
    | error e' =>
      cases houtcome
      simp only [Outcome.mapError]
      split
      · exact twin_succeed hstate ha
          (hevents.append (.single (congrArg Event.unnamed (about_rename ha ..))))
      · exact twin_fail hstate ha hevents _
    | ok id | panic p => cases houtcome
  | panic p =>
    cases o' with
    | panic p' =>
      cases houtcome
      exact twin_fail hstate ha hevents _
    | ok id | error e => cases houtcome

/-- Whatever step an issuance makes, its twin makes the same one. -/
theorem twin_step (hg : g.Impartial φ related) (hw : TwinWorlds related w w') (ha : a ∈ used)
    (settings : IssuingSettings) (stage : Stage) :
    TwinSteps φ related (step (collaborators g) settings a stage w)
      (step (collaborators g) settings (φ.rename a) (stage.rename φ.rename) w') := by
  cases stage with
  | start => exact twin_lookUp hg hw ha
  | lookedUp found =>
    rcases found with e | (_ | code)
    · exact twin_fail hw ha (.of_eq rfl) _
    · exact twin_create hg hw ha settings.strategy
    · exact twin_handOver hw ha code
  | written code outcome =>
    rcases outcome with e | (_ | winner)
    · exact twin_fail hw ha (.of_eq rfl) _
    · exact twin_handOver hw ha code
    · exact twin_handOver hw ha winner
  | handedOver code => exact twin_deliver hw ha settings.policy code
  | done answer => exact ⟨rfl, hw, .of_eq rfl⟩

theorem twin_next (hg : g.Impartial φ related) (ha : a ∈ used) (settings : IssuingSettings)
    {p p' : Progress (World κ)} (h : TwinSteps φ related p p') :
    TwinSteps φ related (p.next (collaborators g) settings a)
      (p'.next (collaborators g) settings (φ.rename a)) := by
  have hstep := twin_step hg h.state ha settings p.stage
  rw [← h.stage] at hstep
  exact ⟨hstep.stage, hstep.state, h.events.append hstep.events⟩

theorem twin_issue (hg : g.Impartial φ related) (hw : TwinWorlds related w w') (ha : a ∈ used)
    (settings : IssuingSettings) :
    TwinSteps φ related (issue (collaborators g) settings a w)
      (issue (collaborators g) settings (φ.rename a) w') := by
  have hbegin : TwinSteps φ related (Progress.begin w) (Progress.begin w') :=
    ⟨rfl, hw, .of_eq rfl⟩
  have hnext {p p' : Progress (World κ)} (h : TwinSteps φ related p p') :=
    twin_next hg ha settings h
  exact hnext (hnext (hnext (hnext hbegin)))

/-! ## Whole runs -/

section
variable {crowd crowd' : Crowd (World κ)}

theorem twin_turn (hg : g.Impartial φ related) (h : TwinCrowds φ related crowd crowd')
    (settings : IssuingSettings) (place : Nat) :
    TwinCrowds φ related (crowd.turn (collaborators g) settings place)
      (crowd'.turn (collaborators g) settings place) := by
  unfold Crowd.turn
  rw [h.tasks, List.getElem?_map]
  cases htask : crowd.tasks[place]? with
  | none => exact h
  | some task =>
    have hmem : task ∈ crowd.tasks := List.mem_of_getElem? htask
    have hstep := twin_step hg h.state (h.known task hmem) settings task.stage
    refine ⟨?_, ?_, hstep.state, h.events.append hstep.events⟩
    · intro task' htask'
      rcases List.mem_or_eq_of_mem_set htask' with hold | rfl
      · exact h.known task' hold
      · exact h.known task hmem
    · simp only [Option.map_some, Task.rename, List.map_set, hstep.stage]

theorem twin_asked {ε α : Type} {reply reply' : Reply (World κ) ε α} {calls calls' : List Call}
    (h : TwinCrowds φ related crowd crowd') (hreply : reply.Twin (TwinWorlds related) reply') :
    TwinCrowds φ related (asked calls crowd reply) (asked calls' crowd' reply') :=
  ⟨h.known, h.tasks, hreply.state, h.events.append (.of_eq hreply.events)⟩

theorem twin_cacheHealthy (hg : g.Impartial φ related) (hw : TwinWorlds related w w') :
    (cacheHealthy (collaborators g) w).Twin (TwinWorlds related)
      (cacheHealthy (collaborators g) w') := by
  have hhealthy : ((collaborators g).healthy w).Twin (TwinWorlds related)
      ((collaborators g).healthy w') := by
    simp only [collaborators, askHealth, hw.faults, hw.now]
    split
    · exact ⟨rfl, hw, rfl⟩
    · obtain ⟨houtcome, hcache, hevents⟩ := hg.healthy w.now _ _ hw.cache
      exact ⟨houtcome, ⟨hcache, rfl, rfl, hw.codes, hw.drawn, hw.failing, hw.count⟩, hevents⟩
  unfold cacheHealthy
  dsimp only
  rw [hhealthy.outcome, hhealthy.events]
  split
  · exact ⟨rfl, hhealthy.state, rfl⟩
  · exact hhealthy

theorem twin_contains (hg : g.Impartial φ related) (hw : TwinWorlds related w w')
    (ha : a ∈ used) :
    (hasLiveCode (collaborators g) a w).Twin (TwinWorlds related)
      (hasLiveCode (collaborators g) (φ.rename a) w') := by
  simp only [hasLiveCode, collaborators, hw.faults, hw.now]
  exact twin_askCache hw _ (hg.contains w.now a ha _ _ hw.cache)

theorem twin_timeLeft (hg : g.Impartial φ related) (hw : TwinWorlds related w w')
    (ha : a ∈ used) :
    (codeTimeLeft (collaborators g) a w).Twin (TwinWorlds related)
      (codeTimeLeft (collaborators g) (φ.rename a) w') := by
  simp only [codeTimeLeft, collaborators, hw.faults, hw.now]
  exact twin_askCache hw _ (hg.timeLeft w.now a ha _ _ hw.cache)

theorem twin_request (h : TwinCrowds φ related crowd crowd') (ha : a ∈ used) :
    TwinCrowds φ related { crowd with tasks := crowd.tasks ++ [⟨a, .start⟩] }
      { crowd' with tasks := crowd'.tasks ++ [⟨φ.rename a, .start⟩] } := by
  refine ⟨?_, ?_, h.state, h.events⟩
  · intro task htask
    rcases List.mem_append.1 htask with hold | hnew
    · exact h.known task hold
    · rw [List.mem_singleton.1 hnew]
      exact ha
  · rw [h.tasks, List.map_append]
    rfl

/-- Whatever happens, twins stay twins. -/
theorem twin_play (hg : g.Impartial φ related) (h : TwinCrowds φ related crowd crowd')
    (settings : IssuingSettings) {episode : Episode}
    (hknown : ∀ a, episode.address? = some a → a ∈ used) :
    TwinCrowds φ related (episode.play g settings crowd)
      ((episode.rename φ.rename).play g settings crowd') := by
  have hw := h.state
  cases episode with
  | request email => exact twin_request h (hknown email rfl)
  | turn place => exact twin_turn hg h settings place
  | issue email =>
    obtain ⟨-, hstate, hevents⟩ := twin_issue hg hw (hknown email rfl) settings
    exact ⟨h.known, h.tasks, hstate, h.events.append hevents⟩
  | hasLiveCode email => exact twin_asked h (twin_contains hg hw (hknown email rfl))
  | codeTimeLeft email => exact twin_asked h (twin_timeLeft hg hw (hknown email rfl))
  | cacheHealthy => exact twin_asked h (twin_cacheHealthy hg hw)
  | rig change =>
    exact ⟨h.known, h.tasks, { hw with faults := congrArg change hw.faults }, h.events⟩
  | setMailboxFailing failing => exact ⟨h.known, h.tasks, { hw with failing := rfl }, h.events⟩
  | resetMailbox => exact ⟨h.known, h.tasks, { hw with count := rfl }, h.events⟩
  | wait duration =>
    exact ⟨h.known, h.tasks, { hw with now := congrArg (· + duration) hw.now }, h.events⟩

theorem twin_run (hg : g.Impartial φ related) (settings : IssuingSettings)
    {episodes : List Episode}
    (hknown : ∀ episode ∈ episodes, ∀ a, episode.address? = some a → a ∈ used)
    (h : TwinCrowds φ related crowd crowd') :
    TwinCrowds φ related (episodes.foldl (Episode.play g settings) crowd)
      ((episodes.map (Episode.rename φ.rename)).foldl (Episode.play g settings) crowd') := by
  induction episodes generalizing crowd crowd' with
  | nil => exact h
  | cons episode episodes ih =>
    refine ih (fun later hlater => hknown later (List.mem_cons_of_mem _ hlater)) ?_
    exact twin_play hg h settings (hknown episode List.mem_cons_self)

end

theorem log_rename (hg : g.Impartial φ related) (settings : IssuingSettings)
    {episodes : List Episode}
    (hknown : ∀ episode ∈ episodes, ∀ a, episode.address? = some a → a ∈ used)
    (hw : TwinWorlds related w w') :
    LoggedAlike (log g settings episodes w)
      (log g settings (episodes.map (Episode.rename φ.rename)) w') := by
  have hgathered : TwinCrowds φ related ⟨[], w, [], []⟩ ⟨[], w', [], []⟩ :=
    ⟨by simp, rfl, hw, .of_eq rfl⟩
  exact (twin_run hg settings hknown hgathered).events

/-- If every address goes by another name that looks the same masked, everything is logged as
before but for the message ids, with the cache in memory as well as with the one behind a server
that goes by a script. -/
theorem logs_masked {used : List String} (φ : Renaming used) (settings : IssuingSettings)
    (episodes : List Episode)
    (hknown : ∀ episode ∈ episodes, ∀ a, episode.address? = some a → a ∈ used) :
    (∀ w w' : World Memory, TwinWorlds (Memory.Renamed φ) w w' →
      (log Memory.gateway settings (episodes.map (Episode.rename φ.rename)) w').map Event.unnamed =
        (log Memory.gateway settings episodes w).map Event.unnamed) ∧
    ∀ (σ : Type) (script : Redis.Server σ) (w w' : World σ), TwinWorlds Eq w w' →
      let gateway := Redis.gateway (Redis.scripted script)
      (log gateway settings (episodes.map (Episode.rename φ.rename)) w').map Event.unnamed =
        (log gateway settings episodes w).map Event.unnamed := by
  refine ⟨fun w w' hw => ?_, fun σ script w w' hw => ?_⟩
  · exact log_rename (Memory.impartial φ) settings hknown hw
  · exact log_rename (Redis.impartial script φ) settings hknown hw

/-- Other names for two addresses. -/
def namesakes : Renaming ["john@x.org", "eve@x.org"] where
  rename a := if a = "john@x.org" then "jane@x.org" else "eric@x.org"
  injective := by decide
  mask := by decide

/-- Two requests for one address, with one for another address and all of a code's lifetime between
their turns, are logged as they would be for the namesakes. -/
theorem logs_masked_namesakes :
    let settings : IssuingSettings := ⟨.setIfAbsent, .bestEffort⟩
    let episodes : List Episode := [.request "john@x.org", .request "john@x.org", .turn 0, .turn 0,
      .issue "eve@x.org", .hasLiveCode "eve@x.org", .wait 600000, .turn 1, .turn 0, .turn 0]
    let start (id : String) : World Memory := .fresh .empty (fun _ => "1234") fun _ => id
    (∀ episode ∈ episodes, ∀ a, episode.address? = some a → a ∈ ["john@x.org", "eve@x.org"]) ∧
      TwinWorlds (Memory.Renamed namesakes) (start "a") (start "b") ∧
      (log Memory.gateway settings (episodes.map (Episode.rename namesakes.rename))
          (start "b")).map Event.unnamed =
        (log Memory.gateway settings episodes (start "a")).map Event.unnamed := by
  intro settings episodes start
  have hknown : ∀ episode ∈ episodes, ∀ a, episode.address? = some a →
      a ∈ ["john@x.org", "eve@x.org"] := by
    simp [episodes, Episode.address?]
  have hw : TwinWorlds (Memory.Renamed namesakes) (start "a") (start "b") :=
    ⟨.empty namesakes, rfl, rfl, rfl, rfl, rfl, rfl⟩
  exact ⟨hknown, hw, (logs_masked namesakes settings episodes hknown).1 _ _ hw⟩

end Rehearsal

end MailCode
