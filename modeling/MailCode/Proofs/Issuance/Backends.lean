import MailCode.Proofs.Cache.Backends
import MailCode.Proofs.Issuance.Comparison
import MailCode.Rehearsal.World
/-!
# Issuances do not notice which cache they use

Issuances are run twice, over the cache in memory and over the one behind a server, with the same
clock, the same generator and the same mail provider (`Surroundings`). In either run both caches
stand for the same expiring map all the time, so the issuances keep in step and make the same calls
(`backends_agree`).
-/

namespace MailCode

open Issuance

/-- What an issuance works with beside a cache: a clock that is never set back, a generator and a
mail provider. -/
structure Surroundings (τ : Type) where
  now : τ → Nat
  generate : τ → Reply τ GeneratorError String
  send : Mail → τ → Reply τ BackendError String
  generate_later : ∀ t, now t ≤ now (generate t).state
  send_later : ∀ mail t, now t ≤ now (send mail t).state

namespace Surroundings

variable {κ κ' τ : Type}

/-- The collaborators of an issuance that uses a cache in these surroundings. -/
def collaborators (env : Surroundings τ) (g : CacheGateway κ) : Collaborators (κ × τ) where
  lookup key s := (g.lookup (env.now s.2) key s.1).mapState (·, s.2)
  store key value lifetime s := (g.store (env.now s.2) key value lifetime s.1).mapState (·, s.2)
  storeIfAbsent key value lifetime s :=
    (g.storeIfAbsent (env.now s.2) key value lifetime s.1).mapState (·, s.2)
  contains key s := (g.contains (env.now s.2) key s.1).mapState (·, s.2)
  timeLeft key s := (g.timeLeft (env.now s.2) key s.1).mapState (·, s.2)
  healthy s := (g.healthy (env.now s.2) s.1).mapState (·, s.2)
  generate s := (env.generate s.2).mapState (s.1, ·)
  send mail s := (env.send mail s.2).mapState (s.1, ·)

/-- One thing that happens in a run of issuances. -/
inductive Move (env : Surroundings τ) where
  /-- A request comes in, and has its turns later. -/
  | request (email : String)
  /-- The request that came in at a place has a turn. -/
  | turn (place : Nat)
  /-- A request that is served at one go. -/
  | issue (email : String)
  /-- Something else changes: time passes, the generator or the mail provider breaks or recovers. -/
  | meanwhile (change : τ → τ) (later : ∀ t, env.now t ≤ env.now (change t))

variable {env : Surroundings τ}

/-- Lets something happen. -/
def Move.play (g : CacheGateway κ) (settings : IssuingSettings) (crowd : Crowd (κ × τ)) :
    Move env → Crowd (κ × τ)
  | .request email => { crowd with tasks := crowd.tasks ++ [⟨email, .start⟩] }
  | .turn place => crowd.turn (env.collaborators g) settings place
  | .issue email =>
    let p := Issuance.issue (env.collaborators g) settings email crowd.state
    { tasks := crowd.tasks ++ [⟨email, p.stage⟩]
      state := p.state
      calls := crowd.calls ++ p.calls
      events := crowd.events ++ p.events }
  | .meanwhile change _ => { crowd with state := (crowd.state.1, change crowd.state.2) }

/-- The issuances of a run, and what they have done. -/
def play (env : Surroundings τ) (g : CacheGateway κ) (settings : IssuingSettings)
    (moves : List (Move env)) (cache : κ) (t : τ) : Crowd (κ × τ) :=
  moves.foldl (Move.play g settings) (Crowd.gather [] (cache, t))

/-! ## Two caches that stand for the same map -/

/-- States belong together if the surroundings are the same and the caches stand for the same map.
What is logged is not compared, for each cache logs in its own words. -/
def likeness (env : Surroundings τ) (holds : Nat → κ → ExpiringMap → Prop)
    (holds' : Nat → κ' → ExpiringMap → Prop) : Likeness (κ × τ) (κ' × τ) where
  states s s' := s'.2 = s.2 ∧ ∃ t, holds (env.now s.2) s.1 t ∧ holds' (env.now s.2) s'.1 t
  codes := Eq
  compares _ := false

section
variable {g : CacheGateway κ} {g' : CacheGateway κ'} {holds : Nat → κ → ExpiringMap → Prop}
  {holds' : Nat → κ' → ExpiringMap → Prop} {s : κ × τ} {s' : κ' × τ}

theorem unlogged (events events' : List Event) :
    (likeness env holds holds').Logged events events' := by
  simp only [Likeness.Logged, likeness, List.filter_false]

/-- To one request the two caches give one answer, and go on standing for one map. -/
theorem akin_perform (hg : g.Expiring holds) (hg' : g'.Expiring holds')
    (request : CacheGateway.Request) (hmodest : request.isModest)
    (hs : (likeness env holds holds').states s s') :
    (g'.perform (env.now s'.2) request s'.1).outcome =
        (g.perform (env.now s.2) request s.1).outcome ∧
      (likeness env holds holds').states ((g.perform (env.now s.2) request s.1).state, s.2)
        ((g'.perform (env.now s'.2) request s'.1).state, s'.2) := by
  obtain ⟨hτ, t, h, h'⟩ := hs
  rw [hτ]
  obtain ⟨houtcome, hstate⟩ := hg.perform hmodest h
  obtain ⟨houtcome', hstate'⟩ := hg'.perform hmodest h'
  exact ⟨houtcome'.trans houtcome.symm, rfl, _, hstate, hstate'⟩

/-- As time passes the two caches go on standing for one map. -/
theorem states_later (hg : g.Expiring holds) (hg' : g'.Expiring holds')
    (hs : (likeness env holds holds').states s s') {t : τ} (hle : env.now s.2 ≤ env.now t) :
    (likeness env holds holds').states (s.1, t) (s'.1, t) := by
  obtain ⟨-, map, h, h'⟩ := hs
  exact ⟨rfl, map, hg.later hle h, hg'.later hle h'⟩

theorem collaborators_akin (env : Surroundings τ) (hg : g.Expiring holds)
    (hg' : g'.Expiring holds') :
    (env.collaborators g).Akin (env.likeness holds holds') (env.collaborators g') where
  lookup key s s' hs := by
    obtain ⟨houtcome, hstate⟩ := akin_perform hg hg' (.lookup key) rfl hs
    refine ⟨Outcome.Akin.of_map (fun found found' h => ?_) houtcome, hstate, unlogged _ _⟩
    cases h
    cases found with
    | none => exact .none
    | some code => exact .some rfl
  store key code code' s s' hcode hs := by
    obtain rfl : code = code' := hcode
    obtain ⟨houtcome, hstate⟩ := akin_perform hg hg' (.store key code codeLifetime) rfl hs
    exact ⟨Outcome.Akin.of_map (fun _ _ _ => rfl) houtcome, hstate, unlogged _ _⟩
  storeIfAbsent key code code' s s' hcode hs := by
    obtain rfl : code = code' := hcode
    obtain ⟨houtcome, hstate⟩ :=
      akin_perform hg hg' (.storeIfAbsent key code codeLifetime) rfl hs
    refine ⟨Outcome.Akin.of_map (fun outcome outcome' h => ?_) houtcome, hstate, unlogged _ _⟩
    cases h
    cases outcome with
    | inserted => exact .inserted
    | existing winner => exact .existing rfl
  generate s s' hs := by
    have hlater := states_later hg hg' hs (env.generate_later s.2)
    obtain ⟨hτ, -⟩ := hs
    simp only [collaborators, Reply.mapState, hτ]
    exact ⟨.refl (fun _ => rfl) _, hlater, unlogged _ _⟩
  send email code code' s s' hcode hs := by
    obtain rfl : code = code' := hcode
    have hlater := states_later hg hg' hs (env.send_later (Mail.ofCode email code) s.2)
    obtain ⟨hτ, -⟩ := hs
    simp only [collaborators, Reply.mapState, hτ]
    exact ⟨.refl (fun _ => rfl) _, hlater, unlogged _ _⟩

/-! ## Runs -/

variable {crowd : Crowd (κ × τ)} {crowd' : Crowd (κ' × τ)}

theorem akin_play (hg : g.Expiring holds) (hg' : g'.Expiring holds') (settings : IssuingSettings)
    (h : crowd.Akin (likeness env holds holds') crowd') (move : Move env) :
    (move.play g settings crowd).Akin (likeness env holds holds')
      (move.play g' settings crowd') := by
  have hc := collaborators_akin env hg hg'
  cases move with
  | request email =>
    exact ⟨List.rel_append h.tasks (.cons ⟨rfl, .start⟩ .nil), h.state, h.calls, h.events⟩
  | turn place => exact akin_turn hc settings h place
  | issue email =>
    obtain ⟨hstage, hstate, hcalls, hevents⟩ := akin_issue hc h.state settings email
    exact ⟨List.rel_append h.tasks (.cons ⟨rfl, hstage⟩ .nil), hstate,
      List.rel_append h.calls hcalls, h.events.append hevents⟩
  | meanwhile change hlater =>
    have hstate := states_later hg hg' h.state (hlater crowd.state.2)
    refine ⟨h.tasks, ?_, h.calls, h.events⟩
    simp only [Move.play, h.state.1]
    exact hstate

theorem akin_run (hg : g.Expiring holds) (hg' : g'.Expiring holds') (settings : IssuingSettings)
    (moves : List (Move env)) (h : crowd.Akin (likeness env holds holds') crowd') :
    (moves.foldl (Move.play g settings) crowd).Akin (likeness env holds holds')
      (moves.foldl (Move.play g' settings) crowd') := by
  induction moves generalizing crowd crowd' with
  | nil => exact h
  | cons move moves ih => exact ih (akin_play hg hg' settings h move)

end

end Surroundings

/-- The clock, the generator and the mailbox of a rehearsal. -/
def Rehearsal.surroundings : Surroundings (Rehearsal.World Unit) where
  now := Rehearsal.World.now
  generate := Rehearsal.World.drawCode
  send := Rehearsal.World.sendMail
  generate_later w := by
    unfold Rehearsal.World.drawCode
    split <;> exact Nat.le_refl _
  send_later mail w := by
    unfold Rehearsal.World.sendMail
    split <;> exact Nat.le_refl _

namespace Redis

open Surroundings

/-- It does not matter whether codes are kept in memory or by a server. Starting with nothing, both
caches answer the same to any run of requests while time passes, as long as the lifetimes are such
as either grants. So any run of issuances, served one after the other or giving way to one another
in whatever order, brings every request equally far with the same code and makes the same calls
over either cache, and so sends the same mails. -/
theorem backends_agree {σ : Type} {server : Server σ} {holds : σ → ExpiringMap}
    (hserver : server.Keeps holds) {s : σ} (hempty : holds s = .empty) :
    (∀ steps : List CacheGateway.Step, (∀ step ∈ steps, step.isModest) → ∀ start : Nat,
      (gateway server).answers steps start s = Memory.gateway.answers steps start .empty) ∧
    ∀ (τ : Type) (env : Surroundings τ) (settings : IssuingSettings) (moves : List (Move env))
      (t : τ),
      let overMemory := env.play Memory.gateway settings moves .empty t
      let overServer := env.play (gateway server) settings moves s t
      overServer.answers = overMemory.answers ∧ overServer.tasks = overMemory.tasks ∧
        overServer.calls = overMemory.calls ∧ overServer.state.2 = overMemory.state.2 := by
  have hmemory (now : Nat) : Memory.Refines now .empty .empty := ⟨rfl, rfl⟩
  have hkept (now : Nat) : (holds s).find? now = ExpiringMap.empty.find? now := by rw [hempty]
  refine ⟨fun steps hmodest start => ?_, fun τ env settings moves t => ?_⟩
  · exact Memory.expiring.answers_eq (expiring hserver) hmodest (hmemory start) (hkept start)
  · have hbegin : (Crowd.gather [] (Memory.empty, t)).Akin
        (env.likeness Memory.Refines fun now s t => (holds s).find? now = t.find? now)
        (Crowd.gather [] (s, t)) :=
      ⟨.nil, ⟨rfl, .empty, hmemory _, hkept _⟩, .nil, unlogged _ _⟩
    have hrun := akin_run Memory.expiring (expiring hserver) settings moves hbegin
    obtain ⟨htasks, hcalls⟩ := hrun.eq rfl
    exact ⟨hrun.answers, htasks, hcalls, hrun.state.1⟩

/-- Over a server that keeps a map: a key that is taken, one that has just become free again, and a
text beyond ASCII; then two requests that race for an address, the end of the code's lifetime before
the mails are sent, and a third request for which the generator panics. -/
theorem backends_agree_at_expiry :
    let steps : List CacheGateway.Step := [.ask (.storeIfAbsent "a" "1" 2),
      .ask (.storeIfAbsent "a" "2" 2), .wait 2000, .ask (.contains "a"),
      .ask (.store "a" "né" 1), .ask (.lookup "a")]
    let wait : Move Rehearsal.surroundings :=
      .meanwhile (fun w => { w with now := w.now + 600000 }) fun w => Nat.le_add_right w.now 600000
    let breakDown : Move Rehearsal.surroundings :=
      .meanwhile (fun w => { w with faults.generate := some (.panic .unreadable) })
        fun w => Nat.le_refl w.now
    let moves : List (Move Rehearsal.surroundings) := [.request "b", .request "b", .turn 0, .turn 1,
      .turn 1, .turn 0, .turn 0, wait, .turn 0, .turn 1, breakDown, .issue "b"]
    let settings : IssuingSettings := ⟨.setIfAbsent, .strict⟩
    let world : Rehearsal.World Unit := .fresh () (fun _ => "1234") fun _ => "id"
    table.Keeps id ∧ id ExpiringMap.empty = .empty ∧ (∀ step ∈ steps, step.isModest) ∧
      (gateway table).answers steps 0 .empty = Memory.gateway.answers steps 0 .empty ∧
      (Rehearsal.surroundings.play (gateway table) settings moves .empty world).calls =
        (Rehearsal.surroundings.play Memory.gateway settings moves .empty world).calls := by
  intro steps wait breakDown moves settings world
  have hmodest : ∀ step ∈ steps, step.isModest := by decide
  obtain ⟨hanswers, hruns⟩ := backends_agree table_keeps (s := .empty) rfl
  obtain ⟨-, -, hcalls, -⟩ := hruns _ Rehearsal.surroundings settings moves world
  exact ⟨table_keeps, rfl, hmodest, hanswers steps hmodest 0, hcalls⟩

end Redis

end MailCode
