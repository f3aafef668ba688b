import MailCode.Proofs.Cache.Refinement
import MailCode.Proofs.Text.Utf8
import MailCode.Redis.Client
/-!
# Either cache is an expiring map

What an issuance asks of a cache is a `Request`. A cache is `Expiring` if to every request it
answers what an expiring map answers, and goes on standing for what the map has become. The cache
in memory is one such cache. The cache behind a server is another, provided that the server keeps
what it is told and answers as it should, which is what `Redis.Server.Keeps` asks of it. It follows
that no run of requests can tell the two apart (`Expiring.answers_eq`).
-/

namespace MailCode

open Memory (Result)

/-- The longest lifetime, in seconds, that every cache is sure to grant. -/
def longestLifetime : Nat := 10 ^ 10

/-- A lifetime that every cache grants. -/
def isModest (lifetime : Nat) : Bool :=
  1 ≤ lifetime && lifetime ≤ longestLifetime

namespace CacheGateway

/-- Something that an issuance asks of a cache. -/
inductive Request where
  | lookup (key : String)
  | store (key value : String) (lifetime : Nat)
  | storeIfAbsent (key value : String) (lifetime : Nat)
  | contains (key : String)
  deriving DecidableEq, Repr

namespace Request

/-- The request as an operation of the cache in memory. -/
def action : Request → Memory.Action
  | .lookup key => .lookup key
  | .store key value lifetime => .store key value lifetime
  | .storeIfAbsent key value lifetime => .storeIfAbsent key value lifetime
  | .contains key => .contains key

/-- Whether every cache grants the lifetime that is asked for. -/
def isModest : Request → Bool
  | .store _ _ lifetime | .storeIfAbsent _ _ lifetime => MailCode.isModest lifetime
  | .lookup _ | .contains _ => true

theorem isCountable {request : Request} (h : request.isModest) : request.action.isCountable := by
  have hlimit : longestLifetime < Memory.lifetimeLimit := by decide
  cases request with
  | lookup key | contains key => rfl
  | store key value lifetime | storeIfAbsent key value lifetime =>
    simp only [isModest, MailCode.isModest, Bool.and_eq_true, decide_eq_true_eq] at h
    simp only [action, Memory.Action.isCountable, decide_eq_true_eq]
    omega

end Request

/-- One step of a run of requests. -/
inductive Step where
  | ask (request : Request)
  /-- Time passes, in milliseconds. -/
  | wait (duration : Nat)
  deriving DecidableEq, Repr

/-- Whether every cache grants the lifetime that a step asks for. -/
def Step.isModest : Step → Bool
  | .ask request => request.isModest
  | .wait _ => true

variable {κ : Type} (g : CacheGateway κ)

/-- Carries a request out. -/
def perform (now : Nat) (request : Request) (c : κ) : Reply κ CacheError Result :=
  match request with
  | .lookup key => (g.lookup now key c).map .text
  | .store key value lifetime => (g.store now key value lifetime c).map fun () => .nothing
  | .storeIfAbsent key value lifetime => (g.storeIfAbsent now key value lifetime c).map .stored
  | .contains key => (g.contains now key c).map .flag

/-- What the requests of a run are answered, one after the other. -/
def answers : List Step → Nat → κ → List (Outcome CacheError Result)
  | [], _, _ => []
  | .wait duration :: steps, now, c => answers steps (now + duration) c
  | .ask request :: steps, now, c =>
    let reply := g.perform now request c
    reply.outcome :: answers steps now reply.state

/-- A cache that answers as an expiring map does; `holds` tells what map it stands for. -/
structure Expiring (holds : Nat → κ → ExpiringMap → Prop) : Prop where
  later : ∀ {now later c t}, now ≤ later → holds now c t → holds later c t
  perform : ∀ {now c t} {request : Request}, request.isModest → holds now c t →
    (g.perform now request c).outcome = (t.perform now request.action).outcome ∧
      holds now (g.perform now request c).state (t.perform now request.action).state

variable {g} {κ' : Type} {g' : CacheGateway κ'} {holds : Nat → κ → ExpiringMap → Prop}
  {holds' : Nat → κ' → ExpiringMap → Prop}

/-- Two caches that stand for the same map answer the same, whatever they are asked. -/
theorem Expiring.answers_eq (hg : g.Expiring holds) (hg' : g'.Expiring holds')
    {steps : List Step} (hmodest : ∀ step ∈ steps, step.isModest) {now : Nat} {c : κ}
    {c' : κ'} {t : ExpiringMap} (h : holds now c t) (h' : holds' now c' t) :
    g'.answers steps now c' = g.answers steps now c := by
  induction steps generalizing now c c' t with
  | nil => rfl
  | cons step steps ih =>
    have ih := @ih fun later hlater => hmodest later (List.mem_cons_of_mem _ hlater)
    cases step with
    | wait duration =>
      have hle := Nat.le_add_right now duration
      exact ih (hg.later hle h) (hg'.later hle h')
    | ask request =>
      have hrequest : request.isModest := hmodest (.ask request) List.mem_cons_self
      obtain ⟨houtcome, hstate⟩ := hg.perform hrequest h
      obtain ⟨houtcome', hstate'⟩ := hg'.perform hrequest h'
      simp only [answers]
      rw [houtcome, houtcome', ih hstate hstate']

end CacheGateway

/-! ## The cache in memory -/

theorem Memory.gateway_perform (now : Nat) (request : CacheGateway.Request) (m : Memory) :
    Memory.gateway.perform now request m = Memory.perform now request.action m := by
  cases request <;> rfl

theorem Memory.expiring : Memory.gateway.Expiring Memory.Refines where
  later hle h := h.later hle
  perform := by
    intro now m t request hmodest h
    rw [Memory.gateway_perform]
    obtain ⟨hstate, houtcome⟩ := h.perform (CacheGateway.Request.isCountable hmodest)
    refine ⟨houtcome ?_, hstate⟩
    cases request <;> rfl

/-! ## The cache behind a server -/

namespace Redis

/-- The reply that tells what a key holds. -/
def held : Option Entry → Response
  | some e => .bulk e.value.toUTF8.toList
  | none => .nil

/-- A server that keeps texts under keys until they expire, and that nobody else uses: `holds`
tells what it keeps. What it is told to keep for a time counts for just that time; asking changes
nothing that counts. -/
structure Server.Keeps {σ : Type} (server : Server σ) (holds : σ → ExpiringMap) : Prop where
  get : ∀ now key s,
    (server now (.get key) s).1 = .ok (held ((holds s).find? now key)) ∧
      (holds (server now (.get key) s).2).find? now = (holds s).find? now
  setExpiring : ∀ now key value lifetime s, isModest lifetime →
    (server now (.setExpiring key lifetime value) s).1 = .ok (.status "OK") ∧
      (holds (server now (.setExpiring key lifetime value) s).2).find? now =
        ((holds s).put now key value lifetime).find? now
  setIfAbsent : ∀ now key value lifetime s, isModest lifetime →
    (server now (.setIfAbsent key value lifetime) s).1 =
        .ok (held ((holds s).find? now key)) ∧
      (holds (server now (.setIfAbsent key value lifetime) s).2).find? now =
        (if ((holds s).find? now key).isSome then holds s
          else (holds s).put now key value lifetime).find? now
  contains : ∀ now key s,
    (server now (.contains key) s).1 =
        .ok (.int (if ((holds s).find? now key).isSome then 1 else 0)) ∧
      (holds (server now (.contains key) s).2).find? now = (holds s).find? now

/-- A server that does just that, with a map to keep things in. -/
def table : Server ExpiringMap := fun now command t =>
  match command with
  | .get key => (.ok (held (t.find? now key)), t)
  | .setExpiring key lifetime value =>
    if lifetime = 0 then (.ok (.error "ERR invalid expire time in 'setex' command"), t)
    else (.ok (.status "OK"), t.put now key value lifetime)
  | .setIfAbsent key value lifetime =>
    if lifetime = 0 then (.ok (.error "ERR invalid expire time in 'set' command"), t)
    else
      (.ok (held (t.find? now key)),
        if (t.find? now key).isSome then t else t.put now key value lifetime)
  | .delete key =>
    (.ok (.int (if (t.find? now key).isSome then 1 else 0)), ⟨t.entries.erase key⟩)
  | .contains key => (.ok (.int (if (t.find? now key).isSome then 1 else 0)), t)
  | .timeLeft key =>
    (.ok (.int ((t.find? now key).elim (-2) fun e => ((e.expiresAt - now + 500) / 1000 : Nat))), t)
  | .ping => (.ok (.status "PONG"), t)

theorem table_keeps : Server.Keeps table id where
  get _ _ _ := ⟨rfl, rfl⟩
  setExpiring now key value lifetime t hmodest := by
    have hne : lifetime ≠ 0 := by rintro rfl; cases hmodest
    simp only [table, if_neg hne, id, and_self]
  setIfAbsent now key value lifetime t hmodest := by
    have hne : lifetime ≠ 0 := by rintro rfl; cases hmodest
    simp only [table, if_neg hne, id, and_self]
  contains _ _ _ := ⟨rfl, rfl⟩

/-! ### The replies, read -/

/-- What a key holds is read off the reply that tells it. -/
theorem toText?_held (o : Option Entry) : (held o).toText? = .ok (o.map Entry.value) := by
  cases o with
  | none => rfl
  | some e =>
    have htext : (Response.bulk e.value.toUTF8.toList).toText = .ok e.value := by
      simp only [Response.toText, Response.checked, Response.signalled?, Response.utf8,
        Text.utf8Text?_utf8]
    simp only [held, Response.toText?, htext]
    rfl

theorem read_get (key : String) (o : Option Entry) :
    ∃ events, (Client.get key).read (held o) = .ok (o.map Entry.value, events) := by
  simp only [Client.get, toText?_held]
  exact ⟨_, rfl⟩

theorem read_setIfAbsent (key value : String) (lifetime : Nat) (o : Option Entry) :
    ∃ events, (Client.setIfAbsent key value lifetime).read (held o) =
      .ok (o.map Entry.value, events) := by
  simp only [Client.setIfAbsent, toText?_held]
  exact ⟨_, rfl⟩

theorem read_contains (key : String) (there : Bool) :
    ∃ events, (Client.contains key).read (.int (if there then 1 else 0)) =
      .ok (there, events) := by
  cases there <;> exact ⟨_, rfl⟩

/-! ### The operations -/

section
variable {σ α : Type} {server : Server σ} {now : Nat} {s : σ}

/-- A query whose reply can be read succeeds. -/
theorem perform_of_read {q : Query α} {response : Response} {a : α}
    (h : (server now q.command s).1 = .ok response)
    (hread : ∃ events, q.read response = .ok (a, events)) (operation key : String) :
    (Gateway.perform server operation key q now s).outcome = .ok a ∧
      (Gateway.perform server operation key q now s).state = (server now q.command s).2 := by
  obtain ⟨events, hread⟩ := hread
  have hrun : q.run server now s =
      ⟨.ok a, (server now q.command s).2, q.announcement :: events⟩ := by
    simp only [Query.run, h, Query.receive, hread]
  simp only [Gateway.perform, hrun, and_self]

variable {holds : σ → ExpiringMap}

theorem lookup_spec (hserver : server.Keeps holds) (now : Nat) (key : String) (s : σ) :
    let reply := (gateway server).lookup now key s
    reply.outcome = .ok (((holds s).find? now key).map Entry.value) ∧
      (holds reply.state).find? now = (holds s).find? now := by
  obtain ⟨hreply, hkept⟩ := hserver.get now key s
  obtain ⟨houtcome, hstate⟩ :=
    perform_of_read (q := Client.get key) hreply (read_get key _) "get" key
  exact ⟨houtcome, (congrArg (fun s => (holds s).find? now) hstate).trans hkept⟩

theorem store_spec (hserver : server.Keeps holds) (now : Nat) (key value : String) {lifetime : Nat}
    (hmodest : isModest lifetime) (s : σ) :
    let reply := (gateway server).store now key value lifetime s
    reply.outcome = .ok () ∧
      (holds reply.state).find? now = ((holds s).put now key value lifetime).find? now := by
  obtain ⟨hreply, hkept⟩ := hserver.setExpiring now key value lifetime s hmodest
  obtain ⟨houtcome, hstate⟩ :=
    perform_of_read (q := Client.set key value lifetime) hreply ⟨[], rfl⟩ "set_ex" key
  exact ⟨houtcome, (congrArg (fun s => (holds s).find? now) hstate).trans hkept⟩

theorem contains_spec (hserver : server.Keeps holds) (now : Nat) (key : String) (s : σ) :
    let reply := (gateway server).contains now key s
    reply.outcome = .ok ((holds s).find? now key).isSome ∧
      (holds reply.state).find? now = (holds s).find? now := by
  obtain ⟨hreply, hkept⟩ := hserver.contains now key s
  obtain ⟨houtcome, hstate⟩ :=
    perform_of_read (q := Client.contains key) hreply (read_contains key _) "exists" key
  exact ⟨houtcome, (congrArg (fun s => (holds s).find? now) hstate).trans hkept⟩

/-- The text that comes back tells whether the key was free. -/
theorem storeIfAbsent_spec (hserver : server.Keeps holds) (now : Nat) (key value : String)
    {lifetime : Nat} (hmodest : isModest lifetime) (s : σ) :
    let reply := (gateway server).storeIfAbsent now key value lifetime s
    reply.outcome = .ok (((holds s).find? now key).elim .inserted fun e => .existing e.value) ∧
      (holds reply.state).find? now =
        (if ((holds s).find? now key).isSome then holds s
          else (holds s).put now key value lifetime).find? now := by
  obtain ⟨hreply, hkept⟩ := hserver.setIfAbsent now key value lifetime s hmodest
  obtain ⟨houtcome, hstate⟩ := perform_of_read (q := Client.setIfAbsent key value lifetime) hreply
    (read_setIfAbsent key value lifetime _) "set_nx" key
  have hkept' := (congrArg (fun s => (holds s).find? now) hstate).trans hkept
  simp only [gateway, Gateway.storeIfAbsent, houtcome]
  cases hfind : (holds s).find? now key with
  | some e | none =>
    rw [hfind] at hkept'
    exact ⟨rfl, hkept'⟩

/-- The cache behind a server that keeps what it is told is an expiring map. -/
theorem expiring (hserver : server.Keeps holds) :
    (gateway server).Expiring fun now s t => (holds s).find? now = t.find? now where
  later := by
    intro now later s t hle h
    funext key
    rw [ExpiringMap.find?_later hle, ExpiringMap.find?_later hle, h]
  perform := by
    intro now s t request hmodest h
    cases request with
    | lookup key =>
      obtain ⟨houtcome, hkept⟩ := lookup_spec hserver now key s
      refine ⟨?_, hkept.trans h⟩
      rw [h] at houtcome
      exact congrArg (Outcome.map Result.text) houtcome
    | contains key =>
      obtain ⟨houtcome, hkept⟩ := contains_spec hserver now key s
      refine ⟨?_, hkept.trans h⟩
      rw [h] at houtcome
      exact congrArg (Outcome.map Result.flag) houtcome
    | store key value lifetime =>
      obtain ⟨houtcome, hkept⟩ := store_spec hserver now key value hmodest s
      refine ⟨congrArg (Outcome.map fun _ => Result.nothing) houtcome, hkept.trans ?_⟩
      rw [ExpiringMap.find?_put, h]
      exact (t.find?_put now key value lifetime).symm
    | storeIfAbsent key value lifetime =>
      obtain ⟨houtcome, hkept⟩ := storeIfAbsent_spec hserver now key value hmodest s
      have houtcome := congrArg (Outcome.map Result.stored) houtcome
      have hput : ((holds s).put now key value lifetime).find? now =
          (t.put now key value lifetime).find? now := by
        rw [ExpiringMap.find?_put, ExpiringMap.find?_put, h]
      rw [h] at houtcome hkept
      simp only [CacheGateway.Request.action, ExpiringMap.perform]
      cases hfind : t.find? now key with
      | some e =>
        rw [hfind] at houtcome hkept
        exact ⟨houtcome, hkept.trans h⟩
      | none =>
        rw [hfind] at houtcome hkept
        exact ⟨houtcome, hkept.trans hput⟩

end

end Redis

end MailCode
