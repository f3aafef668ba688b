import Mathlib.Data.List.Forall2
import MailCode.Proofs.Address.Masks
import MailCode.Proofs.Cache.View
import MailCode.Redis.Client
/-!
# Caches under other addresses

A `Renaming` gives each of some addresses another one, so that no two become the same and that each
looks as before where it is masked. Nobody can tell from a log which of the two was in use. For the
caches this is `Impartial`: asked about an address or about its other name, a cache answers alike,
logs the same, and is left in states that are twins again. The cache in memory is impartial with the
same entries under the keys of the other addresses, and the one behind a server is if the server
does not heed the keys.
-/

namespace MailCode

/-- Other names for some addresses. -/
structure Renaming (used : List String) where
  rename : String → String
  injective : ∀ a ∈ used, ∀ b ∈ used, rename a = rename b → a = b
  mask : ∀ a ∈ used, Address.mask (rename a) = Address.mask a

namespace Renaming

variable {used : List String} (φ : Renaming used) {a b : String}

theorem mask_key (ha : a ∈ used) :
    CodeKey.mask (CodeKey.ofAddress (φ.rename a)) = CodeKey.mask (CodeKey.ofAddress a) := by
  rw [CodeKey.mask_ofAddress, CodeKey.mask_ofAddress, φ.mask a ha]

theorem isEmpty_rename (ha : a ∈ used) : (φ.rename a).isEmpty = a.isEmpty := by
  have h : φ.rename a = "" ↔ a = "" := by
    rw [← Address.mask_eq_empty, φ.mask a ha, Address.mask_eq_empty]
  rw [Bool.eq_iff_iff, String.isEmpty_iff, String.isEmpty_iff]
  exact h

theorem key_inj (ha : a ∈ used) (hb : b ∈ used) :
    CodeKey.ofAddress (φ.rename a) = CodeKey.ofAddress (φ.rename b) ↔
      CodeKey.ofAddress a = CodeKey.ofAddress b := by
  rw [CodeKey.ofAddress_inj, CodeKey.ofAddress_inj]
  exact ⟨φ.injective a ha b hb, congrArg φ.rename⟩

end Renaming

/-- Replies that tell the same and log the same, with states that are related. -/
structure Reply.Twin {σ ε α : Type} (related : σ → σ → Prop) (r r' : Reply σ ε α) : Prop where
  outcome : r'.outcome = r.outcome
  state : related r.state r'.state
  events : r'.events = r.events

theorem Reply.Twin.of_eq {σ ε α : Type} {r r' : Reply σ ε α} (h : r' = r) : r.Twin Eq r' := by
  subst h
  exact ⟨rfl, rfl, rfl⟩

theorem Reply.Twin.map {σ ε α β : Type} {related : σ → σ → Prop} {r r' : Reply σ ε α}
    (h : r.Twin related r') (f : α → β) : (r.map f).Twin related (r'.map f) :=
  ⟨congrArg (Outcome.map f) h.outcome, h.state, h.events⟩

/-- A cache that treats an address and its other name alike. -/
structure CacheGateway.Impartial {κ : Type} (g : CacheGateway κ) {used : List String}
    (φ : Renaming used) (related : κ → κ → Prop) : Prop where
  lookup : ∀ now, ∀ a ∈ used, ∀ m m', related m m' →
    (g.lookup now (CodeKey.ofAddress a) m).Twin related
      (g.lookup now (CodeKey.ofAddress (φ.rename a)) m')
  store : ∀ now value lifetime, ∀ a ∈ used, ∀ m m', related m m' →
    (g.store now (CodeKey.ofAddress a) value lifetime m).Twin related
      (g.store now (CodeKey.ofAddress (φ.rename a)) value lifetime m')
  storeIfAbsent : ∀ now value lifetime, ∀ a ∈ used, ∀ m m', related m m' →
    (g.storeIfAbsent now (CodeKey.ofAddress a) value lifetime m).Twin related
      (g.storeIfAbsent now (CodeKey.ofAddress (φ.rename a)) value lifetime m')
  contains : ∀ now, ∀ a ∈ used, ∀ m m', related m m' →
    (g.contains now (CodeKey.ofAddress a) m).Twin related
      (g.contains now (CodeKey.ofAddress (φ.rename a)) m')
  timeLeft : ∀ now, ∀ a ∈ used, ∀ m m', related m m' →
    (g.timeLeft now (CodeKey.ofAddress a) m).Twin related
      (g.timeLeft now (CodeKey.ofAddress (φ.rename a)) m')
  healthy : ∀ now, ∀ m m', related m m' → (g.healthy now m).Twin related (g.healthy now m')

variable {used : List String} {φ : Renaming used} {a : String}

/-! ## The cache in memory -/

/-- The same entry under the key of the other address. -/
def Entries.Moved (φ : Renaming used) (p p' : String × Entry) : Prop :=
  ∃ a ∈ used, p.1 = CodeKey.ofAddress a ∧ p' = (CodeKey.ofAddress (φ.rename a), p.2)

/-- The same entries, in the same order, under the keys of the other addresses. -/
def Entries.Renamed (φ : Renaming used) (es es' : Entries) : Prop :=
  List.Forall₂ (Entries.Moved φ) es.toList es'.toList

namespace Entries.Renamed

variable {es es' : Entries}

theorem lookup {l l' : List (String × Entry)} (h : List.Forall₂ (Entries.Moved φ) l l')
    (ha : a ∈ used) :
    l'.lookup (CodeKey.ofAddress (φ.rename a)) = l.lookup (CodeKey.ofAddress a) := by
  induction h with
  | nil => rfl
  | @cons p p' l l' hp _ ih =>
    obtain ⟨key, e⟩ := p
    obtain ⟨b, hb, rfl, rfl⟩ := hp
    rw [List.lookup_cons, List.lookup_cons, ih]
    -- Other names are equal where the names are, so both searches end at the same entry.
    by_cases hkey : CodeKey.ofAddress a = CodeKey.ofAddress b
    · simp [hkey, (φ.key_inj ha hb).2 hkey]
    · have hkey' := mt (φ.key_inj ha hb).1 hkey
      simp [beq_eq_false_iff_ne.2 hkey, beq_eq_false_iff_ne.2 hkey']

theorem get? (h : es.Renamed φ es') (ha : a ∈ used) :
    es'.get? (CodeKey.ofAddress (φ.rename a)) = es.get? (CodeKey.ofAddress a) :=
  lookup h ha

theorem filter {keep keep' : String × Entry → Bool} (h : es.Renamed φ es')
    (hkeep : ∀ b ∈ used, ∀ e,
      keep' (CodeKey.ofAddress (φ.rename b), e) = keep (CodeKey.ofAddress b, e)) :
    (es.filter keep).Renamed φ (es'.filter keep') := by
  refine List.rel_filter ?_ h
  rintro ⟨_, e⟩ _ ⟨b, hb, rfl, rfl⟩
  simp only [hkeep b hb]

theorem erase (h : es.Renamed φ es') (ha : a ∈ used) :
    (es.erase (CodeKey.ofAddress a)).Renamed φ (es'.erase (CodeKey.ofAddress (φ.rename a))) := by
  refine h.filter fun b hb e => ?_
  by_cases hkey : CodeKey.ofAddress b = CodeKey.ofAddress a
  · simp [hkey, (φ.key_inj hb ha).2 hkey]
  · have hkey' := mt (φ.key_inj hb ha).1 hkey
    simp [bne_iff_ne.2 hkey, bne_iff_ne.2 hkey']

theorem insert (h : es.Renamed φ es') (ha : a ∈ used) (e : Entry) :
    (es.insert (CodeKey.ofAddress a) e).Renamed φ
      (es'.insert (CodeKey.ofAddress (φ.rename a)) e) :=
  .cons ⟨a, ha, rfl, rfl⟩ (h.erase ha)

theorem size (h : es.Renamed φ es') : es'.size = es.size :=
  (List.Forall₂.length_eq h).symm

end Entries.Renamed

/-- The same cache under the keys of the other addresses. -/
structure Memory.Renamed (φ : Renaming used) (m m' : Memory) : Prop where
  entries : m.entries.Renamed φ m'.entries
  writes : m'.writes = m.writes
  poisoned : m'.poisoned = m.poisoned

namespace Memory.Renamed

variable {m m' : Memory}

theorem empty (φ : Renaming used) : Memory.Renamed φ .empty .empty :=
  ⟨.nil, rfl, rfl⟩

theorem liveEntry (h : m.Renamed φ m') (ha : a ∈ used) (now : Nat) :
    let r := m.liveEntry now (CodeKey.ofAddress a)
    let r' := m'.liveEntry now (CodeKey.ofAddress (φ.rename a))
    r'.1 = r.1 ∧ r.2.1.Renamed φ r'.2.1 ∧ r'.2.2 = r.2.2 := by
  unfold Memory.liveEntry
  rw [h.entries.get? ha]
  cases m.entries.get? (CodeKey.ofAddress a) with
  | none => exact ⟨rfl, h, rfl⟩
  | some e =>
    have hevicted : evicted (CodeKey.ofAddress (φ.rename a)) = evicted (CodeKey.ofAddress a) := by
      rw [evicted, evicted, φ.mask_key ha]
    dsimp only
    rw [hevicted]
    split
    · exact ⟨rfl, h, rfl⟩
    · exact ⟨rfl, ⟨h.entries.erase ha, h.writes, h.poisoned⟩, rfl⟩

theorem sweep (h : m.Renamed φ m') (now : Nat) :
    (m.sweep now).1.Renamed φ (m'.sweep now).1 ∧ (m'.sweep now).2 = (m.sweep now).2 := by
  have hkept : (m.sweep now).1.entries.Renamed φ (m'.sweep now).1.entries :=
    h.entries.filter fun _ _ _ => rfl
  have hsize := hkept.size
  refine ⟨⟨hkept, h.writes, h.poisoned⟩, ?_⟩
  simp only [Memory.sweep] at hsize ⊢
  rw [h.entries.size, hsize]

theorem locked {α : Type} {operation operation' : Memory → Reply Memory CacheError α}
    (h : m.Renamed φ m') (hop : (operation m).Twin (Memory.Renamed φ) (operation' m')) :
    (m.locked operation).Twin (Memory.Renamed φ) (m'.locked operation') := by
  unfold Memory.locked
  rw [h.poisoned]
  split
  · exact ⟨rfl, h, rfl⟩
  · exact hop

theorem withLiveEntry {α : Type} (h : m.Renamed φ m') (ha : a ∈ used) (now : Nat)
    (read : Option Entry → α) :
    (m.withLiveEntry now (CodeKey.ofAddress a) read).Twin (Memory.Renamed φ)
      (m'.withLiveEntry now (CodeKey.ofAddress (φ.rename a)) read) := by
  obtain ⟨hentry, hstate, hevents⟩ := h.liveEntry ha now
  refine h.locked ⟨?_, hstate, hevents⟩
  simp only [hentry]

theorem insert (h : m.Renamed φ m') (ha : a ∈ used) (now : Nat) (value : String)
    (lifetime : Nat) :
    (m.insert now (CodeKey.ofAddress a) value lifetime).Twin (Memory.Renamed φ)
      (m'.insert now (CodeKey.ofAddress (φ.rename a)) value lifetime) := by
  unfold Memory.insert
  split
  · exact ⟨rfl, ⟨h.entries, h.writes, rfl⟩, rfl⟩
  · have hwritten : Memory.Renamed φ
        { m with
          entries := m.entries.insert (CodeKey.ofAddress a) ⟨value, now + lifetime * 1000⟩
          writes := m.writes + 1 }
        { m' with
          entries :=
            m'.entries.insert (CodeKey.ofAddress (φ.rename a)) ⟨value, now + lifetime * 1000⟩
          writes := m.writes + 1 } :=
      ⟨h.entries.insert ha _, rfl, h.poisoned⟩
    obtain ⟨hswept, hevents⟩ := hwritten.sweep now
    simp only [h.writes]
    split
    · -- The count of writes is the same, so both are swept, or neither is.
      exact ⟨rfl, hswept, hevents⟩
    · exact ⟨rfl, hwritten, rfl⟩

theorem storeIfAbsent (h : m.Renamed φ m') (ha : a ∈ used) (now : Nat) (value : String)
    (lifetime : Nat) :
    (m.storeIfAbsent now (CodeKey.ofAddress a) value lifetime).Twin (Memory.Renamed φ)
      (m'.storeIfAbsent now (CodeKey.ofAddress (φ.rename a)) value lifetime) := by
  obtain ⟨hentry, hstate, hevents⟩ := h.liveEntry ha now
  refine h.locked ?_
  simp only [hentry]
  cases (m.liveEntry now (CodeKey.ofAddress a)).1 with
  | some e => exact ⟨rfl, hstate, hevents⟩
  | none =>
    obtain ⟨houtcome, hinserted, hmore⟩ := hstate.insert ha now value lifetime
    exact ⟨by simp only [houtcome], hinserted, by simp only [hevents, hmore]⟩

end Memory.Renamed

theorem Memory.impartial (φ : Renaming used) :
    Memory.gateway.Impartial φ (Memory.Renamed φ) where
  lookup now _ ha _ _ h := h.withLiveEntry ha now _
  store now value lifetime _ ha _ _ h := h.locked (h.insert ha now value lifetime)
  storeIfAbsent now value lifetime _ ha _ _ h := h.storeIfAbsent ha now value lifetime
  contains now _ ha _ _ h := h.withLiveEntry ha now _
  timeLeft now _ ha _ _ h := h.withLiveEntry ha now _
  healthy _ _ _ h := ⟨rfl, h, rfl⟩

/-! ## The cache behind a server -/

namespace Redis

/-- The command without the key that it is about. -/
def Command.blind : Command → Command
  | .get _ => .get ""
  | .setExpiring _ lifetime value => .setExpiring "" lifetime value
  | .setIfAbsent _ value lifetime => .setIfAbsent "" value lifetime
  | .delete _ => .delete ""
  | .contains _ => .contains ""
  | .timeLeft _ => .timeLeft ""
  | .ping => .ping

/-- A server that goes by a script, whatever key it is asked about. -/
def scripted {σ : Type} (script : Server σ) : Server σ :=
  fun now command s => script now command.blind s

/-- Which key a query is about can only be told from its command. -/
theorem Query.run_command {σ α : Type} {server : Server σ} {q : Query α} {command : Command}
    {now : Nat} {s : σ} (h : server now command s = server now q.command s) :
    { q with command }.run server now s = q.run server now s := by
  simp only [Query.run, h]
  rfl

/-- A query that shows its key masked. -/
structure Discreet {α : Type} (query : String → Query α) : Prop where
  shown : ∀ key key', Client.shown key' = Client.shown key →
    query key' = { query key with command := (query key').command }
  blind : ∀ key key', (query key').command.blind = (query key).command.blind

theorem discreet_get : Discreet Client.get :=
  ⟨fun key key' h => by simp only [Client.get, h], fun _ _ => rfl⟩

theorem discreet_set (value : String) (lifetime : Nat) :
    Discreet fun key => Client.set key value lifetime :=
  ⟨fun key key' h => by simp only [Client.set, h], fun _ _ => rfl⟩

theorem discreet_setIfAbsent (value : String) (lifetime : Nat) :
    Discreet fun key => Client.setIfAbsent key value lifetime :=
  ⟨fun key key' h => by simp only [Client.setIfAbsent, h], fun _ _ => rfl⟩

theorem discreet_contains : Discreet Client.contains :=
  ⟨fun key key' h => by simp only [Client.contains, h], fun _ _ => rfl⟩

theorem discreet_timeLeft : Discreet Client.timeLeft :=
  ⟨fun key key' h => by simp only [Client.timeLeft, h], fun _ _ => rfl⟩

section
variable {σ : Type} (script : Server σ) (φ : Renaming used)

/-- A discreet query comes to the same under the key of the other address. -/
theorem Discreet.perform_eq {α : Type} {query : String → Query α} (h : Discreet query)
    (operation : String) (ha : a ∈ used) (now : Nat) (s : σ) :
    Gateway.perform (scripted script) operation (CodeKey.ofAddress (φ.rename a))
        (query (CodeKey.ofAddress (φ.rename a))) now s =
      Gateway.perform (scripted script) operation (CodeKey.ofAddress a)
        (query (CodeKey.ofAddress a)) now s := by
  have hshown : Client.shown (CodeKey.ofAddress (φ.rename a)) =
      Client.shown (CodeKey.ofAddress a) := by
    rw [Client.shown, Client.shown, φ.mask_key ha]
  have hrun : (query (CodeKey.ofAddress (φ.rename a))).run (scripted script) now s =
      (query (CodeKey.ofAddress a)).run (scripted script) now s := by
    rw [h.shown _ _ hshown]
    refine Query.run_command ?_
    simp only [scripted, h.blind (CodeKey.ofAddress a)]
  simp only [Gateway.perform, hrun, Gateway.failed, φ.mask_key ha]

theorem Gateway.storeIfAbsent_eq (ha : a ∈ used) (now : Nat) (value : String) (lifetime : Nat)
    (s : σ) :
    storeIfAbsent (scripted script) now (CodeKey.ofAddress (φ.rename a)) value lifetime s =
      storeIfAbsent (scripted script) now (CodeKey.ofAddress a) value lifetime s := by
  have hperform :=
    (discreet_setIfAbsent value lifetime).perform_eq script φ "set_nx" ha now s
  simp only [storeIfAbsent, hperform, keptRecord, φ.mask_key ha]

theorem impartial : (gateway (scripted script)).Impartial φ Eq where
  lookup now a ha := by
    rintro s _ rfl
    exact .of_eq (discreet_get.perform_eq script φ "get" ha now s)
  store now value lifetime a ha := by
    rintro s _ rfl
    exact .of_eq ((discreet_set value lifetime).perform_eq script φ "set_ex" ha now s)
  storeIfAbsent now value lifetime a ha := by
    rintro s _ rfl
    exact .of_eq (Gateway.storeIfAbsent_eq script φ ha now value lifetime s)
  contains now a ha := by
    rintro s _ rfl
    exact .of_eq (discreet_contains.perform_eq script φ "exists" ha now s)
  timeLeft now a ha := by
    rintro s _ rfl
    exact .of_eq (discreet_timeLeft.perform_eq script φ "ttl" ha now s)
  healthy := by
    rintro now s _ rfl
    exact .of_eq rfl

end

end Redis

end MailCode
