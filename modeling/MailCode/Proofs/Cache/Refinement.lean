import MailCode.Proofs.Cache.View
import Mathlib.Data.Finmap
/-!
# The cache in memory is an expiring map

An `ExpiringMap` drops nothing, ever: a write replaces the entry of its key, and an entry counts
as long as its time has not come. The cache in memory drops dead entries in three places, when a
key is asked for, every 64 writes and when told to purge. `memory_refines_expiringMap` says that
this cannot be noticed: over every run the two give the same answers, except about how much is
held, and purging brings what is held down to what is live.
-/

namespace MailCode

open Memory (Action Result Step run)

/-- Entries under keys, kept for good. -/
structure ExpiringMap where
  entries : Finmap fun _ : String => Entry

namespace ExpiringMap

/-- The map without any entry. -/
def empty : ExpiringMap :=
  ⟨∅⟩

/-- The entry under a key, until its time has come. -/
def find? (t : ExpiringMap) (now : Nat) (key : String) : Option Entry :=
  (t.entries.lookup key).filter fun e => now < e.expiresAt

/-- The keys that hold an entry whose time has not come. -/
def keys (t : ExpiringMap) (now : Nat) : Finset String :=
  t.entries.keys.filter fun key => (t.find? now key).isSome

/-- The map after a write. -/
def put (t : ExpiringMap) (now : Nat) (key value : String) (lifetime : Nat) : ExpiringMap :=
  ⟨t.entries.insert key ⟨value, now + lifetime * 1000⟩⟩

/-- Carries an operation out. There is nothing to purge, and everything is held. -/
def perform (now : Nat) (action : Action) (t : ExpiringMap) :
    Reply ExpiringMap CacheError Result :=
  match action with
  | .lookup key => ⟨.ok (.text ((t.find? now key).map Entry.value)), t, []⟩
  | .store key value lifetime => ⟨.ok .nothing, t.put now key value lifetime, []⟩
  | .storeIfAbsent key value lifetime =>
    match t.find? now key with
    | some e => ⟨.ok (.stored (.existing e.value)), t, []⟩
    | none => ⟨.ok (.stored .inserted), t.put now key value lifetime, []⟩
  | .contains key => ⟨.ok (.flag (t.find? now key).isSome), t, []⟩
  | .timeLeft key =>
    ⟨.ok (.seconds ((t.find? now key).map fun e => (e.expiresAt - now) / 1000)), t, []⟩
  | .size => ⟨.ok (.count (t.keys now).card), t, []⟩
  | .isEmpty => ⟨.ok (.flag (t.keys now = ∅)), t, []⟩
  | .held => ⟨.ok (.count t.entries.keys.card), t, []⟩
  | .purge => ⟨.ok (.count 0), t, []⟩
  | .healthy => ⟨.ok (.flag true), t, []⟩

theorem mem_keys {t : ExpiringMap} {now : Nat} {key : String} :
    key ∈ t.keys now ↔ (t.find? now key).isSome := by
  refine ⟨fun h => (Finset.mem_filter.1 h).2, fun h => Finset.mem_filter.2 ⟨?_, h⟩⟩
  obtain ⟨e, he⟩ := Option.isSome_iff_exists.1 h
  exact Finmap.mem_keys.2 (Finmap.mem_of_lookup_eq_some (Option.filter_eq_some_iff.1 he).1)

/-- What is found later is what is found now and has not expired by then. -/
theorem find?_later {now later : Nat} (hle : now ≤ later) (t : ExpiringMap) (key : String) :
    t.find? later key = (t.find? now key).filter (·.isLive later) :=
  (Entry.filter_isLive_later hle (t.entries.lookup key)).symm

theorem find?_put (t : ExpiringMap) (now : Nat) (key value : String) (lifetime : Nat) :
    (t.put now key value lifetime).find? now =
      Function.update (t.find? now) key (Memory.fresh? now value lifetime) := by
  funext k
  by_cases hk : k = key
  · rw [hk, Function.update_self, find?, put, Finmap.lookup_insert]
    rfl
  · rw [Function.update_of_ne hk, find?, put, Finmap.lookup_insert_of_ne _ hk]
    rfl

end ExpiringMap

/-! ## Counting what is live -/

theorem Entries.isSome_get? (es : Entries) (key : String) :
    (es.get? key).isSome ↔ key ∈ es.toList.map (·.1) := by
  rw [← not_iff_not, Bool.not_eq_true, Option.isSome_eq_false_iff, Option.isNone_iff_eq_none]
  refine List.lookup_eq_none_iff.trans ⟨fun h hmem => ?_, fun h p hp => ?_⟩
  · obtain ⟨p, hp, rfl⟩ := List.mem_map.1 hmem
    exact bne_iff_ne.1 (h p hp) rfl
  · exact bne_iff_ne.2 fun he => h (List.mem_map.2 ⟨p, hp, he.symm⟩)

namespace Memory

variable {now : Nat} {m : Memory}

theorem size_sweep (now : Nat) (m : Memory) :
    (m.sweep now).1.entries.size = m.entries.liveCount now :=
  List.countP_eq_length_filter.symm

theorem liveCount_le_size (now : Nat) (m : Memory) : m.entries.liveCount now ≤ m.entries.size :=
  List.countP_le_length

/-- The live entries are as many as the keys that hold one. -/
theorem liveCount_eq_card {keys : Finset String}
    (hkeys : ∀ key, key ∈ keys ↔ (m.live? now key).isSome) :
    m.entries.liveCount now = keys.card := by
  let kept := (m.sweep now).1.entries
  have hget (key : String) : kept.get? key = m.live? now key := Entries.get?_filter _ _ key
  have hset : keys = (kept.toList.map (·.1)).toFinset := by
    ext key
    rw [hkeys, List.mem_toFinset, ← Entries.isSome_get?, hget]
  rw [hset, List.toFinset_card_of_nodup kept.distinct, List.length_map]
  exact List.countP_eq_length_filter

/-! ## One operation -/

/-- The cache is sound, and holds the same live entries as the map. -/
def Refines (now : Nat) (m : Memory) (t : ExpiringMap) : Prop :=
  m.poisoned = false ∧ m.live? now = t.find? now

variable {t : ExpiringMap}

theorem Refines.later {later : Nat} (hle : now ≤ later) (h : Refines now m t) :
    Refines later m t := by
  refine ⟨h.1, funext fun key => ?_⟩
  rw [live?_later hle, h.2, ExpiringMap.find?_later hle]

theorem Refines.liveCount (h : Refines now m t) : m.entries.liveCount now = (t.keys now).card :=
  liveCount_eq_card fun key => by rw [ExpiringMap.mem_keys, h.2]

/-- Whether an operation tells how many entries are held, dead ones included. -/
def Action.tellsHeld : Action → Bool
  | .held | .purge => true
  | _ => false

/-- Over a cache that refines a map an operation answers what it answers over the map, and leaves
behind a cache that refines what the map has become. -/
theorem Refines.perform (h : Refines now m t) {action : Action} (hc : action.isCountable) :
    Refines now (Memory.perform now action m).state (t.perform now action).state ∧
      (action.tellsHeld = false →
        (Memory.perform now action m).outcome = (t.perform now action).outcome) := by
  obtain ⟨hm, hlive⟩ := h
  cases action with
  | lookup key | contains key | timeLeft key =>
    refine ⟨⟨(poisoned_withLiveEntry now m key _).trans hm,
      (live?_withLiveEntry now m key _).trans hlive⟩, fun _ => ?_⟩
    simp only [ExpiringMap.perform, ← hlive]
    exact congrArg (Outcome.map _) (withLiveEntry_outcome hm key _)
  | store key value lifetime =>
    obtain ⟨hok, hstate, hsound⟩ := insert_spec (decide_eq_true_iff.1 hc) now key value m
    simp only [Memory.perform, store, locked_of_sound hm]
    refine ⟨⟨hsound.trans hm, hstate.trans ?_⟩, fun _ => congrArg (Outcome.map _) hok⟩
    rw [hlive]
    exact (t.find?_put now key value lifetime).symm
  | storeIfAbsent key value lifetime =>
    simp only [Memory.perform, ExpiringMap.perform]
    cases hfind : t.find? now key with
    | some e =>
      obtain ⟨hok, hstate, hsound⟩ :=
        storeIfAbsent_of_live hm (hlive ▸ hfind) value lifetime
      exact ⟨⟨hsound, hstate.trans hlive⟩, fun _ => congrArg (Outcome.map _) hok⟩
    | none =>
      obtain ⟨hok, hstate, hsound⟩ :=
        storeIfAbsent_of_free hm (hlive ▸ hfind) (decide_eq_true_iff.1 hc) value
      refine ⟨⟨hsound, hstate.trans ?_⟩, fun _ => congrArg (Outcome.map _) hok⟩
      rw [hlive]
      exact (t.find?_put now key value lifetime).symm
  | size =>
    have hcount := Refines.liveCount ⟨hm, hlive⟩
    simp only [Memory.perform, size, locked_of_sound hm]
    refine ⟨⟨hm, hlive⟩, fun _ => ?_⟩
    rw [hcount]
    rfl
  | isEmpty =>
    have hcount := Refines.liveCount ⟨hm, hlive⟩
    have hempty : ((t.keys now).card == 0) = decide (t.keys now = ∅) := by
      rw [Bool.eq_iff_iff, beq_iff_eq, decide_eq_true_iff, Finset.card_eq_zero]
    simp only [Memory.perform, isEmpty, size, locked_of_sound hm]
    refine ⟨⟨hm, hlive⟩, fun _ => ?_⟩
    rw [hcount]
    exact congrArg (fun b => Outcome.ok (Result.flag b)) hempty
  | held =>
    simp only [Memory.perform, held, locked_of_sound hm]
    exact ⟨⟨hm, hlive⟩, fun h => by cases h⟩
  | purge =>
    simp only [Memory.perform, purge, locked_of_sound hm]
    exact ⟨⟨hm, (live?_sweep now m).trans hlive⟩, fun h => by cases h⟩
  | healthy => exact ⟨⟨hm, hlive⟩, fun _ => rfl⟩

/-! ## Whole runs -/

/-- What a run shows to those who cannot see how much is held. -/
def Run.shown {κ : Type} (r : Run κ) : List (Action × Outcome CacheError Result) :=
  r.transcript.filter fun p => !p.1.tellsHeld

theorem Refines.run {steps : List Step} (hc : ∀ step ∈ steps, step.isCountable) :
    ∀ {now : Nat} {m : Memory} {t : ExpiringMap}, Refines now m t →
      (run Memory.perform steps now m).now = (run ExpiringMap.perform steps now t).now ∧
      Refines (run Memory.perform steps now m).now (run Memory.perform steps now m).state
        (run ExpiringMap.perform steps now t).state ∧
      (run Memory.perform steps now m).shown = (run ExpiringMap.perform steps now t).shown := by
  -- Time passes alike on both sides, so the two are compared at the same moment throughout.
  induction steps with
  | nil => exact fun h => ⟨rfl, h, rfl⟩
  | cons step steps ih =>
    intro now m t h
    have ih := @ih fun step hstep => hc step (List.mem_cons_of_mem _ hstep)
    cases step with
    | wait duration => exact ih (h.later (Nat.le_add_right now duration))
    | act action =>
      obtain ⟨hnext, houtcome⟩ := h.perform (hc (.act action) List.mem_cons_self)
      obtain ⟨hnow, hstate, hshown⟩ := ih hnext
      refine ⟨hnow, hstate, ?_⟩
      simp only [Run.shown, Memory.run, List.filter_cons] at hshown ⊢
      cases htells : action.tellsHeld with
      | true => simpa [htells] using hshown
      | false => simpa [htells, houtcome htells] using hshown

/-- What is live is a part of what is held; purging drops the rest and tells how much that was. -/
theorem purge_spec (now : Nat) {m : Memory} (hm : m.poisoned = false) :
    (m.size now).outcome = .ok (m.entries.liveCount now) ∧
      m.held.outcome = .ok m.entries.size ∧
      (m.purge now).outcome = .ok (m.entries.size - m.entries.liveCount now) ∧
      ((m.purge now).state.size now).outcome = .ok (m.entries.liveCount now) ∧
      (m.purge now).state.held.outcome = .ok (m.entries.liveCount now) := by
  have hswept : (m.sweep now).1.poisoned = false := hm
  have hlive : (m.sweep now).1.entries.liveCount now = m.entries.liveCount now := by
    rw [← size_sweep now m, ← size_sweep now (m.sweep now).1]
    simp only [sweep, Entries.size, Entries.filter, List.filter_filter, Bool.and_self]
  simp only [size, held, purge, locked_of_sound hm, locked_of_sound hswept, size_sweep, hlive,
    and_self]

/-- The cache in memory answers as the expiring map does, whatever is done to it in whatever
order while time passes. What it holds beyond the live entries shows only in `held` and in what
`purge` says it dropped. -/
theorem memory_refines_expiringMap (start : Nat) (steps : List Step)
    (hc : ∀ step ∈ steps, step.isCountable) :
    let actual := run Memory.perform steps start .empty
    let ideal := run ExpiringMap.perform steps start .empty
    let purged := actual.state.purge actual.now
    actual.shown = ideal.shown ∧
      ∃ live held, (actual.state.size actual.now).outcome = .ok live ∧
        (ideal.state.keys actual.now).card = live ∧
        actual.state.held.outcome = .ok held ∧ live ≤ held ∧
        purged.outcome = .ok (held - live) ∧
        (purged.state.size actual.now).outcome = .ok live ∧ purged.state.held.outcome = .ok live := by
  intro actual ideal purged
  have hstart : Refines start .empty .empty := ⟨rfl, rfl⟩
  obtain ⟨-, hend, hshown⟩ := hstart.run hc
  obtain ⟨hsize, hheld, hpurged, hsize', hheld'⟩ := purge_spec actual.now hend.1
  exact ⟨hshown, _, _, hsize, hend.liveCount.symm, hheld, liveCount_le_size _ _, hpurged, hsize',
    hheld'⟩

/-- A run that meets an entry at the very instant of its expiry, one that is dead from the start,
and a write that sweeps. -/
theorem memory_refines_expiringMap_at_expiry :
    let steps : List Step := [.act (.store "a" "1" 2), .act (.store "b" "2" 0), .act (.lookup "b"),
      .wait 2000, .act (.timeLeft "a"), .act (.storeIfAbsent "a" "3" 1)] ++
      List.replicate 64 (.act (.store "c" "4" 1)) ++ [.act .held, .act .size, .act .purge]
    (∀ step ∈ steps, step.isCountable) ∧
      (run Memory.perform steps 5 .empty).shown = (run ExpiringMap.perform steps 5 .empty).shown :=
  ⟨by decide, (memory_refines_expiringMap 5 _ (by decide)).1⟩

end Memory

end MailCode
