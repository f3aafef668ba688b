import MailCode.Proofs.Rehearsal.Cast
/-!
# The strategies differ only where requests overlap

One strategy writes a fresh code over whatever its key holds, the other only where nothing live is
held. A request that nothing else comes in between has just looked its key up, though, and by that
a dead entry is dropped: both strategies then write under a key that holds nothing at all, and the
two caches are the same to the last entry and the count of writes (`write_agrees`). So runs in which
requests are served one after the other cannot tell the strategies apart, but for the name of the
operation that writes (`strategies_agree`). It takes faults that strike both operations alike.
-/

namespace MailCode

/-- The call with both ways of writing a code under one name. -/
def Call.nameless : Call → Call
  | .store key value lifetime => .storeIfAbsent key value lifetime
  | call => call

namespace Memory

/-- A key that turned out to hold nothing live holds nothing any more. -/
theorem liveEntry_eq_none {now : Nat} {key : String} {m : Memory}
    (h : (m.liveEntry now key).1 = none) : (m.liveEntry now key).2.1.entries.get? key = none := by
  unfold liveEntry at h ⊢
  cases hget : m.entries.get? key with
  | none => exact hget
  | some e =>
    rw [hget] at h
    cases hlive : e.isLive now with
    | true => simp [hlive] at h
    | false =>
      simp only [hlive, Bool.false_eq_true, if_false]
      rw [Entries.get?_erase, if_pos rfl]

/-- Under a key that holds nothing both ways of writing come to the same. -/
theorem storeIfAbsent_eq_store {m : Memory} {key : String} (h : m.entries.get? key = none)
    (now : Nat) (value : String) (lifetime : Nat) :
    m.storeIfAbsent now key value lifetime =
      (m.store now key value lifetime).map fun () => .inserted := by
  have hentry : m.liveEntry now key = (none, m, []) := by rw [liveEntry, h]
  cases hm : m.poisoned with
  | true =>
    rw [storeIfAbsent, store, locked_of_poisoned hm, locked_of_poisoned hm]
    rfl
  | false =>
    rw [storeIfAbsent, store, locked_of_sound hm, locked_of_sound hm]
    simp only [hentry]
    rfl

end Memory

namespace Rehearsal

open Issuance World

variable {policy : DeliveryPolicy} {email : String} {w : World Memory}

/-! ## One request -/

/-- A lookup that finds nothing leaves nothing under its key. -/
theorem get?_of_missed {key : String} {w' : World Memory} {events : List Event}
    (h : cast.lookup key w = ⟨.ok none, w', events⟩) : w'.cache.entries.get? key = none := by
  have hask : cast.lookup key w =
      w.askCache w.faults.lookup (Memory.gateway.lookup w.now key) := rfl
  rw [hask] at h
  cases hfault : w.faults.lookup with
  | some f =>
    rw [hfault] at h
    cases f <;> simp [askCache, Fault.outcome] at h
  | none =>
    rw [hfault, askCache_none] at h
    cases hm : w.cache.poisoned with
    | true =>
      simp [Memory.gateway, Memory.lookup, Memory.withLiveEntry, Memory.locked_of_poisoned hm,
        Reply.mapState] at h
    | false =>
      simp only [Memory.gateway, Memory.lookup, Memory.withLiveEntry, Memory.locked_of_sound hm,
        Reply.mapState, Reply.mk.injEq, Outcome.ok.injEq, Option.map_eq_none_iff] at h
      obtain ⟨hnone, rfl, -⟩ := h
      exact Memory.liveEntry_eq_none hnone

/-- The generator leaves the cache alone. -/
theorem generate_keeps (w : World Memory) :
    (cast.generate w).state.cache = w.cache ∧ (cast.generate w).state.faults = w.faults := by
  rw [cast_generate, drawCode]
  split <;> exact ⟨rfl, rfl⟩

/-- Under a key that holds nothing a code is written the same with both strategies, if the same
fault is set for both. -/
theorem write_agrees (hfaults : w.faults.storeIfAbsent = w.faults.store)
    (hfree : w.cache.entries.get? (CodeKey.ofAddress email) = none) (code : String) :
    write cast .setIfAbsent email code w = write cast .checkThenSet email code w := by
  rw [write_setIfAbsent, write_checkThenSet, hfaults]
  cases w.faults.store with
  | some f => cases f <;> rfl
  | none =>
    rw [askCache_none, askCache_none, Memory.storeIfAbsent_eq_store hfree]
    rfl

/-- What an issuance leaves behind, with both ways of writing under one name. -/
def nameless (p : Progress (World Memory)) : Progress (World Memory) :=
  { p with calls := p.calls.map Call.nameless }

/-- A request that is served alone goes the same way with both strategies. -/
theorem issue_agrees (policy : DeliveryPolicy) (email : String)
    (hfaults : w.faults.storeIfAbsent = w.faults.store) :
    nameless (issue cast ⟨.setIfAbsent, policy⟩ email w) =
      nameless (issue cast ⟨.checkThenSet, policy⟩ email w) := by
  -- The write is the only place where the strategies part, and it comes after a lookup in vain.
  have hwrite {w₁ w₂ : World Memory} {code : String} {es₁ es₂ : List Event}
      (hl : cast.lookup (CodeKey.ofAddress email) w = ⟨.ok none, w₁, es₁⟩)
      (hg : cast.generate w₁ = ⟨.ok code, w₂, es₂⟩) :
      write cast .setIfAbsent email code w₂ = write cast .checkThenSet email code w₂ := by
    have hlooked := quiet_lookup w (CodeKey.ofAddress email)
    have hmade := generate_keeps w₁
    rw [hl] at hlooked
    rw [hg] at hmade
    refine write_agrees ?_ ?_ code
    · rw [hmade.2, hlooked.faults, hfaults]
    · rw [hmade.1]
      exact get?_of_missed hl
  have hcourse := issue_course cast ⟨.checkThenSet, policy⟩ email w
  generalize dialogue cast ⟨.checkThenSet, policy⟩ email w = said at hcourse
  generalize issue cast ⟨.checkThenSet, policy⟩ email w = p at hcourse ⊢
  cases hcourse with
  | refused he => rw [(Course.refused he).eq_issue]
  | lookupFailed hne hl ho => rw [(Course.lookupFailed hne hl ho).eq_issue]
  | hit hne hl =>
    rw [(Course.hit hne hl).eq_issue]
    rfl
  | generatorFailed hne hl hg ho => rw [(Course.generatorFailed hne hl hg ho).eq_issue]
  | writeFailed hne hl hg hw ho =>
    rw [(Course.writeFailed hne hl hg ((hwrite hl hg).trans hw) ho).eq_issue]
    rfl
  | stored hne hl hg hw =>
    rw [(Course.stored hne hl hg ((hwrite hl hg).trans hw)).eq_issue]
    rfl
  | lost hne hl hg hw => cases strategy_of_existing hw

/-! ## Whole runs -/

/-- Whether an action is about one request at most, so that nothing else comes in between. -/
def Action.isAlone : Action → Bool
  | .issueTogether .. => false
  | _ => true

/-- The performance with both ways of writing under one name. -/
def Performance.nameless (p : Performance) : Performance :=
  { p with calls := p.calls.map Call.nameless }

/-- What each of some actions leaves behind that are carried out one after the other. -/
def performEach (settings : IssuingSettings) : List Action → World Memory → List Performance
  | [], _ => []
  | action :: actions, w =>
    let p := perform settings action w
    p :: performEach settings actions p.world

/-- The same fault is set for both ways of writing. -/
def Faults.StrikeAlike (faults : Faults) : Prop :=
  faults.storeIfAbsent = faults.store

instance (faults : Faults) : Decidable faults.StrikeAlike :=
  inferInstanceAs (Decidable (faults.storeIfAbsent = faults.store))

theorem perform_agrees (policy : DeliveryPolicy) {action : Action} (halone : action.isAlone)
    (hfaults : w.faults.StrikeAlike) :
    (perform ⟨.setIfAbsent, policy⟩ action w).nameless =
      (perform ⟨.checkThenSet, policy⟩ action w).nameless := by
  cases action with
  | issue email =>
    have hissue := issue_agrees policy email hfaults
    simp only [Rehearsal.nameless, Progress.mk.injEq] at hissue
    obtain ⟨hstage, hstate, hcalls, hevents⟩ := hissue
    simp only [perform, Performance.nameless, hstage, hstate, hcalls, hevents]
  | issueTogether emails points => cases halone
  | hasLiveCode email | codeTimeLeft email | cacheHealthy | rig change
  | setMailboxFailing failing | resetMailbox | wait duration | direct action => rfl

/-- Served one after the other, requests do not show which strategy is in use. Whatever else is
done and whatever faults there are, as long as they strike both ways of writing alike: every step
of a run has the same result, leaves the same cache to the last entry and the count of writes, the
same mails and the same supply of codes, logs the same, and makes the same calls but for the name
of the write. -/
theorem strategies_agree (policy : DeliveryPolicy) (actions : List Action)
    (halone : ∀ action ∈ actions, action.isAlone) (start : World Memory)
    (hfaults : start.faults.StrikeAlike)
    (hfaults' : ∀ p ∈ performEach ⟨.checkThenSet, policy⟩ actions start,
      p.world.faults.StrikeAlike) :
    (performEach ⟨.setIfAbsent, policy⟩ actions start).map Performance.nameless =
      (performEach ⟨.checkThenSet, policy⟩ actions start).map Performance.nameless := by
  induction actions generalizing start with
  | nil => rfl
  | cons action actions ih =>
    have hfirst := perform_agrees policy (halone action List.mem_cons_self) hfaults
    have hworld := congrArg Performance.world hfirst
    simp only [Performance.nameless] at hworld
    -- Both runs go on from one world, so the rest is a run of the same kind.
    have hrest := ih (fun a ha => halone a (List.mem_cons_of_mem _ ha)) _
      (hfaults' _ List.mem_cons_self) fun p hp => hfaults' p (List.mem_cons_of_mem _ hp)
    simp only [performEach, List.map_cons, hfirst, hworld, hrest]

/-- A run in which a write panics, a dead entry is still held when its address is asked for again,
and a code is put into the cache behind the service's back. -/
theorem strategies_agree_on_dead_entry :
    let settings (strategy : Strategy) : IssuingSettings := ⟨strategy, .strict⟩
    let strike (fault : Option (Fault CacheError)) : Action :=
      .rig fun faults => { faults with store := fault, storeIfAbsent := fault }
    let actions : List Action := [.issue "a", strike (some (.panic .unreadable)), .issue "b",
      strike none, .wait 600000, .direct (.store (CodeKey.ofAddress "b") "9" 60), .issue "b",
      .issue "a"]
    let start : World Memory := .fresh .empty (fun n => if n = 0 then "12" else "34") fun _ => "id"
    (∀ action ∈ actions, action.isAlone) ∧ start.faults.StrikeAlike ∧
      (∀ p ∈ performEach (settings .checkThenSet) actions start, p.world.faults.StrikeAlike) ∧
      (performEach (settings .setIfAbsent) actions start).map Performance.nameless =
        (performEach (settings .checkThenSet) actions start).map Performance.nameless := by
  intro settings strike actions start
  have halone : ∀ action ∈ actions, action.isAlone := by decide
  have hfaults : ∀ p ∈ performEach (settings .checkThenSet) actions start,
      p.world.faults.StrikeAlike := by decide +kernel
  exact ⟨halone, rfl, hfaults, strategies_agree .strict actions halone start rfl hfaults⟩

end Rehearsal

end MailCode
