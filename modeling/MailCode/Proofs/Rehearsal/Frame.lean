import MailCode.Proofs.Rehearsal.Reuse
/-!
# What a request leaves alone

Seen from outside, a cache in memory is what every key holds and how long it has left (`view`). A
request changes that in one way only: when the address has no live code and a code is made and
written (`Creates`), the key of the address holds that code for ten minutes. Everything else stays
as it is (`Framed`), though dead entries may be dropped on the way, and whatever the collaborators
do.
-/

namespace MailCode.Rehearsal

open Issuance World

variable {settings : IssuingSettings} {email code : String} {w w' : World Memory}

/-- What a key is seen to hold: a value, and the milliseconds that it has left. -/
def World.view (w : World Memory) (key : String) : Option (String × Nat) :=
  (w.cache.live? w.now key).map fun e => (e.value, e.expiresAt - w.now)

/-- A request makes a code and writes it: the address has no live code, and the generator and the
cache both reply well. -/
structure Creates (settings : IssuingSettings) (email code : String) (w : World Memory) : Prop where
  free : w.record? email = none
  made : .generate (.ok code) ∈ dialogue cast settings email w
  written : writeExchange settings.strategy email code (.ok .inserted) ∈
    dialogue cast settings email w

/-- What a request leaves alone, and what it does not. -/
structure Framed (settings : IssuingSettings) (email : String) (w after : World Memory) : Prop where
  now : after.now = w.now
  sound : after.cache.poisoned = false
  created : ∀ code, Creates settings email code w → after.view =
    Function.update w.view (CodeKey.ofAddress email) (some (code, 600 * 1000))
  unchanged : (∀ code, ¬ Creates settings email code w) → after.view = w.view
  /-- What is live is neither overwritten nor given more time or less. -/
  kept : ∀ key held, w.view key = some held → after.view key = some held
  /-- No other address is affected. -/
  others : ∀ email', email' ≠ email →
    after.view (CodeKey.ofAddress email') = w.view (CodeKey.ofAddress email')

/-! ## The view of a world -/

theorem view_of_quiet (h : w.Quiet w') : w'.view = w.view := by
  funext key
  have hlive := h.live
  rw [view, view, h.now, hlive]

theorem view_of_becomes (h : w.Becomes w' (w.withCode email code)) :
    w'.view = Function.update w.view (CodeKey.ofAddress email) (some (code, 600 * 1000)) := by
  funext key
  rw [view, h.now, h.live, withCode]
  by_cases hkey : key = CodeKey.ofAddress email
  · rw [hkey, Function.update_self, Function.update_self, Option.map_some, Nat.add_sub_cancel_left]
    rfl
  · rw [Function.update_of_ne hkey, Function.update_of_ne hkey, view]

theorem view_eq_none : w.view (CodeKey.ofAddress email) = none ↔ w.record? email = none := by
  rw [view, Option.map_eq_none_iff, record?]

/-! ## When a code is written -/

/-- There is one course only on which something is written. -/
theorem course_of_written {said : List Exchange} {p : Progress (World Memory)}
    (h : Course cast settings email w said p) {x : Exchange} (hx : x ∈ said)
    (hwritten : x.written? = some code) :
    ∃ w₁ es₁ w₂ es₂ w₃ es₃ sent, email ≠ "" ∧
      cast.lookup (CodeKey.ofAddress email) w = ⟨.ok none, w₁, es₁⟩ ∧
      cast.generate w₁ = ⟨.ok code, w₂, es₂⟩ ∧
      write cast settings.strategy email code w₂ = ⟨.ok .inserted, w₃, es₃⟩ ∧
      said = [.lookup (CodeKey.ofAddress email) (.ok none), .generate (.ok code),
        writeExchange settings.strategy email code (.ok .inserted), sent] := by
  cases h with
  | refused => cases hx
  | lookupFailed =>
    obtain rfl := List.mem_singleton.1 hx
    cases hwritten
  | hit =>
    simp only [List.mem_cons, List.not_mem_nil, or_false] at hx
    rcases hx with rfl | rfl <;> cases hwritten
  | generatorFailed =>
    simp only [List.mem_cons, List.not_mem_nil, or_false] at hx
    rcases hx with rfl | rfl <;> cases hwritten
  | writeFailed hne hl hg hw ho =>
    simp only [List.mem_cons, List.not_mem_nil, or_false] at hx
    rcases hx with rfl | rfl | rfl
    · cases hwritten
    · cases hwritten
    · rw [written?_writeExchange_failed (Outcome.isOk_of_failure? ho)] at hwritten
      cases hwritten
  | stored hne hl hg hw =>
    simp only [List.mem_cons, List.not_mem_nil, or_false] at hx
    rcases hx with rfl | rfl | rfl | rfl
    · cases hwritten
    · cases hwritten
    · rw [written?_writeExchange_inserted] at hwritten
      cases hwritten
      exact ⟨_, _, _, _, _, _, _, hne, hl, hg, hw, rfl⟩
    · cases hwritten
  | lost hne hl hg hw =>
    simp only [List.mem_cons, List.not_mem_nil, or_false] at hx
    rcases hx with rfl | rfl | rfl | rfl
    · cases hwritten
    · cases hwritten
    · rw [strategy_of_existing hw] at hwritten
      cases hwritten
    · cases hwritten

/-- A request makes and writes just the code that it is heard to write. -/
theorem creates_iff_written : Creates settings email code w ↔
    (dialogue cast settings email w).findSome? Exchange.written? = some code := by
  constructor
  · intro h
    obtain ⟨_, _, _, _, _, _, _, -, -, -, -, hsaid⟩ :=
      course_of_written (issue_course cast settings email w) h.written
        (written?_writeExchange_inserted ..)
    rw [hsaid]
    simp [List.findSome?_cons]
  · intro h
    obtain ⟨x, hx, hwritten⟩ := List.exists_of_findSome?_eq_some h
    obtain ⟨_, _, _, _, _, _, _, -, hl, -, -, hsaid⟩ :=
      course_of_written (issue_course cast settings email w) hx hwritten
    refine ⟨?_, by simp [hsaid], by simp [hsaid]⟩
    -- The lookup that came first would have found what is live.
    have hfound := eq_of_lookup (congrArg Reply.outcome hl)
    exact Option.map_eq_none_iff.1 hfound.symm

/-- A fault that is set never replies well. -/
theorem fault_eq_none {α : Type} {fault : Option (Fault CacheError)}
    {ask : Memory → Reply Memory CacheError α} {a : α}
    (h : (w.askCache fault ask).outcome = .ok a) : fault = none := by
  cases fault with
  | none => rfl
  | some f => cases f <;> cases h

theorem write_fault_eq_none {strategy : Strategy} {outcome : StoreOutcome}
    (h : (write cast strategy email code w).outcome = .ok outcome) :
    w.faults.write strategy = none := by
  cases strategy with
  | checkThenSet =>
    rw [write_checkThenSet, Reply.map] at h
    cases hstore : (w.askCache w.faults.store fun m =>
        m.store w.now (CodeKey.ofAddress email) code codeLifetime).outcome with
    | ok => exact fault_eq_none hstore
    | error e => simp [hstore, Outcome.map] at h
    | panic p => simp [hstore, Outcome.map] at h
  | setIfAbsent =>
    rw [write_setIfAbsent] at h
    exact fault_eq_none h

theorem reply_eq {σ ε α : Type} {r : Reply σ ε α} {o : Outcome ε α} {s : σ} (ho : r.outcome = o)
    (hs : r.state = s) : r = ⟨o, s, r.events⟩ := by
  rw [← ho, ← hs]

/-- Which code that is can be told beforehand: the address is not empty and has no live code, the
generator makes the code, and no fault is set for the lookup or for the write. -/
theorem creates_iff (hsound : w.cache.poisoned = false) : Creates settings email code w ↔
    email ≠ "" ∧ w.record? email = none ∧ (cast.generate w).outcome = .ok code ∧
      w.faults.lookup = none ∧ w.faults.write settings.strategy = none := by
  -- The generator takes no notice of the cache, so it does not matter that the lookup came first.
  have hgenerate (cache : Memory) :
      (cast.generate { w with cache }).outcome = (cast.generate w).outcome := by
    rw [cast_generate, cast_generate, drawCode, drawCode]
    dsimp only
    split <;> rfl
  obtain ⟨cache, hstate⟩ := lookup_state (CodeKey.ofAddress email) w
  have hlooked := quiet_lookup w (CodeKey.ofAddress email)
  have hquiet : w.Quiet (cast.generate { w with cache }).state := by
    rw [hstate] at hlooked
    exact hlooked.trans (quiet_generate _)
  constructor
  · intro h
    obtain ⟨w₁, es₁, w₂, es₂, w₃, es₃, _, hne, hl, hg, hw, -⟩ :=
      course_of_written (issue_course cast settings email w) h.written
        (written?_writeExchange_inserted ..)
    obtain rfl : w₁ = { w with cache } := (congrArg Reply.state hl).symm.trans hstate
    refine ⟨hne, h.free, ?_, fault_eq_none (congrArg Reply.outcome hl), ?_⟩
    · rw [← hgenerate cache, hg]
    · rw [hg] at hquiet
      rw [← hquiet.faults]
      exact write_fault_eq_none (congrArg Reply.outcome hw)
  · rintro ⟨hne, hfree, hmade, hlookup, hwrite⟩
    have hl := lookup_outcome hsound hlookup email
    rw [hfree] at hl
    have hw := write_outcome (hquiet.poisoned.trans hsound)
      (hquiet.faults ▸ hwrite) ((hquiet.record?_eq email).trans hfree) code
    have hsaid := (Course.stored hne (reply_eq hl hstate)
      (reply_eq ((hgenerate cache).trans hmade) rfl) (reply_eq hw rfl)).eq_dialogue
    rw [creates_iff_written, hsaid]
    simp [List.findSome?_cons]

/-! ## The frame -/

/-- Whatever a sound cache holds and whichever collaborators fail, a request leaves everything alone
but the key of its own address, and that too unless it makes and writes a code. What becomes of the
mail is no matter. -/
theorem issue_frame (settings : IssuingSettings) (email : String) (w : World Memory)
    (hsound : w.cache.poisoned = false) :
    Framed settings email w (issue cast settings email w).state := by
  -- Either the request says that it has written a code, or the cache is seen to be as it was.
  rcases issue_writes settings email w with ⟨code, hsaid, hbecomes⟩ | ⟨hsaid, hquiet⟩
  · have hcreates : Creates settings email code w := creates_iff_written.2 hsaid
    have hview := view_of_becomes hbecomes
    constructor
    case now => exact hbecomes.now
    case sound => exact hbecomes.poisoned.trans hsound
    case created =>
      intro code' hcreates'
      have hsaid' := creates_iff_written.1 hcreates'
      rw [hsaid] at hsaid'
      cases hsaid'
      exact hview
    case unchanged => exact fun hnone => absurd hcreates (hnone code)
    case kept =>
      intro key held hheld
      have hkey : key ≠ CodeKey.ofAddress email := by
        rintro rfl
        rw [view_eq_none.2 hcreates.free] at hheld
        cases hheld
      rw [hview, Function.update_of_ne hkey, hheld]
    case others =>
      intro email' hne
      rw [hview, Function.update_of_ne (mt CodeKey.ofAddress_inj.1 hne)]
  · have hview := view_of_quiet hquiet
    constructor
    case now => exact hquiet.now
    case sound => exact hquiet.poisoned.trans hsound
    case created =>
      intro code hcreates
      rw [creates_iff_written, hsaid] at hcreates
      cases hcreates
    case unchanged => exact fun _ => hview
    case kept =>
      intro key held hheld
      rw [hview, hheld]
    case others =>
      intro email' _
      rw [hview]

/-- The write is the 64th and sweeps a dead entry out, and then the mail provider panics: the code
stays written, and the live entry of another address is as it was. -/
theorem issue_frame_on_sweep :
    let key := CodeKey.ofAddress
    let entries := (Entries.empty.insert (key "b") ⟨"5678", 5000⟩).insert (key "c") ⟨"9012", 2000⟩
    let fresh : World Memory := .fresh ⟨entries, 63, false⟩ (fun _ => "1234") fun _ => "id"
    let w := { fresh with now := 2000, faults := { send := some (.panic .unreadable) } }
    let after := (issue cast ⟨.checkThenSet, .strict⟩ "a" w).state
    w.cache.poisoned = false ∧ after.view (key "a") = some ("1234", 600000) ∧
      after.view (key "b") = some ("5678", 3000) ∧ after.view (key "c") = none ∧
      (w.cache.entries.get? (key "c")).isSome ∧ (after.cache.entries.get? (key "c")).isNone := by
  intro key entries fresh w after
  have hsound : w.cache.poisoned = false := rfl
  have hframed := issue_frame ⟨.checkThenSet, .strict⟩ "a" w hsound
  have hcreates : Creates ⟨.checkThenSet, .strict⟩ "a" "1234" w :=
    (creates_iff hsound).2 ⟨by decide, by decide +kernel, rfl, rfl, rfl⟩
  have hb : w.view (key "b") = some ("5678", 3000) := by decide +kernel
  have hc : w.view (key "c") = none := by decide +kernel
  refine ⟨hsound, ?_, hframed.kept _ _ hb, ?_, by decide +kernel, by decide +kernel⟩
  · exact (congrFun (hframed.created "1234" hcreates) _).trans (Function.update_self ..)
  · exact (hframed.others "c" (by decide)).trans hc

end MailCode.Rehearsal
