import MailCode.Proofs.Cache.View
/-!
# Dead entries do not pile up

Nothing but a write puts an entry into the cache, and every 64th write sweeps the dead ones out
(`Upkept` says what an operation can do). So an `Account` that is kept from the replies alone, of
the keys that were written and of what the last sweep left, tells how much the cache can hold at
most, and no entry outlasts its time by more than 64 writes (`dead_entries_swept`).
-/

namespace MailCode

/-! ## Dropping entries -/

namespace Entries

/-- Some entries may have been dropped, and that is all. -/
def Thinned (es es' : Entries) : Prop :=
  ∃ keep, es' = es.filter keep

variable {es es' : Entries} {now : Nat} {key k : String} {e : Entry}

theorem Thinned.refl (es : Entries) : es.Thinned es := by
  refine ⟨fun _ => true, ?_⟩
  obtain ⟨l, hl⟩ := es
  have hall : l.filter (fun _ => true) = l := List.filter_eq_self.2 fun _ _ => rfl
  simp only [filter, hall]

theorem Thinned.trans {es'' : Entries} (h : es.Thinned es') (h' : es'.Thinned es'') :
    es.Thinned es'' := by
  obtain ⟨keep, rfl⟩ := h
  obtain ⟨keep', rfl⟩ := h'
  exact ⟨_, by simp only [filter, List.filter_filter]; rfl⟩

theorem Thinned.size_le (h : es.Thinned es') : es'.size ≤ es.size := by
  obtain ⟨keep, rfl⟩ := h
  exact List.length_filter_le ..

theorem Thinned.get? (h : es.Thinned es') (key : String) :
    es'.get? key = none ∨ es'.get? key = es.get? key := by
  obtain ⟨keep, rfl⟩ := h
  rw [get?_filter]
  cases es.get? key with
  | none => exact .inl rfl
  | some e =>
    by_cases hkeep : keep (key, e)
    · exact .inr (Option.filter_some_pos hkeep)
    · exact .inl (Option.filter_some_neg (by simpa using hkeep))

theorem size_insert_le (es : Entries) (key : String) (e : Entry) :
    (es.insert key e).size ≤ es.size + 1 :=
  Nat.succ_le_succ (List.length_filter_le ..)

/-- The entries that are live. -/
def live (es : Entries) (now : Nat) : Entries :=
  es.filter fun (_, e) => e.isLive now

theorem liveCount_live (es : Entries) (now : Nat) :
    (es.live now).liveCount now = (es.live now).size :=
  List.countP_eq_length.2 fun _ hp => (List.mem_filter.1 hp).2

theorem get?_live (es : Entries) (now : Nat) (key : String) :
    (es.live now).get? key = (es.get? key).filter (·.isLive now) :=
  get?_filter _ es key

end Entries

namespace Memory

variable {now : Nat} {m m' : Memory}

/-! ## One operation -/

/-- The key under which an operation has put an entry, as its reply tells. -/
def inserted? : Action → Outcome CacheError Result → Option String
  | .store key _ _, .ok _ | .storeIfAbsent key _ _, .ok (.stored .inserted) => some key
  | _, _ => none

/-- What an operation does to the entries: it may drop some, and if it puts one in and the count of
writes comes to a multiple of 64, it drops all that are dead. -/
inductive Upkept (now : Nat) (m : Memory) : Option String → Memory → Prop
  | thinned {m' : Memory} : m'.writes = m.writes → m.entries.Thinned m'.entries →
      Upkept now m none m'
  | inserted {key : String} {e : Entry} {es : Entries} {m' : Memory} : m'.poisoned = false →
      m'.writes = m.writes + 1 → m'.writes % 64 ≠ 0 → m.entries.Thinned es →
      m'.entries = es.insert key e → Upkept now m (some key) m'
  | swept {key : String} {e : Entry} {es : Entries} {m' : Memory} : m'.poisoned = false →
      m'.writes = m.writes + 1 → m'.writes % 64 = 0 → m.entries.Thinned es →
      m'.entries = (es.insert key e).live now → Upkept now m (some key) m'

theorem Upkept.refl (now : Nat) (m : Memory) : Upkept now m none m :=
  .thinned rfl (.refl _)

theorem thinned_liveEntry (now : Nat) (key : String) (m : Memory) :
    m.entries.Thinned (m.liveEntry now key).2.1.entries := by
  unfold liveEntry
  split
  · exact .refl _
  · split
    · exact .refl _
    · exact ⟨_, rfl⟩

theorem thinned_sweep (now : Nat) (m : Memory) : m.entries.Thinned (m.sweep now).1.entries :=
  ⟨_, rfl⟩

/-- A write that is counted puts an entry in, and sweeps if it is the turn. -/
theorem insert_upkept {lifetime : Nat} (hl : lifetime < lifetimeLimit) (hm : m.poisoned = false)
    (now : Nat) (key value : String) :
    Upkept now m (some key) (m.insert now key value lifetime).state := by
  rw [insert, if_neg (Nat.not_le.2 hl)]
  dsimp only
  split
  case isTrue hturn => exact .swept hm rfl hturn (.refl _) rfl
  case isFalse hturn => exact .inserted hm rfl hturn (.refl _) rfl

/-- Dropping entries beforehand makes no difference to what an operation can do. -/
theorem Upkept.of_thinned {key? : Option String} {m₁ : Memory} (hwrites : m₁.writes = m.writes)
    (hthinned : m.entries.Thinned m₁.entries) (h : Upkept now m₁ key? m') :
    Upkept now m key? m' := by
  cases h with
  | thinned hw he => exact .thinned (hw.trans hwrites) (hthinned.trans he)
  | inserted hm hw hturn hes he =>
    exact .inserted hm (hw.trans (by rw [hwrites])) hturn (hthinned.trans hes) he
  | swept hm hw hturn hes he =>
    exact .swept hm (hw.trans (by rw [hwrites])) hturn (hthinned.trans hes) he

theorem withLiveEntry_upkept {α : Type} (now : Nat) (key : String) (m : Memory)
    (read : Option Entry → α) : Upkept now m none (m.withLiveEntry now key read).state := by
  cases hm : m.poisoned with
  | true =>
    rw [withLiveEntry, locked_of_poisoned hm]
    exact .refl now m
  | false =>
    rw [withLiveEntry, locked_of_sound hm]
    exact .thinned (liveEntry_spec now key m).2.2.2 (thinned_liveEntry now key m)

theorem store_upkept (now : Nat) (key value : String) (lifetime : Nat) (m : Memory) :
    Upkept now m
      (inserted? (.store key value lifetime) (perform now (.store key value lifetime) m).outcome)
      (m.store now key value lifetime).state := by
  rw [perform, store]
  cases hm : m.poisoned with
  | true =>
    rw [locked_of_poisoned hm]
    exact .refl now m
  | false =>
    rw [locked_of_sound hm]
    by_cases hl : lifetime < lifetimeLimit
    · rw [Reply.map, (insert_spec hl now key value m).1]
      exact insert_upkept hl hm now key value
    · rw [insert_of_overflow (Nat.le_of_not_lt hl)]
      exact .thinned rfl (.refl _)

theorem storeIfAbsent_upkept (now : Nat) (key value : String) (lifetime : Nat) (m : Memory) :
    Upkept now m
      (inserted? (.storeIfAbsent key value lifetime)
        (perform now (.storeIfAbsent key value lifetime) m).outcome)
      (m.storeIfAbsent now key value lifetime).state := by
  rw [perform, storeIfAbsent]
  cases hm : m.poisoned with
  | true =>
    rw [locked_of_poisoned hm]
    exact .refl now m
  | false =>
    obtain ⟨-, -, hsound, hwrites⟩ := liveEntry_spec now key m
    have hthinned := thinned_liveEntry now key m
    rw [locked_of_sound hm]
    generalize m.liveEntry now key = found at hsound hwrites hthinned ⊢
    obtain ⟨_ | entry, m₁, events⟩ := found
    · by_cases hl : lifetime < lifetimeLimit
      · dsimp only [Reply.map] at hsound hwrites hthinned ⊢
        rw [(insert_spec hl now key value m₁).1]
        exact (insert_upkept hl (hsound.trans hm) now key value).of_thinned hwrites hthinned
      · dsimp only
        rw [insert_of_overflow (Nat.le_of_not_lt hl)]
        exact .thinned hwrites hthinned
    · exact .thinned hwrites hthinned

/-- Whatever an operation does, its reply tells whether it has put an entry in. -/
theorem perform_upkept (now : Nat) (action : Action) (m : Memory) :
    Upkept now m (inserted? action (perform now action m).outcome)
      (perform now action m).state := by
  cases action with
  | lookup key => exact withLiveEntry_upkept now key m fun entry => entry.map Entry.value
  | contains key => exact withLiveEntry_upkept now key m Option.isSome
  | timeLeft key =>
    exact withLiveEntry_upkept now key m fun entry => entry.map fun e => (e.expiresAt - now) / 1000
  | store key value lifetime => exact store_upkept now key value lifetime m
  | storeIfAbsent key value lifetime => exact storeIfAbsent_upkept now key value lifetime m
  | size | isEmpty | held =>
    cases hm : m.poisoned with
    | true =>
      simp only [perform, isEmpty, size, held, locked_of_poisoned hm, Reply.map]
      exact .refl now m
    | false =>
      simp only [perform, isEmpty, size, held, locked_of_sound hm, Reply.map]
      exact .refl now m
  | purge =>
    cases hm : m.poisoned with
    | true =>
      simp only [perform, purge, locked_of_poisoned hm, Reply.map]
      exact .refl now m
    | false =>
      simp only [perform, purge, locked_of_sound hm, Reply.map]
      exact .thinned rfl (thinned_sweep now m)
  | healthy => exact .refl now m

/-! ## Keeping account -/

/-- A cache at some moment, with the keys under which entries have been put in, last first, and the
number of entries that the last sweep of its own left. -/
structure Account where
  now : Nat
  memory : Memory
  inserted : List String
  left : Nat

namespace Account

/-- A fresh cache: nothing has been put in, nothing swept. -/
def opened (now : Nat) : Account :=
  ⟨now, .empty, [], 0⟩

/-- Enters the cache that an operation leaves behind, and the key under which it has put an entry
in. Every 64th entry that is put in brings a sweep. -/
def enter (a : Account) (m : Memory) : Option String → Account
  | none => { a with memory := m }
  | some key =>
    { a with
      memory := m
      inserted := key :: a.inserted
      left := if (a.inserted.length + 1) % 64 = 0 then m.entries.size else a.left }

/-- Takes a step and enters what the reply tells. -/
def step (a : Account) : Step → Account
  | .wait duration => { a with now := a.now + duration }
  | .act action =>
    let reply := perform a.now action a.memory
    a.enter reply.state (inserted? action reply.outcome)

/-- Takes the steps one after the other. -/
def run (a : Account) (steps : List Step) : Account :=
  steps.foldl step a

variable {a b : Account} {new : List String} {key? : Option String}

theorem enter_inserted (a : Account) (m : Memory) (key? : Option String) :
    (a.enter m key?).inserted = key?.toList ++ a.inserted := by
  cases key? <;> rfl

theorem enter_now (a : Account) (m : Memory) (key? : Option String) :
    (a.enter m key?).now = a.now := by
  cases key? <;> rfl

theorem enter_memory (a : Account) (m : Memory) (key? : Option String) :
    (a.enter m key?).memory = m := by
  cases key? <;> rfl

/-- Keeping account does not interfere with the run, and the keys are those that the replies
tell. -/
theorem run_eq (a : Account) (steps : List Step) :
    let r := Memory.run perform steps a.now a.memory
    (a.run steps).now = r.now ∧ (a.run steps).memory = r.state ∧
      (a.run steps).inserted.reverse =
        a.inserted.reverse ++ r.transcript.filterMap fun (action, o) => inserted? action o := by
  induction steps generalizing a with
  | nil => exact ⟨rfl, rfl, (List.append_nil _).symm⟩
  | cons step steps ih =>
    have hrest := ih (a.step step)
    cases step with
    | wait duration => exact hrest
    | act action =>
      simp only [Account.step, enter_now, enter_memory, enter_inserted] at hrest
      obtain ⟨hnow, hmemory, hinserted⟩ := hrest
      refine ⟨hnow, hmemory, hinserted.trans ?_⟩
      rw [Memory.run, List.filterMap_cons]
      dsimp only
      cases inserted? action (perform a.now action a.memory).outcome <;> simp

/-! ## How much is held -/

/-- Writes are counted right, and what is held is no more than the last sweep left and what has been
put in since. -/
structure Balanced (a : Account) : Prop where
  writes : a.memory.writes = a.inserted.length
  held : a.memory.entries.size ≤ a.left + a.inserted.length % 64

theorem balanced_opened (now : Nat) : (opened now).Balanced :=
  ⟨rfl, Nat.le_refl 0⟩

theorem Balanced.enter (h : a.Balanced) {m : Memory} (hm : Upkept a.now a.memory key? m) :
    (a.enter m key?).Balanced := by
  have hwrites := h.writes
  have hheld := h.held
  cases hm with
  | thinned hw hes => exact ⟨hw.trans hwrites, Nat.le_trans hes.size_le hheld⟩
  | @inserted key e es _ _ hw hturn hes he =>
    -- The remainder grows by one with the entry, as it is not the turn of a sweep.
    have hcount := Entries.size_insert_le es key e
    have hsize := hes.size_le
    rw [hw, hwrites] at hturn
    refine ⟨hw.trans (congrArg (· + 1) hwrites), ?_⟩
    simp only [Account.enter, he, List.length_cons, if_neg hturn]
    omega
  | swept _ hw hturn hes he =>
    rw [hw, hwrites] at hturn
    refine ⟨hw.trans (congrArg (· + 1) hwrites), ?_⟩
    simp only [Account.enter, List.length_cons, if_pos hturn]
    omega

theorem Balanced.step (h : a.Balanced) (step : Step) : (a.step step).Balanced := by
  cases step with
  | wait duration => exact ⟨h.writes, h.held⟩
  | act action => exact h.enter (perform_upkept a.now action a.memory)

theorem Balanced.run (h : a.Balanced) (steps : List Step) : (a.run steps).Balanced := by
  induction steps generalizing a with
  | nil => exact h
  | cons step steps ih => exact ih (h.step step)

/-- After every 64th entry that is put in, all that is held is live. -/
theorem Balanced.held_eq_size (h : a.Balanced) {m : Memory} {key : String}
    (hm : Upkept a.now a.memory (some key) m) (hturn : (a.inserted.length + 1) % 64 = 0) :
    m.held.outcome = .ok m.entries.size ∧ (m.size a.now).outcome = .ok m.entries.size := by
  cases hm with
  | inserted _ hw hno =>
    rw [hw, h.writes] at hno
    exact absurd hturn hno
  | @swept _ e es _ hsound hw _ hes he =>
    rw [Memory.held, Memory.size, locked_of_sound hsound, locked_of_sound hsound, he,
      Entries.liveCount_live]
    exact ⟨rfl, rfl⟩

/-! ## How long it is held -/

/-- What has come of an account, with the keys under which entries have been put in since: an entry
that was dead at first and has not been written again is gone, or at least no sweep has come. -/
structure Follows (a : Account) (new : List String) (b : Account) : Prop where
  later : a.now ≤ b.now
  writes : b.memory.writes = b.inserted.length
  inserted : b.inserted = new ++ a.inserted
  dead : ∀ key e, a.memory.entries.get? key = some e → e.isLive a.now = false → key ∉ new →
    b.memory.entries.get? key = none ∨ b.memory.entries.get? key = some e ∧
      ∀ n, a.inserted.length < n → n ≤ b.inserted.length → n % 64 ≠ 0

theorem follows_refl (h : a.Balanced) : Follows a [] a := by
  refine ⟨Nat.le_refl _, h.writes, rfl, fun key e he _ _ => .inr ⟨he, ?_⟩⟩
  intro n hlt hle
  omega

theorem Follows.enter (h : Follows a new b) {m : Memory} (hm : Upkept b.now b.memory key? m) :
    Follows a (key?.toList ++ new) (b.enter m key?) := by
  have hwrites := h.writes
  cases hm with
  | thinned hw hes =>
    refine ⟨h.later, hw.trans hwrites, h.inserted, fun key e he hdead hnew => ?_⟩
    rcases hes.get? key with hnone | hsame
    · exact .inl hnone
    · rcases h.dead key e he hdead hnew with hnone | ⟨hstill, hno⟩
      · exact .inl (hsame.trans hnone)
      · exact .inr ⟨hsame.trans hstill, hno⟩
  | @inserted key' e' es _ _ hw hturn hes hentries =>
    rw [hw, hwrites] at hturn
    refine ⟨h.later, hw.trans (congrArg (· + 1) hwrites), congrArg (key' :: ·) h.inserted, ?_⟩
    intro key e he hdead hnew
    have hne : key ≠ key' := fun heq => hnew (heq ▸ List.mem_cons_self)
    have hget : m.entries.get? key = es.get? key := by
      rw [hentries, Entries.get?_insert, if_neg hne]
    rw [enter_memory, hget]
    rcases hes.get? key with hnone | hsame
    · exact .inl hnone
    · rcases h.dead key e he hdead fun hmem => hnew (List.mem_cons_of_mem _ hmem) with
        hnone | ⟨hstill, hno⟩
      · exact .inl (hsame.trans hnone)
      · refine .inr ⟨hsame.trans hstill, fun n hlt hle => ?_⟩
        rcases Nat.le_succ_iff.1 hle with hle | rfl
        · exact hno n hlt hle
        · exact hturn
  | @swept key' e' es _ _ hw _ hes hentries =>
    refine ⟨h.later, hw.trans (congrArg (· + 1) hwrites), congrArg (key' :: ·) h.inserted, ?_⟩
    intro key e he hdead hnew
    have hne : key ≠ key' := fun heq => hnew (heq ▸ List.mem_cons_self)
    have hget : m.entries.get? key = (es.get? key).filter (·.isLive b.now) := by
      rw [hentries, Entries.get?_live, Entries.get?_insert, if_neg hne]
    rw [enter_memory, hget]
    left
    -- If the entry was still there, this is the sweep that drops it.
    rcases hes.get? key with hnone | hsame
    · rw [hnone]
      rfl
    · rcases h.dead key e he hdead fun hmem => hnew (List.mem_cons_of_mem _ hmem) with
        hnone | ⟨hstill, -⟩
      · rw [hsame, hnone]
        rfl
      · have hdead' : e.isLive b.now = false := by
          rw [Bool.eq_false_iff]
          intro hlive
          rw [Entry.isLive_of_le h.later hlive] at hdead
          cases hdead
        rw [hsame, hstill]
        exact Option.filter_some_neg hdead'

theorem Follows.step (h : Follows a new b) (step : Step) :
    ∃ new', Follows a new' (b.step step) := by
  cases step with
  | wait duration =>
    exact ⟨new, Nat.le_trans h.later (Nat.le_add_right ..), h.writes, h.inserted, h.dead⟩
  | act action => exact ⟨_, h.enter (perform_upkept b.now action b.memory)⟩

theorem Follows.run (h : Follows a new b) (steps : List Step) :
    ∃ new', Follows a new' (b.run steps) := by
  induction steps generalizing b new with
  | nil => exact ⟨new, h⟩
  | cons step steps ih =>
    obtain ⟨new', h'⟩ := h.step step
    exact ih h'

/-- Among 64 entries that are put in one brings a sweep, wherever the count starts. -/
theorem Follows.get?_eq_none (h : Follows a new b) (hnew : 64 ≤ new.length) {key : String}
    {e : Entry} (he : a.memory.entries.get? key = some e) (hdead : e.expiresAt ≤ a.now)
    (hkey : key ∉ new) : b.memory.entries.get? key = none := by
  have hlive : e.isLive a.now = false := decide_eq_false (Nat.not_lt.2 hdead)
  rcases h.dead key e he hlive hkey with hnone | ⟨-, hno⟩
  · exact hnone
  · have hlength : b.inserted.length = new.length + a.inserted.length := by
      rw [h.inserted, List.length_append]
    -- The next multiple of 64 has been passed since.
    have hturn := hno ((a.inserted.length / 64 + 1) * 64) (by omega) (by omega)
    exact absurd (Nat.mul_mod_left _ _) hturn

end Account

/-- Dead entries do not pile up in a cache that was empty at first, whatever is done to it. The
count that brings its sweeps is that of the entries put in, and what is held is never more than what
the last sweep left and what has been put in since; after every 64th entry that is put in, all that
is held is live; and once 64 more have been put in, an entry that was dead before and has not been
written again is no longer held. -/
theorem dead_entries_swept (now : Nat) (steps : List Step) :
    let a := (Account.opened now).run steps
    let r := Memory.run perform steps now .empty
    (a.now = r.now ∧ a.memory = r.state ∧
        a.inserted.reverse = r.transcript.filterMap fun (action, o) => inserted? action o) ∧
      (a.memory.writes = a.inserted.length ∧
        a.memory.entries.size ≤ a.left + a.inserted.length % 64 ∧
        (a.memory.poisoned = false → a.memory.held.outcome = .ok a.memory.entries.size)) ∧
      (∀ action, let b := a.step (.act action)
        b.inserted ≠ a.inserted → b.inserted.length % 64 = 0 →
        ∃ n, b.memory.held.outcome = .ok n ∧ (b.memory.size b.now).outcome = .ok n) ∧
      ∀ more, let b := a.run more
        ∃ new, b.inserted = new ++ a.inserted ∧ (64 ≤ new.length → ∀ key e,
          a.memory.entries.get? key = some e → e.expiresAt ≤ a.now → key ∉ new →
          b.memory.entries.get? key = none) := by
  intro a r
  have hbalanced : a.Balanced := (Account.balanced_opened now).run steps
  refine ⟨Account.run_eq (.opened now) steps,
    ⟨hbalanced.writes, hbalanced.held, fun hsound => ?_⟩, ?_, ?_⟩
  · rw [held, locked_of_sound hsound]
  · intro action b hinserted hturn
    have hm := perform_upkept a.now action a.memory
    have hb : b = a.enter _ _ := rfl
    cases hkey : inserted? action (perform a.now action a.memory).outcome with
    | none =>
      rw [hb, Account.enter_inserted, hkey] at hinserted
      exact absurd rfl hinserted
    | some key =>
      rw [hkey] at hm
      rw [hb, Account.enter_inserted, hkey] at hturn
      obtain ⟨hheld, hsize⟩ := hbalanced.held_eq_size hm hturn
      rw [hb, Account.enter_memory, Account.enter_now]
      exact ⟨_, hheld, hsize⟩
  · intro more b
    obtain ⟨new, h⟩ := (Account.follows_refl hbalanced).run more
    exact ⟨new, h.inserted, fun hnew key e he hdead hkey => h.get?_eq_none hnew he hdead hkey⟩

/-- An entry that was dead from the start and that nobody asks for is gone 64 writes later. -/
theorem dead_entries_swept_unread :
    ((Account.opened 0).run [.act (.store "a" "1234" 0)]).memory.entries.get? "a" =
        some ⟨"1234", 0⟩ ∧
      (((Account.opened 0).run [.act (.store "a" "1234" 0)]).run
        (List.replicate 64 (.act (.store "b" "5678" 600)))).memory.entries.get? "a" = none := by
  obtain ⟨-, -, -, hswept⟩ := dead_entries_swept 0 [.act (.store "a" "1234" 0)]
  obtain ⟨new, hinserted, hgone⟩ := hswept (List.replicate 64 (.act (.store "b" "5678" 600)))
  have hentry : ((Account.opened 0).run [.act (.store "a" "1234" 0)]).memory.entries.get? "a" =
      some ⟨"1234", 0⟩ := by decide +kernel
  have hkeys : (((Account.opened 0).run [.act (.store "a" "1234" 0)]).run
      (List.replicate 64 (.act (.store "b" "5678" 600)))).inserted =
      List.replicate 64 "b" ++ ((Account.opened 0).run [.act (.store "a" "1234" 0)]).inserted := by
    decide +kernel
  obtain rfl : new = List.replicate 64 "b" :=
    List.append_cancel_right (hinserted.symm.trans hkeys)
  have hlength : 64 ≤ (List.replicate 64 "b").length := Nat.le_of_eq List.length_replicate.symm
  exact ⟨hentry, hgone hlength "a" _ hentry (Nat.zero_le _) (by simp)⟩

end Memory

end MailCode
