import Mathlib.Data.ENat.Lattice
import Mathlib.Data.List.Iterate
import MailCode.Redis.Connection
/-!
# Trying to connect
-/

namespace MailCode.Redis.Connection

/-!
## How often connecting is tried, and how long it waits

Trying to connect ends with the first attempt that succeeds, and after as many attempts as were
asked for at the latest. What the loop does from any attempt on is said once, for every first wait
(`tryAfter_tries`); how the waits grow is a matter of their own (`toNat_iterate_nextDelay`), for
there the first wait must be one that can be doubled in 64 bits. `connect_tried` puts both together.
-/

variable {attempts : Attempts}

/-! ### The last attempt -/

/-- Of the attempts from `first` to `limit`, `last` is the one with which trying ends. -/
structure EndsWith (attempts : Attempts) (first limit last : Nat) : Prop where
  first_le : first ≤ last
  le_limit : last ≤ limit
  failed : ∀ i, first ≤ i → i < last → attempts i ≠ .ok ()
  ended : attempts last = .ok () ∨ last = limit

namespace EndsWith

theorem of_ok {first limit : Nat} (hlimit : first ≤ limit) (hok : attempts first = .ok ()) :
    EndsWith attempts first limit first :=
  ⟨le_rfl, hlimit, fun _ hle hlt => absurd hlt hle.not_gt, .inl hok⟩

theorem of_limit (limit : Nat) : EndsWith attempts limit limit limit :=
  ⟨le_rfl, le_rfl, fun _ hle hlt => absurd hlt hle.not_gt, .inr rfl⟩

theorem of_error {first limit last : Nat} {e : Failure} (herror : attempts first = .error e)
    (h : EndsWith attempts (first + 1) limit last) : EndsWith attempts first limit last where
  first_le := (Nat.le_succ first).trans h.first_le
  le_limit := h.le_limit
  failed i hle hlt := by
    rcases hle.eq_or_lt with rfl | hle
    · rw [herror]
      exact nofun
    · exact h.failed i hle hlt
  ended := h.ended

/-- The last attempt succeeds if any does. -/
theorem last_eq_ok_iff {first limit last : Nat} (h : EndsWith attempts first limit last) :
    attempts last = .ok () ↔ ∃ i, first ≤ i ∧ i ≤ limit ∧ attempts i = .ok () := by
  constructor
  · exact fun hok => ⟨last, h.first_le, h.le_limit, hok⟩
  · rintro ⟨i, hfirst, hlimit, hok⟩
    rcases h.ended with hlast | rfl
    · exact hlast
    · rcases hlimit.eq_or_lt with rfl | hlt
      · exact hok
      · exact absurd hok (h.failed i hfirst hlt)

end EndsWith

/-- The position of the first attempt that succeeds, if there is one. -/
noncomputable def firstSuccess (attempts : Attempts) : ℕ∞ :=
  sInf (Nat.cast '' {i | 1 ≤ i ∧ attempts i = .ok ()})

theorem firstSuccess_eq {last : Nat} (hpos : 1 ≤ last) (hok : attempts last = .ok ())
    (hfailed : ∀ i, 1 ≤ i → i < last → attempts i ≠ .ok ()) : firstSuccess attempts = last := by
  refine IsLeast.csInf_eq ⟨⟨last, ⟨hpos, hok⟩, rfl⟩, ?_⟩
  rintro _ ⟨i, ⟨hi, hsucceeds⟩, rfl⟩
  exact Nat.cast_le.2 (not_lt.1 fun hlt => hfailed i hi hlt hsucceeds)

theorem EndsWith.eq_min {limit last : Nat} (h : EndsWith attempts 1 limit last) :
    (last : ℕ∞) = min (firstSuccess attempts) limit := by
  rcases h.ended with hok | rfl
  · rw [firstSuccess_eq h.first_le hok h.failed]
    exact (min_eq_left (Nat.cast_le.2 h.le_limit)).symm
  · refine (min_eq_right (le_sInf ?_)).symm
    rintro _ ⟨i, ⟨hi, hsucceeds⟩, rfl⟩
    exact Nat.cast_le.2 (not_lt.1 fun hlt => h.failed i hi hlt hsucceeds)

/-! ### The loop -/

/-- What is reported of the attempts after `made` others, up to `last`. -/
structure Report.Tries (r : Report) (attempts : Attempts) (delay : UInt64) (made last : Nat) :
    Prop where
  numbers : r.attempts.map UInt32.toNat = List.range' (made + 1) (last - made)
  result : r.result = (attempts last).mapError .cache
  waits : r.waits = List.iterate nextDelay delay (last - (made + 1))

/-- From every attempt on, whatever the wait before it: the loop goes up to the last attempt, and
its counter of 32 bits never overflows. -/
theorem tryAfter_tries (attempts : Attempts) (limit made : UInt32) (delay : UInt64)
    (hmade : made < limit) :
    ∃ last, EndsWith attempts (made.toNat + 1) limit.toNat last ∧
      (tryAfter attempts limit made delay).Tries attempts delay made.toNat last := by
  have hle : made.toNat + 1 ≤ limit.toNat := UInt32.lt_iff_toNat_lt.1 hmade
  have hnext : (made + 1).toNat = made.toNat + 1 := toNat_succ hmade
  fun_induction tryAfter attempts limit made delay with
  | case1 made delay attempt hok =>
    rw [hnext] at hok
    refine ⟨_, .of_ok hle hok, ?_, ?_, ?_⟩
    · simp [attempt, hnext]
    · rw [hok]
      rfl
    · rw [Nat.sub_self]
      rfl
  | case2 made delay attempt e herror hlt rest ih =>
    rw [hnext] at herror
    obtain ⟨last, hlast, htries⟩ := ih hlt (UInt32.lt_iff_toNat_lt.1 hlt) (toNat_succ hlt)
    rw [hnext] at hlast htries
    refine ⟨last, hlast.of_error herror, ?_, htries.result, ?_⟩
    · rw [List.map_cons, htries.numbers, hnext, ← List.range'_succ]
      congr 1
      have := hlast.first_le
      omega
    · rw [htries.waits]
      obtain ⟨n, hn⟩ := Nat.exists_eq_add_of_le hlast.first_le
      rw [show last - (made.toNat + 1) = n + 1 by omega,
        show last - (made.toNat + 1 + 1) = n by omega]
      rfl
  | case3 made delay attempt e herror hlt =>
    rw [hnext] at herror
    have hlimit : made.toNat + 1 = limit.toNat := by
      refine hle.antisymm (not_lt.1 fun h => hlt (UInt32.lt_iff_toNat_lt.2 ?_))
      rwa [hnext]
    refine ⟨made.toNat + 1, hlimit ▸ .of_limit _, ?_, ?_, ?_⟩
    · simp [attempt, hnext]
    · rw [herror]
      rfl
    · rw [Nat.sub_self]
      rfl

/-- From the first attempt on, with one attempt at least. -/
theorem establish_tries (attempts : Attempts) (retries : UInt32) (delay : UInt64) :
    ∃ last, EndsWith attempts 1 (max retries.toNat 1) last ∧
      (establish attempts retries delay).Tries attempts delay 0 last := by
  have hlimit : (max retries 1).toNat = max retries.toNat 1 := UInt32.toNat_max retries 1
  have hpos : 0 < max retries 1 := by
    rw [UInt32.lt_iff_toNat_lt, hlimit]
    exact lt_max_of_lt_right Nat.zero_lt_one
  have htries := tryAfter_tries attempts (max retries 1) 0 delay hpos
  rwa [hlimit, UInt32.toNat_zero, Nat.zero_add] at htries

/-! ### The waits -/

/-- The wait after `i` others, in milliseconds: at first the one that was asked for, then twice as
long each time up to five seconds. -/
def waitAfter (delay : Nat) : Nat → Nat
  | 0 => delay
  | i + 1 => min (delay * 2 ^ (i + 1)) 5000

theorem toNat_nextDelay {delay : UInt64} (h : delay.toNat < 2 ^ 63) :
    (nextDelay delay).toNat = min (delay.toNat * 2) 5000 := by
  have hdouble : (delay * 2).toNat = delay.toNat * 2 := by
    rw [UInt64.toNat_mul]
    exact Nat.mod_eq_of_lt (by simpa using Nat.mul_lt_mul_of_pos_right h two_pos)
  rw [nextDelay, UInt64.toNat_min, hdouble]
  rfl

theorem toNat_iterate_nextDelay {delay : UInt64} (h : delay.toNat < 2 ^ 63) (i : Nat) :
    (nextDelay^[i] delay).toNat = waitAfter delay.toNat i := by
  induction i with
  | zero => rfl
  | succ i ih =>
    have hbound : waitAfter delay.toNat i < 2 ^ 63 := by
      cases i with
      | zero => exact h
      | succ i => exact (min_le_right _ _).trans_lt (by decide)
    rw [Function.iterate_succ_apply', toNat_nextDelay (ih ▸ hbound), ih]
    cases i with
    | zero => rfl
    | succ i =>
      rw [waitAfter, waitAfter, pow_succ _ (i + 1), ← mul_assoc]
      omega

theorem map_iterate_nextDelay {delay : UInt64} (h : delay.toNat < 2 ^ 63) (n : Nat) :
    (List.iterate nextDelay delay n).map UInt64.toNat =
      (List.range n).map (waitAfter delay.toNat) := by
  rw [← List.range_map_iterate, List.map_map]
  exact List.map_congr_left fun i _ => toNat_iterate_nextDelay h i

/-- A client that never waits longer than the longest sleep sleeps as long as it waits. -/
theorem Report.slept_eq {r : Report} (h : ∀ wait ∈ r.waits, wait ≤ longestSleep) :
    r.slept = (r.waits.map UInt64.toNat).sum := by
  have hmin (total : Nat) (wait : UInt64) (hwait : wait ∈ r.waits) :
      total + (min wait longestSleep).toNat = total + wait.toNat := by
    rw [UInt64.toNat_min, min_eq_left (UInt64.le_iff_toNat_le.1 (h wait hwait))]
  rw [slept, List.foldl_ext _ _ _ hmin, List.sum_eq_foldl, List.foldl_map]

theorem nextDelay_le (delay : UInt64) : nextDelay delay ≤ longestWait := by
  rw [UInt64.le_iff_toNat_le, nextDelay, UInt64.toNat_min]
  exact min_le_right _ _

/-- What holds of every doubled wait holds of all waits if it holds of the first one. -/
theorem forall_mem_iterate_iff {p : UInt64 → Prop} (hp : ∀ delay, p (nextDelay delay))
    {delay : UInt64} {n : Nat} :
    (∀ wait ∈ List.iterate nextDelay delay n, p wait) ↔ (0 < n → p delay) := by
  induction n generalizing delay with
  | zero => simp
  | succ n ih =>
    rw [List.iterate, List.forall_mem_cons, ih]
    constructor
    · exact fun h _ => h.1
    · exact fun h => ⟨h n.succ_pos, fun _ => hp delay⟩

/-! ### Connecting -/

/-- What connecting comes to when `last` attempts are made. -/
structure Tried (attempts : Attempts) (retries : UInt32) (delay : UInt64) (last : Nat)
    (r : Report) : Prop where
  /-- Trying ends with the first success, but after `retries` attempts, or one, at the latest. -/
  last_eq : (last : ℕ∞) = min (firstSuccess attempts) (max retries.toNat 1 : Nat)
  /-- Every attempt is made once, under its own number. -/
  numbers : r.attempts.map UInt32.toNat = List.range' 1 last
  succeeds_iff : r.result = .ok () ↔ ∃ i, 1 ≤ i ∧ i ≤ max retries.toNat 1 ∧ attempts i = .ok ()
  /-- The last attempt decides on the result, its error included. -/
  result : r.result = (attempts last).mapError .cache
  /-- There is a wait before every attempt but the first. -/
  waits : r.waits.map UInt64.toNat = (List.range (last - 1)).map (waitAfter delay.toNat)
  slept : delay ≤ longestSleep → r.slept = (r.waits.map UInt64.toNat).sum

theorem establish_tried (attempts : Attempts) (retries : UInt32) {delay : UInt64}
    (hdelay : delay.toNat < 2 ^ 63) :
    ∃ last, Tried attempts retries delay last (establish attempts retries delay) := by
  obtain ⟨last, hlast, htries⟩ := establish_tries attempts retries delay
  refine ⟨last, hlast.eq_min, htries.numbers, ?_, htries.result, ?_, fun hsleep => ?_⟩
  · rw [htries.result, ← hlast.last_eq_ok_iff]
    cases attempts last <;> simp [Except.mapError]
  · rw [htries.waits, map_iterate_nextDelay hdelay]
  · refine Report.slept_eq ?_
    rw [htries.waits]
    have hcap (delay : UInt64) : nextDelay delay ≤ longestSleep :=
      UInt64.le_trans (nextDelay_le delay) (by decide)
    exact (forall_mem_iterate_iff hcap).2 fun _ => hsleep

/-- Connecting to a server makes attempts up to the first that succeeds, and as many as were asked
for at most, with a wait between every two of them. -/
theorem connect_tried {url : String} {endpoint : Endpoint}
    (hurl : Endpoint.parse url = .ok endpoint) (retries : UInt32) {delay : UInt64}
    (hdelay : delay.toNat < 2 ^ 63) (attempts : Endpoint → Attempts) :
    ∃ last, Tried (attempts endpoint) retries delay last (connect url retries delay attempts) := by
  obtain ⟨last, h⟩ := establish_tried (attempts endpoint) retries hdelay
  simp only [connect, hurl]
  exact ⟨last, h.last_eq, h.numbers, h.succeeds_iff, h.result, h.waits, h.slept⟩

/-- A server that lets a client in at the fourth of more than four thousand million attempts. -/
theorem connect_tried_fourth :
    let attempts : Endpoint → Attempts := fun _ i =>
      if i < 4 then .error (.network "Connection refused (os error 111)") else .ok ()
    let r := connect "redis://localhost/1" 4294967295 2500 attempts
    Endpoint.parse "redis://localhost/1" = .ok ⟨.tcp "localhost" 6379, 1⟩ ∧
      r.attempts.map UInt32.toNat = [1, 2, 3, 4] ∧ r.result = .ok () ∧
      r.waits.map UInt64.toNat = [2500, 5000, 5000] ∧ r.slept = 12500 := by
  intro attempts r
  have hurl : Endpoint.parse "redis://localhost/1" = .ok ⟨.tcp "localhost" 6379, 1⟩ := by
    decide +kernel
  have hdelay : (2500 : UInt64).toNat < 2 ^ 63 := by decide
  obtain ⟨last, h⟩ := connect_tried hurl 4294967295 hdelay attempts
  have hfirst : firstSuccess (attempts ⟨.tcp "localhost" 6379, 1⟩) = (4 : Nat) := by
    refine firstSuccess_eq (by decide) rfl fun i _ hi => ?_
    simp [attempts, hi]
  obtain rfl : last = 4 := by
    have hlast := h.last_eq
    rw [hfirst] at hlast
    exact Nat.cast_injective hlast
  have hwaits : r.waits.map UInt64.toNat = [2500, 5000, 5000] := h.waits
  refine ⟨hurl, h.numbers, h.result, hwaits, ?_⟩
  rw [h.slept (by decide), hwaits]
  rfl

/-!
## How far the waits are capped

Every wait but the first comes from a doubling, and what comes from it is capped. The first one is
the configured delay as it stands: it may be longer than the cap, and doubling it may leave 64 bits.
`waits_capped` says for which delays either happens, and under which circumstances.
-/

/-- There is a second attempt exactly if the first one fails and another is allowed for. -/
theorem EndsWith.one_lt_last_iff {attempts : Attempts} {limit last : Nat}
    (h : EndsWith attempts 1 limit last) : 1 < last ↔ attempts 1 ≠ .ok () ∧ 1 < limit := by
  constructor
  · intro hlast
    exact ⟨h.failed 1 le_rfl hlast, hlast.trans_le h.le_limit⟩
  · rintro ⟨hfailed, hlimit⟩
    rcases h.first_le.eq_or_lt with rfl | hlast
    · rcases h.ended with hok | rfl
      · exact absurd hok hfailed
      · exact hlimit
    · exact hlast

/-- Whether a client waits at all: the URL names a server, the first attempt to connect to it fails,
and another is allowed for. -/
def Waits (url : String) (retries : UInt32) (attempts : Endpoint → Attempts) : Prop :=
  ∃ endpoint, Endpoint.parse url = .ok endpoint ∧ attempts endpoint 1 ≠ .ok () ∧ 1 < retries

/-- The waits are the configured delay and what repeated doubling makes of it. -/
theorem connect_waits (url : String) (retries : UInt32) (delay : UInt64)
    (attempts : Endpoint → Attempts) :
    ∃ n, (connect url retries delay attempts).waits = List.iterate nextDelay delay n ∧
      (0 < n ↔ Waits url retries attempts) := by
  cases hurl : Endpoint.parse url with
  | error e =>
    refine ⟨0, ?_, ?_⟩
    · simp only [connect, hurl]
      rfl
    · simp [Waits, hurl]
  | ok endpoint =>
    obtain ⟨last, hlast, htries⟩ := establish_tries (attempts endpoint) retries delay
    refine ⟨last - 1, ?_, ?_⟩
    · simp only [connect, hurl]
      exact htries.waits
    · rw [Nat.sub_pos_iff_lt, hlast.one_lt_last_iff]
      simp [Waits, hurl, UInt32.lt_iff_toNat_lt]

/-- Every wait but the first is five seconds at most and can be doubled. Whether this holds of the
first one as well is a matter of the configured delay. -/
theorem waits_capped (url : String) (retries : UInt32) (delay : UInt64)
    (attempts : Endpoint → Attempts) :
    let waits := (connect url retries delay attempts).waits
    (∀ wait ∈ waits.tail, wait.toNat ≤ 5000 ∧ wait.toNat * 2 < 2 ^ 64) ∧
      ((∀ wait ∈ waits, wait.toNat ≤ 5000) ↔
        (Waits url retries attempts → delay.toNat ≤ 5000)) ∧
      ((∀ wait ∈ waits, wait.toNat * 2 < 2 ^ 64) ↔
        (Waits url retries attempts → delay.toNat < 2 ^ 63)) := by
  intro waits
  obtain ⟨n, hiterate, hpos⟩ := connect_waits url retries delay attempts
  have hwaits : waits = List.iterate nextDelay delay n := hiterate
  have hcap (delay : UInt64) : (nextDelay delay).toNat ≤ 5000 :=
    UInt64.le_iff_toNat_le.1 (nextDelay_le delay)
  have hdouble (delay : UInt64) : (nextDelay delay).toNat * 2 < 2 ^ 64 := by
    have := hcap delay
    omega
  refine ⟨?_, ?_, ?_⟩
  · rw [hwaits]
    cases n with
    | zero => simp [List.iterate]
    | succ n =>
      -- behind the first wait the list is that of the doubled delay
      exact (forall_mem_iterate_iff fun delay => ⟨hcap delay, hdouble delay⟩).2
        fun _ => ⟨hcap delay, hdouble delay⟩
  · rw [hwaits, forall_mem_iterate_iff hcap, hpos]
  · rw [hwaits, forall_mem_iterate_iff hdouble, hpos]
    have hhalf : delay.toNat * 2 < 2 ^ 64 ↔ delay.toNat < 2 ^ 63 := by omega
    rw [hhalf]

/-- A delay of ten seconds is waited in full, and one of 2⁶³ milliseconds is doubled to none. -/
theorem first_wait_uncapped :
    let attempts : Endpoint → Attempts :=
      fun _ _ => .error (.network "Connection refused (os error 111)")
    (connect "redis://127.0.0.1:1" 2 10000 attempts).waits = [10000] ∧
      ¬ (10000 : UInt64).toNat ≤ 5000 ∧
      (connect "redis://127.0.0.1:1" 3 9223372036854775808 attempts).waits =
        [9223372036854775808, 0] ∧
      ¬ (9223372036854775808 : UInt64).toNat * 2 < 2 ^ 64 := by
  decide +kernel

end MailCode.Redis.Connection
