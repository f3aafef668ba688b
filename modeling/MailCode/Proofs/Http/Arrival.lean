import MailCode.Proofs.Http.Requests
import MailCode.Proofs.Issuance.Dialogue
/-!
# What becomes of a body, however it arrives

`getCode_of_arrival` sums up the reading of bodies and draws the consequence for the handler: its
answer, its calls and what it logs are the same for every way of cutting the same bytes, and a body
that passes the limit or breaks off comes to nothing, even where its beginning is a whole request.
-/

namespace MailCode.Http

variable {limit : Nat} {chunks chunks' : List Chunk}

/-- As lengths add up, some beginning passes the limit just if the whole does. -/
theorem exists_prefix_iff (limit : Nat) (pieces : List (List UInt8)) :
    (∃ earlier, earlier <+: pieces ∧ limit < earlier.flatten.length) ↔
      limit < pieces.flatten.length := by
  constructor
  · rintro ⟨earlier, ⟨later, rfl⟩, hlt⟩
    rw [List.flatten_append, List.length_append]
    omega
  · exact fun hlt => ⟨pieces, List.prefix_rfl, hlt⟩

theorem readBody_eq_oversized :
    readBody limit chunks = .error .oversized ↔ limit < (received chunks).flatten.length := by
  rw [readBody_eq]
  split
  · simp_all
  · split <;> simp_all

theorem readBody_eq_unreadable :
    readBody limit chunks = .error .unreadable ↔
      .broken ∈ chunks ∧ (received chunks).flatten.length ≤ limit := by
  rw [readBody_eq]
  split
  · simp_all
  · split <;> simp_all

theorem readBody_eq_ok {body : List UInt8} :
    readBody limit chunks = .ok body ↔
      .broken ∉ chunks ∧ body = (received chunks).flatten ∧ body.length ≤ limit := by
  rw [readBody_eq]
  split
  case isTrue hlt =>
    simp only [reduceCtorEq, false_iff]
    rintro ⟨-, rfl, hle⟩
    exact absurd hle (Nat.not_le.2 hlt)
  case isFalse hle =>
    split
    case isTrue hbroken => simp [hbroken]
    case isFalse hwhole =>
      simp only [Except.ok.injEq, hwhole, not_false_eq_true, true_and]
      constructor
      · rintro rfl
        exact ⟨rfl, Nat.not_lt.1 hle⟩
      · exact fun h => h.1.symm

/-! ## The handler -/

section
variable {σ : Type} (c : Collaborators σ) (settings : IssuingSettings) (s : σ)

/-- The handler sees of a body what was read of it. -/
theorem getCode_congr (h : readBody limit chunks' = readBody limit chunks) :
    getCode c settings limit chunks' s = getCode c settings limit chunks s := by
  unfold getCode
  rw [h]

/-- A body that was not read is answered as no request, and nobody is asked for anything. -/
theorem getCode_of_rejected {rejection : BodyRejection}
    (h : readBody limit chunks = .error rejection) :
    (getCode c settings limit chunks s).response = noRequest ∧
      (getCode c settings limit chunks s).state = s ∧
      (getCode c settings limit chunks s).calls = [] := by
  unfold getCode
  rw [h]
  cases rejection <;> exact ⟨rfl, rfl, rfl⟩

theorem getCode_status (limit : Nat) (chunks : List Chunk) :
    (getCode c settings limit chunks s).response.status = 200 := by
  unfold getCode
  split
  · rfl
  · rfl
  · dsimp only
    split <;> rfl

/-- A body is refused for its length just if some beginning of what arrives passes the limit, and
for breaking off just if it breaks off before that; otherwise it is read whole, to the last byte
that the limit allows. So if it does not break off, the handler cannot tell how it was cut. The
status is always the same, and for a body that was not read whole nobody is asked for anything,
whatever its beginning looks like: also where every exchange is written down, nothing is. -/
theorem getCode_of_arrival (limit : Nat) (chunks : List Chunk) :
    let pieces := received chunks
    let handled := getCode c settings limit chunks s
    (readBody limit chunks = .error .oversized ↔
        ∃ earlier, earlier <+: pieces ∧ limit < earlier.flatten.length) ∧
      (readBody limit chunks = .error .unreadable ↔
        .broken ∈ chunks ∧ pieces.flatten.length ≤ limit) ∧
      (∀ body, readBody limit chunks = .ok body ↔
        .broken ∉ chunks ∧ body = pieces.flatten ∧ body.length ≤ limit) ∧
      (∀ chunks', .broken ∉ chunks → .broken ∉ chunks' →
        (received chunks').flatten = pieces.flatten →
        getCode c settings limit chunks' s = handled) ∧
      handled.response.status = 200 ∧
      ∀ rejection, readBody limit chunks = .error rejection →
        handled.response = noRequest ∧ handled.state = s ∧ handled.calls = [] ∧
          (getCode c.recorded settings limit chunks ([], s)).state = ([], s) := by
  intro pieces handled
  refine ⟨?_, readBody_eq_unreadable, fun body => readBody_eq_ok, ?_, getCode_status .., ?_⟩
  · rw [exists_prefix_iff]
    exact readBody_eq_oversized
  · intro chunks' hwhole hwhole' hbytes
    apply getCode_congr
    rw [readBody_eq, readBody_eq, if_neg hwhole, if_neg hwhole', hbytes]
  · intro rejection h
    obtain ⟨hresponse, hstate, hcalls⟩ := getCode_of_rejected c settings s h
    obtain ⟨-, hsilent, -⟩ := getCode_of_rejected c.recorded settings ([], s) h
    exact ⟨hresponse, hstate, hcalls, hsilent⟩

end

/-- A whole request arrives before the body breaks off, and before a last byte passes the limit:
both times nobody is asked for anything. Cut otherwise, with an empty piece, and just within the
limit it is served. -/
theorem getCode_of_arrival_cut :
    let piece := "\x7b\"email\":\"a\"\x7d".toUTF8.toList
    let start : Rehearsal.World Memory := .fresh .empty (fun _ => "1234") fun _ => "id"
    let handle (chunks : List Chunk) :=
      getCode Rehearsal.cast ⟨.setIfAbsent, .strict⟩ 13 chunks start
    Asks "a" piece ∧ (handle [.bytes piece, .broken]).response = noRequest ∧
      (handle [.bytes piece, .broken]).calls = [] ∧
      (handle [.bytes piece, .bytes [32]]).response = noRequest ∧
      (handle [.bytes piece, .bytes [32]]).calls = [] ∧
      (handle [.bytes piece]).calls ≠ [] ∧
      handle [.bytes (piece.take 5), .bytes [], .bytes (piece.drop 5)] = handle [.bytes piece] := by
  intro piece start handle
  have harrival (chunks : List Chunk) :=
    getCode_of_arrival Rehearsal.cast ⟨.setIfAbsent, .strict⟩ start 13 chunks
  have hbroken : readBody 13 [.bytes piece, .broken] = .error .unreadable := by decide +kernel
  have hlong : readBody 13 [.bytes piece, .bytes [32]] = .error .oversized := by decide +kernel
  obtain ⟨-, -, -, -, -, hunread⟩ := harrival [.bytes piece, .broken]
  obtain ⟨-, -, -, -, -, hunread'⟩ := harrival [.bytes piece, .bytes [32]]
  obtain ⟨-, -, -, hcut, -, -⟩ := harrival [.bytes piece]
  exact ⟨by decide +kernel, (hunread _ hbroken).1, (hunread _ hbroken).2.2.1, (hunread' _ hlong).1,
    (hunread' _ hlong).2.2.1, by decide +kernel, hcut _ (by simp) (by simp) (by decide +kernel)⟩

end MailCode.Http
