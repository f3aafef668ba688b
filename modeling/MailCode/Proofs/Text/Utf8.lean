import MailCode.Json.Tree
/-!
# Texts as bytes

The bytes of a text are those of its characters one after the other, and a text is got back from
its bytes. Bytes that begin with those of a character do so in one way only
(`utf8EncodeChar_append_inj`), as no byte but the first of a character can be first.
-/

namespace MailCode.Text

theorem byteArray_toList (bs : ByteArray) : bs.toList = bs.data.toList := by
  have hloop (i : Nat) (read : List UInt8) :
      ByteArray.toList.loop bs i read = read.reverse ++ bs.data.toList.drop i := by
    induction i, read using ByteArray.toList.loop.induct bs with
    | case1 i read hi ih =>
      have hget : bs.get! i = bs.data.toList.get ⟨i, hi⟩ := getElem!_pos bs.data i hi
      rw [ByteArray.toList.loop, if_pos hi, ih, List.reverse_cons, List.append_assoc, hget]
      congr 1
      exact List.getElem_cons_drop hi
    | case2 i read hi =>
      have hend : bs.data.toList.length ≤ i := Nat.le_of_not_lt hi
      rw [ByteArray.toList.loop, if_neg hi, List.drop_eq_nil_of_le hend, List.append_nil]
  exact hloop 0 []

theorem utf8_eq (s : String) : s.toUTF8.toList = s.toList.flatMap String.utf8EncodeChar := by
  rw [byteArray_toList, String.toUTF8_eq_toByteArray, ← String.utf8Encode_toList, List.utf8Encode,
    List.data_toByteArray]

theorem toByteArray_utf8 (s : String) : s.toUTF8.toList.toByteArray = s.toUTF8 := by
  ext1
  rw [List.data_toByteArray, byteArray_toList]

/-! ## Characters -/

theorem utf8EncodeChar_of_ascii {c : Char} (h : c.toNat < 0x80) :
    String.utf8EncodeChar c = [UInt8.ofNat c.toNat] := by
  have hle : c.val.toNat ≤ 0x7f := Nat.le_of_lt_succ h
  simp only [String.utf8EncodeChar, if_pos hle]
  rfl

/-- Beyond ASCII no byte is one of ASCII's. -/
theorem le_utf8EncodeChar {c : Char} (h : 0x80 ≤ c.toNat) :
    ∀ b ∈ String.utf8EncodeChar c, 0x80 ≤ b.toNat := by
  have hle : ¬ c.val.toNat ≤ 0x7f := Nat.not_le.2 h
  simp only [String.utf8EncodeChar, if_neg hle]
  split
  · simp only [List.mem_cons, List.not_mem_nil, or_false]
    rintro b (rfl | rfl) <;> simp only [UInt8.toNat_ofNat'] <;> omega
  · split
    · simp only [List.mem_cons, List.not_mem_nil, or_false]
      rintro b (rfl | rfl | rfl) <;> simp only [UInt8.toNat_ofNat'] <;> omega
    · simp only [List.mem_cons, List.not_mem_nil, or_false]
      rintro b (rfl | rfl | rfl | rfl) <;> simp only [UInt8.toNat_ofNat'] <;> omega

theorem utf8EncodeChar_append_inj {c d : Char} {bs bs' : List UInt8}
    (h : String.utf8EncodeChar c ++ bs = String.utf8EncodeChar d ++ bs') : c = d ∧ bs = bs' := by
  have hdecode (c : Char) (bs : List UInt8) :
      (String.utf8EncodeChar c ++ bs).toByteArray.utf8DecodeChar? 0 = some c := by
    rw [List.toByteArray_append]
    exact ByteArray.utf8DecodeChar?_utf8EncodeChar_append
  have hchar : some c = some d := by rw [← hdecode c bs, h, hdecode]
  obtain rfl := Option.some.inj hchar
  exact ⟨rfl, List.append_cancel_left h⟩

/-- The first byte of a character can be first, and the others cannot. -/
theorem exists_cons_utf8EncodeChar (c : Char) :
    ∃ b tail, String.utf8EncodeChar c = b :: tail ∧ b.IsUTF8FirstByte ∧
      ∀ b' ∈ tail, ¬ b'.IsUTF8FirstByte := by
  obtain ⟨b, tail, hc⟩ := List.exists_cons_of_ne_nil (String.utf8EncodeChar_ne_nil (c := c))
  refine ⟨b, tail, hc, ?_, ?_⟩
  · have hlt : 0 < (String.utf8EncodeChar c).length := by simp [hc]
    have hfirst : (String.utf8EncodeChar c)[0].IsUTF8FirstByte :=
      UInt8.isUTF8FirstByte_getElem_utf8EncodeChar.2 rfl
    simpa [hc] using hfirst
  · intro b' hb' hfirst
    obtain ⟨i, hi, rfl⟩ := List.getElem_of_mem hb'
    have hlt : i + 1 < (String.utf8EncodeChar c).length := by simpa [hc] using hi
    have hlater : (String.utf8EncodeChar c)[i + 1].IsUTF8FirstByte := by simpa [hc] using hfirst
    exact absurd (UInt8.isUTF8FirstByte_getElem_utf8EncodeChar.1 hlater) (Nat.succ_ne_zero i)

/-! ## Texts -/

/-- A text is what its bytes say. -/
theorem utf8Text?_utf8 (s : String) : Json.utf8Text? s.toUTF8.toList = some s := by
  rw [Json.utf8Text?, toByteArray_utf8, String.toUTF8_eq_toByteArray, String.fromUTF8?,
    dif_pos s.isValidUTF8]
  rfl

theorem utf8Text?_eq_some_iff {bs : List UInt8} {s : String} :
    Json.utf8Text? bs = some s ↔ bs = s.toList.flatMap String.utf8EncodeChar := by
  constructor
  · intro h
    rw [Json.utf8Text?, String.fromUTF8?] at h
    split at h
    case isFalse => cases h
    case isTrue hvalid =>
      have hs : s.toUTF8 = bs.toByteArray := by
        rw [← Option.some.inj h]
        rfl
      rw [← utf8_eq, hs, byteArray_toList, List.data_toByteArray]
  · rintro rfl
    rw [← utf8_eq, utf8Text?_utf8]

end MailCode.Text
