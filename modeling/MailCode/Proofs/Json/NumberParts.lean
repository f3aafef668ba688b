import MailCode.Proofs.Json.Grammar
/-!
# How a number goes on

`NumberPart.Rest` is the grammar's side of the automaton's `NumberPart.next?`: what of a number may
still follow when the automaton has come to some part of it. It is empty just when the automaton
lets the number end (`rest_nil`), and begins with a byte just when the automaton takes that byte
(`rest_cons`).
-/

namespace MailCode.Json

open MailCode.Json.Tree

theorem isDigit_iff {b : UInt8} : isDigit b = true ↔ 0x30 ≤ b ∧ b ≤ 0x39 := by
  simp [isDigit]

theorem digits_nil : Digits [] := by
  simp [Digits]

theorem digits_cons {b : UInt8} {bs : Raw} : Digits (b :: bs) ↔ isDigit b ∧ Digits bs := by
  simp [Digits, isDigit_iff]

/-- The marks of an exponent. -/
def IsMark (b : UInt8) : Prop := b = 0x65 ∨ b = 0x45

namespace Tree.NumberPart

/-- How a number may go on from each of its parts. -/
def Rest : NumberPart → Raw → Prop
  | .minus, bs => ∃ w f e, Whole w ∧ Fraction f ∧ Exponent e ∧ bs = w ++ (f ++ e)
  | .zero, bs => ∃ f e, Fraction f ∧ Exponent e ∧ bs = f ++ e
  | .integer, bs => ∃ ds f e, Digits ds ∧ Fraction f ∧ Exponent e ∧ bs = ds ++ (f ++ e)
  | .point, bs => ∃ ds e, ds ≠ [] ∧ Digits ds ∧ Exponent e ∧ bs = ds ++ e
  | .fraction, bs => ∃ ds e, Digits ds ∧ Exponent e ∧ bs = ds ++ e
  | .exponent, bs =>
    ∃ sign ds, (sign = [] ∨ sign = [0x2b] ∨ sign = [0x2d]) ∧ ds ≠ [] ∧ Digits ds ∧ bs = sign ++ ds
  | .exponentSign, bs => bs ≠ [] ∧ Digits bs
  | .exponentDigits, bs => Digits bs

variable {b : UInt8} {bs : Raw}

theorem exponent_iff : Exponent (b :: bs) ↔ IsMark b ∧ exponent.Rest bs := by
  constructor
  · rintro (_ | ⟨hmark, hsign, hne, hds⟩)
    exact ⟨hmark, _, _, hsign, hne, hds, rfl⟩
  · rintro ⟨hmark, sign, ds, hsign, hne, hds, rfl⟩
    exact .present hmark hsign hne hds

theorem rest_exponentDigits : exponentDigits.Rest (b :: bs) ↔ isDigit b ∧ exponentDigits.Rest bs :=
  digits_cons

theorem rest_exponentSign : exponentSign.Rest (b :: bs) ↔ isDigit b ∧ exponentDigits.Rest bs := by
  simp [Rest, digits_cons]

theorem rest_exponent : exponent.Rest (b :: bs) ↔
    isDigit b ∧ exponentDigits.Rest bs ∨ (b = 0x2b ∨ b = 0x2d) ∧ exponentSign.Rest bs := by
  constructor
  · rintro ⟨sign, ds, hsign, hne, hds, h⟩
    rcases hsign with rfl | rfl | rfl
    · obtain rfl : b :: bs = ds := h
      exact .inl (digits_cons.1 hds)
    · cases h
      exact .inr ⟨.inl rfl, hne, hds⟩
    · cases h
      exact .inr ⟨.inr rfl, hne, hds⟩
  · rintro (h | ⟨rfl | rfl, hne, hds⟩)
    · exact ⟨[], b :: bs, .inl rfl, List.cons_ne_nil _ _, digits_cons.2 h, rfl⟩
    · exact ⟨[0x2b], bs, .inr (.inl rfl), hne, hds, rfl⟩
    · exact ⟨[0x2d], bs, .inr (.inr rfl), hne, hds, rfl⟩

theorem rest_fraction : fraction.Rest (b :: bs) ↔
    isDigit b ∧ fraction.Rest bs ∨ IsMark b ∧ exponent.Rest bs := by
  constructor
  · rintro ⟨ds, e, hds, he, h⟩
    cases ds with
    | nil =>
      obtain rfl : b :: bs = e := h
      exact .inr (exponent_iff.1 he)
    | cons d ds =>
      cases h
      obtain ⟨hd, hds⟩ := digits_cons.1 hds
      exact .inl ⟨hd, ds, e, hds, he, rfl⟩
  · rintro (⟨hb, ds, e, hds, he, rfl⟩ | h)
    · exact ⟨b :: ds, e, digits_cons.2 ⟨hb, hds⟩, he, rfl⟩
    · exact ⟨[], b :: bs, digits_nil, exponent_iff.2 h, rfl⟩

theorem rest_point : point.Rest (b :: bs) ↔ isDigit b ∧ fraction.Rest bs := by
  constructor
  · rintro ⟨ds, e, hne, hds, he, h⟩
    cases ds with
    | nil => exact absurd rfl hne
    | cons d ds =>
      cases h
      obtain ⟨hd, hds⟩ := digits_cons.1 hds
      exact ⟨hd, ds, e, hds, he, rfl⟩
  · rintro ⟨hb, ds, e, hds, he, rfl⟩
    exact ⟨b :: ds, e, List.cons_ne_nil _ _, digits_cons.2 ⟨hb, hds⟩, he, rfl⟩

theorem rest_zero : zero.Rest (b :: bs) ↔
    b = 0x2e ∧ point.Rest bs ∨ IsMark b ∧ exponent.Rest bs := by
  constructor
  · rintro ⟨f, e, hf, he, h⟩
    cases hf with
    | absent =>
      obtain rfl : b :: bs = e := h
      exact .inr (exponent_iff.1 he)
    | present hne hds =>
      cases h
      exact .inl ⟨rfl, _, e, hne, hds, he, rfl⟩
  · rintro (⟨rfl, ds, e, hne, hds, he, rfl⟩ | h)
    · exact ⟨_, e, .present hne hds, he, rfl⟩
    · exact ⟨[], b :: bs, .absent, exponent_iff.2 h, rfl⟩

theorem rest_integer : integer.Rest (b :: bs) ↔
    isDigit b ∧ integer.Rest bs ∨ zero.Rest (b :: bs) := by
  constructor
  · rintro ⟨ds, f, e, hds, hf, he, h⟩
    cases ds with
    | nil => exact .inr ⟨f, e, hf, he, h⟩
    | cons d ds =>
      cases h
      obtain ⟨hd, hds⟩ := digits_cons.1 hds
      exact .inl ⟨hd, ds, f, e, hds, hf, he, rfl⟩
  · rintro (⟨hb, ds, f, e, hds, hf, he, rfl⟩ | ⟨f, e, hf, he, h⟩)
    · exact ⟨b :: ds, f, e, digits_cons.2 ⟨hb, hds⟩, hf, he, rfl⟩
    · exact ⟨[], f, e, digits_nil, hf, he, h⟩

theorem rest_minus : minus.Rest (b :: bs) ↔
    b = 0x30 ∧ zero.Rest bs ∨ (b ≠ 0x30 ∧ isDigit b) ∧ integer.Rest bs := by
  constructor
  · rintro ⟨w, f, e, hw, hf, he, h⟩
    cases hw with
    | zero =>
      cases h
      exact .inl ⟨rfl, f, e, hf, he, rfl⟩
    | digits hlow hhigh hds =>
      cases h
      refine .inr ⟨⟨?_, isDigit_iff.2 ⟨?_, hhigh⟩⟩, _, f, e, hds, hf, he, rfl⟩
      · rintro rfl
        exact absurd hlow (by decide)
      · exact UInt8.le_trans (by decide) hlow
  · rintro (⟨rfl, f, e, hf, he, rfl⟩ | ⟨⟨hne, hb⟩, ds, f, e, hds, hf, he, rfl⟩)
    · exact ⟨[0x30], f, e, .zero, hf, he, rfl⟩
    · obtain ⟨hlow, hhigh⟩ := isDigit_iff.1 hb
      have hpos : 0x31 ≤ b := by
        rw [UInt8.le_iff_toNat_le] at hlow ⊢
        have : b.toNat ≠ 0x30 := fun h => hne (UInt8.toNat_inj.1 h)
        have h30 : (0x30 : UInt8).toNat = 0x30 := rfl
        have h31 : (0x31 : UInt8).toNat = 0x31 := rfl
        omega
      exact ⟨b :: ds, f, e, .digits hpos hhigh hds, hf, he, rfl⟩

/-- A number, with the minus that it may begin with taken off. -/
theorem number_iff : Number bs ↔ minus.Rest bs ∨ ∃ bs', bs = 0x2d :: bs' ∧ minus.Rest bs' := by
  constructor
  · rintro ⟨rfl | rfl, hw, hf, he⟩
    · exact .inl ⟨_, _, _, hw, hf, he, by simp⟩
    · exact .inr ⟨_, rfl, _, _, _, hw, hf, he, by simp⟩
  · rintro (⟨w, f, e, hw, hf, he, rfl⟩ | ⟨_, rfl, w, f, e, hw, hf, he, rfl⟩)
    · have hnumber := Number.mk (.inl rfl) hw hf he
      simpa using hnumber
    · have hnumber := Number.mk (.inr rfl) hw hf he
      simpa using hnumber

/-- A number may end in a part just when the automaton lets it. -/
theorem rest_nil {part : NumberPart} : part.Rest [] ↔ part.isComplete := by
  cases part with
  | minus =>
    refine iff_of_false ?_ (by decide)
    rintro ⟨w, f, e, hw, -, -, h⟩
    cases hw <;> cases h
  | zero => exact iff_of_true ⟨[], [], .absent, .absent, rfl⟩ rfl
  | integer => exact iff_of_true ⟨[], [], [], digits_nil, .absent, .absent, rfl⟩ rfl
  | point =>
    refine iff_of_false ?_ (by decide)
    rintro ⟨ds, e, hne, -, -, h⟩
    exact hne (List.append_eq_nil_iff.1 h.symm).1
  | fraction => exact iff_of_true ⟨[], [], digits_nil, .absent, rfl⟩ rfl
  | exponent =>
    refine iff_of_false ?_ (by decide)
    rintro ⟨sign, ds, -, hne, -, h⟩
    exact hne (List.append_eq_nil_iff.1 h.symm).2
  | exponentSign => exact iff_of_false (fun h => h.1 rfl) (by decide)
  | exponentDigits => exact iff_of_true digits_nil rfl

/-- A number may go on with a byte just when the automaton takes it. -/
theorem rest_cons {part : NumberPart} :
    part.Rest (b :: bs) ↔ ∃ part', part.next? b = some part' ∧ part'.Rest bs := by
  -- Digits, points, marks and signs exclude one another, so the order of the tests is no matter.
  have hdigit (hb : isDigit b = true) : ¬ (b = 0x2e ∨ IsMark b ∨ b = 0x2b ∨ b = 0x2d) := by
    rintro (rfl | (rfl | rfl) | rfl | rfl) <;> cases hb
  have hpoint (h : b = 0x2e) : ¬ IsMark b := by
    rintro (rfl | rfl) <;> cases h
  have hmark : (b == 0x65 || b == 0x45) = true ↔ IsMark b := by simp [IsMark]
  have hsign : (b == 0x2b || b == 0x2d) = true ↔ b = 0x2b ∨ b = 0x2d := by simp
  cases part with
  | minus =>
    rw [rest_minus, next?]
    by_cases hzero : b = 0x30 <;> by_cases hb : isDigit b <;> simp [hzero, hb]
  | zero =>
    simp only [rest_zero, next?, hmark, beq_iff_eq]
    by_cases hp : b = 0x2e <;> by_cases hm : IsMark b <;> simp_all
  | integer =>
    simp only [rest_integer, rest_zero, next?, hmark, beq_iff_eq]
    by_cases hb : isDigit b <;> by_cases hp : b = 0x2e <;> by_cases hm : IsMark b <;> simp_all
  | fraction =>
    simp only [rest_fraction, next?, hmark]
    by_cases hb : isDigit b <;> by_cases hm : IsMark b <;> simp_all
  | exponent =>
    simp only [rest_exponent, next?, hsign]
    by_cases hb : isDigit b <;> by_cases hs : b = 0x2b ∨ b = 0x2d <;> simp_all
  | point =>
    rw [rest_point, next?]
    by_cases hb : isDigit b <;> simp [hb]
  | exponentSign =>
    rw [rest_exponentSign, next?]
    by_cases hb : isDigit b <;> simp [hb]
  | exponentDigits =>
    rw [rest_exponentDigits, next?]
    by_cases hb : isDigit b <;> simp [hb]

end Tree.NumberPart

end MailCode.Json
