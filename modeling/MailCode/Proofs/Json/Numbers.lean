import Mathlib.Tactic.SplitIfs
import Mathlib.Tactic.IntervalCases
import MailCode.Json.Basic
import MailCode.Proofs.Json.Denotation
import MailCode.Proofs.Json.NumberParts
import MailCode.Proofs.Text.Utf8
import MailCode.Text.Numerals
/-!
# Strings and numbers that are written are read back
-/

namespace MailCode.Json

/-!
## A string that is written says its text

Of the ways in which a character may stand in a string the writer takes three: a character stands
there as itself, as a letter behind a backslash, or, if it is a control, as four hexadecimal digits
(`charForm_escapeChar`). So what is written between the quotes says the text that was written
(`denotes_escaped`), and is read back as it (`text?_escaped`).
-/

/-- The bytes between the quotes of a string that is written. -/
def escaped (s : String) : Raw :=
  (s.toList.flatMap escapeChar).flatMap String.utf8EncodeChar

/-- A control is written with the hexadecimal digits of its code. -/
theorem control_spec : ∀ n < 0x20,
    [hexDigit (n / 16), hexDigit n].flatMap String.utf8EncodeChar =
        [(hexDigit (n / 16)).toUInt8, (hexDigit n).toUInt8] ∧
      codeUnit? 0x30 0x30 (hexDigit (n / 16)).toUInt8 (hexDigit n).toUInt8 = some n := by
  decide

theorem charForm_escapeChar (c : Char) :
    CharForm c ((escapeChar c).flatMap String.utf8EncodeChar) := by
  unfold escapeChar
  split_ifs with hquote hslash hb ht hn hf hr hcontrol
  -- Seven characters have a letter of their own.
  any_goals
    subst_vars
    exact .letter (by decide)
  · obtain ⟨hdigits, hunit⟩ := control_spec c.toNat hcontrol
    have hbytes : ['\\', 'u', '0', '0', hexDigit (c.toNat / 16), hexDigit c.toNat].flatMap
        String.utf8EncodeChar = [0x5c, 0x75, 0x30, 0x30] ++
          [hexDigit (c.toNat / 16), hexDigit c.toNat].flatMap String.utf8EncodeChar := rfl
    rw [hbytes, hdigits]
    exact .unit hunit
  · rw [List.flatMap_singleton]
    exact .plain hquote hslash (Nat.le_of_not_lt hcontrol)

/-- What is written between the quotes says the text that was written. -/
theorem denotes_escaped (s : String) : Denotes (escaped s) s.toList := by
  rw [escaped, List.flatMap_assoc]
  induction s.toList with
  | nil => exact .nil
  | cons c cs ih =>
    rw [List.flatMap_cons]
    exact .cons (charForm_escapeChar c) ih

theorem inside_escaped (s : String) : Inside (escaped s) :=
  inside_of_denotes (denotes_escaped s)

theorem text?_escaped (s : String) : Raw.text? (escaped s) = some s :=
  (text?_eq_some_iff (inside_escaped s)).2 (denotes_escaped s)

end MailCode.Json

namespace MailCode

/-!
## A number that is written is read back

The digits of a number are written without leading zeros, as the grammar asks for
(`number_written`), and read as digits they give the number, if it is below the bound that is asked
for (`digits_render`).
-/

namespace Text.Decimal

theorem le_ofDigitChars (cs : List Char) (n : Nat) : n ≤ Nat.ofDigitChars 10 cs n := by
  induction cs generalizing n with
  | nil => rw [Nat.ofDigitChars_nil]
  | cons c cs ih =>
    have hrest := ih (10 * n + (c.toNat - '0'.toNat))
    rw [Nat.ofDigitChars_cons]
    omega

theorem digits_of_isDigit {bound n : Nat} {cs : List Char} (h : ∀ c ∈ cs, c.isDigit)
    (hlt : Nat.ofDigitChars 10 cs n < bound) :
    digits bound n cs = .ok (Nat.ofDigitChars 10 cs n) := by
  induction cs generalizing n with
  | nil => rw [digits, Nat.ofDigitChars_nil]
  | cons c cs ih =>
    rw [Nat.ofDigitChars_cons] at hlt ⊢
    have hfits : 10 * n + (c.toNat - 48) < bound :=
      Nat.lt_of_le_of_lt (le_ofDigitChars cs _) hlt
    rw [digits, if_pos (h c List.mem_cons_self), if_pos hfits]
    exact ih (fun c hc => h c (List.mem_cons_of_mem _ hc)) hlt

theorem isDigit_of_mem_render {n : Nat} {c : Char} (h : c ∈ render n) : c.isDigit :=
  Nat.isDigit_of_mem_toDigits (by decide) (by decide) h

/-- A number is what its digits say. -/
theorem digits_render {bound n : Nat} (h : n < bound) : digits bound 0 (render n) = .ok n := by
  have hn : Nat.ofDigitChars 10 (render n) 0 = n := Nat.ofDigitChars_ten_toDigits
  rw [digits_of_isDigit (fun c hc => isDigit_of_mem_render hc) (hn.symm ▸ h), hn]

/-- A number is read back from its digits also where a sign is allowed. -/
theorem parse_render {bound n : Nat} (h : n < bound) : parse bound (render n) = .ok n := by
  have hnil : render n ≠ [] := List.ne_nil_of_length_pos Nat.length_toDigits_pos
  have hplus : '+' ∉ render n := fun hmem => absurd (isDigit_of_mem_render hmem) (by decide)
  rw [← digits_render h]
  generalize render n = cs at hnil hplus
  rw [parse.eq_def]
  split
  · exact absurd rfl hnil
  · exact absurd List.mem_cons_self hplus
  · exact absurd List.mem_cons_self hplus
  · rfl

/-- No number but 0 begins with the digit 0. -/
theorem render_pos {n : Nat} (h : 0 < n) :
    ∃ d cs, 0 < d ∧ d < 10 ∧ render n = Nat.digitChar d :: cs := by
  induction n using Nat.base_induction 10 (by decide) with
  | single d hd => exact ⟨d, [], h, hd, Nat.toDigits_of_lt_base hd⟩
  | digit n d hd hn ih =>
    obtain ⟨first, cs, hpos, hlt, hcs⟩ := ih hn
    refine ⟨first, cs ++ Nat.toDigits 10 d, hpos, hlt, ?_⟩
    rw [render, ← Nat.toDigits_append_toDigits (by decide) hn hd]
    exact congrArg (· ++ Nat.toDigits 10 d) hcs

end Text.Decimal

namespace Json

/-- The bytes of a number that is written. -/
def written (n : Nat) : Raw :=
  (Text.Decimal.render n).flatMap String.utf8EncodeChar

/-! ### Digits as bytes -/

theorem toNat_of_isDigit {c : Char} (h : c.isDigit) : 48 ≤ c.toNat ∧ c.toNat ≤ 57 := by
  simp only [Char.isDigit, Bool.and_eq_true, decide_eq_true_eq] at h
  exact ⟨UInt32.le_iff_toNat_le.1 h.1, UInt32.le_iff_toNat_le.1 h.2⟩

theorem utf8EncodeChar_of_isDigit {c : Char} (h : c.isDigit) :
    String.utf8EncodeChar c = [UInt8.ofNat c.toNat] := by
  have := toNat_of_isDigit h
  exact Text.utf8EncodeChar_of_ascii (by omega)

theorem ofUInt8_of_isDigit {c : Char} (h : c.isDigit) :
    Char.ofUInt8 (UInt8.ofNat c.toNat) = c := by
  have := toNat_of_isDigit h
  apply Char.toNat_inj.1
  have hnat : (Char.ofUInt8 (UInt8.ofNat c.toNat)).toNat = (UInt8.ofNat c.toNat).toNat := rfl
  rw [hnat, UInt8.toNat_ofNat']
  omega

theorem isDigit_ofNat {c : Char} (h : c.isDigit) : Tree.isDigit (UInt8.ofNat c.toNat) := by
  obtain ⟨hlow, hhigh⟩ := toNat_of_isDigit h
  generalize c.toNat = n at hlow hhigh
  interval_cases n <;> rfl

theorem map_written {cs : List Char} (h : ∀ c ∈ cs, c.isDigit) :
    (cs.flatMap String.utf8EncodeChar).map Char.ofUInt8 = cs := by
  induction cs with
  | nil => rfl
  | cons c cs ih =>
    have hc := h c List.mem_cons_self
    rw [List.flatMap_cons, List.map_append, ih fun c hc => h c (List.mem_cons_of_mem _ hc),
      utf8EncodeChar_of_isDigit hc, List.map_singleton, ofUInt8_of_isDigit hc]
    rfl

/-! ### The grammar allows them -/

theorem digits_of_chars {cs : List Char} (h : ∀ c ∈ cs, c.isDigit) :
    Digits (cs.flatMap String.utf8EncodeChar) := by
  induction cs with
  | nil => exact digits_nil
  | cons c cs ih =>
    have hc := h c List.mem_cons_self
    rw [List.flatMap_cons, utf8EncodeChar_of_isDigit hc, List.singleton_append, digits_cons]
    exact ⟨isDigit_ofNat hc, ih fun c hc => h c (List.mem_cons_of_mem _ hc)⟩

theorem whole_written (n : Nat) : Whole (written n) := by
  rcases Nat.eq_zero_or_pos n with rfl | hpos
  · exact .zero
  · obtain ⟨d, cs, hd, hlt, hrender⟩ := Text.Decimal.render_pos hpos
    have hdigits : Digits (cs.flatMap String.utf8EncodeChar) := digits_of_chars fun c hc =>
      Text.Decimal.isDigit_of_mem_render (n := n) (hrender ▸ List.mem_cons_of_mem _ hc)
    have hfirst : ∃ b, String.utf8EncodeChar d.digitChar = [b] ∧ 0x31 ≤ b ∧ b ≤ 0x39 := by
      interval_cases d <;> exact ⟨_, rfl, by decide, by decide⟩
    obtain ⟨b, hb, hlow, hhigh⟩ := hfirst
    rw [written, hrender, List.flatMap_cons, hb]
    exact .digits hlow hhigh hdigits

/-- What is written of a number is a whole part and nothing else. -/
theorem number_written (n : Nat) : Number (written n) := by
  have hnumber := Number.mk (.inl rfl) (whole_written n) .absent .absent
  simpa using hnumber

end Json

end MailCode
