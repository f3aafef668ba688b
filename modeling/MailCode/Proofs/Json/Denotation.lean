import MailCode.Proofs.Json.Grammar
import MailCode.Proofs.Text.Utf8
/-!
# What the bytes of a string say

Escapes are resolved from left to right: a plain byte stands for itself, and an escape for the bytes
of the character that it spells (`Resolves`). What comes of it is UTF-8 just when the plain bytes
make up whole characters between the escapes, so that a string says a text just when it is put
together from ways of writing the characters of the text (`text?_eq_some_iff`).
-/

namespace MailCode.Json

variable {raw bs : Raw} {c : Char}

/-! ## Characters that stand for themselves -/

theorem isPlain_of_le {b : UInt8} (h : 0x80 ≤ b.toNat) : IsPlain b := by
  refine ⟨?_, ?_, ?_⟩
  · rintro rfl
    exact absurd h (by decide)
  · rintro rfl
    exact absurd h (by decide)
  · intro hlt
    have := UInt8.lt_iff_toNat_lt.1 hlt
    have h20 : (0x20 : UInt8).toNat = 0x20 := rfl
    omega

theorem isPlain_ofNat {n : Nat} (hn : n < 0x80) :
    IsPlain (UInt8.ofNat n) ↔ n ≠ 0x22 ∧ n ≠ 0x5c ∧ 0x20 ≤ n := by
  have htoNat : (UInt8.ofNat n).toNat = n := by rw [UInt8.toNat_ofNat']; omega
  rw [IsPlain, UInt8.lt_iff_toNat_lt, htoNat, Ne, Ne, ← UInt8.toNat_inj, ← UInt8.toNat_inj, htoNat]
  exact and_congr Iff.rfl (and_congr Iff.rfl Nat.not_lt)

/-- A character may stand for itself just when its first byte is plain, and then all are. -/
theorem isPlain_utf8EncodeChar {b : UInt8} {tail : Raw} (hc : String.utf8EncodeChar c = b :: tail) :
    IsPlain b ↔ c ≠ '"' ∧ c ≠ '\\' ∧ 0x20 ≤ c.toNat := by
  have hquote : c ≠ '"' ↔ c.toNat ≠ 0x22 := not_congr Char.toNat_inj.symm
  have hslash : c ≠ '\\' ↔ c.toNat ≠ 0x5c := not_congr Char.toNat_inj.symm
  rw [hquote, hslash]
  by_cases hascii : c.toNat < 0x80
  · rw [Text.utf8EncodeChar_of_ascii hascii] at hc
    cases hc
    exact isPlain_ofNat hascii
  · have hle := Nat.le_of_not_lt hascii
    have hb := Text.le_utf8EncodeChar hle b (hc ▸ List.mem_cons_self)
    exact iff_of_true (isPlain_of_le hb) (by omega)

theorem isPlain_of_mem (hquote : c ≠ '"') (hslash : c ≠ '\\') (hcontrol : 0x20 ≤ c.toNat) :
    ∀ b ∈ String.utf8EncodeChar c, IsPlain b := by
  intro b hb
  by_cases hascii : c.toNat < 0x80
  · have hc := Text.utf8EncodeChar_of_ascii hascii
    rw [hc, List.mem_singleton] at hb
    rw [hb]
    exact (isPlain_utf8EncodeChar hc).2 ⟨hquote, hslash, hcontrol⟩
  · exact isPlain_of_le (Text.le_utf8EncodeChar (Nat.le_of_not_lt hascii) b hb)

/-! ## Code units -/

theorem hex_value?_lt {b : UInt8} {n : Nat} (h : Text.Hex.value? b = some n) : n < 16 := by
  simp only [Text.Hex.value?, Bool.and_eq_true, decide_eq_true_eq, UInt8.le_iff_toNat_le] at h
  have h30 : (0x30 : UInt8).toNat = 0x30 := rfl
  have h39 : (0x39 : UInt8).toNat = 0x39 := rfl
  have h41 : (0x41 : UInt8).toNat = 0x41 := rfl
  have h46 : (0x46 : UInt8).toNat = 0x46 := rfl
  have h61 : (0x61 : UInt8).toNat = 0x61 := rfl
  have h66 : (0x66 : UInt8).toNat = 0x66 := rfl
  split at h
  · cases h; omega
  · split at h
    · cases h; omega
    · split at h
      · cases h; omega
      · cases h

theorem codeUnit?_lt {a b d e : UInt8} {unit : Nat} (h : codeUnit? a b d e = some unit) :
    unit < 0x10000 := by
  simp only [codeUnit?, Option.bind_eq_bind, Option.bind_eq_some_iff] at h
  obtain ⟨a', ha, b', hb, d', hd, e', he, h⟩ := h
  cases h
  have := hex_value?_lt ha
  have := hex_value?_lt hb
  have := hex_value?_lt hd
  have := hex_value?_lt he
  omega

/-- A character is no surrogate. -/
theorem toNat_not_surrogate (c : Char) : c.toNat < 0xd800 ∨ 0xe000 ≤ c.toNat := by
  have hvalid : c.toNat < 0xd800 ∨ 0xdfff < c.toNat ∧ c.toNat < 0x110000 := c.valid
  omega

theorem toNat_ofNat {n : Nat} (hn : n < 0xd800 ∨ 0xe000 ≤ n) (hlt : n < 0x110000) :
    (Char.ofNat n).toNat = n := by
  have hvalid : n.isValidChar := by
    rw [Nat.isValidChar]
    omega
  rw [Char.ofNat, dif_pos hvalid]
  rfl

theorem pairedCode_eq (high low : Nat) :
    pairedCode high low = 0x10000 + (high - 0xd800) * 0x400 + (low - 0xdc00) :=
  rfl

/-! ## Resolving escapes -/

/-- What comes of a string when its escapes are resolved, whether it is UTF-8 or not. -/
inductive Resolves : Raw → List UInt8 → Prop
  | nil : Resolves [] []
  | plain {b : UInt8} {raw bs : Raw} : IsPlain b → Resolves raw bs → Resolves (b :: raw) (b :: bs)
  | char {c : Char} {form raw bs : Raw} : CharForm c form → Resolves raw bs →
      Resolves (form ++ raw) (String.utf8EncodeChar c ++ bs)

theorem unescapeFrom_plain {b : UInt8} (hb : IsPlain b) (read rest : Raw) :
    unescapeFrom read (b :: rest) = unescapeFrom (b :: read) rest := by
  have hslash : b ≠ 0x5c := hb.2.1
  rw [unescapeFrom] <;> simp [hslash]

/-- A character is resolved to its own bytes. -/
theorem unescapeFrom_charForm {form : Raw} (h : CharForm c form) (read rest : Raw) :
    unescapeFrom read (form ++ rest) =
      unescapeFrom ((String.utf8EncodeChar c).reverse ++ read) rest := by
  have hplain (bs read : Raw) (hbs : ∀ b ∈ bs, IsPlain b) :
      unescapeFrom read (bs ++ rest) = unescapeFrom (bs.reverse ++ read) rest := by
    induction bs generalizing read with
    | nil => rfl
    | cons b bs ih =>
      rw [List.cons_append, unescapeFrom_plain (hbs b List.mem_cons_self),
        ih _ fun b hb => hbs b (List.mem_cons_of_mem _ hb), List.reverse_cons, List.append_assoc]
      rfl
  cases h with
  | plain hquote hslash hcontrol => exact hplain _ _ (isPlain_of_mem hquote hslash hcontrol)
  | @letter e he =>
    simp only [letters, List.mem_cons, Prod.mk.injEq, List.not_mem_nil, or_false] at he
    rcases he with ⟨rfl, rfl⟩ | ⟨rfl, rfl⟩ | ⟨rfl, rfl⟩ | ⟨rfl, rfl⟩ | ⟨rfl, rfl⟩ | ⟨rfl, rfl⟩ |
      ⟨rfl, rfl⟩ | ⟨rfl, rfl⟩ <;> rfl
  | unit hunit =>
    have hsurrogate := toNat_not_surrogate c
    have hhigh : ¬ (0xd800 ≤ c.toNat ∧ c.toNat < 0xdc00) := by omega
    have hlow : ¬ (0xdc00 ≤ c.toNat ∧ c.toNat < 0xe000) := by omega
    simp only [List.cons_append, List.nil_append, unescapeFrom, hunit, hhigh, hlow, if_false,
      utf8Of, Char.ofNat_toNat]
  | @pair _ _ _ _ _ _ _ _ high low hhigh hlow hle hlt hle' hlt' hc =>
    have hcode : utf8Of (pairedCode high low) = String.utf8EncodeChar c := by
      rw [utf8Of, pairedCode_eq, ← hc, Char.ofNat_toNat]
    simp only [List.cons_append, List.nil_append, unescapeFrom, hhigh, hlow, hcode]
    rw [if_pos ⟨hle, hlt⟩, if_pos ⟨hle', hlt'⟩]

theorem unescapeFrom_of_resolves (h : Resolves raw bs) (read : Raw) :
    unescapeFrom read raw = some (read.reverse ++ bs) := by
  induction h generalizing read with
  | nil => rw [unescapeFrom, List.append_nil]
  | plain hb _ ih => rw [unescapeFrom_plain hb, ih, List.reverse_cons, List.append_assoc]; rfl
  | char hform _ ih =>
    rw [unescapeFrom_charForm hform, ih, List.reverse_append, List.reverse_reverse,
      List.append_assoc]

/-- What stands behind a code unit may stand in a string itself. -/
theorem inside_of_unit {a b d e : UInt8} {rest : Raw}
    (h : Inside (0x5c :: 0x75 :: a :: b :: d :: e :: rest)) : Inside rest := by
  cases h with
  | plain hb => exact absurd rfl hb.2.1
  | letter he => simp [letters] at he
  | unit _ hrest => exact hrest

/-- Whatever escapes are resolved, they are escapes of characters. -/
theorem resolves_of_unescapeFrom {read out : Raw} (hraw : Inside raw)
    (h : unescapeFrom read raw = some out) : ∃ bs, out = read.reverse ++ bs ∧ Resolves raw bs := by
  have hchar {c : Char} {form rest read out : Raw} (hform : CharForm c form)
      (h : ∃ bs, out = ((String.utf8EncodeChar c).reverse ++ read).reverse ++ bs ∧
        Resolves rest bs) : ∃ bs, out = read.reverse ++ bs ∧ Resolves (form ++ rest) bs := by
    obtain ⟨bs, rfl, hrest⟩ := h
    exact ⟨_, by simp, .char hform hrest⟩
  -- The cases that are left to the end are those in which nothing comes out.
  fun_induction unescapeFrom read raw
  case case1 =>
    cases h
    exact ⟨[], (List.append_nil _).symm, .nil⟩
  case case4 high hhigh hsurrogate _ _ _ _ rest low hlow hsurrogate' ih =>
    have hcode : (Char.ofNat (pairedCode high low)).toNat = pairedCode high low := by
      refine toNat_ofNat ?_ ?_ <;> rw [pairedCode_eq] <;> omega
    exact hchar (.pair hhigh hlow hsurrogate.1 hsurrogate.2 hsurrogate'.1 hsurrogate'.2 hcode)
      (ih (inside_of_unit (inside_of_unit hraw)) h)
  case case8 unit hunit hhigh hlow ih =>
    have hcode : (Char.ofNat unit).toNat = unit := by
      have := codeUnit?_lt hunit
      refine toNat_ofNat ?_ ?_ <;> omega
    exact hchar (.unit (hcode.symm ▸ hunit)) (ih (inside_of_unit hraw) h)
  case case9 e rest hu b he ih =>
    cases hraw with
    | plain hb => exact absurd rfl hb.2.1
    | @letter _ c _ hmem hrest =>
      have hc : String.utf8EncodeChar c = [b] := by
        simp only [letters, List.mem_cons, Prod.mk.injEq, List.not_mem_nil, or_false] at hmem
        rcases hmem with ⟨rfl, rfl⟩ | ⟨rfl, rfl⟩ | ⟨rfl, rfl⟩ | ⟨rfl, rfl⟩ | ⟨rfl, rfl⟩ |
          ⟨rfl, rfl⟩ | ⟨rfl, rfl⟩ | ⟨rfl, rfl⟩ <;>
          exact congrArg (fun o => [o]) (Option.some.inj he)
      exact hchar (.letter hmem) (hc ▸ ih hrest h)
    | unit => exact (hu _ _ _ _ _ rfl rfl).elim
  case case12 b rest _ hescape _ ih =>
    cases hraw with
    | plain hb hrest =>
      obtain ⟨bs, rfl, hrest⟩ := ih hrest h
      exact ⟨b :: bs, by simp, .plain hb hrest⟩
    | letter => exact (hescape _ _ rfl rfl).elim
    | unit => exact (hescape _ _ rfl rfl).elim
  all_goals cases h

theorem unescape?_eq_some_iff (hraw : Inside raw) : unescape? raw = some bs ↔ Resolves raw bs := by
  constructor
  · intro h
    obtain ⟨bs', rfl, hresolves⟩ := resolves_of_unescapeFrom hraw h
    exact hresolves
  · exact fun h => unescapeFrom_of_resolves h []

/-! ## Whole characters -/

theorem resolves_of_denotes {cs : List Char} (h : Denotes raw cs) :
    Resolves raw (cs.flatMap String.utf8EncodeChar) := by
  induction h with
  | nil => exact .nil
  | cons hform _ ih => exact .char hform ih

/-- A byte that cannot be first in a character comes of a plain one. -/
theorem resolves_tail {tail more : List UInt8} (htail : ∀ b ∈ tail, ¬ b.IsUTF8FirstByte)
    (h : Resolves raw (tail ++ more)) : ∃ rest, raw = tail ++ rest ∧ Resolves rest more := by
  induction tail generalizing raw with
  | nil => exact ⟨raw, rfl, h⟩
  | cons b tail ih =>
    generalize hbytes : b :: tail ++ more = bytes at h
    cases h with
    | nil => cases hbytes
    | plain _ hrest =>
      cases hbytes
      obtain ⟨rest, rfl, hmore⟩ := ih (fun b hb => htail b (List.mem_cons_of_mem _ hb)) hrest
      exact ⟨rest, rfl, hmore⟩
    | @char c =>
      obtain ⟨first, tail', hc, hfirst, -⟩ := Text.exists_cons_utf8EncodeChar c
      rw [hc] at hbytes
      obtain rfl : b = first := (List.cons.inj hbytes).1
      exact absurd hfirst (htail b List.mem_cons_self)

theorem denotes_of_resolves {cs : List Char}
    (h : Resolves raw (cs.flatMap String.utf8EncodeChar)) : Denotes raw cs := by
  induction cs generalizing raw with
  | nil =>
    generalize hbytes : ([] : List Char).flatMap String.utf8EncodeChar = bytes at h
    cases h with
    | nil => exact .nil
    | plain => cases hbytes
    | char => exact absurd (List.append_eq_nil_iff.1 hbytes.symm).1 String.utf8EncodeChar_ne_nil
  | cons c cs ih =>
    rw [List.flatMap_cons] at h
    obtain ⟨first, tail, hc, -, htail⟩ := Text.exists_cons_utf8EncodeChar c
    generalize hbytes : String.utf8EncodeChar c ++ cs.flatMap String.utf8EncodeChar = bytes at h
    -- The first character comes of a plain byte and those behind it, or of an escape.
    cases h with
    | nil => exact absurd (List.append_eq_nil_iff.1 hbytes).1 String.utf8EncodeChar_ne_nil
    | plain hb hrest =>
      rw [hc] at hbytes
      cases hbytes
      obtain ⟨rest, rfl, hmore⟩ := resolves_tail htail hrest
      obtain ⟨hquote, hslash, hcontrol⟩ := (isPlain_utf8EncodeChar hc).1 hb
      rw [← List.cons_append, ← hc]
      exact .cons (.plain hquote hslash hcontrol) (ih hmore)
    | char hform hrest =>
      obtain ⟨rfl, rfl⟩ := Text.utf8EncodeChar_append_inj hbytes
      exact .cons hform (ih hrest)

/-- A string says just the text whose characters it is put together from. -/
theorem text?_eq_some_iff (hraw : Inside raw) {s : String} :
    Raw.text? raw = some s ↔ Denotes raw s.toList := by
  rw [Raw.text?, Option.bind_eq_some_iff]
  constructor
  · rintro ⟨bs, hbs, hs⟩
    obtain rfl := Text.utf8Text?_eq_some_iff.1 hs
    exact denotes_of_resolves ((unescape?_eq_some_iff hraw).1 hbs)
  · intro h
    exact ⟨_, (unescape?_eq_some_iff hraw).2 (resolves_of_denotes h),
      Text.utf8Text?_eq_some_iff.2 rfl⟩

/-- What says a text may stand in a string. -/
theorem inside_of_denotes {cs : List Char} (h : Denotes raw cs) : Inside raw := by
  have hplain {bs rest : Raw} (hbs : ∀ b ∈ bs, IsPlain b) (hrest : Inside rest) :
      Inside (bs ++ rest) := by
    induction bs with
    | nil => exact hrest
    | cons b bs ih =>
      exact .plain (hbs b List.mem_cons_self) (ih fun b hb => hbs b (List.mem_cons_of_mem _ hb))
  induction h with
  | nil => exact .nil
  | cons hform _ ih =>
    cases hform with
    | plain hquote hslash hcontrol => exact hplain (isPlain_of_mem hquote hslash hcontrol) ih
    | letter he => exact .letter he ih
    | unit hunit => exact .unit hunit ih
    | pair hhigh hlow => exact .unit hhigh (.unit hlow ih)

end MailCode.Json
