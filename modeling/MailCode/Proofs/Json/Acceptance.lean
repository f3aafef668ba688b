import MailCode.Proofs.Json.NumberParts
/-!
# Every document of the grammar is read

From the first byte of a value the automaton gets to where the value is complete, whatever is open
around it (`accept_spells`), so that a document is read as the shape that it spells
(`parse?_of_document`). Only a number has no end of its own: it is complete when something follows
that cannot be part of it (`Ends`).
-/

namespace MailCode.Json

open MailCode.Json.Tree

variable {stack : List Frame} {bs rest : Raw}

/-! ## Runs of the automaton -/

/-- What the automaton makes of the rest of a text. -/
def accept (s : State) (rest : Raw) : Option Tree :=
  (run s rest).bind finish?

theorem accept_cons (s : State) (b : UInt8) (rest : Raw) :
    accept s (b :: rest) = (step s b).bind (accept · rest) := by
  rw [accept, run]
  cases step s b <;> rfl

theorem accept_of_step {s s' : State} {b : UInt8} (h : step s b = some s') (rest : Raw) :
    accept s (b :: rest) = accept s' rest := by
  rw [accept_cons, h, Option.bind_some]

/-- A byte is read as the character that it is in ASCII. -/
theorem eq_of_ofUInt8 {b : UInt8} {c : Char} (h : Char.ofUInt8 b = c) :
    b = UInt8.ofNat c.toNat := by
  have hnat : (Char.ofUInt8 b).toNat = b.toNat := rfl
  rw [← h, hnat, UInt8.ofNat_toNat]

/-! ## White space -/

theorem isSpace_iff {b : UInt8} :
    isSpace b = true ↔ b = 0x20 ∨ b = 0x09 ∨ b = 0x0a ∨ b = 0x0d := by
  simp [isSpace, or_assoc, or_comm, or_left_comm]

theorem blank_nil : Blank [] := by
  simp [Blank]

/-- Whether a mode is one between two tokens, where white space may stand. -/
def Tree.Mode.isBetween : Mode → Bool
  | .literal .. | .string .. | .number .. => false
  | _ => true

theorem step_of_isBetween {mode : Mode} (h : mode.isBetween) (stack : List Frame) (b : UInt8) :
    step ⟨stack, mode⟩ b = stepToken stack mode b := by
  cases mode <;> first | rfl | cases h

theorem isBetween_settle (stack : List Frame) (t : Tree) : (settle stack t).mode.isBetween := by
  rcases stack with _ | ⟨(done | ⟨done, key⟩), stack⟩ <;> rfl

theorem accept_blank {mode : Mode} {gap : Raw} (hmode : mode.isBetween) (h : Blank gap)
    (stack : List Frame) (rest : Raw) :
    accept ⟨stack, mode⟩ (gap ++ rest) = accept ⟨stack, mode⟩ rest := by
  induction gap with
  | nil => rfl
  | cons b gap ih =>
    have hstep : step ⟨stack, mode⟩ b = some ⟨stack, mode⟩ := by
      rw [step_of_isBetween hmode, stepToken, if_pos (isSpace_iff.2 (h b List.mem_cons_self))]
    rw [List.cons_append, accept_of_step hstep]
    exact ih fun b hb => h b (List.mem_cons_of_mem _ hb)

theorem accept_blank_settle {gap : Raw} (h : Blank gap) (stack : List Frame) (t : Tree)
    (rest : Raw) : accept (settle stack t) (gap ++ rest) = accept (settle stack t) rest :=
  accept_blank (isBetween_settle stack t) h _ rest

/-! ## Strings -/

/-- The digits of a code unit have a value each. -/
theorem codeUnit?_digits {a b c d : UInt8} {unit : Nat} (h : codeUnit? a b c d = some unit) :
    (Text.Hex.value? a).isSome ∧ (Text.Hex.value? b).isSome ∧ (Text.Hex.value? c).isSome ∧
      (Text.Hex.value? d).isSome := by
  simp only [codeUnit?, Option.bind_eq_bind, Option.bind_eq_some_iff] at h
  obtain ⟨_, ha, _, hb, _, hc, _, hd, -⟩ := h
  simp only [ha, hb, hc, hd, Option.isSome_some, and_self]

/-- What stands between two quotes is taken whole, whatever the string is read for. -/
theorem accept_inside (h : Inside bs) (use : StringUse) (read rest : Raw) :
    accept ⟨stack, .string use read .plain⟩ (bs ++ 0x22 :: rest) =
      accept (endString stack (read.reverse ++ bs) use) rest := by
  have hslash (read : Raw) : step ⟨stack, .string use read .plain⟩ 0x5c =
      some ⟨stack, .string use (0x5c :: read) .escape⟩ := rfl
  induction h generalizing read with
  | nil =>
    have hquote : step ⟨stack, .string use read .plain⟩ 0x22 =
        some (endString stack read.reverse use) := rfl
    rw [List.nil_append, accept_of_step hquote, List.append_nil]
  | @plain b bs hb _ ih =>
    obtain ⟨hquote, hback, hcontrol⟩ := hb
    have hstep : step ⟨stack, .string use read .plain⟩ b =
        some ⟨stack, .string use (b :: read) .plain⟩ := by
      simp [step, stepString, hquote, hback, hcontrol]
    rw [List.cons_append, accept_of_step hstep, ih]
    simp
  | @letter e c bs he _ ih =>
    have hletter : step ⟨stack, .string use (0x5c :: read) .escape⟩ e =
        some ⟨stack, .string use (e :: 0x5c :: read) .plain⟩ := by
      simp only [letters, List.mem_cons, Prod.mk.injEq, List.not_mem_nil, or_false] at he
      rcases he with ⟨rfl, -⟩ | ⟨rfl, -⟩ | ⟨rfl, -⟩ | ⟨rfl, -⟩ | ⟨rfl, -⟩ | ⟨rfl, -⟩ | ⟨rfl, -⟩ |
        ⟨rfl, -⟩ <;> rfl
    simp only [List.cons_append]
    rw [accept_of_step (hslash read), accept_of_step hletter, ih]
    simp
  | @unit a b c d unit bs hunit _ ih =>
    obtain ⟨ha, hb, hc, hd⟩ := codeUnit?_digits hunit
    have hu : step ⟨stack, .string use (0x5c :: read) .escape⟩ 0x75 =
        some ⟨stack, .string use (0x75 :: 0x5c :: read) (.hex 3)⟩ := rfl
    have hhex {d : UInt8} (hd : (Text.Hex.value? d).isSome) (read : Raw) (left : Nat) :
        step ⟨stack, .string use read (.hex (left + 1))⟩ d =
          some ⟨stack, .string use (d :: read) (.hex left)⟩ := by
      simp only [step, stepString, hd, if_true]
    have hlast (read : Raw) : step ⟨stack, .string use read (.hex 0)⟩ d =
        some ⟨stack, .string use (d :: read) .plain⟩ := by
      simp only [step, stepString, hd, if_true]
    simp only [List.cons_append]
    rw [accept_of_step (hslash read), accept_of_step hu, accept_of_step (hhex ha _ _),
      accept_of_step (hhex hb _ _), accept_of_step (hhex hc _ _), accept_of_step (hlast _), ih]
    simp

/-! ## Numbers -/

/-- What may follow a value: nothing, white space, a comma or a closing bracket. -/
def Ends (rest : Raw) : Prop :=
  ∀ b ∈ rest.head?,
    (b = 0x20 ∨ b = 0x09 ∨ b = 0x0a ∨ b = 0x0d) ∨ b = 0x2c ∨ b = 0x5d ∨ b = 0x7d

theorem step_settle (stack : List Frame) (t : Tree) (b : UInt8) :
    step (settle stack t) b = stepToken (settle stack t).stack (settle stack t).mode b :=
  step_of_isBetween (isBetween_settle stack t) _ b

theorem finish?_number {part : NumberPart} (h : part.isComplete) (stack : List Frame) (read : Raw) :
    finish? ⟨stack, .number read part⟩ = finish? (settle stack (.number read.reverse)) := by
  rcases stack with _ | ⟨(done | ⟨done, key⟩), stack⟩ <;> simp [finish?, h, settle]

/-- A number that has come to some part of it goes on to its end. -/
theorem accept_rest {part : NumberPart} (h : part.Rest bs) (hrest : Ends rest) (read : Raw) :
    accept ⟨stack, .number read part⟩ (bs ++ rest) =
      accept (settle stack (.number (read.reverse ++ bs))) rest := by
  induction bs generalizing part read with
  | nil =>
    -- The number has been read, but the automaton learns that only from what follows.
    have hcomplete := NumberPart.rest_nil.1 h
    rw [List.nil_append, List.append_nil]
    cases rest with
    | nil => exact finish?_number hcomplete stack read
    | cons b rest =>
      have hnext : part.next? b = none := by
        rcases hrest b rfl with (rfl | rfl | rfl | rfl) | rfl | rfl | rfl <;> cases part <;> rfl
      have hstep : step ⟨stack, .number read part⟩ b =
          step (settle stack (.number read.reverse)) b := by
        rw [step_settle]
        simp only [step, hnext, hcomplete, if_true]
      rw [accept_cons, accept_cons, hstep]
  | cons b bs ih =>
    obtain ⟨part', hnext, h⟩ := NumberPart.rest_cons.1 h
    have hstep : step ⟨stack, .number read part⟩ b = some ⟨stack, .number (b :: read) part'⟩ := by
      simp only [step, hnext]
    rw [List.cons_append, accept_of_step hstep, ih h, List.reverse_cons, List.append_assoc]
    rfl

/-- A digit other than zero begins a number. -/
theorem beginValue_digit {b : UInt8} (hne : b ≠ 0x30) (hb : isDigit b) (stack : List Frame) :
    beginValue stack b = some ⟨stack, .number [b] .integer⟩ := by
  unfold beginValue
  split
  case h_9 => rw [if_pos hb]
  all_goals
    rename_i hchar
    have hbyte := eq_of_ofUInt8 hchar
    subst hbyte
    first | exact (hne rfl).elim | cases hb

/-- A number begins with a byte that begins nothing else. -/
theorem exists_cons_of_number (h : Number bs) :
    ∃ b bs' part, bs = b :: bs' ∧ part.Rest bs' ∧ isSpace b = false ∧ b ≠ 0x5d ∧
      ∀ stack, beginValue stack b = some ⟨stack, .number [b] part⟩ := by
  -- What follows a minus is a number without one.
  have hunsigned {bs : Raw} (h : NumberPart.minus.Rest bs) :
      ∃ b bs' part, bs = b :: bs' ∧ part.Rest bs' ∧ isSpace b = false ∧ b ≠ 0x5d ∧
        ∀ stack, beginValue stack b = some ⟨stack, .number [b] part⟩ := by
    cases bs with
    | nil => cases NumberPart.rest_nil.1 h
    | cons b bs =>
      rcases NumberPart.rest_minus.1 h with ⟨rfl, hrest⟩ | ⟨⟨hne, hb⟩, hrest⟩
      · exact ⟨0x30, bs, .zero, rfl, hrest, rfl, by decide, fun _ => rfl⟩
      · refine ⟨b, bs, .integer, rfl, hrest, ?_, ?_, beginValue_digit hne hb⟩
        · rw [Bool.eq_false_iff, Ne, isSpace_iff]
          rintro (rfl | rfl | rfl | rfl) <;> cases hb
        · rintro rfl
          cases hb
  rcases NumberPart.number_iff.1 h with hrest | ⟨bs', rfl, hrest⟩
  · exact hunsigned hrest
  · exact ⟨0x2d, bs', .minus, rfl, hrest, rfl, by decide, fun _ => rfl⟩

theorem accept_number (h : Number bs) (hrest : Ends rest) :
    accept ⟨stack, .value⟩ (bs ++ rest) = accept (settle stack (.number bs)) rest := by
  obtain ⟨b, bs, part, rfl, hpart, hspace, -, hbegin⟩ := exists_cons_of_number h
  have hstep : step ⟨stack, .value⟩ b = some ⟨stack, .number [b] part⟩ := by
    rw [step_of_isBetween rfl, stepToken, if_neg (by simp [hspace])]
    exact hbegin stack
  rw [List.cons_append, accept_of_step hstep, accept_rest hpart hrest]
  rfl

/-! ## Values -/

theorem ends_blank {gap : Raw} (h : Blank gap) (hrest : Ends rest) : Ends (gap ++ rest) := by
  cases gap with
  | nil => exact hrest
  | cons b gap =>
    intro b' hb'
    obtain rfl : b = b' := Option.some.inj hb'
    exact .inl (h b List.mem_cons_self)

theorem ends_of_mem {b : UInt8} (h : b = 0x2c ∨ b = 0x5d ∨ b = 0x7d) (rest : Raw) :
    Ends (b :: rest) := by
  intro b' hb'
  obtain rfl : b = b' := Option.some.inj hb'
  exact .inr h

theorem ends_elements {ts : List Tree} (h : SpellsElements ts bs) (rest : Raw) :
    Ends (bs ++ rest) := by
  cases h with
  | close hgap =>
    rw [List.append_assoc]
    exact ends_blank hgap (ends_of_mem (by decide) _)
  | more hgap =>
    rw [List.append_assoc]
    exact ends_blank hgap (ends_of_mem (by decide) _)

theorem ends_members {ms : List (Raw × Tree)} (h : SpellsMembers ms bs) (rest : Raw) :
    Ends (bs ++ rest) := by
  cases h with
  | close hgap =>
    rw [List.append_assoc]
    exact ends_blank hgap (ends_of_mem (by decide) _)
  | more hgap =>
    rw [List.append_assoc]
    exact ends_blank hgap (ends_of_mem (by decide) _)

/-- A value begins with none of the bytes that mean something else at the start of an array. -/
theorem exists_cons_of_spells {t : Tree} (h : Spells t bs) :
    ∃ b bs', bs = b :: bs' ∧ isSpace b = false ∧ b ≠ 0x5d := by
  cases h with
  | number h =>
    obtain ⟨b, bs', -, rfl, -, hspace, hbracket, -⟩ := exists_cons_of_number h
    exact ⟨b, bs', rfl, hspace, hbracket⟩
  | _ => exact ⟨_, _, rfl, by decide, by decide⟩

/-- The first element of an array is read as any other. -/
theorem accept_firstElement {t : Tree} (h : Spells t bs) (stack : List Frame) (rest : Raw) :
    accept ⟨stack, .firstElement⟩ (bs ++ rest) =
      accept ⟨.array [] :: stack, .value⟩ (bs ++ rest) := by
  obtain ⟨b, bs, rfl, hspace, hbracket⟩ := exists_cons_of_spells h
  have hchar : Char.ofUInt8 b ≠ ']' := fun hchar => hbracket (eq_of_ofUInt8 hchar)
  have hstep : step ⟨stack, .firstElement⟩ b = step ⟨.array [] :: stack, .value⟩ b := by
    simp [step, stepToken, hspace, stepBetween]
  rw [List.cons_append, accept_cons, accept_cons, hstep]

mutual

/-- Wherever a value stands, the automaton reads it and goes on with what follows. -/
theorem accept_spells {t : Tree} {bs : Raw} (h : Spells t bs) (stack : List Frame) (rest : Raw)
    (hrest : Ends rest) :
    accept ⟨stack, .value⟩ (bs ++ rest) = accept (settle stack t) rest := by
  have harray : step ⟨stack, .value⟩ 0x5b = some ⟨stack, .firstElement⟩ := rfl
  have hobject : step ⟨stack, .value⟩ 0x7b = some ⟨stack, .firstMember⟩ := rfl
  -- Only a number has no end of its own, so it alone needs to know what follows.
  cases h with
  | null => rfl
  | true => rfl
  | false => rfl
  | number h => exact accept_number h hrest
  | string h =>
    have hquote : step ⟨stack, .value⟩ 0x22 = some ⟨stack, .string .value [] .plain⟩ := rfl
    rw [List.cons_append, List.append_assoc, accept_of_step hquote]
    exact accept_inside h .value [] rest
  | emptyArray hgap =>
    rw [List.cons_append, List.append_assoc, accept_of_step harray,
      accept_blank rfl hgap]
    rfl
  | array hgap hfirst hmore =>
    simp only [List.cons_append, List.append_assoc]
    rw [accept_of_step harray, accept_blank rfl hgap, accept_firstElement hfirst,
      accept_spells hfirst _ _ (ends_elements hmore rest), settle, accept_elements hmore]
    rfl
  | emptyObject hgap =>
    rw [List.cons_append, List.append_assoc, accept_of_step hobject,
      accept_blank rfl hgap]
    rfl
  | object hgap hfirst hmore =>
    have hquote : step ⟨stack, .firstMember⟩ 0x22 = some ⟨stack, .string (.key []) [] .plain⟩ := rfl
    simp only [List.cons_append, List.append_assoc]
    rw [accept_of_step hobject, accept_blank rfl hgap,
      accept_member hfirst hquote (ends_members hmore rest), accept_members hmore]
    rfl

/-- The elements that are left are read, and put behind those that are done. -/
theorem accept_elements {ts : List Tree} {bs : Raw} (h : SpellsElements ts bs) (stack : List Frame)
    (done : List Tree) (rest : Raw) :
    accept ⟨stack, .afterElement done⟩ (bs ++ rest) =
      accept (settle stack (.array (done.reverse ++ ts))) rest := by
  cases h with
  | close hgap =>
    rw [List.append_assoc, accept_blank rfl hgap, List.append_nil]
    rfl
  | more hgap hgap' hnext hmore =>
    have hcomma : step ⟨stack, .afterElement done⟩ 0x2c = some ⟨.array done :: stack, .value⟩ := rfl
    simp only [List.cons_append, List.append_assoc]
    rw [accept_blank rfl hgap, accept_of_step hcomma,
      accept_blank rfl hgap', accept_spells hnext _ _ (ends_elements hmore rest), settle,
      accept_elements hmore, List.reverse_cons, List.append_assoc]
    rfl

/-- A member is read in whatever mode its name is expected. -/
theorem accept_member {m : Raw × Tree} {bs : Raw} (h : SpellsMember m bs) {mode : Mode}
    {stack : List Frame} {done : List (Raw × Tree)} {rest : Raw}
    (hmode : step ⟨stack, mode⟩ 0x22 = some ⟨stack, .string (.key done) [] .plain⟩)
    (hrest : Ends rest) :
    accept ⟨stack, mode⟩ (bs ++ rest) = accept ⟨stack, .afterMember (m :: done)⟩ rest := by
  cases h with
  | @mk key gap gap' value t hkey hgap hgap' hvalue =>
    have hcolon : step ⟨stack, .colon done key⟩ 0x3a =
        some ⟨.object done key :: stack, .value⟩ := rfl
    simp only [List.cons_append, List.append_assoc]
    rw [accept_of_step hmode, accept_inside hkey, endString, List.reverse_nil, List.nil_append,
      accept_blank rfl hgap, accept_of_step hcolon, accept_blank rfl hgap',
      accept_spells hvalue _ _ hrest]
    rfl

/-- The members that are left are read, and put behind those that are done. -/
theorem accept_members {ms : List (Raw × Tree)} {bs : Raw} (h : SpellsMembers ms bs)
    (stack : List Frame) (done : List (Raw × Tree)) (rest : Raw) :
    accept ⟨stack, .afterMember done⟩ (bs ++ rest) =
      accept (settle stack (.object (done.reverse ++ ms))) rest := by
  cases h with
  | close hgap =>
    rw [List.append_assoc, accept_blank rfl hgap, List.append_nil]
    rfl
  | more hgap hgap' hnext hmore =>
    have hcomma : step ⟨stack, .afterMember done⟩ 0x2c = some ⟨stack, .nextMember done⟩ := rfl
    simp only [List.cons_append, List.append_assoc]
    rw [accept_blank rfl hgap, accept_of_step hcomma,
      accept_blank rfl hgap', accept_member hnext rfl (ends_members hmore rest),
      accept_members hmore, List.reverse_cons, List.append_assoc]
    rfl

end

/-- A document is read as the shape that it spells. -/
theorem parse?_of_document {t : Tree} (h : Document t bs) : parse? bs = some t := by
  cases h with
  | @mk gap gap' value t hgap hvalue hgap' =>
    have hends : Ends (gap' ++ []) := ends_blank hgap' fun b hb => by cases hb
    have hend : accept (settle [] t) (gap' ++ []) = some t := by
      rw [accept_blank_settle hgap']
      rfl
    show accept ⟨[], .value⟩ (gap ++ value ++ gap') = some t
    rw [List.append_nil] at hends hend
    rw [List.append_assoc, accept_blank rfl hgap, accept_spells hvalue _ _ hends, hend]

end MailCode.Json
