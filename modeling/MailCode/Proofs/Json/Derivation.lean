import MailCode.Proofs.Json.Acceptance
/-!
# Nothing but documents of the grammar is read

`State.Rest` says of every state of the automaton how a text may go on from there, if the whole of
it is to spell a given shape. A step of the automaton takes one byte off such a rest
(`rest_of_step`), so that what is read to the end had the right rest in every state, and from the
start it was a document (`document_of_parse?`). Together with the converse this makes the automaton
and the grammar one and the same (`parse?_eq_some_iff`).
-/

namespace MailCode.Json

open MailCode.Json.Tree

namespace Tree

/-- What is open demands of the text after a value that it is gone on with and closed, from the
inside out; then only white space may follow. -/
def Closes (t : Tree) : List Frame → Tree → Raw → Prop
  | [], v, bs => v = t ∧ Blank bs
  | .array done :: stack, v, bs => ∃ ts more rest, SpellsElements ts more ∧ bs = more ++ rest ∧
      Closes t stack (.array ((v :: done).reverse ++ ts)) rest
  | .object done key :: stack, v, bs => ∃ ms more rest, SpellsMembers ms more ∧ bs = more ++ rest ∧
      Closes t stack (.object (((key, v) :: done).reverse ++ ms)) rest

/-- A value is to follow. -/
def ValueRest (t : Tree) (stack : List Frame) (bs : Raw) : Prop :=
  ∃ gap v value rest, Blank gap ∧ Spells v value ∧ bs = gap ++ (value ++ rest) ∧
    Closes t stack v rest

/-- A member is to follow. -/
def MemberRest (t : Tree) (stack : List Frame) (done : List (Raw × Tree)) (bs : Raw) : Prop :=
  ∃ gap key v value rest, Blank gap ∧ SpellsMember (key, v) value ∧ bs = gap ++ (value ++ rest) ∧
    Closes t (.object done key :: stack) v rest

/-- The colon behind a name is to follow. -/
def ColonRest (t : Tree) (stack : List Frame) (done : List (Raw × Tree)) (key bs : Raw) : Prop :=
  ∃ gap rest, Blank gap ∧ bs = gap ++ 0x3a :: rest ∧ ValueRest t (.object done key :: stack) rest

/-- How a string may go on from each of its parts, up to the closing quote. -/
def StringPart.Rest : StringPart → Raw → Prop
  | .plain, bs => Inside bs
  | .escape, bs => Inside (0x5c :: bs)
  | .hex left, bs => ∃ ds rest, ds.length = left + 1 ∧ (∀ d ∈ ds, (Text.Hex.value? d).isSome) ∧
      Inside rest ∧ bs = ds ++ rest

/-- What may follow a string, depending on what it is read for. -/
def StringUse.Rest (t : Tree) (stack : List Frame) (raw : Raw) : StringUse → Raw → Prop
  | .value, bs => Closes t stack (.string raw) bs
  | .key done, bs => ColonRest t stack done raw bs

/-- How a text may go on from each state, if the whole of it is to spell `t`. -/
def State.Rest (t : Tree) : State → Raw → Prop
  | ⟨stack, .value⟩, bs => ValueRest t stack bs
  | ⟨stack, .firstElement⟩, bs =>
    (∃ gap rest, Blank gap ∧ bs = gap ++ 0x5d :: rest ∧ Closes t stack (.array []) rest) ∨
      ValueRest t (.array [] :: stack) bs
  | ⟨stack, .afterElement done⟩, bs => ∃ ts more rest, SpellsElements ts more ∧ bs = more ++ rest ∧
      Closes t stack (.array (done.reverse ++ ts)) rest
  | ⟨stack, .firstMember⟩, bs =>
    (∃ gap rest, Blank gap ∧ bs = gap ++ 0x7d :: rest ∧ Closes t stack (.object []) rest) ∨
      MemberRest t stack [] bs
  | ⟨stack, .nextMember done⟩, bs => MemberRest t stack done bs
  | ⟨stack, .colon done key⟩, bs => ColonRest t stack done key bs
  | ⟨stack, .afterMember done⟩, bs => ∃ ms more rest, SpellsMembers ms more ∧ bs = more ++ rest ∧
      Closes t stack (.object (done.reverse ++ ms)) rest
  | ⟨stack, .literal left v⟩, bs => ∃ rest, left ≠ [] ∧
      bs = left.map (fun c => UInt8.ofNat c.toNat) ++ rest ∧ Closes t stack v rest
  | ⟨stack, .string use read part⟩, bs => ∃ more rest, part.Rest more ∧ bs = more ++ 0x22 :: rest ∧
      use.Rest t stack (read.reverse ++ more) rest
  | ⟨stack, .number read part⟩, bs => ∃ more rest, part.Rest more ∧ bs = more ++ rest ∧
      Closes t stack (.number (read.reverse ++ more)) rest
  | ⟨stack, .finished v⟩, bs => stack = [] ∧ v = t ∧ Blank bs

end Tree

variable {t : Tree} {stack : List Frame} {b : UInt8} {bs : Raw} {s s' : State}

theorem rest_settle (stack : List Frame) (v : Tree) (bs : Raw) :
    (settle stack v).Rest t bs ↔ Closes t stack v bs := by
  rcases stack with _ | ⟨(done | ⟨done, key⟩), stack⟩
  · simp [settle, State.Rest, Closes]
  · rfl
  · rfl

/-! ## White space -/

theorem blank_cons (hb : isSpace b) {gap : Raw} (h : Blank gap) : Blank (b :: gap) := by
  intro b' hb'
  rcases List.mem_cons.1 hb' with rfl | hmem
  · exact isSpace_iff.1 hb
  · exact h b' hmem

theorem valueRest_blank (hb : isSpace b) (h : ValueRest t stack bs) :
    ValueRest t stack (b :: bs) := by
  obtain ⟨gap, v, value, rest, hgap, hvalue, rfl, hrest⟩ := h
  exact ⟨b :: gap, v, value, rest, blank_cons hb hgap, hvalue, rfl, hrest⟩

theorem memberRest_blank {done : List (Raw × Tree)} (hb : isSpace b)
    (h : MemberRest t stack done bs) : MemberRest t stack done (b :: bs) := by
  obtain ⟨gap, key, v, value, rest, hgap, hvalue, rfl, hrest⟩ := h
  exact ⟨b :: gap, key, v, value, rest, blank_cons hb hgap, hvalue, rfl, hrest⟩

theorem elements_blank {ts : List Tree} (hb : isSpace b) (h : SpellsElements ts bs) :
    SpellsElements ts (b :: bs) := by
  cases h with
  | close hgap => exact .close (blank_cons hb hgap)
  | more hgap hgap' hnext hmore => exact .more (blank_cons hb hgap) hgap' hnext hmore

theorem members_blank {ms : List (Raw × Tree)} (hb : isSpace b) (h : SpellsMembers ms bs) :
    SpellsMembers ms (b :: bs) := by
  cases h with
  | close hgap => exact .close (blank_cons hb hgap)
  | more hgap hgap' hnext hmore => exact .more (blank_cons hb hgap) hgap' hnext hmore

/-- White space may be put in wherever it is passed over. -/
theorem rest_blank {mode : Mode} (hb : isSpace b) (hmode : mode.isBetween)
    (h : State.Rest t ⟨stack, mode⟩ bs) : State.Rest t ⟨stack, mode⟩ (b :: bs) := by
  cases mode with
  | value => exact valueRest_blank hb h
  | firstElement =>
    rcases h with ⟨gap, rest, hgap, rfl, hrest⟩ | h
    · exact .inl ⟨b :: gap, rest, blank_cons hb hgap, rfl, hrest⟩
    · exact .inr (valueRest_blank hb h)
  | afterElement done =>
    obtain ⟨ts, more, rest, hmore, rfl, hrest⟩ := h
    exact ⟨ts, b :: more, rest, elements_blank hb hmore, rfl, hrest⟩
  | firstMember =>
    rcases h with ⟨gap, rest, hgap, rfl, hrest⟩ | h
    · exact .inl ⟨b :: gap, rest, blank_cons hb hgap, rfl, hrest⟩
    · exact .inr (memberRest_blank hb h)
  | nextMember done => exact memberRest_blank hb h
  | colon done key =>
    obtain ⟨gap, rest, hgap, rfl, hrest⟩ := h
    exact ⟨b :: gap, rest, blank_cons hb hgap, rfl, hrest⟩
  | afterMember done =>
    obtain ⟨ms, more, rest, hmore, rfl, hrest⟩ := h
    exact ⟨ms, b :: more, rest, members_blank hb hmore, rfl, hrest⟩
  | finished v => exact ⟨h.1, h.2.1, blank_cons hb h.2.2⟩
  | literal | string | number => cases hmode

/-! ## Values -/

/-- The first byte of a number. -/
theorem valueRest_number {part : NumberPart}
    (hnumber : ∀ more, part.Rest more → Number (b :: more))
    (hrest : State.Rest t ⟨stack, .number [b] part⟩ bs) : ValueRest t stack (b :: bs) := by
  obtain ⟨more, rest, hmore, rfl, hclose⟩ := hrest
  exact ⟨[], _, _, rest, blank_nil, .number (hnumber more hmore), rfl, hclose⟩

/-- The first byte of a name that stands for a value. -/
theorem valueRest_literal {left : List Char} {v : Tree}
    (hvalue : Spells v (b :: left.map fun c => UInt8.ofNat c.toNat))
    (hrest : State.Rest t ⟨stack, .literal left v⟩ bs) : ValueRest t stack (b :: bs) := by
  obtain ⟨rest, -, rfl, hclose⟩ := hrest
  exact ⟨[], v, _, rest, blank_nil, hvalue, rfl, hclose⟩

/-- The first byte of a value may stand before what may follow it. -/
theorem rest_of_beginValue (h : beginValue stack b = some s') (hrest : s'.Rest t bs) :
    ValueRest t stack (b :: bs) := by
  unfold beginValue at h
  split at h
  case h_1 hchar =>
    obtain rfl := eq_of_ofUInt8 hchar
    cases h
    obtain ⟨more, rest, hmore, rfl, hclose⟩ := hrest
    exact ⟨[], _, _, rest, blank_nil, .string hmore, by simp, hclose⟩
  case h_2 hchar =>
    obtain rfl := eq_of_ofUInt8 hchar
    cases h
    rcases hrest with ⟨gap, rest, hgap, rfl, hclose⟩ |
      ⟨gap, v, value, rest, hgap, hvalue, rfl, hclose⟩
    · exact ⟨[], _, _, rest, blank_nil, .emptyArray hgap, by simp, hclose⟩
    · obtain ⟨ts, more, rest, hmore, rfl, hclose⟩ := hclose
      exact ⟨[], _, _, rest, blank_nil, .array hgap hvalue hmore, by simp, hclose⟩
  case h_3 hchar =>
    obtain rfl := eq_of_ofUInt8 hchar
    cases h
    rcases hrest with ⟨gap, rest, hgap, rfl, hclose⟩ |
      ⟨gap, key, v, value, rest, hgap, hvalue, rfl, hclose⟩
    · exact ⟨[], _, _, rest, blank_nil, .emptyObject hgap, by simp, hclose⟩
    · obtain ⟨ms, more, rest, hmore, rfl, hclose⟩ := hclose
      exact ⟨[], _, _, rest, blank_nil, .object hgap hvalue hmore, by simp, hclose⟩
  case h_4 hchar =>
    obtain rfl := eq_of_ofUInt8 hchar
    cases h
    exact valueRest_literal .null hrest
  case h_5 hchar =>
    obtain rfl := eq_of_ofUInt8 hchar
    cases h
    exact valueRest_literal .true hrest
  case h_6 hchar =>
    obtain rfl := eq_of_ofUInt8 hchar
    cases h
    exact valueRest_literal .false hrest
  case h_7 hchar =>
    obtain rfl := eq_of_ofUInt8 hchar
    cases h
    refine valueRest_number (fun more hmore => NumberPart.number_iff.2 (.inr ?_)) hrest
    exact ⟨more, rfl, hmore⟩
  case h_8 hchar =>
    obtain rfl := eq_of_ofUInt8 hchar
    cases h
    refine valueRest_number (fun more hmore => NumberPart.number_iff.2 (.inl ?_)) hrest
    exact NumberPart.rest_minus.2 (.inl ⟨rfl, hmore⟩)
  case h_9 hzero =>
    split at h
    case isTrue hb =>
      cases h
      refine valueRest_number (fun more hmore => NumberPart.number_iff.2 (.inl ?_)) hrest
      refine NumberPart.rest_minus.2 (.inr ⟨⟨?_, hb⟩, hmore⟩)
      rintro rfl
      exact hzero rfl
    case isFalse => cases h

/-! ## Tokens -/

/-- The quote before a name may stand where a member is to follow. -/
theorem memberRest_of_quote {done : List (Raw × Tree)}
    (hrest : State.Rest t ⟨stack, .string (.key done) [] .plain⟩ bs) :
    MemberRest t stack done (0x22 :: bs) := by
  obtain ⟨key, rest, hkey, rfl, gap, rest, hgap, rfl, gap', v, value, rest, hgap', hvalue, rfl,
    hclose⟩ := hrest
  exact ⟨[], key, v, _, rest, blank_nil, .mk hkey hgap hgap' hvalue, by simp, hclose⟩

/-- A byte between two tokens may stand before what may follow it. -/
theorem rest_of_stepBetween {mode : Mode} (h : stepBetween stack mode b = some s')
    (hrest : s'.Rest t bs) : State.Rest t ⟨stack, mode⟩ (b :: bs) := by
  unfold stepBetween at h
  split at h
  case h_1 => exact rest_of_beginValue h hrest
  case h_2 hchar =>
    obtain rfl := eq_of_ofUInt8 hchar
    cases h
    exact .inl ⟨[], bs, blank_nil, rfl, (rest_settle _ _ _).1 hrest⟩
  case h_3 => exact .inr (rest_of_beginValue h hrest)
  case h_4 done hchar =>
    obtain rfl := eq_of_ofUInt8 hchar
    cases h
    obtain ⟨gap, v, value, rest, hgap, hvalue, rfl, ts, more, rest, hmore, rfl, hclose⟩ := hrest
    refine ⟨v :: ts, _, rest, .more blank_nil hgap hvalue hmore, by simp, ?_⟩
    simpa using hclose
  case h_5 done hchar =>
    obtain rfl := eq_of_ofUInt8 hchar
    cases h
    refine ⟨[], _, bs, .close blank_nil, rfl, ?_⟩
    simpa using (rest_settle _ _ _).1 hrest
  case h_6 hchar =>
    obtain rfl := eq_of_ofUInt8 hchar
    cases h
    exact .inr (memberRest_of_quote hrest)
  case h_7 hchar =>
    obtain rfl := eq_of_ofUInt8 hchar
    cases h
    exact .inl ⟨[], bs, blank_nil, rfl, (rest_settle _ _ _).1 hrest⟩
  case h_8 done hchar =>
    obtain rfl := eq_of_ofUInt8 hchar
    cases h
    exact memberRest_of_quote hrest
  case h_9 done key hchar =>
    obtain rfl := eq_of_ofUInt8 hchar
    cases h
    exact ⟨[], bs, blank_nil, rfl, hrest⟩
  case h_10 done hchar =>
    obtain rfl := eq_of_ofUInt8 hchar
    cases h
    obtain ⟨gap, key, v, value, rest, hgap, hvalue, rfl, ms, more, rest, hmore, rfl, hclose⟩ :=
      hrest
    refine ⟨(key, v) :: ms, _, rest, .more blank_nil hgap hvalue hmore, by simp, ?_⟩
    simpa using hclose
  case h_11 done hchar =>
    obtain rfl := eq_of_ofUInt8 hchar
    cases h
    refine ⟨[], _, bs, .close blank_nil, rfl, ?_⟩
    simpa using (rest_settle _ _ _).1 hrest
  case h_12 => cases h

theorem rest_of_stepToken {mode : Mode} (hmode : mode.isBetween)
    (h : stepToken stack mode b = some s') (hrest : s'.Rest t bs) :
    State.Rest t ⟨stack, mode⟩ (b :: bs) := by
  unfold stepToken at h
  split at h
  case isTrue hspace =>
    cases h
    exact rest_blank hspace hmode hrest
  case isFalse => exact rest_of_stepBetween h hrest

/-- Four hexadecimal digits spell a code unit. -/
theorem inside_of_hex {ds rest : Raw} (hlength : ds.length = 4)
    (hds : ∀ d ∈ ds, (Text.Hex.value? d).isSome) (hrest : Inside rest) :
    Inside (0x5c :: 0x75 :: (ds ++ rest)) := by
  match ds, hlength with
  | [a, b, c, d], _ =>
    have hunit : (codeUnit? a b c d).isSome := by
      simp only [codeUnit?]
      obtain ⟨a', ha⟩ := Option.isSome_iff_exists.1 (hds a (by simp))
      obtain ⟨b', hb⟩ := Option.isSome_iff_exists.1 (hds b (by simp))
      obtain ⟨c', hc⟩ := Option.isSome_iff_exists.1 (hds c (by simp))
      obtain ⟨d', hd⟩ := Option.isSome_iff_exists.1 (hds d (by simp))
      simp [ha, hb, hc, hd]
    obtain ⟨unit, hunit⟩ := Option.isSome_iff_exists.1 hunit
    exact .unit hunit hrest

/-- A byte of a string may stand before what may follow it. -/
theorem rest_of_stepString {use : StringUse} {read : Raw} {part : StringPart}
    (h : stepString stack use read part b = some s') (hrest : s'.Rest t bs) :
    State.Rest t ⟨stack, .string use read part⟩ (b :: bs) := by
  cases part with
  | plain =>
    simp only [stepString] at h
    split at h
    case isTrue hquote =>
      obtain rfl := eq_of_beq hquote
      cases h
      refine ⟨[], bs, .nil, rfl, ?_⟩
      rw [List.append_nil]
      cases use with
      | value => exact (rest_settle _ _ _).1 hrest
      | key done => exact hrest
    case isFalse hquote =>
      split at h
      case isTrue hslash =>
        obtain rfl := eq_of_beq hslash
        cases h
        obtain ⟨more, rest, hmore, rfl, huse⟩ := hrest
        refine ⟨0x5c :: more, rest, hmore, rfl, ?_⟩
        simpa using huse
      case isFalse hslash =>
        split at h
        case isTrue => cases h
        case isFalse hcontrol =>
          cases h
          obtain ⟨more, rest, hmore, rfl, huse⟩ := hrest
          refine ⟨b :: more, rest, .plain ⟨?_, ?_, hcontrol⟩ hmore, rfl, ?_⟩
          · simpa using hquote
          · simpa using hslash
          · simpa using huse
  | escape =>
    -- All letters but `u` end the escape.
    have hletter (he : b ∈ letters.map Prod.fst)
        (hrest : State.Rest t ⟨stack, .string use (b :: read) .plain⟩ bs) :
        State.Rest t ⟨stack, .string use read .escape⟩ (b :: bs) := by
      obtain ⟨⟨_, c⟩, hmem, rfl⟩ := List.mem_map.1 he
      obtain ⟨more, rest, hmore, rfl, huse⟩ := hrest
      refine ⟨_ :: more, rest, .letter hmem hmore, rfl, ?_⟩
      simpa using huse
    simp only [stepString] at h
    split at h
    case h_9 hchar =>
      obtain rfl := eq_of_ofUInt8 hchar
      cases h
      obtain ⟨more, rest, ⟨ds, inside, hlength, hds, hinside, rfl⟩, rfl, huse⟩ := hrest
      refine ⟨0x75 :: (ds ++ inside), rest, inside_of_hex hlength hds hinside, rfl, ?_⟩
      simpa using huse
    case h_10 => cases h
    all_goals
      rename_i hchar
      obtain rfl := eq_of_ofUInt8 hchar
      cases h
      exact hletter (by decide) hrest
  | hex left =>
    -- The digits that are still to come are counted, so that there are four in the end.
    simp only [stepString] at h
    split at h
    case isFalse => cases h
    case isTrue hb =>
      cases left with
      | zero =>
        cases h
        obtain ⟨more, rest, hmore, rfl, huse⟩ := hrest
        refine ⟨b :: more, rest, ⟨[b], more, rfl, by simpa using hb, hmore, rfl⟩, rfl, ?_⟩
        simpa using huse
      | succ left =>
        cases h
        obtain ⟨more, rest, ⟨ds, inside, hlength, hds, hinside, rfl⟩, rfl, huse⟩ := hrest
        refine ⟨b :: (ds ++ inside), rest, ⟨b :: ds, inside, ?_, ?_, hinside, rfl⟩, rfl, ?_⟩
        · rw [List.length_cons, hlength]
        · simpa [hb] using hds
        · simpa using huse

/-- A byte of a name that stands for a value may stand before what may follow it. -/
theorem rest_of_stepLiteral {left : List Char} {v : Tree}
    (h : step ⟨stack, .literal left v⟩ b = some s') (hrest : s'.Rest t bs) :
    State.Rest t ⟨stack, .literal left v⟩ (b :: bs) := by
  cases left with
  | nil => cases h
  | cons c left =>
    simp only [step] at h
    split at h
    case isFalse => cases h
    case isTrue hchar =>
      obtain rfl := eq_of_ofUInt8 hchar
      -- After the last letter the value is complete.
      cases left with
      | nil =>
        cases h
        exact ⟨bs, List.cons_ne_nil _ _, rfl, (rest_settle _ _ _).1 hrest⟩
      | cons c' left =>
        cases h
        obtain ⟨rest, -, rfl, hclose⟩ := hrest
        exact ⟨rest, List.cons_ne_nil _ _, rfl, hclose⟩

/-- A byte of a number, or the first byte behind it, may stand before what may follow it. -/
theorem rest_of_stepNumber {read : Raw} {part : NumberPart}
    (h : step ⟨stack, .number read part⟩ b = some s') (hrest : s'.Rest t bs) :
    State.Rest t ⟨stack, .number read part⟩ (b :: bs) := by
  simp only [step] at h
  split at h
  case h_1 part' hnext =>
    cases h
    obtain ⟨more, rest, hmore, rfl, hclose⟩ := hrest
    refine ⟨b :: more, rest, NumberPart.rest_cons.2 ⟨part', hnext, hmore⟩, rfl, ?_⟩
    simpa using hclose
  case h_2 =>
    split at h
    case isFalse => cases h
    case isTrue hcomplete =>
      -- The byte is no part of the number: it is read in the state in which the number is complete.
      have hafter := rest_of_stepToken (isBetween_settle _ _) h hrest
      refine ⟨[], b :: bs, NumberPart.rest_nil.2 hcomplete, rfl, ?_⟩
      rw [List.append_nil]
      exact (rest_settle _ _ _).1 hafter

/-! ## The whole text -/

/-- Whatever byte the automaton takes may stand before what may follow it. -/
theorem rest_of_step (h : step s b = some s') (hrest : s'.Rest t bs) : s.Rest t (b :: bs) := by
  obtain ⟨stack, mode⟩ := s
  cases mode with
  | literal left v => exact rest_of_stepLiteral h hrest
  | string use read part => exact rest_of_stepString h hrest
  | number read part => exact rest_of_stepNumber h hrest
  | _ => exact rest_of_stepToken rfl h hrest

/-- Where the text may end, nothing need follow. -/
theorem rest_of_finish? (h : finish? s = some t) : s.Rest t [] := by
  unfold finish? at h
  split at h
  case h_1 v hstack hmode =>
    obtain ⟨stack, mode⟩ := s
    subst hstack hmode
    exact ⟨rfl, Option.some.inj h, blank_nil⟩
  case h_2 read part hstack hmode =>
    obtain ⟨stack, mode⟩ := s
    subst hstack hmode
    split at h
    case isFalse => cases h
    case isTrue hcomplete =>
      refine ⟨[], [], NumberPart.rest_nil.2 hcomplete, rfl, ?_, blank_nil⟩
      rw [List.append_nil]
      exact Option.some.inj h
  case h_3 => cases h

/-- What is read to the end had the right rest in every state on the way. -/
theorem rest_of_accept (h : accept s bs = some t) : s.Rest t bs := by
  induction bs generalizing s with
  | nil => exact rest_of_finish? h
  | cons b bs ih =>
    rw [accept_cons, Option.bind_eq_some_iff] at h
    obtain ⟨s', hstep, h⟩ := h
    exact rest_of_step hstep (ih h)

theorem document_of_parse? (h : parse? bs = some t) : Document t bs := by
  obtain ⟨gap, v, value, rest, hgap, hvalue, rfl, rfl, hrest⟩ :=
    (rest_of_accept h : start.Rest t bs)
  rw [← List.append_assoc]
  exact .mk hgap hvalue hrest

/-- The automaton reads just the documents of the grammar. -/
theorem parse?_eq_some_iff : parse? bs = some t ↔ Document t bs :=
  ⟨document_of_parse?, parse?_of_document⟩

end MailCode.Json
