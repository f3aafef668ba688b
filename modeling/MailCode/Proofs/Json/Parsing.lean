import MailCode.Proofs.Json.Acceptance
import MailCode.Proofs.Json.Numbers
/-!
# A document that is written is read back

What is read of a document that was written is its shape (`Json.toTree`): the same tree, with names,
strings and numbers as the bytes they are written in. What is written of it is one of the ways of
spelling that shape, the one without white space (`spells_render`), and so the automaton reads it
(`parse?_compress`).
-/

namespace MailCode.Json

/-! ## The shape of a document -/

mutual

/-- The shape of a document. -/
def toTree : Json → Tree
  | .null => .null
  | .bool b => .bool b
  | .number n => .number (written n)
  | .text s => .string (escaped s)
  | .array elements => .array (toTrees elements)
  | .object members => .object (toMembers members)

/-- The shapes of the elements of an array. -/
def toTrees : List Json → List Tree
  | [] => []
  | x :: xs => toTree x :: toTrees xs

/-- The names of the members of an object, and the shapes of what they hold. -/
def toMembers : List (String × Json) → List (Raw × Tree)
  | [] => []
  | (k, x) :: xs => (escaped k, toTree x) :: toMembers xs

end

/-- The bytes of some characters. -/
def bytes (cs : List Char) : Raw :=
  cs.flatMap String.utf8EncodeChar

theorem bytes_cons (c : Char) (cs : List Char) :
    bytes (c :: cs) = String.utf8EncodeChar c ++ bytes cs :=
  List.flatMap_cons

theorem bytes_append (cs ds : List Char) : bytes (cs ++ ds) = bytes cs ++ bytes ds :=
  List.flatMap_append

theorem bytes_renderText (s : String) : bytes (renderText s) = 0x22 :: (escaped s ++ [0x22]) := by
  rw [renderText, List.cons_append, bytes_cons, bytes_append]
  rfl

/-! ## What is written spells it -/

mutual

/-- What is written of a document spells its shape. -/
theorem spells_render (j : Json) : Spells j.toTree (bytes j.render) := by
  match j with
  | .null =>
    rw [render, toTree]
    exact .null
  | .bool true =>
    rw [render, toTree]
    exact .true
  | .bool false =>
    rw [render, toTree]
    exact .false
  | .number n =>
    rw [render, toTree]
    exact .number (number_written n)
  | .text s =>
    rw [render, toTree, bytes_renderText]
    exact .string (inside_escaped s)
  | .array [] =>
    rw [render, toTree, toTrees]
    exact .emptyArray blank_nil
  | .array (x :: xs) =>
    have hbytes : bytes (Json.array (x :: xs)).render =
        0x5b :: ([] ++ bytes x.render ++ (bytes (renderElements xs) ++ [0x5d])) := by
      rw [render]
      simp only [List.append_assoc, List.cons_append, bytes_cons, bytes_append]
      rfl
    rw [hbytes, toTree, toTrees]
    exact .array blank_nil (spells_render x) (spells_renderElements xs)
  | .object [] =>
    rw [render, toTree, toMembers]
    exact .emptyObject blank_nil
  | .object ((k, x) :: xs) =>
    have hbytes : bytes (Json.object ((k, x) :: xs)).render =
        0x7b :: ([] ++ 0x22 :: (escaped k ++ 0x22 :: ([] ++ 0x3a :: ([] ++ bytes x.render))) ++
          (bytes (renderMembers xs) ++ [0x7d])) := by
      rw [render]
      simp only [List.append_assoc, List.cons_append, bytes_cons, bytes_append, bytes_renderText]
      rfl
    rw [hbytes, toTree, toMembers]
    exact .object blank_nil (spellsMember_render k x) (spells_renderMembers xs)

theorem spells_renderElements (xs : List Json) :
    SpellsElements (toTrees xs) (bytes (renderElements xs) ++ [0x5d]) := by
  match xs with
  | [] =>
    rw [toTrees, renderElements]
    exact .close blank_nil
  | x :: xs =>
    have hbytes : bytes (renderElements (x :: xs)) ++ [0x5d] =
        [] ++ 0x2c :: ([] ++ bytes x.render ++ (bytes (renderElements xs) ++ [0x5d])) := by
      rw [renderElements]
      simp only [List.append_assoc, List.cons_append, bytes_cons, bytes_append]
      rfl
    rw [hbytes, toTrees]
    exact .more blank_nil blank_nil (spells_render x) (spells_renderElements xs)

theorem spellsMember_render (k : String) (x : Json) :
    SpellsMember (escaped k, x.toTree)
      (0x22 :: (escaped k ++ 0x22 :: ([] ++ 0x3a :: ([] ++ bytes x.render)))) :=
  .mk (inside_escaped k) blank_nil blank_nil (spells_render x)

theorem spells_renderMembers (xs : List (String × Json)) :
    SpellsMembers (toMembers xs) (bytes (renderMembers xs) ++ [0x7d]) := by
  match xs with
  | [] =>
    rw [toMembers, renderMembers]
    exact .close blank_nil
  | (k, x) :: xs =>
    have hbytes : bytes (renderMembers ((k, x) :: xs)) ++ [0x7d] =
        [] ++ 0x2c :: ([] ++
          0x22 :: (escaped k ++ 0x22 :: ([] ++ 0x3a :: ([] ++ bytes x.render))) ++
          (bytes (renderMembers xs) ++ [0x7d])) := by
      rw [renderMembers]
      simp only [List.append_assoc, List.cons_append, bytes_cons, bytes_append, bytes_renderText]
      rfl
    rw [hbytes, toMembers]
    exact .more blank_nil blank_nil (spellsMember_render k x) (spells_renderMembers xs)

end

/-- A document that is written is read back as its shape. -/
theorem parse?_compress (j : Json) : Tree.parse? j.compress.toUTF8.toList = some j.toTree := by
  have hbytes : j.compress.toUTF8.toList = [] ++ bytes j.render ++ [] := by
    rw [Text.utf8_eq, compress, String.toList_ofList, List.append_nil, bytes]
    rfl
  rw [hbytes]
  exact parse?_of_document (.mk blank_nil (spells_render j) blank_nil)

end MailCode.Json
