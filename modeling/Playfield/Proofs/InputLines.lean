import Playfield.Batch
import Playfield.Proofs.Lines

/-!
The lines of an input that is text. The input is cut into lines as bytes, and each line is
decoded by itself. The byte of a line feed occurs in no other character, so this is the same
as cutting the text into lines.
-/

namespace Playfield.Batch

/-- The replies that a text holds: its lines, without any line feeds and carriage returns at
their ends. -/
def replies (text : String) : List String :=
  (Lines.terminated text.toList).map fun line => stripEnding (String.ofList line)

/-! Bytes of a text. -/

theorem bytes_loop (bytes : ByteArray) (place : Nat) (passed : List UInt8) :
    ByteArray.toList.loop bytes place passed = passed.reverse ++ bytes.data.toList.drop place := by
  fun_induction ByteArray.toList.loop bytes place passed with
  | case1 place passed inside ih =>
      have alsoInside : place < bytes.data.toList.length := inside
      have read : bytes.get! place = bytes.data.toList[place] := by
        cases bytes
        exact getElem!_pos _ place inside
      rw [ih, List.drop_eq_getElem_cons alsoInside, read, List.reverse_cons, List.append_assoc]
      rfl
  | case2 place passed outside =>
      rw [List.drop_eq_nil_of_le (Nat.le_of_not_lt outside), List.append_nil]

theorem toList_toUTF8 (text : String) :
    text.toUTF8.toList = text.toList.flatMap String.utf8EncodeChar := by
  have encoded : text.toUTF8 = text.toList.utf8Encode := by
    rw [String.toUTF8_eq_toByteArray, ← String.toByteArray_ofList, String.ofList_toList]
  rw [encoded, ByteArray.toList, bytes_loop, List.drop_zero, List.reverse_nil, List.nil_append,
    List.utf8Encode, List.toList_data_toByteArray]

theorem fromUTF8?_flatMap (characters : List Char) :
    String.fromUTF8? ⟨(characters.flatMap String.utf8EncodeChar).toArray⟩ =
      some (String.ofList characters) := by
  have encoded : (⟨(characters.flatMap String.utf8EncodeChar).toArray⟩ : ByteArray) =
      characters.utf8Encode := by
    apply ByteArray.ext
    rw [List.utf8Encode, List.data_toByteArray]
  rw [encoded, String.fromUTF8?, dif_pos ByteArray.isValidUTF8_utf8Encode]
  rfl

-- A byte is the character itself or, as part of a longer encoding, no ASCII character.
theorem byte_of_mem_utf8EncodeChar {character : Char} {byte : UInt8}
    (member : byte ∈ String.utf8EncodeChar character) :
    byte.toNat = character.toNat ∨ 128 ≤ byte.toNat := by
  have code : character.val.toNat = character.toNat := rfl
  simp only [String.utf8EncodeChar, code] at member
  split at member
  · rw [List.mem_singleton.mp member, UInt8.toNat_ofNat']
    omega
  · right
    split at member
    · simp only [List.mem_cons, List.not_mem_nil, or_false] at member
      rcases member with rfl | rfl <;> rw [UInt8.toNat_ofNat'] <;> omega
    · split at member
      · simp only [List.mem_cons, List.not_mem_nil, or_false] at member
        rcases member with rfl | rfl | rfl <;> rw [UInt8.toNat_ofNat'] <;> omega
      · simp only [List.mem_cons, List.not_mem_nil, or_false] at member
        rcases member with rfl | rfl | rfl | rfl <;> rw [UInt8.toNat_ofNat'] <;> omega

theorem split_toUTF8 (text : String) :
    Lines.split (10 : UInt8) text.toUTF8.toList =
      (Lines.split '\n' text.toList).map fun piece => piece.flatMap String.utf8EncodeChar := by
  rw [toList_toUTF8]
  apply Lines.split_flatMap String.utf8EncodeChar rfl
  intro character member
  rcases byte_of_mem_utf8EncodeChar member with same | large
  · exact Char.toNat_inj.mp same.symm
  · simp at large

/-! Lines of a text. -/

theorem textLines_flatMap (pieces : List (List Char)) :
    textLines (pieces.map fun piece => piece.flatMap String.utf8EncodeChar) =
      pieces.map fun piece => stripEnding (String.ofList piece) := by
  induction pieces with
  | nil => rfl
  | cons piece rest ih => simp only [List.map_cons, textLines, fromUTF8?_flatMap, ih]

theorem stripEnding_stripFinal (piece : List Char) :
    stripEnding (String.ofList (Lines.stripFinal '\r' piece)) =
      stripEnding (String.ofList piece) := by
  by_cases last : piece.getLast? = some '\r'
  · obtain ⟨before, rfl⟩ := List.getLast?_eq_some_iff.mp last
    rw [Lines.stripFinal, if_pos last, List.dropLast_concat]
    simp [stripEnding]
  · rw [Lines.stripFinal_of_ne last]

theorem inputLines_toUTF8 (text : String) : inputLines text.toUTF8 = replies text := by
  have stripped : ∀ pieces : List (List Char),
      (pieces.map (Lines.stripFinal '\r')).map (fun line => stripEnding (String.ofList line)) =
        pieces.map fun line => stripEnding (String.ofList line) := by
    intro pieces
    rw [List.map_map]
    exact List.map_congr_left fun piece _ => stripEnding_stripFinal piece
  simp only [inputLines, split_toUTF8, replies, Lines.terminated]
  rcases (Lines.split '\n' text.toList).eq_nil_or_concat with none | ⟨before, last, pieces⟩
  · exact absurd none (Lines.split_ne_nil '\n' text.toList)
  · -- The last piece is a line if it holds anything, and an encoding is empty only for nothing.
    rw [List.concat_eq_append] at pieces
    simp only [pieces, List.map_append, List.map_singleton, List.getLast?_concat,
      List.dropLast_concat, Option.some.injEq]
    cases last with
    | nil => rw [List.flatMap_nil, if_pos rfl, textLines_flatMap, stripped]
    | cons first rest =>
        have filled : (first :: rest).flatMap String.utf8EncodeChar ≠ [] := by
          simp
        have decoded := textLines_flatMap (before ++ [first :: rest])
        rw [List.map_append, List.map_append, List.map_singleton, List.map_singleton] at decoded
        rw [if_neg filled, decoded, List.map_append, stripped, List.map_singleton]

end Playfield.Batch
