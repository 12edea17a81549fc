import Tablewright.Text.Utf8

/-!
# Encoded texts and their bytes

Encoding is one-to-one: a text can be told from another one by its bytes, and decoding them gives the
text back.
-/

namespace Tablewright.Text

/-- Listing the bytes from an index on adds them to those that are listed. -/
private theorem toList_loop
    (bytes : ByteArray)
    (index : Nat)
    (listed : List UInt8) :
    ByteArray.toList.loop bytes index listed =
      listed.reverse ++ bytes.data.toList.drop index := by
  fun_induction ByteArray.toList.loop bytes index listed with
  | case1 index listed inside inductionHypothesis =>
      have insideList : index < bytes.data.toList.length := inside
      have byte : bytes.get! index = bytes.data.toList[index] := by
        rw [ByteArray.get!, getElem!_pos bytes.data index inside, Array.getElem_toList]
      rw [inductionHypothesis, List.drop_eq_getElem_cons insideList, byte]
      simp
  | case2 index listed outside =>
      have outsideList : bytes.data.toList.length ≤ index := Nat.le_of_not_lt outside
      rw [List.drop_eq_nil_of_le outsideList, List.append_nil]

/-- The bytes of a text are those of its representation. -/
theorem encode_eq
    (text : String) :
    encode text = text.toByteArray.data.toList := by
  unfold encode ByteArray.toList
  rw [toList_loop]
  rfl

/-- The bytes of a text are those of its characters. -/
theorem encode_eq_flatMap
    (text : String) :
    encode text = text.toList.flatMap String.utf8EncodeChar := by
  rw [encode_eq, ← String.ofList_toList (s := text), String.toByteArray_ofList,
    List.utf8Encode, List.data_toByteArray]
  simp

/-! The bytes of a character are decoded one by one: the first announces what is to come, and each
of the others adds six bits. -/

/-- The first byte of a character of two bytes. -/
private theorem ofByte?_two :
    ∀ high < 0x20, 2 ≤ high → Lead.ofByte? (high + 0xC0) = some ⟨1, high, 0x80, 0xBF⟩ := by
  decide

/-- The first byte of a character of three bytes. What comes next is bounded, so that nothing that
fits into two bytes and no surrogate is encoded so. -/
private theorem ofByte?_three :
    ∀ high < 0x10,
      Lead.ofByte? (high + 0xE0) =
        some ⟨2, high, if high = 0 then 0xA0 else 0x80, if high = 0xD then 0x9F else 0xBF⟩ := by
  decide

/-- The first byte of a character of four bytes. -/
private theorem ofByte?_four :
    ∀ high < 5,
      Lead.ofByte? (high + 0xF0) =
        some ⟨3, high, if high = 0 then 0x90 else 0x80, if high = 4 then 0x8F else 0xBF⟩ := by
  decide

section Steps

variable {position : Nat}
variable {byte : UInt8}
variable {rest : List UInt8}

private theorem decodeFrom_first
    {owed high least greatest : Nat}
    (announces : Lead.ofByte? byte.toNat = some ⟨owed + 1, high, least, greatest⟩) :
    decodeFrom position none (byte :: rest) =
      decodeFrom (position + 1)
        (some ⟨byte, position, 1, owed + 1, high, least, greatest⟩) rest := by
  simp only [decodeFrom, announces]

private theorem decodeFrom_next
    {character : Partial}
    (inside : character.least ≤ byte.toNat ∧ byte.toNat ≤ character.greatest)
    (owes : 1 < character.owed) :
    decodeFrom position (some character) (byte :: rest) =
      decodeFrom (position + 1)
        (some ⟨character.lead, character.position, character.seen + 1, character.owed - 1,
          character.code * 64 + (byte.toNat - 0x80), 0x80, 0xBF⟩) rest := by
  simp only [decodeFrom, if_pos inside, if_neg (Nat.not_le.mpr owes)]

private theorem decodeFrom_last
    {character : Partial}
    (inside : character.least ≤ byte.toNat ∧ byte.toNat ≤ character.greatest)
    (owes : character.owed = 1) :
    decodeFrom position (some character) (byte :: rest) =
      (decodeFrom (position + 1) none rest).map
        (Char.ofNat (character.code * 64 + (byte.toNat - 0x80)) :: ·) := by
  simp only [decodeFrom, if_pos inside, if_pos (Nat.le_of_eq owes)]

end Steps

private theorem toNat_ofNat
    {n : Nat}
    (small : n < 0x100) :
    (UInt8.ofNat n).toNat = n := by
  simp [Nat.mod_eq_of_lt small]

/-- The bytes of a character are decoded to the character. -/
theorem decodeFrom_utf8EncodeChar
    (position : Nat)
    (c : Char)
    (rest : List UInt8) :
    decodeFrom position none (String.utf8EncodeChar c ++ rest) =
      (decodeFrom (position + (String.utf8EncodeChar c).length) none rest).map (c :: ·) := by
  have valid : c.toNat < 0xD800 ∨ (0xDFFF < c.toNat ∧ c.toNat < 0x110000) := c.valid
  have again : Char.ofNat c.toNat = c := Char.ofNat_toNat c
  unfold String.utf8EncodeChar
  rw [show c.val.toNat = c.toNat from rfl]
  dsimp only
  generalize c.toNat = code at valid again
  split
  · next small =>
      have byte : (UInt8.ofNat code).toNat = code := toNat_ofNat (by omega)
      have announces : Lead.ofByte? (UInt8.ofNat code).toNat = some ⟨0, code, 0, 0⟩ := by
        rw [byte, Lead.ofByte?, if_pos (by omega)]
      simp only [List.singleton_append, decodeFrom, announces, again, List.length_singleton]
  split
  · next two =>
      have first := toNat_ofNat (n := code / 64 % 0x20 + 0xC0) (by omega)
      have last := toNat_ofNat (n := code % 0x40 + 0x80) (by omega)
      have announces := ofByte?_two (code / 64 % 0x20) (by omega) (by omega)
      rw [← first] at announces
      simp only [List.cons_append, List.nil_append, List.length_cons, List.length_nil]
      rw [decodeFrom_first announces, decodeFrom_last (by rw [last]; dsimp only; omega) rfl, last]
      have whole : code / 64 % 0x20 * 64 + (code % 0x40 + 0x80 - 0x80) = code := by omega
      rw [whole, again]
  split
  · next three =>
      have first := toNat_ofNat (n := code / 4096 % 0x10 + 0xE0) (by omega)
      have second := toNat_ofNat (n := code / 64 % 0x40 + 0x80) (by omega)
      have last := toNat_ofNat (n := code % 0x40 + 0x80) (by omega)
      have announces := ofByte?_three (code / 4096 % 0x10) (by omega)
      rw [← first] at announces
      simp only [List.cons_append, List.nil_append, List.length_cons, List.length_nil]
      rw [decodeFrom_first announces,
        decodeFrom_next (by rw [second]; dsimp only; split <;> split <;> omega) (by dsimp only; omega),
        decodeFrom_last (by rw [last]; dsimp only; omega) rfl, second, last]
      have whole :
          (code / 4096 % 0x10 * 64 + (code / 64 % 0x40 + 0x80 - 0x80)) * 64 +
            (code % 0x40 + 0x80 - 0x80) = code := by
        omega
      rw [whole, again]
  · next four =>
      have first := toNat_ofNat (n := code / 262144 % 0x08 + 0xF0) (by omega)
      have second := toNat_ofNat (n := code / 4096 % 0x40 + 0x80) (by omega)
      have third := toNat_ofNat (n := code / 64 % 0x40 + 0x80) (by omega)
      have last := toNat_ofNat (n := code % 0x40 + 0x80) (by omega)
      have announces := ofByte?_four (code / 262144 % 0x08) (by omega)
      rw [← first] at announces
      simp only [List.cons_append, List.nil_append, List.length_cons, List.length_nil]
      rw [decodeFrom_first announces,
        decodeFrom_next (by rw [second]; dsimp only; split <;> split <;> omega) (by dsimp only; omega),
        decodeFrom_next (by rw [third]; dsimp only; omega) (by dsimp only; omega),
        decodeFrom_last (by rw [last]; dsimp only; omega) rfl, second, third, last]
      have whole :
          ((code / 262144 % 0x08 * 64 + (code / 4096 % 0x40 + 0x80 - 0x80)) * 64 +
              (code / 64 % 0x40 + 0x80 - 0x80)) * 64 +
            (code % 0x40 + 0x80 - 0x80) = code := by
        omega
      rw [whole, again]

/-- Decoding the bytes of characters gives them back. -/
private theorem decodeFrom_flatMap
    (chars : List Char)
    (position : Nat) :
    decodeFrom position none (chars.flatMap String.utf8EncodeChar) = .ok chars := by
  induction chars generalizing position with
  | nil =>
      rfl
  | cons c rest inductionHypothesis =>
      rw [List.flatMap_cons, decodeFrom_utf8EncodeChar, inductionHypothesis]
      rfl

/-- Decoding the bytes of a text gives the text back. -/
theorem decode_encode
    (text : String) :
    decode (encode text) = .ok text := by
  rw [decode, encode_eq_flatMap, decodeFrom_flatMap]
  exact congrArg Except.ok String.ofList_toList

end Tablewright.Text
