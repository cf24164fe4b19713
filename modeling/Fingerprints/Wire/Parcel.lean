import Fingerprints.Wire.Word

/-!
# Parcels

Java and native code pass values to each other in a parcel: contents of 32-bit words and a position
that every read moves. What stands at the position is known only to who reads there, so that a value
that is read and was not written shifts everything behind it. `ParcelCalls` are the writes and the
reads, and `ParcelCalls.Lawful` is what their users rely on. `wordParcel` is a parcel that keeps
these laws, **`wordParcel_lawful`**.

The strings of Java are UTF-16 and those of native code are UTF-8: `utf16` and `utf8` of one text.
-/

namespace Wire

/-! ## Texts -/

/-- The UTF-16 code units of a character. -/
def utf16Char (c : Char) : List UInt16 :=
  if c.val < 0x10000 then [c.val.toUInt16]
  else
    let offset : UInt32 := c.val - 0x10000
    [(0xD800 : UInt16) ||| (offset >>> 10).toUInt16, (0xDC00 : UInt16) ||| (offset &&& 0x3FF).toUInt16]

def utf16 (text : List Char) : List UInt16 := text.flatMap utf16Char

def utf8 (text : List Char) : List UInt8 := text.flatMap String.utf8EncodeChar

/-- A text takes no more code units than bytes. -/
theorem length_utf16_le (text : List Char) : (utf16 text).length ≤ (utf8 text).length := by
  induction text with
  | nil => exact Nat.le_refl _
  | cons c text ih =>
    have hchar : (utf16Char c).length ≤ (String.utf8EncodeChar c).length := by
      rw [String.length_utf8EncodeChar]
      unfold utf16Char
      split
      · exact Char.utf8Size_pos c
      · next hlarge =>
        have hval : ¬ c.val ≤ 0x7F := by
          intro h
          exact hlarge (UInt32.lt_of_le_of_lt h (by decide))
        have hone : c.utf8Size ≠ 1 := by
          rw [Ne, Char.utf8Size_eq_one_iff]
          exact hval
        have hpos := Char.utf8Size_pos c
        show 2 ≤ c.utf8Size
        omega
    unfold utf16 utf8 at ih ⊢
    rw [List.flatMap_cons, List.flatMap_cons, List.length_append, List.length_append]
    omega

/-! ## The calls -/

/-- A Java array or string, whose length is an `int`. -/
structure JavaArray (α : Type) where
  elems : List α
  length_lt : elems.length < 2 ^ 31
  deriving DecidableEq, Repr

/-- The writes of a parcel, with the words that they put at its end, and the reads, with what is left
behind the position. A string or an array may be null. -/
structure ParcelCalls (W : Type) where
  writeInt : Int32 → List W
  writeString : Option (List UInt16) → List W
  writeByteArray : Option (List UInt8) → List W
  readInt : List W → Int32 × List W
  readString : List W → Option (JavaArray UInt16) × List W
  createByteArray : List W → Option (JavaArray UInt8) × List W
  /-- The conversion of a native string to one that can be written. -/
  string16 : List UInt8 → List UInt16

/-- What the users of a parcel rely on. -/
structure ParcelCalls.Lawful {W : Type} (P : ParcelCalls W) : Prop where
  readInt_writeInt : ∀ x rest, P.readInt (P.writeInt x ++ rest) = (x, rest)
  readString_writeString : ∀ (string : Option (JavaArray UInt16)) rest,
    P.readString (P.writeString (string.map JavaArray.elems) ++ rest) = (string, rest)
  createByteArray_writeByteArray : ∀ (array : Option (JavaArray UInt8)) rest,
    P.createByteArray (P.writeByteArray (array.map JavaArray.elems) ++ rest) = (array, rest)
  /-- Behind the last word an int is read as zero. -/
  readInt_end : P.readInt [] = (0, [])
  length_readInt_lt : ∀ rest, rest ≠ [] → (P.readInt rest).2.length < rest.length
  length_createByteArray_le : ∀ rest, (P.createByteArray rest).2.length ≤ rest.length
  string16_utf8 : ∀ text, P.string16 (utf8 text) = utf16 text

/-! ## A parcel of words -/

/-- Bytes in words, the last of which is filled up with zeros. -/
def packBytes : List UInt8 → List UInt32
  | [] => []
  | [a] => [ofLe32 [a, 0, 0, 0]]
  | [a, b] => [ofLe32 [a, b, 0, 0]]
  | [a, b, c] => [ofLe32 [a, b, c, 0]]
  | a :: b :: c :: d :: rest => ofLe32 [a, b, c, d] :: packBytes rest

/-- The words that so many bytes take. -/
def wordsFor (n : Nat) : Nat := (n + 3) / 4

/-- So many bytes of the words, where there are as many, and the words behind them. -/
def takeBytes (n : Nat) (words : List UInt32) : Option (List UInt8 × List UInt32) :=
  if wordsFor n ≤ words.length then
    some (((words.take (wordsFor n)).flatMap le32).take n, words.drop (wordsFor n))
  else none

def unitBytes (unit : UInt16) : List UInt8 := [unit.toUInt8, (unit >>> 8).toUInt8]

def ofUnitBytes : List UInt8 → List UInt16
  | a :: b :: rest => (a.toUInt16 ||| (b.toUInt16 <<< 8)) :: ofUnitBytes rest
  | _ => []

/-- An array of at most so many elements as an `int` counts. -/
def JavaArray.ofList {α : Type} (elems : List α) : Option (JavaArray α) :=
  if h : elems.length < 2 ^ 31 then some ⟨elems, h⟩ else none

def readWord : List UInt32 → Int32 × List UInt32
  | [] => (0, [])
  | word :: rest => (word.toInt32, rest)

/-- What an array or a string begins with: its length, or -1 where it is null. -/
def lengthWord {α : Type} : Option (List α) → UInt32
  | none => 0xFFFFFFFF
  | some elems => UInt32.ofNat elems.length

/-- An array behind its length, which takes so many bytes. -/
def readArray {α : Type} (size : Nat → Nat) (ofBytes : Nat → List UInt8 → List α)
    (parcel : List UInt32) : Option (JavaArray α) × List UInt32 :=
  let (length, parcel) := readWord parcel
  if length < 0 then (none, parcel)
  else
    match takeBytes (size length.toInt.toNat) parcel with
    | none => (none, parcel)
    | some (bytes, parcel) => (JavaArray.ofList (ofBytes length.toInt.toNat bytes), parcel)

/-- A parcel of arrays behind their lengths, in whole words, where a string ends with a zero that its
length does not count. -/
def wordParcel : ParcelCalls UInt32 where
  writeInt x := [x.toUInt32]
  writeString string :=
    lengthWord string :: packBytes ((string.elim [] (· ++ [0])).flatMap unitBytes)
  writeByteArray array := lengthWord array :: packBytes (array.getD [])
  readInt := readWord
  readString := readArray (fun n => 2 * (n + 1)) fun n bytes => ofUnitBytes (bytes.take (2 * n))
  createByteArray := readArray id fun _ bytes => bytes
  string16 bytes :=
    match bytes.toByteArray.utf8Decode? with
    | some text => utf16 text.toList
    | none => []

theorem length_packBytes (bytes : List UInt8) : (packBytes bytes).length = wordsFor bytes.length := by
  fun_induction packBytes bytes with
  | case1 => rfl
  | case2 => simp [wordsFor]
  | case3 => simp [wordsFor]
  | case4 => simp [wordsFor]
  | case5 a b c d rest ih =>
    rw [List.length_cons, ih]
    unfold wordsFor
    simp only [List.length_cons]
    omega

/-- The bytes of packed words begin with what was packed. -/
theorem prefix_flatMap_packBytes (bytes : List UInt8) : bytes <+: (packBytes bytes).flatMap le32 := by
  fun_induction packBytes bytes with
  | case1 => exact List.nil_prefix
  | case2 a =>
    rw [List.flatMap_singleton, le32_ofLe32 rfl]
    exact ⟨[0, 0, 0], rfl⟩
  | case3 a b =>
    rw [List.flatMap_singleton, le32_ofLe32 rfl]
    exact ⟨[0, 0], rfl⟩
  | case4 a b c =>
    rw [List.flatMap_singleton, le32_ofLe32 rfl]
    exact ⟨[0], rfl⟩
  | case5 a b c d rest ih =>
    rw [List.flatMap_cons, le32_ofLe32 rfl]
    exact (List.prefix_append_right_inj [a, b, c, d]).mpr ih

/-- Bytes are taken from where they were packed. -/
theorem takeBytes_packBytes (bytes : List UInt8) (rest : List UInt32) :
    takeBytes bytes.length (packBytes bytes ++ rest) = some (bytes, rest) := by
  have hlength := length_packBytes bytes
  unfold takeBytes
  rw [if_pos (by rw [List.length_append]; omega), List.take_left' hlength, List.drop_left' hlength,
    ← List.prefix_iff_eq_take.mp (prefix_flatMap_packBytes bytes)]

theorem ofUnitBytes_unitBytes (unit : UInt16) (rest : List UInt8) :
    ofUnitBytes (unitBytes unit ++ rest) = unit :: ofUnitBytes rest := by
  have hlt := unit.toNat_lt
  have hunit : unit.toUInt8.toUInt16 ||| ((unit >>> 8).toUInt8.toUInt16 <<< 8) = unit := by
    apply UInt16.toNat_inj.mp
    have hor := mul_or_mul (unit.toNat / 256) 0 (Nat.mod_lt unit.toNat (by decide : 0 < 2 ^ 8))
    rw [Nat.or_comm] at hor
    simp [Nat.shiftLeft_eq, Nat.shiftRight_eq_div_pow] at hor ⊢
    rw [Nat.mod_eq_of_lt (by omega : unit.toNat / 256 < 256),
      Nat.mod_eq_of_lt (by omega : unit.toNat / 256 * 256 < 65536), hor]
    omega
  show (unit.toUInt8.toUInt16 ||| ((unit >>> 8).toUInt8.toUInt16 <<< 8)) :: ofUnitBytes rest = _
  rw [hunit]

/-- The code units of a string are read back from their bytes. -/
theorem ofUnitBytes_flatMap (units : List UInt16) :
    ofUnitBytes (units.flatMap unitBytes) = units := by
  induction units with
  | nil => rfl
  | cons unit units ih => rw [List.flatMap_cons, ofUnitBytes_unitBytes, ih]

theorem length_flatMap_unitBytes (units : List UInt16) :
    (units.flatMap unitBytes).length = 2 * units.length := by
  induction units with
  | nil => rfl
  | cons unit units ih =>
    rw [List.flatMap_cons, List.length_append, ih, List.length_cons]
    show 2 + _ = _
    omega

section

variable {α : Type} {size : Nat → Nat} {ofBytes : Nat → List UInt8 → List α}

/-- An array is read back from its length and its bytes. -/
theorem readArray_packBytes (array : JavaArray α) {bytes : List UInt8} (rest : List UInt32)
    (hsize : size array.elems.length = bytes.length)
    (hbytes : ofBytes array.elems.length bytes = array.elems) :
    readArray size ofBytes (UInt32.ofNat array.elems.length :: packBytes bytes ++ rest)
      = (some array, rest) := by
  have hint : (Int32.ofNat array.elems.length).toInt = array.elems.length :=
    Int32.toInt_ofNat_of_lt array.length_lt
  have hpositive : ¬ Int32.ofNat array.elems.length < 0 := by
    rw [Int32.lt_iff_toInt_lt, hint, Int32.toInt_zero]
    omega
  have hword : readWord (UInt32.ofNat array.elems.length :: packBytes bytes ++ rest)
      = (Int32.ofNat array.elems.length, packBytes bytes ++ rest) := by
    rw [List.cons_append, readWord, UInt32.toInt32_ofNat']
  have harray : JavaArray.ofList array.elems = some array := dif_pos array.length_lt
  unfold readArray
  rw [hword]
  dsimp only
  rw [if_neg hpositive, hint, Int.toNat_natCast, hsize, takeBytes_packBytes]
  dsimp only
  rw [hbytes, harray]

theorem length_readWord_le (parcel : List UInt32) : (readWord parcel).2.length ≤ parcel.length := by
  cases parcel with
  | nil => exact Nat.le_refl _
  | cons word rest => exact Nat.le_succ _

theorem length_readArray_le (parcel : List UInt32) :
    (readArray size ofBytes parcel).2.length ≤ parcel.length := by
  have hword := length_readWord_le parcel
  unfold readArray
  generalize readWord parcel = word at hword
  obtain ⟨length, rest⟩ := word
  dsimp only at hword ⊢
  split
  · exact hword
  · split
    · exact hword
    · next bytes left htake =>
      unfold takeBytes at htake
      split at htake
      · cases htake
        dsimp only
        rw [List.length_drop]
        omega
      · cases htake

end

/-- **The parcel of words keeps the laws.** -/
theorem wordParcel_lawful : wordParcel.Lawful where
  readInt_writeInt x rest := by
    show (x.toUInt32.toInt32, rest) = (x, rest)
    rw [Int32.toInt32_toUInt32]
  readString_writeString string rest := by
    cases string with
    | none => rfl
    | some string =>
      show readArray (fun n => 2 * (n + 1)) (fun n bytes => ofUnitBytes (bytes.take (2 * n)))
        (UInt32.ofNat string.elems.length :: packBytes ((string.elems ++ [0]).flatMap unitBytes)
          ++ rest) = _
      apply readArray_packBytes string rest
      · rw [length_flatMap_unitBytes, List.length_append, List.length_singleton]
      · rw [List.flatMap_append, List.take_left' (length_flatMap_unitBytes _), ofUnitBytes_flatMap]
  createByteArray_writeByteArray array rest := by
    cases array with
    | none => rfl
    | some array =>
      show readArray id (fun _ bytes => bytes)
        (UInt32.ofNat array.elems.length :: packBytes array.elems ++ rest) = _
      exact readArray_packBytes array rest rfl rfl
  readInt_end := rfl
  length_readInt_lt rest hrest := by
    cases rest with
    | nil => exact absurd rfl hrest
    | cons word rest => exact Nat.lt_succ_self _
  length_createByteArray_le rest := length_readArray_le rest
  string16_utf8 text := by
    have hdecode : (utf8 text).toByteArray.utf8Decode? = some text.toArray :=
      List.utf8Decode?_utf8Encode
    show (match (utf8 text).toByteArray.utf8Decode? with
      | some text => utf16 text.toList
      | none => []) = utf16 text
    rw [hdecode]

end Wire
