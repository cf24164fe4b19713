import Fingerprints.Wire.Message
import Mathlib.Data.List.GetD
import Mathlib.Tactic.IntervalCases

/-!
# Files of the image interface

`FMIFile.java`: a header and blocks of data behind it, written in order and read back by following
the sizes. The writer swaps the bytes of a word and lets `RandomAccessFile` write it with the most
significant byte first, the reader assembles it from its bytes. A file that is written again is not
truncated.

* **`be32_littleEndian32`** — what the writer makes of a word is the word, least byte first;
* **`writeFile_content`** — the file that a writer leaves.
-/

namespace Fpc.Fmi

open Wire

/-! ## Constants (`Constants.java`) -/

def signature : List UInt8 := [0x2E, 0x46, 0x4D, 0x49]
def versionMajor : Int32 := 1
def versionMinor : Int32 := 0
def headerSize : Int32 := 4
def totalHeaderSize : Nat := 12
def totalBlockHeaderSize : Nat := 8

inductive FMIStatus where
  | ok
  | failedMalloc
  | failedIo
  | invalidArgument
  | invalidContext
  | storageIsFull
  | unsupported
  | notFound
  deriving DecidableEq, Repr

inductive FMIOpenMode where
  | read
  | write
  deriving DecidableEq, Repr

/-! ## Block types (`FMIBlockType.java`) -/

inductive Format where
  | undefined
  | fpcImageData
  | text
  | png
  | binary
  | proprietary
  deriving DecidableEq, Repr

inductive Id where
  | rawImage
  | preprocessedImage
  | sensorOtp
  | session
  | displayImage
  deriving DecidableEq, Repr

def Format.values : List Format := [.undefined, .fpcImageData, .text, .png, .binary, .proprietary]

def Format.getValue : Format → Int32
  | .undefined => 0
  | .fpcImageData => 1
  | .text => 2
  | .png => 3
  | .binary => 4
  | .proprietary => 5

def Format.fromValue (value : Int32) : Option Format := values.find? fun f => f.getValue = value

def Id.values : List Id := [.rawImage, .preprocessedImage, .sensorOtp, .session, .displayImage]

def Id.getValue : Id → Int32
  | .rawImage => 0
  | .preprocessedImage => 1
  | .sensorOtp => 32
  | .session => 33
  | .displayImage => 64

def Id.fromValue (value : Int32) : Option Id := values.find? fun f => f.getValue = value

structure FMIBlockType where
  format : Format
  id : Id
  deriving DecidableEq, Repr

structure FMIBlock where
  type : FMIBlockType
  size : Int32
  offset : Int32
  deriving DecidableEq, Repr

structure FMIHeader where
  size : Int32
  minorVersion : Int32
  majorVersion : Int32
  deriving DecidableEq, Repr

/-! ## `RandomAccessFile` -/

/-- What the file holds, and where it is read and written next. -/
structure RandomAccessFile where
  content : List UInt8
  pos : Nat
  deriving DecidableEq, Repr

namespace RandomAccessFile

/-- Bytes go over those that are there, and the file grows where it is too short. -/
def write (file : RandomAccessFile) (bytes : List UInt8) : RandomAccessFile :=
  { content := overlay (file.content ++ List.replicate (file.pos - file.content.length) 0) file.pos
      bytes
    pos := file.pos + bytes.length }

/-- A word is written with its most significant byte first. -/
def writeInt (file : RandomAccessFile) (v : Int32) : RandomAccessFile := file.write (be32 v.toUInt32)

def writeShort (file : RandomAccessFile) (v : Int16) : RandomAccessFile :=
  file.write [(v.toUInt16 >>> 8).toUInt8, v.toUInt16.toUInt8]

/-- `read` into an array, with the array after it. At the end of the file it is -1. -/
def read (file : RandomAccessFile) (b : List UInt8) : Int × List UInt8 :=
  if b.length = 0 then (0, b)
  else if file.content.length ≤ file.pos then (-1, b)
  else
    let bytes := slice file.content file.pos b.length
    (bytes.length, overlay b 0 bytes)

end RandomAccessFile

/-! ## Files (`FMIFile.java`) -/

/-- `LE` of a `short`, in the arithmetic of an `int`. -/
def littleEndian16 (v : Int16) : Int16 :=
  (((v.toInt32 <<< 8) &&& (0xFF00 : Int32)) ||| ((v.toInt32 >>> 8) &&& (0x00FF : Int32))).toInt16

/-- `LE` of an `int` -/
def littleEndian32 (v : Int32) : Int32 :=
  ((v <<< 24) &&& (0xFF000000 : Int32)) ||| ((v <<< 8) &&& (0x00FF0000 : Int32))
    ||| ((v >>> 8) &&& (0x0000FF00 : Int32)) ||| ((v >>> 24) &&& (0x000000FF : Int32))

/-- Two and four bytes, as the reader puts them together. -/
def int16At (b : List UInt8) (i : Nat) : Int32 :=
  ((b.getD i 0).toUInt32 ||| (b.getD (i + 1) 0).toUInt32 <<< 8).toInt32

def int32At (b : List UInt8) (i : Nat) : Int32 :=
  ((b.getD i 0).toUInt32 ||| (b.getD (i + 1) 0).toUInt32 <<< 8
    ||| (b.getD (i + 2) 0).toUInt32 <<< 16 ||| (b.getD (i + 3) 0).toUInt32 <<< 24).toInt32

structure FMIFile where
  file : RandomAccessFile
  mode : FMIOpenMode
  header : FMIHeader
  blocks : List FMIBlock
  deriving DecidableEq, Repr

/-- The header of a `FMIFile` that is new. -/
def FMIHeader.zeroed : FMIHeader := { size := 0, minorVersion := 0, majorVersion := 0 }

/-! ### Writing

A method in which a call throws an `IOException` leaves the file in some state, and returns
`FAILED_IO`. -/

def writeHeader (file : RandomAccessFile) : RandomAccessFile :=
  let file := { file with pos := 0 }
  let file := file.write signature
  let file := file.writeInt (littleEndian32 headerSize)
  let file := file.writeShort (littleEndian16 versionMinor.toInt16)
  file.writeShort (littleEndian16 versionMajor.toInt16)

/-- `openFile` to write, of a path that holds `content`. -/
def openFileWrite (throws : Option RandomAccessFile) (content : List UInt8) : FMIStatus × FMIFile :=
  match throws with
  | some left => (.failedIo, { file := left, mode := .write, header := .zeroed, blocks := [] })
  | none =>
      (.ok,
        { file := writeHeader { content := content, pos := 0 }, mode := .write, header := .zeroed,
          blocks := [] })

def addBlock (throws : Option RandomAccessFile) (fmi : FMIFile) (type : FMIBlockType)
    (data : List UInt8) : FMIStatus × FMIFile :=
  match fmi.mode with
  | .read => (.unsupported, fmi)
  | .write =>
      match throws with
      | some left => (.failedIo, { fmi with file := left })
      | none =>
          let file := fmi.file.writeShort (littleEndian16 type.format.getValue.toInt16)
          let file := file.writeShort (littleEndian16 type.id.getValue.toInt16)
          let file := file.writeInt (littleEndian32 (Int32.ofNat data.length))
          (.ok, { fmi with file := file.write data })

def close (throws : Option RandomAccessFile) : FMIStatus :=
  if throws.isSome then .failedIo else .ok

/-- `addBlock` of each block in order, by what the calls in each throw. -/
def addBlocks (throws : Nat → Option RandomAccessFile) :
    (i : Nat) → FMIFile → List (FMIBlockType × List UInt8) → List FMIStatus × FMIFile
  | _, fmi, [] => ([], fmi)
  | i, fmi, (type, data) :: rest =>
      let (status, fmi) := addBlock (throws i) fmi type data
      let (statuses, fmi) := addBlocks throws (i + 1) fmi rest
      (status :: statuses, fmi)

/-- A file is opened to write, the blocks are added to it and it is closed: what the calls return,
and what the file holds behind them. -/
def writeFile (throws : Nat → Option RandomAccessFile) (previous : List UInt8)
    (written : List (FMIBlockType × List UInt8)) : List FMIStatus × List UInt8 :=
  let (opening, fmi) := openFileWrite (throws 0) previous
  let (adding, fmi) := addBlocks throws 1 fmi written
  (opening :: adding ++ [close (throws (written.length + 1))], fmi.file.content)

/-! ### Reading -/

def readHeader (content : List UInt8) (header : FMIHeader) : FMIStatus × FMIHeader :=
  if totalHeaderSize ≤ content.length then
    if content.take 4 = signature then
      (.ok,
        { size := int32At content 4, majorVersion := int16At content 8,
          minorVersion := int16At content 10 })
    else (.failedIo, header)
  else (.ok, header)

/-- How opening a file to read ends: it returns, or a block has a type that nothing is known by and
the message about it runs into a null reference. -/
inductive Opening where
  | returns (status : FMIStatus) (fmi : FMIFile)
  | nullPointer
  deriving DecidableEq, Repr

/-- The loop of `readBlocks`, where it ends within `fuel` rounds: a size may lead it back. -/
def readBlocks (fmi : FMIFile) : (fuel : Nat) → (offset : Int32) → (b : List UInt8) →
    (blocks : List FMIBlock) → Option Opening
  | 0, _, _, _ => none
  | fuel + 1, offset, b, blocks =>
      let (length, b) := fmi.file.read b
      if length = -1 then some (.returns .ok { fmi with blocks := blocks })
      else
        let size := int32At b 4
        let offset := offset + Int32.ofNat totalBlockHeaderSize
        let next := offset + size
        -- `seek`
        if next.toInt < 0 then some (.returns .failedIo { fmi with blocks := blocks })
        else
          match Format.fromValue (int16At b 0), Id.fromValue (int16At b 2) with
          | some format, some id =>
              let block :=
                { type := { format := format, id := id }, size := size, offset := offset }
              readBlocks { fmi with file := { fmi.file with pos := next.toInt.toNat } } fuel next b
                (blocks ++ [block])
          | _, _ => some .nullPointer

/-- `openFile` to read, by a new `FMIFile`, of a path that holds `content`. -/
def openFileRead (fuel : Nat) (content : List UInt8) : Option Opening :=
  let (status, header) := readHeader content .zeroed
  let fmi :=
    { file := { content := content, pos := totalHeaderSize }, mode := .read, header := header,
      blocks := [] }
  if status = .ok then
    readBlocks fmi fuel (Int32.ofNat totalHeaderSize) (List.replicate totalBlockHeaderSize 0) []
  else some (.returns status fmi)

/-- `getBlockData`: its status, and the array. -/
def getBlockData (fmi : FMIFile) (block : FMIBlock) (data : List UInt8) : FMIStatus × List UInt8 :=
  match fmi.mode with
  | .write => (.unsupported, data)
  | .read =>
      if block.offset.toInt < 0 then (.failedIo, data)
      else (.ok, (RandomAccessFile.read { fmi.file with pos := block.offset.toInt.toNat } data).2)

/-! ## Bytes -/

/-- The bytes of a swapped word, in the order in which they are written. -/
theorem be32_littleEndian32 (v : Int32) : be32 (littleEndian32 v).toUInt32 = le32 v.toUInt32 := by
  simp only [be32, le32, littleEndian32, List.reverse_cons, List.reverse_nil, List.nil_append,
    List.cons_append, List.cons.injEq, and_true]
  refine ⟨?_, ?_, ?_, ?_⟩
  -- each is the same eight bits of the word
  all_goals
    apply UInt8.eq_of_toBitVec_eq
    ext i hi
    simp
    interval_cases i <;> simp [BitVec.getElem_sshiftRight]

/-- Four bytes are assembled to the word they are the bytes of. -/
theorem int32At_le32 (pre post : List UInt8) (v : Int32) :
    int32At (pre ++ (le32 v.toUInt32 ++ post)) pre.length = v := by
  have hor : ∀ a b c d : UInt32, a ||| b ||| c ||| d = d ||| c ||| b ||| a := by
    intro a b c d
    ac_rfl
  have hword : ∀ b0 b1 b2 b3 : UInt8,
      int32At (pre ++ ([b0, b1, b2, b3] ++ post)) pre.length
        = (ofLe32 [b0, b1, b2, b3]).toInt32 := by
    intro b0 b1 b2 b3
    unfold int32At ofLe32
    simp only [List.getD_append_right _ _ _ _ (Nat.le_add_right _ _),
      List.getD_append_right _ _ _ _ (Nat.le_refl _), Nat.add_sub_cancel_left, Nat.sub_self]
    simp only [ofBe32, List.cons_append, List.nil_append, List.getD_cons_zero, List.getD_cons_succ,
      List.reverse_cons, List.reverse_nil]
    rw [hor]
  have hbytes : le32 v.toUInt32 = [v.toUInt32.toUInt8, (v.toUInt32 >>> 8).toUInt8,
    (v.toUInt32 >>> 16).toUInt8, (v.toUInt32 >>> 24).toUInt8] := rfl
  rw [hbytes, hword, ← hbytes, ofLe32_le32, Int32.toInt32_toUInt32]

/-! ## The file that is written -/

/-- A file with `done` in front of where it is written next, and `rest` behind. -/
def RandomAccessFile.between (done rest : List UInt8) : RandomAccessFile :=
  { content := done ++ rest, pos := done.length }

theorem RandomAccessFile.write_between (done rest bytes : List UInt8) :
    (between done rest).write bytes = between (done ++ bytes) (rest.drop bytes.length) := by
  unfold RandomAccessFile.write between
  dsimp only
  rw [List.length_append, Nat.sub_eq_zero_of_le (by omega), List.replicate_zero, List.append_nil,
    overlay, List.take_left' rfl, List.drop_append, List.length_append]
  simp

/-- The bytes of a block's type. -/
def typeImage (type : FMIBlockType) : List UInt8 :=
  [UInt8.ofNat type.format.getValue.toInt.toNat, 0, UInt8.ofNat type.id.getValue.toInt.toNat, 0]

/-- A block in the file. -/
def blockImage (block : FMIBlockType × List UInt8) : List UInt8 :=
  typeImage block.1 ++ (le32 (Int32.ofNat block.2.length).toUInt32 ++ block.2)

/-- The header in the file. -/
def headerImage : List UInt8 := signature ++ [4, 0, 0, 0, 0, 0, 1, 0]

/-- A whole file. -/
def image (written : List (FMIBlockType × List UInt8)) : List UInt8 :=
  headerImage ++ written.flatMap blockImage

theorem writeHeader_eq (content : List UInt8) :
    writeHeader { content := content, pos := 0 }
      = .between headerImage (content.drop totalHeaderSize) := by
  have hstart : ({ content := content, pos := 0 } : RandomAccessFile) = .between [] content := rfl
  unfold writeHeader RandomAccessFile.writeInt RandomAccessFile.writeShort
  dsimp only
  rw [hstart, RandomAccessFile.write_between, RandomAccessFile.write_between,
    RandomAccessFile.write_between, RandomAccessFile.write_between]
  simp only [List.drop_drop]
  congr 1

/-- A short of a type is written with its least byte first. -/
theorem writeType (type : FMIBlockType) (done rest : List UInt8) :
    ((RandomAccessFile.between done rest).writeShort
        (littleEndian16 type.format.getValue.toInt16)).writeShort
        (littleEndian16 type.id.getValue.toInt16)
      = .between (done ++ typeImage type) (rest.drop 4) := by
  obtain ⟨format, id⟩ := type
  unfold RandomAccessFile.writeShort
  rw [RandomAccessFile.write_between, RandomAccessFile.write_between, List.append_assoc,
    List.drop_drop]
  congr 2
  cases format <;> cases id <;> decide

theorem addBlock_eq {fmi : FMIFile} {done rest : List UInt8} (hmode : fmi.mode = .write)
    (hfile : fmi.file = .between done rest) (type : FMIBlockType) (data : List UInt8) :
    addBlock none fmi type data
      = (.ok,
          { fmi with
            file := .between (done ++ blockImage (type, data))
              (rest.drop (blockImage (type, data)).length) }) := by
  unfold addBlock RandomAccessFile.writeInt
  rw [hmode, hfile]
  dsimp only
  rw [writeType, RandomAccessFile.write_between, RandomAccessFile.write_between,
    be32_littleEndian32]
  simp [blockImage, typeImage, Nat.add_comm, Nat.add_left_comm]

/-- A block that is added throws nothing. -/
theorem addBlock_ok {throws : Option RandomAccessFile} {fmi : FMIFile} {type : FMIBlockType}
    {data : List UInt8} (h : (addBlock throws fmi type data).1 = .ok) : throws = none := by
  unfold addBlock at h
  cases throws with
  | none => rfl
  | some left =>
    split at h
    · cases h
    · cases h

/-- Blocks that are all added lie one behind the other. Induction on the blocks. -/
theorem addBlocks_eq {throws : Nat → Option RandomAccessFile}
    (written : List (FMIBlockType × List UInt8)) {i : Nat} {fmi : FMIFile} {done rest : List UInt8}
    (hmode : fmi.mode = .write) (hfile : fmi.file = .between done rest)
    (h : ∀ s ∈ (addBlocks throws i fmi written).1, s = .ok) :
    (addBlocks throws i fmi written).2.file
      = .between (done ++ written.flatMap blockImage)
          (rest.drop (written.flatMap blockImage).length) := by
  induction written generalizing i fmi done rest with
  | nil => simpa [addBlocks] using hfile
  | cons block written ih =>
    obtain ⟨type, data⟩ := block
    unfold addBlocks at h ⊢
    dsimp only at h ⊢
    have hnone := addBlock_ok (h _ List.mem_cons_self)
    rw [hnone, addBlock_eq hmode hfile] at h ⊢
    dsimp only at h ⊢
    rw [ih (by exact hmode) rfl fun s hs => h s (List.mem_cons_of_mem _ hs), List.flatMap_cons,
      List.append_assoc, List.drop_drop, List.length_append]

/-- **The file that a writer leaves**: the header and the blocks, over what the file held. -/
theorem writeFile_content {throws : Nat → Option RandomAccessFile} {previous : List UInt8}
    {written : List (FMIBlockType × List UInt8)}
    (h : ∀ s ∈ (writeFile throws previous written).1, s = .ok) :
    (writeFile throws previous written).2
      = image written ++ previous.drop (image written).length := by
  unfold writeFile at h ⊢
  dsimp only at h ⊢
  have hopening := h _ List.mem_cons_self
  unfold openFileWrite at hopening h ⊢
  cases hthrows : throws 0 with
  | some left =>
    rw [hthrows] at hopening
    cases hopening
  | none =>
    rw [hthrows] at h
    dsimp only at h ⊢
    rw [addBlocks_eq written rfl (writeHeader_eq previous) fun s hs =>
      h s (List.mem_cons_of_mem _ (List.mem_append_left _ hs))]
    rw [List.drop_drop]
    unfold RandomAccessFile.between image
    rw [List.length_append]
    rfl

end Fpc.Fmi
