import Fingerprints.Fmi.File
import Mathlib.Data.List.Forall2

/-!
# Reading back what was written

The writer puts the minor version in front of the major one, the reader takes the major one first.
So no file that is written has its version in the header that is read: **`writeFile_not_roundTrips`**.
The blocks come back exactly when the file held no more before than was written to it, since it is
not truncated: **`writeFile_listsBlocks_iff`**.
-/

namespace Fpc.Fmi

open Wire

/-- The blocks of a file that was read are those that were written, and an array of the size of one
is filled with its data. -/
def ListsBlocks (fmi : FMIFile) (written : List (FMIBlockType × List UInt8)) : Prop :=
  List.Forall₂ (fun block w => block.type = w.1 ∧ block.size = Int32.ofNat w.2.length ∧
    ∀ data, data.length = w.2.length → getBlockData fmi block data = (.ok, w.2)) fmi.blocks written

/-- A file that is read holds the version in its header, and the blocks that were written. -/
def RoundTrips (content : List UInt8) (written : List (FMIBlockType × List UInt8)) : Prop :=
  ∃ fuel fmi, openFileRead fuel content = some (.returns .ok fmi) ∧
    fmi.header.majorVersion = versionMajor ∧ fmi.header.minorVersion = versionMinor ∧
    ListsBlocks fmi written

/-! ## The header -/

/-- The header that is written is read with the versions exchanged. -/
theorem readHeader_image (tail : List UInt8) (header : FMIHeader) :
    readHeader (headerImage ++ tail) header
      = (.ok, { size := headerSize, minorVersion := versionMajor, majorVersion := versionMinor }) := by
  have hsize : int32At (headerImage ++ tail) 4 = int32At headerImage 4 := rfl
  have hmajor : int16At (headerImage ++ tail) 8 = int16At headerImage 8 := rfl
  have hminor : int16At (headerImage ++ tail) 10 = int16At headerImage 10 := rfl
  have hsignature : (headerImage ++ tail).take 4 = signature := rfl
  have hvalues : int32At headerImage 4 = headerSize ∧ int16At headerImage 8 = versionMinor ∧
      int16At headerImage 10 = versionMajor := by decide
  unfold readHeader
  rw [if_pos (by rw [List.length_append]; exact Nat.le_add_right_of_le (by decide)),
    if_pos hsignature, hsize, hmajor, hminor, hvalues.1, hvalues.2.1, hvalues.2.2]

/-- Reading the blocks keeps the header. Induction on the rounds. -/
theorem readBlocks_header {fuel : Nat} {fmi fmi' : FMIFile} {offset : Int32} {b : List UInt8}
    {blocks : List FMIBlock} {status : FMIStatus}
    (h : readBlocks fmi fuel offset b blocks = some (.returns status fmi')) :
    fmi'.header = fmi.header := by
  induction fuel generalizing fmi offset b blocks with
  | zero => cases h
  | succ fuel ih =>
    unfold readBlocks at h
    dsimp only at h
    split at h
    · cases h
      rfl
    · split at h
      · cases h
        rfl
      · split at h
        · exact (ih h).trans rfl
        · cases h

/-- No file that is written has its version in the header that is read. -/
theorem image_not_roundTrips (written blocks : List (FMIBlockType × List UInt8))
    (tail : List UInt8) : ¬ RoundTrips (image written ++ tail) blocks := by
  intro htrips
  obtain ⟨fuel, fmi, hopen, hmajor, _⟩ := htrips
  unfold openFileRead image at hopen
  rw [List.append_assoc, readHeader_image] at hopen
  dsimp only at hopen
  rw [if_pos rfl] at hopen
  rw [readBlocks_header hopen] at hmajor
  exact absurd hmajor (show ¬ versionMinor = versionMajor by decide)

/-- **No file that is written is read back with its header.** Whatever the file held before and
whatever blocks are written to it, if all the calls that write return `OK`, the major and the minor
version come back in the field of the other. -/
theorem writeFile_not_roundTrips (throws : Nat → Option RandomAccessFile) (previous : List UInt8)
    (written : List (FMIBlockType × List UInt8))
    (h : ∀ s ∈ (writeFile throws previous written).1, s = .ok) :
    ¬ RoundTrips (writeFile throws previous written).2 written := by
  rw [writeFile_content h]
  exact image_not_roundTrips written written _

/-- One block of three bytes is written to a path that holds nothing. -/
def sampleBlock : FMIBlockType × List UInt8 := ({ format := .png, id := .displayImage }, [1, 2, 3])

/-- All calls return `OK`, and the header that is read holds version 0.1. -/
theorem sampleBlock_exchanged :
    (∀ s ∈ (writeFile (fun _ => none) [] [sampleBlock]).1, s = .ok) ∧
      (∃ fmi, openFileRead 2 (writeFile (fun _ => none) [] [sampleBlock]).2
          = some (.returns .ok fmi) ∧ fmi.header.majorVersion = 0 ∧ fmi.header.minorVersion = 1) ∧
      ¬ RoundTrips (writeFile (fun _ => none) [] [sampleBlock]).2 [sampleBlock] := by
  refine ⟨by decide, ⟨_, rfl, by decide, by decide⟩, ?_⟩
  rw [writeFile_content (by decide)]
  exact image_not_roundTrips _ _ _

/-- An empty file is written over nothing. -/
theorem sampleFile_not_roundTrips :
    (∀ s ∈ (writeFile (fun _ => none) [] []).1, s = .ok) ∧
      ¬ RoundTrips (writeFile (fun _ => none) [] []).2 [] :=
  ⟨by decide, writeFile_not_roundTrips _ _ _ (by decide)⟩

/-! ## The blocks -/

section

variable {fmi : FMIFile} {pre post b : List UInt8} {blocks : List FMIBlock}
  {block : FMIBlockType × List UInt8}

/-- The header of a block. -/
def blockHeader (block : FMIBlockType × List UInt8) : List UInt8 :=
  typeImage block.1 ++ le32 (Int32.ofNat block.2.length).toUInt32

theorem blockImage_eq (block : FMIBlockType × List UInt8) :
    blockImage block = blockHeader block ++ block.2 := by
  rw [blockImage, blockHeader, List.append_assoc]

theorem length_blockHeader (block : FMIBlockType × List UInt8) :
    (blockHeader block).length = totalBlockHeaderSize := rfl

/-- The type in a header of a block. -/
theorem blockHeader_type (block : FMIBlockType × List UInt8) :
    Format.fromValue (int16At (blockHeader block) 0) = some block.1.format ∧
      Id.fromValue (int16At (blockHeader block) 2) = some block.1.id := by
  obtain ⟨⟨format, id⟩, data⟩ := block
  constructor
  · show Format.fromValue (int16At (typeImage ⟨format, id⟩) 0) = some format
    cases format <;> cases id <;> decide
  · show Id.fromValue (int16At (typeImage ⟨format, id⟩) 2) = some id
    cases format <;> cases id <;> decide

/-- The size in it. -/
theorem blockHeader_size (block : FMIBlockType × List UInt8) :
    int32At (blockHeader block) 4 = Int32.ofNat block.2.length := by
  have hbytes := int32At_le32 (typeImage block.1) [] (Int32.ofNat block.2.length)
  rw [List.append_nil] at hbytes
  exact hbytes

/-- The header of the block that the file is read at. -/
theorem read_blockHeader (hb : b.length = totalBlockHeaderSize)
    (hfile : fmi.file = { content := pre ++ (blockImage block ++ post), pos := pre.length }) :
    fmi.file.read b = (8, blockHeader block) := by
  have hlength : (blockHeader block ++ (block.2 ++ post)).length
      = totalBlockHeaderSize + (block.2.length + post.length) := by
    rw [List.length_append, List.length_append, length_blockHeader]
  have hslice : slice (pre ++ (blockImage block ++ post)) pre.length b.length
      = blockHeader block := by
    rw [slice, List.drop_left' rfl, blockImage_eq, List.append_assoc, hb,
      ← length_blockHeader block, List.take_left' rfl]
  unfold RandomAccessFile.read
  rw [hfile, if_neg (by rw [hb]; decide)]
  dsimp only
  rw [hslice, blockImage_eq, List.append_assoc, List.length_append, hlength,
    if_neg (by unfold totalBlockHeaderSize; omega), length_blockHeader, overlay,
    length_blockHeader, List.drop_of_length_le (by rw [hb]; rfl)]
  simp [totalBlockHeaderSize]

/-- A block as the reader lists it. -/
def listed (offset : Nat) (block : FMIBlockType × List UInt8) : FMIBlock :=
  { type := block.1, size := Int32.ofNat block.2.length,
    offset := Int32.ofNat (offset + totalBlockHeaderSize) }

/-- One round takes one block. -/
theorem readBlocks_block {fuel : Nat} (hb : b.length = totalBlockHeaderSize)
    (hfile : fmi.file = { content := pre ++ (blockImage block ++ post), pos := pre.length })
    (hsize : (pre ++ blockImage block).length < 2 ^ 31) :
    readBlocks fmi (fuel + 1) (Int32.ofNat pre.length) b blocks
      = readBlocks
          { fmi with
            file := { content := (pre ++ blockImage block) ++ post
                      pos := (pre ++ blockImage block).length } }
          fuel (Int32.ofNat (pre ++ blockImage block).length) (blockHeader block)
          (blocks ++ [listed pre.length block]) := by
  have hlength : (pre ++ blockImage block).length
      = pre.length + totalBlockHeaderSize + block.2.length := by
    rw [blockImage_eq, List.length_append, List.length_append, length_blockHeader, Nat.add_assoc]
  have hnext : Int32.ofNat pre.length + Int32.ofNat totalBlockHeaderSize
      + Int32.ofNat block.2.length = Int32.ofNat (pre ++ blockImage block).length := by
    rw [hlength, Int32.ofNat_add, Int32.ofNat_add]
  have hnat : (Int32.ofNat (pre ++ blockImage block).length).toInt
      = (pre ++ blockImage block).length := Int32.toInt_ofNat_of_lt hsize
  conv_lhs => rw [readBlocks, read_blockHeader hb hfile]
  dsimp only
  rw [if_neg (by decide), blockHeader_size, hnext, if_neg (by rw [hnat]; omega), (blockHeader_type block).1,
    (blockHeader_type block).2, hnat, hfile, List.append_assoc]
  dsimp only
  rw [Int.toNat_natCast, ← Int32.ofNat_add]
  rfl

/-- Blocks as the reader lists them, the first of them at an offset. -/
def listedFrom : (offset : Nat) → List (FMIBlockType × List UInt8) → List FMIBlock
  | _, [] => []
  | offset, block :: rest => listed offset block :: listedFrom (offset + (blockImage block).length) rest

theorem length_listedFrom (written : List (FMIBlockType × List UInt8)) (offset : Nat) :
    (listedFrom offset written).length = written.length := by
  induction written generalizing offset with
  | nil => rfl
  | cons block rest ih => simp [listedFrom, ih]

/-- Blocks are taken one in a round. Induction on the blocks. -/
theorem readBlocks_image (written : List (FMIBlockType × List UInt8)) (fuel : Nat)
    (hb : b.length = totalBlockHeaderSize)
    (hfile : fmi.file = { content := pre ++ (written.flatMap blockImage ++ post), pos := pre.length })
    (hsize : (pre ++ written.flatMap blockImage).length < 2 ^ 31) :
    ∃ b', b'.length = totalBlockHeaderSize ∧
      readBlocks fmi (fuel + written.length) (Int32.ofNat pre.length) b blocks
        = readBlocks
            { fmi with
              file := { content := (pre ++ written.flatMap blockImage) ++ post
                        pos := (pre ++ written.flatMap blockImage).length } }
            fuel (Int32.ofNat (pre ++ written.flatMap blockImage).length) b'
            (blocks ++ listedFrom pre.length written) := by
  induction written generalizing fmi pre b blocks with
  | nil =>
    refine ⟨b, hb, ?_⟩
    have hsame : { fmi with
        file := { content := (pre ++ [].flatMap blockImage) ++ post
                  pos := (pre ++ [].flatMap blockImage).length } } = fmi := by
      rw [List.flatMap_nil, List.append_nil]
      rw [List.flatMap_nil, List.nil_append] at hfile
      rw [← hfile]
    rw [hsame, List.flatMap_nil, List.append_nil, listedFrom, List.append_nil]
    rfl
  | cons block rest ih =>
    rw [List.flatMap_cons, List.append_assoc] at hfile
    rw [List.flatMap_cons, ← List.append_assoc] at hsize
    have hblock : (pre ++ blockImage block).length < 2 ^ 31 := by
      rw [List.length_append] at hsize
      omega
    rw [List.length_cons, ← Nat.add_assoc, readBlocks_block hb hfile hblock]
    obtain ⟨b', hb', heq⟩ := @ih
      { fmi with
        file := { content := (pre ++ blockImage block) ++ (rest.flatMap blockImage ++ post)
                  pos := (pre ++ blockImage block).length } }
      (pre ++ blockImage block) (blockHeader block) (blocks ++ [listed pre.length block])
      (length_blockHeader block) rfl hsize
    refine ⟨b', hb', ?_⟩
    rw [heq, List.flatMap_cons, listedFrom, ← List.append_assoc pre, List.append_assoc blocks,
      @List.length_append _ pre]
    rfl

/-- Behind the last byte the reader is done. -/
theorem readBlocks_end {offset : Int32} (fuel : Nat) (hb : b.length = totalBlockHeaderSize)
    (hfile : fmi.file.content.length ≤ fmi.file.pos) :
    readBlocks fmi (fuel + 1) offset b blocks
      = some (.returns .ok { fmi with blocks := blocks }) := by
  unfold readBlocks RandomAccessFile.read
  rw [if_neg (by rw [hb]; decide), if_pos hfile]
  rfl

/-- The blocks that were read stay listed. Induction on the rounds. -/
theorem readBlocks_front {fuel : Nat} {fmi' : FMIFile} {offset : Int32} {status : FMIStatus}
    (h : readBlocks fmi fuel offset b blocks = some (.returns status fmi')) :
    blocks <+: fmi'.blocks := by
  induction fuel generalizing fmi offset b blocks with
  | zero => cases h
  | succ fuel ih =>
    unfold readBlocks at h
    dsimp only at h
    split at h
    · cases h
      exact List.prefix_rfl
    · split at h
      · cases h
        exact List.prefix_rfl
      · split at h
        · exact (List.prefix_append _ _).trans (ih h)
        · cases h

/-- In front of the end it lists one more, or fails. -/
theorem readBlocks_more {fuel : Nat} {fmi' : FMIFile} {offset : Int32}
    (hb : b.length = totalBlockHeaderSize) (hfile : fmi.file.pos < fmi.file.content.length)
    (h : readBlocks fmi fuel offset b blocks = some (.returns .ok fmi')) :
    blocks.length < fmi'.blocks.length := by
  cases fuel with
  | zero => cases h
  | succ fuel =>
    unfold readBlocks RandomAccessFile.read at h
    rw [if_neg (by rw [hb]; decide), if_neg (by omega)] at h
    dsimp only at h
    rw [if_neg (by omega)] at h
    split at h
    · cases h
    · split at h
      · have hlength := (readBlocks_front h).length_le
        rw [List.length_append, List.length_singleton] at hlength
        omega
      · cases h

/-- Rounds that are left over change nothing. Induction on the rounds. -/
theorem readBlocks_fuel {fuel : Nat} {opening : Opening} {offset : Int32} (more : Nat)
    (h : readBlocks fmi fuel offset b blocks = some opening) :
    readBlocks fmi (fuel + more) offset b blocks = some opening := by
  induction fuel generalizing fmi offset b blocks with
  | zero => cases h
  | succ fuel ih =>
    rw [Nat.succ_add]
    unfold readBlocks at h ⊢
    dsimp only at h ⊢
    split at h
    · next hend =>
      rw [if_pos hend]
      exact h
    · next hend =>
      rw [if_neg hend]
      split at h
      · next hseek =>
        rw [if_pos hseek]
        exact h
      · next hseek =>
        rw [if_neg hseek]
        split at h
        · exact ih h
        · exact h

/-- The data of the listed blocks. Induction on the blocks. -/
theorem listsBlocks_image (post : List UInt8) (written : List (FMIBlockType × List UInt8)) (hmode : fmi.mode = .read)
    (hcontent : fmi.file.content = pre ++ (written.flatMap blockImage ++ post))
    (hsize : (pre ++ written.flatMap blockImage).length < 2 ^ 31) :
    List.Forall₂ (fun block w => block.type = w.1 ∧ block.size = Int32.ofNat w.2.length ∧
      ∀ data, data.length = w.2.length → getBlockData fmi block data = (.ok, w.2))
      (listedFrom pre.length written) written := by
  induction written generalizing pre with
  | nil => exact .nil
  | cons block rest ih =>
    rw [List.flatMap_cons, List.append_assoc] at hcontent
    rw [List.flatMap_cons, ← List.append_assoc] at hsize
    have hlength : (pre ++ blockImage block).length
        = pre.length + totalBlockHeaderSize + block.2.length := by
      rw [blockImage_eq, List.length_append, List.length_append, length_blockHeader, Nat.add_assoc]
    refine .cons ⟨rfl, rfl, ?_⟩ ?_
    · intro data hdata
      have hoffset : (listed pre.length block).offset.toInt
          = ((pre.length + totalBlockHeaderSize : Nat) : Int) :=
        Int32.toInt_ofNat_of_lt (by rw [List.length_append, hlength] at hsize; omega)
      have hslice : slice fmi.file.content (pre.length + totalBlockHeaderSize) data.length
          = block.2 := by
        rw [slice, hcontent, blockImage_eq, List.append_assoc (blockHeader block),
          ← List.append_assoc pre,
          List.drop_left' (by rw [List.length_append, length_blockHeader]), hdata,
          List.take_left' rfl]
      unfold getBlockData RandomAccessFile.read
      rw [hmode]
      dsimp only
      rw [hoffset, if_neg (by omega), Int.toNat_natCast]
      split
      · next hempty =>
        rw [hdata] at hempty
        rw [List.length_eq_zero_iff.mp hempty, List.length_eq_zero_iff.mp (hdata.trans hempty)]
      · next hne =>
        rw [if_neg (by rw [hcontent, ← List.append_assoc, List.length_append, hlength]; omega),
          hslice, overlay, List.take_zero, List.nil_append, Nat.zero_add, ← hdata,
          List.drop_length, List.append_nil]
    · have hbehind : fmi.file.content
          = (pre ++ blockImage block) ++ (rest.flatMap blockImage ++ post) := by
        rw [hcontent, List.append_assoc]
      have hrest := ih hbehind hsize
      rw [List.length_append] at hrest
      exact hrest

end

/-- A file of which the header was read. -/
def behindHeader (tail : List UInt8) : FMIFile :=
  { file := { content := headerImage ++ tail, pos := headerImage.length }, mode := .read,
    header := { size := headerSize, minorVersion := versionMajor, majorVersion := versionMinor }
    blocks := [] }

/-- What reading a file comes to once its header was read. -/
theorem openFileRead_image (fuel : Nat) (tail : List UInt8) :
    openFileRead fuel (headerImage ++ tail)
      = readBlocks (behindHeader tail) fuel (Int32.ofNat headerImage.length)
          (List.replicate totalBlockHeaderSize 0) [] := by
  unfold openFileRead
  rw [readHeader_image]
  rfl

/-- **When the blocks come back.** Exactly when the file held no more than is written to it: what is
left of a longer file is read as another block. -/
theorem writeFile_listsBlocks_iff (throws : Nat → Option RandomAccessFile) (previous : List UInt8)
    (written : List (FMIBlockType × List UInt8)) (hsize : (image written).length < 2 ^ 31)
    (h : ∀ s ∈ (writeFile throws previous written).1, s = .ok) :
    (∃ fuel fmi, openFileRead fuel (writeFile throws previous written).2
        = some (.returns .ok fmi) ∧ ListsBlocks fmi written) ↔
      previous.length ≤ (image written).length := by
  have hcontent : (writeFile throws previous written).2
      = headerImage ++ (written.flatMap blockImage ++ previous.drop (image written).length) := by
    rw [writeFile_content h, image, List.append_assoc]
  have hrounds (fuel : Nat) := @readBlocks_image
    (behindHeader (written.flatMap blockImage ++ previous.drop (image written).length)) _ _
    (List.replicate totalBlockHeaderSize 0) [] written fuel List.length_replicate rfl hsize
  rw [hcontent]
  constructor
  · intro hreads
    obtain ⟨fuel, fmi, hopen, hlists⟩ := hreads
    by_contra hlonger
    rw [openFileRead_image] at hopen
    obtain ⟨b', hb', heq⟩ := hrounds fuel
    have hmore := heq.symm.trans (readBlocks_fuel written.length hopen)
    have hlength := readBlocks_more hb' (by
      show (image written).length
        < (image written ++ previous.drop (image written).length).length
      rw [List.length_append, List.length_drop]
      omega) hmore
    rw [List.nil_append, length_listedFrom, List.Forall₂.length_eq hlists] at hlength
    omega
  · intro hshort
    rw [List.drop_of_length_le hshort, List.append_nil] at hrounds ⊢
    obtain ⟨b', hb', heq⟩ := hrounds 1
    have hopen := heq.trans (readBlocks_end 0 hb' (by simp))
    rw [← openFileRead_image] at hopen
    refine ⟨_, _, hopen, ?_⟩
    exact listsBlocks_image [] written rfl (List.append_assoc _ _ _) hsize

end Fpc.Fmi
