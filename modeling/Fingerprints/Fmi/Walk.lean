import Fingerprints.Fmi.RoundTrip
import Fingerprints.Runs.Walk
import Mathlib.Data.Set.Finite.List

/-!
# Following the sizes of a file

The loop of `readBlocks` goes from block to block by the sizes that it finds. A size is a signed word,
so it may lead back, and then the loop may come to a place where it was before.

* **`readFrom_succ`**: a round ends at the end of the file, at a negative offset and at an unknown type,
  and else goes on at the place that the size leads to;
* **`readBlocks_ends_iff`**: the loop ends exactly when it comes back to no place, which is an offset
  with the header that was read before it.

The header is part of the place: where a file ends within one, the rest of the array is what the header
before it left there.
-/

namespace Fpc.Fmi

open Wire Runs StateTransition

/-! ## Places -/

/-- Where the loop of `readBlocks` is: the offset at which it reads, and the array it reads into. -/
structure Place where
  offset : Int32
  b : List UInt8
  deriving DecidableEq, Repr

def Place.pos (p : Place) : Nat := p.offset.toInt.toNat

/-- Where the loop begins. -/
def Place.start : Place where
  offset := Int32.ofNat totalHeaderSize
  b := List.replicate totalBlockHeaderSize 0

/-- The array behind the read. -/
def headerAt (content : List UInt8) (p : Place) : List UInt8 :=
  (RandomAccessFile.read { content := content, pos := p.pos } p.b).2

/-- The size in it. -/
def sizeAt (content : List UInt8) (p : Place) : Int32 := int32At (headerAt content p) 4

/-- The type in it, where format and identity are known. -/
def typeAt (content : List UInt8) (p : Place) : Option FMIBlockType :=
  (Format.fromValue (int16At (headerAt content p) 0)).bind fun format =>
    (Id.fromValue (int16At (headerAt content p) 2)).map fun id => { format := format, id := id }

/-- The offset that the size leads to. -/
def nextAt (content : List UInt8) (p : Place) : Int32 :=
  p.offset + Int32.ofNat totalBlockHeaderSize + sizeAt content p

/-- The place that a block leads to. There is none behind the end of the file, in front of its
beginning, and behind a block of an unknown type. -/
def follow (content : List UInt8) (p : Place) : Option Place :=
  if content.length ≤ p.pos then none
  else if (nextAt content p).toInt < 0 then none
  else (typeAt content p).map fun _ =>
    { offset := nextAt content p, b := headerAt content p }

/-- A block as it is listed. -/
def blockAt (content : List UInt8) (p : Place) (type : FMIBlockType) : FMIBlock :=
  { type := type, size := sizeAt content p, offset := p.offset + Int32.ofNat totalBlockHeaderSize }

/-- The loop from a place on. -/
def readFrom (fmi : FMIFile) (p : Place) (fuel : Nat) (blocks : List FMIBlock) : Option Opening :=
  readBlocks { fmi with file := { fmi.file with pos := p.pos } } fuel p.offset p.b blocks

section

variable {fmi : FMIFile} {content : List UInt8} {p q : Place} {blocks : List FMIBlock} {fuel : Nat}

@[simp] theorem length_headerAt (content : List UInt8) (p : Place) :
    (headerAt content p).length = p.b.length := by
  unfold headerAt RandomAccessFile.read
  split
  · rfl
  · split
    · rfl
    · have hslice : (slice content p.pos p.b.length).length ≤ p.b.length := by
        rw [slice, List.length_take]
        exact Nat.min_le_left _ _
      simp only [overlay, List.take_zero, List.nil_append, List.length_append, List.length_drop]
      omega

theorem follow_b (h : follow content p = some q) : q.b.length = p.b.length := by
  unfold follow at h
  split at h
  · cases h
  · split at h
    · cases h
    · obtain ⟨_, _, rfl⟩ := Option.map_eq_some_iff.mp h
      exact length_headerAt content p

/-- A round in front of the end of the file, by what its read brings. -/
theorem readFrom_succ (hb : p.b.length = totalBlockHeaderSize)
    (hpos : p.pos < fmi.file.content.length) :
    readFrom fmi p (fuel + 1) blocks =
      if (nextAt fmi.file.content p).toInt < 0 then
        some (.returns .failedIo
          { fmi with file := { fmi.file with pos := p.pos }, blocks := blocks })
      else
        match typeAt fmi.file.content p with
        | some type =>
            readFrom fmi { offset := nextAt fmi.file.content p, b := headerAt fmi.file.content p } fuel
              (blocks ++ [blockAt fmi.file.content p type])
        | none => some .nullPointer := by
  have hread : (RandomAccessFile.read { content := fmi.file.content, pos := p.pos } p.b).1 ≠ -1 := by
    unfold RandomAccessFile.read
    rw [if_neg (by rw [hb]; decide), if_neg (Nat.not_le_of_lt hpos)]
    dsimp only
    omega
  have hheader : (RandomAccessFile.read { content := fmi.file.content, pos := p.pos } p.b).2 =
      headerAt fmi.file.content p := rfl
  conv_lhs => rw [readFrom, readBlocks]
  dsimp only
  rw [if_neg hread]
  unfold typeAt
  show (if (nextAt fmi.file.content p).toInt < 0 then _ else _) = _
  split
  · rfl
  · rw [hheader]
    cases Format.fromValue (int16At (headerAt fmi.file.content p) 0) with
    | none => rfl
    | some format =>
      cases Id.fromValue (int16At (headerAt fmi.file.content p) 2) with
      | none => rfl
      | some id => rfl

/-- The loop goes on where there is a place to go on. -/
theorem readFrom_of_follow (hb : p.b.length = totalBlockHeaderSize)
    (h : follow fmi.file.content p = some q) :
    ∃ type, typeAt fmi.file.content p = some type ∧ ∀ fuel blocks, readFrom fmi p (fuel + 1) blocks
      = readFrom fmi q fuel (blocks ++ [blockAt fmi.file.content p type]) := by
  unfold follow at h
  split at h
  · cases h
  · next hpos =>
    split at h
    · cases h
    · next hseek =>
      obtain ⟨type, htype, rfl⟩ := Option.map_eq_some_iff.mp h
      refine ⟨type, htype, ?_⟩
      intro fuel blocks
      rw [readFrom_succ hb (Nat.lt_of_not_le hpos), if_neg hseek, htype]

/-- And else it is over: with `OK` at the end of the file only. -/
theorem readFrom_of_none (hb : p.b.length = totalBlockHeaderSize)
    (h : follow fmi.file.content p = none) :
    ∃ opening, readFrom fmi p (fuel + 1) blocks = some opening ∧
      ∀ fmi', opening = .returns .ok fmi' →
        fmi.file.content.length ≤ p.pos ∧ fmi'.blocks = blocks := by
  by_cases hpos : fmi.file.content.length ≤ p.pos
  · refine ⟨_, readBlocks_end fuel hb hpos, ?_⟩
    rintro fmi' ⟨⟩
    exact ⟨hpos, rfl⟩
  · rw [readFrom_succ hb (Nat.lt_of_not_le hpos)]
    unfold follow at h
    rw [if_neg hpos] at h
    split
    · exact ⟨_, rfl, nofun⟩
    · next hseek =>
      rw [if_neg hseek, Option.map_eq_none_iff] at h
      rw [h]
      exact ⟨_, rfl, nofun⟩

/-! ## The end of the loop -/

/-- The loop ends where following the sizes does. -/
theorem readFrom_ends_iff (hb : p.b.length = totalBlockHeaderSize) :
    (∃ fuel, readFrom fmi p fuel blocks ≠ none) ↔ Ends (follow fmi.file.content) p := by
  have hrounds := exists_rounds_iff (fun p => p.b.length = totalBlockHeaderSize) (fun _ => True)
    (fun fuel p blocks => readFrom fmi p fuel blocks ≠ none)
    (fun p q hfollow hb => (follow_b hfollow).trans hb) (fun p blocks hends => hends rfl)
    (fun p q blocks hb hfollow => by
      obtain ⟨type, _, hround⟩ := readFrom_of_follow hb hfollow
      exact ⟨blocks ++ [blockAt fmi.file.content p type], fun fuel => by rw [hround]⟩)
    (fun p blocks fuel hb hend => by
      obtain ⟨opening, hround, _⟩ := readFrom_of_none hb hend
      exact iff_of_true (by rw [hround]; exact Option.some_ne_none opening) trivial)
    hb blocks
  rw [hrounds]
  exact exists_congr fun e => and_congr_right fun _ => Iff.of_eq (and_true _)

instance finiteUInt8 : Finite UInt8 :=
  .of_injective (fun v => v.toBitVec.toFin) fun _ _ h =>
    UInt8.toBitVec_inj.mp (BitVec.toFin_inj.mp h)

instance finiteInt32 : Finite Int32 :=
  .of_injective (fun v => v.toBitVec.toFin) fun _ _ h =>
    Int32.toBitVec_inj.mp (BitVec.toFin_inj.mp h)

/-- The array keeps its length. Induction on the walk. -/
theorem reaches_b (h : Reaches (follow content) p q) : q.b.length = p.b.length := by
  induction h with
  | refl => rfl
  | tail _ hstep ih => exact (follow_b hstep).trans ih

/-- A file leads to finitely many places: an offset is a word and a header has eight bytes. -/
theorem finite_reaches (content : List UInt8) (p : Place) :
    {q | Reaches (follow content) p q}.Finite := by
  have hplaces : ((Set.univ : Set Int32).prod {b : List UInt8 | b.length = p.b.length}).Finite :=
    Set.finite_univ.prod (List.finite_length_eq UInt8 p.b.length)
  apply (hplaces.image fun place => Place.mk place.1 place.2).subset
  intro q hq
  exact ⟨(q.offset, q.b), ⟨Set.mem_univ _, reaches_b hq⟩, rfl⟩

end

/-- A file that is opened to read, behind the read of its header. -/
def openedRead (content : List UInt8) (header : FMIHeader) : FMIFile :=
  { file := { content := content, pos := totalHeaderSize }, mode := .read, header := header,
    blocks := [] }

/-- `readBlocks` of a file ends. -/
def ReadBlocksEnds (content : List UInt8) (header : FMIHeader) : Prop :=
  ∃ fuel, readBlocks (openedRead content header) fuel (Int32.ofNat totalHeaderSize)
    (List.replicate totalBlockHeaderSize 0) [] ≠ none

theorem readBlocksEnds_iff (content : List UInt8) (header : FMIHeader) :
    ReadBlocksEnds content header ↔ Ends (follow content) .start :=
  @readFrom_ends_iff (openedRead content header) .start [] List.length_replicate

/-- **When the loop ends.** Exactly when following the sizes comes to no place twice. -/
theorem readBlocks_ends_iff (content : List UInt8) (header : FMIHeader) :
    ReadBlocksEnds content header ↔ ¬ Returns (follow content) .start :=
  (readBlocksEnds_iff content header).trans
    (ends_iff_not_returns (finite_reaches content .start))

/-- A header, and a block that leads back to its own header. -/
def loopingFile : List UInt8 := headerImage ++ [1, 0, 0, 0, 0xF8, 0xFF, 0xFF, 0xFF]

/-- Opening it never returns. -/
theorem loopingFile_never_ends :
    ¬ (∀ content header, ReadBlocksEnds content header) ∧
      ∀ fuel, openFileRead fuel loopingFile = none := by
  have hfirst : follow loopingFile .start = some ⟨12, [1, 0, 0, 0, 0xF8, 0xFF, 0xFF, 0xFF]⟩ := by
    decide
  have hagain : follow loopingFile ⟨12, [1, 0, 0, 0, 0xF8, 0xFF, 0xFF, 0xFF]⟩
      = some ⟨12, [1, 0, 0, 0, 0xF8, 0xFF, 0xFF, 0xFF]⟩ := by
    decide
  have hreturns : Returns (follow loopingFile) .start := ⟨_, .single hfirst, .single hagain⟩
  have hnever : ∀ header, ¬ ReadBlocksEnds loopingFile header := by
    intro header hends
    exact not_returns_of_ends ((readBlocksEnds_iff _ header).mp hends) hreturns
  refine ⟨fun h => hnever .zeroed (h loopingFile .zeroed), ?_⟩
  intro fuel
  rw [loopingFile, openFileRead_image]
  by_contra hends
  exact hnever _ ⟨fuel, hends⟩

end Fpc.Fmi
