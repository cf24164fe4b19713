import Fingerprints.Fmi.Walk

/-!
# Files that are opened

What `openFile` accepts to read. A file too short for a header is accepted without a look at its
signature, and a header of a block may be cut off, a size may be negative, and a block may go past the
end of the file.

* **`Sound`**: a block of which none of this holds;
* **`readFrom_ok_iff`**: a file that is opened lists blocks that tile it exactly when the sizes lead to
  sound blocks only;
* **`opensWellFormed_iff`**: so files that are opened are well formed but for those that are too short
  and those whose sizes lead through a block that is not sound off the end of the file.
-/

namespace Fpc.Fmi

open Wire Runs StateTransition

/-! ## Well-formed files -/

/-- Blocks lie one behind the other from a position up to the end of the file: the eight bytes of each
header are in the file and give the type and the size, and a size is not negative. -/
def Tiles (content : List UInt8) : (pos : Nat) → List FMIBlock → Prop
  | pos, [] => pos = content.length
  | pos, block :: rest =>
      (pos + totalBlockHeaderSize ≤ content.length ∧ 0 ≤ block.size.toInt ∧
        block.offset.toInt = pos + totalBlockHeaderSize ∧
        Format.fromValue (int16At (slice content pos totalBlockHeaderSize) 0) = some block.type.format ∧
        Id.fromValue (int16At (slice content pos totalBlockHeaderSize) 2) = some block.type.id ∧
        int32At (slice content pos totalBlockHeaderSize) 4 = block.size) ∧
      Tiles content (pos + totalBlockHeaderSize + block.size.toInt.toNat) rest

/-- A file with these blocks: it begins with a whole header, and the blocks tile the rest. -/
def WellFormed (content : List UInt8) (blocks : List FMIBlock) : Prop :=
  content.take 4 = signature ∧ totalHeaderSize ≤ content.length ∧
    Tiles content totalHeaderSize blocks

/-- What is opened to read is well formed. -/
def OpensWellFormed (content : List UInt8) : Prop :=
  ∀ fuel fmi, openFileRead fuel content = some (.returns .ok fmi) → WellFormed content fmi.blocks

/-- The block at a place: its header is whole, its size is not negative, and its data ends within the
file, at an offset that an `int` holds. -/
structure Sound (content : List UInt8) (p : Place) : Prop where
  header : p.pos + totalBlockHeaderSize ≤ content.length
  size : 0 ≤ (sizeAt content p).toInt
  data : p.pos + totalBlockHeaderSize + (sizeAt content p).toInt ≤ content.length
  offset : p.pos + totalBlockHeaderSize + (sizeAt content p).toInt < 2 ^ 31

/-- The sizes lead off the end of the file. -/
def LeadsOff (content : List UInt8) (p : Place) : Prop :=
  ∃ q, Reaches (follow content) p q ∧ content.length ≤ q.pos

section

variable {fmi : FMIFile} {content : List UInt8} {p q : Place} {blocks : List FMIBlock} {fuel : Nat}

theorem Tiles.le {pos : Nat} (h : Tiles content pos blocks) : pos ≤ content.length := by
  induction blocks generalizing pos with
  | nil => exact Nat.le_of_eq h
  | cons block rest ih =>
    have hrest := ih h.2
    omega

/-- What a block leads to. -/
theorem follow_eq_some (h : follow content p = some q) :
    p.pos < content.length ∧ 0 ≤ (nextAt content p).toInt ∧
      q = { offset := nextAt content p, b := headerAt content p } := by
  unfold follow at h
  split at h
  · cases h
  · next hpos =>
    split at h
    · cases h
    · next hseek =>
      obtain ⟨_, _, rfl⟩ := Option.map_eq_some_iff.mp h
      exact ⟨Nat.lt_of_not_le hpos, Int.not_lt.mp hseek, rfl⟩

/-- A header that is whole is in the file. -/
theorem headerAt_eq (hb : p.b.length = totalBlockHeaderSize)
    (h : p.pos + totalBlockHeaderSize ≤ content.length) :
    headerAt content p = slice content p.pos totalBlockHeaderSize := by
  have hlength : (slice content p.pos totalBlockHeaderSize).length = totalBlockHeaderSize := by
    rw [slice, List.length_take, List.length_drop]
    omega
  unfold headerAt RandomAccessFile.read
  rw [if_neg (by rw [hb]; decide), if_neg (by dsimp only; unfold totalBlockHeaderSize at h; omega)]
  dsimp only
  rw [hb, overlay, List.take_zero, List.nil_append, Nat.zero_add, hlength, ← hb, List.drop_length,
    List.append_nil]

/-- The next offset, where the words do not overflow. -/
theorem nextAt_toInt (hp : 0 ≤ p.offset.toInt) (hoffset : p.pos + totalBlockHeaderSize < 2 ^ 31)
    (hsize : 0 ≤ (sizeAt content p).toInt) (hnext : 0 ≤ (nextAt content p).toInt) :
    (nextAt content p).toInt = p.pos + totalBlockHeaderSize + (sizeAt content p).toInt := by
  have hpos : (p.pos : Int) = p.offset.toInt := Int.toNat_of_nonneg hp
  have hlt := (sizeAt content p).toInt_lt
  have hheader : (Int32.ofNat totalBlockHeaderSize).toInt = totalBlockHeaderSize := by decide
  unfold nextAt at hnext ⊢
  rw [Int32.toInt_add, Int32.toInt_add, hheader, ← hpos, Int.bmod_add_bmod] at hnext ⊢
  simp only [totalBlockHeaderSize, Int.bmod_def] at *
  split at hnext
  · next hbelow =>
    rw [if_pos hbelow]
    omega
  · omega

/-- A sound block leads to the byte behind its data. -/
theorem Sound.pos (h : Sound content p) (hp : 0 ≤ p.offset.toInt)
    (hfollow : follow content p = some q) :
    q.pos = p.pos + totalBlockHeaderSize + (sizeAt content p).toInt.toNat := by
  obtain ⟨_, hnext, rfl⟩ := follow_eq_some hfollow
  have hsize := h.size
  have hoffset := h.offset
  have heq := nextAt_toInt hp (by omega) hsize hnext
  unfold Place.pos at heq ⊢
  dsimp only
  omega

/-- The format and the identity of a known type. -/
theorem typeAt_eq_some {type : FMIBlockType} (h : typeAt content p = some type) :
    Format.fromValue (int16At (headerAt content p) 0) = some type.format ∧
      Id.fromValue (int16At (headerAt content p) 2) = some type.id := by
  obtain ⟨format, hformat, hrest⟩ := Option.bind_eq_some_iff.mp h
  obtain ⟨id, hid, rfl⟩ := Option.map_eq_some_iff.mp hrest
  exact ⟨hformat, hid⟩

/-- A sound block that is listed tiles the file with what is listed behind it. -/
theorem Sound.tiles_iff {type : FMIBlockType} (h : Sound content p)
    (hb : p.b.length = totalBlockHeaderSize) (hp : 0 ≤ p.offset.toInt)
    (htype : typeAt content p = some type) (hfollow : follow content p = some q) :
    Tiles content p.pos (blockAt content p type :: blocks) ↔ Tiles content q.pos blocks := by
  have hpos : (p.pos : Int) = p.offset.toInt := Int.toNat_of_nonneg hp
  have hsize := h.size
  have hoffset := h.offset
  have hlisted : (p.offset + Int32.ofNat totalBlockHeaderSize).toInt
      = p.pos + totalBlockHeaderSize := by
    have hheader : (Int32.ofNat totalBlockHeaderSize).toInt = totalBlockHeaderSize := by decide
    rw [Int32.toInt_add, hheader, hpos]
    apply Int.bmod_eq_of_le <;> unfold totalBlockHeaderSize at * <;> omega
  obtain ⟨hformat, hid⟩ := typeAt_eq_some htype
  rw [headerAt_eq hb h.header] at hformat hid
  rw [h.pos hp hfollow]
  constructor
  · exact fun htiles => htiles.2
  · intro hrest
    refine ⟨⟨h.header, hsize, hlisted, hformat, hid, ?_⟩, hrest⟩
    rw [← headerAt_eq hb h.header]
    rfl

/-- A block that is listed where it tiles the file is sound. -/
theorem sound_of_tiles {type : FMIBlockType} (hp : 0 ≤ p.offset.toInt)
    (hfollow : follow content p = some q)
    (htiles : Tiles content p.pos (blockAt content p type :: blocks)) : Sound content p := by
  obtain ⟨⟨hheader, hsize, hlisted, _⟩, hrest⟩ := htiles
  obtain ⟨_, hnext, _⟩ := follow_eq_some hfollow
  have hend := hrest.le
  have hlt := (p.offset + Int32.ofNat totalBlockHeaderSize).toInt_lt
  have hlt' := (nextAt content p).toInt_lt
  simp only [blockAt] at hsize hlisted hend
  have heq := nextAt_toInt hp (by omega) hsize hnext
  exact ⟨hheader, hsize, by omega, by omega⟩

/-! ## What is opened -/

/-- The loop ends with `OK` where the sizes lead off the end of the file. -/
theorem readFrom_ok_iff (hb : p.b.length = totalBlockHeaderSize) :
    (∃ fuel fmi', readFrom fmi p fuel blocks = some (.returns .ok fmi')) ↔
      LeadsOff fmi.file.content p := by
  have hrounds := exists_rounds_iff (fun p => p.b.length = totalBlockHeaderSize)
    (fun p => fmi.file.content.length ≤ p.pos)
    (fun fuel p blocks => ∃ fmi', readFrom fmi p fuel blocks = some (.returns .ok fmi'))
    (fun p q hfollow hb => (follow_b hfollow).trans hb) (fun p blocks => by rintro ⟨_, ⟨⟩⟩)
    (fun p q blocks hb hfollow => by
      obtain ⟨type, _, hround⟩ := readFrom_of_follow hb hfollow
      exact ⟨blocks ++ [blockAt fmi.file.content p type], fun fuel => by rw [hround]⟩)
    (fun p blocks fuel hb hend => by
      obtain ⟨opening, hround, hover⟩ := readFrom_of_none hb hend
      constructor
      · rintro ⟨fmi', hok⟩
        rw [hround] at hok
        exact (hover fmi' (Option.some.inj hok)).1
      · intro hbehind
        exact ⟨_, readBlocks_end fuel hb hbehind⟩)
    hb blocks
  rw [hrounds]
  -- behind the end of the file there is no next place
  refine exists_congr fun e => and_congr_right fun _ => and_iff_right_of_imp ?_
  exact fun hbehind => if_pos hbehind

/-- What is asked of the blocks on the way is asked of the first one and of the others. -/
theorem forall_reaches_iff {R : Place → Prop} (hfollow : follow content p = some q) :
    (∀ r, Reaches (follow content) p r → R r) ↔
      R p ∧ ∀ r, Reaches (follow content) q r → R r := by
  constructor
  · intro h
    exact ⟨h p .refl, fun r hr => h r (.head hfollow hr)⟩
  · rintro ⟨hfirst, hrest⟩ r hr
    obtain rfl | ⟨q', hq', hr⟩ := Relation.ReflTransGen.cases_head hr
    · exact hfirst
    · obtain rfl : q = q' := Option.mem_unique hfollow hq'
      exact hrest r hr

/-- The blocks of a file that is opened tile it exactly when all blocks on the way are sound.
Induction on the rounds. -/
theorem readFrom_tiles_iff {fmi' : FMIFile} (hb : p.b.length = totalBlockHeaderSize)
    (hp : 0 ≤ p.offset.toInt) (hpos : p.pos ≤ fmi.file.content.length)
    (hok : readFrom fmi p fuel blocks = some (.returns .ok fmi')) :
    ∃ listed, fmi'.blocks = blocks ++ listed ∧ (Tiles fmi.file.content p.pos listed ↔
      ∀ q, Reaches (follow fmi.file.content) p q → q.pos < fmi.file.content.length →
        Sound fmi.file.content q) := by
  induction fuel generalizing p blocks with
  | zero => cases hok
  | succ fuel ih =>
    cases hfollow : follow fmi.file.content p with
    | none =>
      obtain ⟨opening, hround, hend⟩ := readFrom_of_none hb hfollow
      rw [hround] at hok
      obtain ⟨hbehind, hblocks⟩ := hend fmi' (Option.some.inj hok)
      refine ⟨[], by rw [hblocks, List.append_nil], fun _ => ?_, fun _ => Nat.le_antisymm hpos hbehind⟩
      intro q hq hinside
      rw [eq_of_reaches_end hfollow hq] at hinside
      omega
    | some q =>
      obtain ⟨type, htype, hround⟩ := readFrom_of_follow hb hfollow
      rw [hround] at hok
      obtain ⟨hinside, hnext, hq⟩ := follow_eq_some hfollow
      have hbq := (follow_b hfollow).trans hb
      by_cases hsound : Sound fmi.file.content p
      · have hposq : q.pos ≤ fmi.file.content.length := by
          have hsize := hsound.size
          have hdata := hsound.data
          rw [hsound.pos hp hfollow]
          omega
        obtain ⟨listed, hblocks, htiles⟩ := ih hbq (by rw [hq]; exact hnext) hposq hok
        refine ⟨blockAt fmi.file.content p type :: listed, by rw [hblocks, List.append_assoc]; rfl, ?_⟩
        rw [hsound.tiles_iff hb hp htype hfollow, htiles, forall_reaches_iff hfollow]
        exact ⟨fun hrest => ⟨fun _ => hsound, hrest⟩, fun hall => hall.2⟩
      · -- the blocks do not tile the file, whatever comes behind this one
        obtain ⟨listed, hblocks⟩ := readBlocks_front hok
        refine ⟨blockAt fmi.file.content p type :: listed, ?_, ?_, ?_⟩
        · rw [← hblocks, List.append_assoc]
          rfl
        · intro htiles
          exact absurd (sound_of_tiles hp hfollow htiles) hsound
        · intro hall
          exact absurd (hall p .refl hinside) hsound

end

/-- Opening a file reads its header, and its blocks from behind it. -/
theorem openFileRead_ok_iff {content : List UInt8} {fuel : Nat} {fmi : FMIFile} :
    openFileRead fuel content = some (.returns .ok fmi) ↔
      (readHeader content .zeroed).1 = .ok ∧
        readFrom (openedRead content (readHeader content .zeroed).2) .start fuel []
          = some (.returns .ok fmi) := by
  unfold openFileRead
  dsimp only
  split
  · next hheader => exact ⟨fun h => ⟨hheader, h⟩, fun h => h.2⟩
  · next hheader =>
    constructor
    · intro h
      injection h with h
      injection h with h _
      exact absurd h hheader
    · exact fun h => absurd h.1 hheader

/-- A header that is too short is taken as it is, and a whole one by its signature. -/
theorem readHeader_ok_iff (content : List UInt8) (header : FMIHeader) :
    (readHeader content header).1 = .ok ↔
      (totalHeaderSize ≤ content.length → content.take 4 = signature) := by
  unfold readHeader
  split
  · next hlong =>
    split
    · next hsignature => exact ⟨fun _ _ => hsignature, fun _ => rfl⟩
    · next hsignature => exact ⟨nofun, fun h => absurd (h hlong) hsignature⟩
  · next hshort => exact ⟨fun _ hlong => absurd hlong hshort, fun _ => rfl⟩

/-- Who is on the way off the end of a file is led off it. -/
theorem leadsOff_of_reaches {content : List UInt8} {p q : Place} (h : LeadsOff content p)
    (hq : Reaches (follow content) p q) (hinside : q.pos < content.length) :
    LeadsOff content q := by
  obtain ⟨e, he, hend⟩ := h
  cases reaches_total hq he with
  | inl hforward => exact ⟨e, hforward, hend⟩
  | inr hbackward =>
    have hover : follow content e = none := if_pos hend
    rw [eq_of_reaches_end hover hbackward] at hinside
    omega

/-- **When what is opened is well formed.** Exactly when the file is not too short for a header and,
where it has the signature, no block that is not sound lies on the way off the end of the file. -/
theorem opensWellFormed_iff (content : List UInt8) :
    OpensWellFormed content ↔ totalHeaderSize ≤ content.length ∧
      (content.take 4 = signature → ∀ p, Reaches (follow content) .start p →
        p.pos < content.length → LeadsOff content p → Sound content p) := by
  have hstart : Place.start.b.length = totalBlockHeaderSize := List.length_replicate
  have hpos : Place.start.pos = totalHeaderSize := by decide
  have hreads := @readFrom_ok_iff (openedRead content (readHeader content .zeroed).2) .start [] hstart
  have htiles {fuel : Nat} {fmi : FMIFile} (hlong : totalHeaderSize ≤ content.length)
      (hok : readFrom (openedRead content (readHeader content .zeroed).2) .start fuel []
        = some (.returns .ok fmi)) :
      Tiles content totalHeaderSize fmi.blocks ↔ ∀ q, Reaches (follow content) .start q →
        q.pos < content.length → Sound content q := by
    obtain ⟨listed, hblocks, htiles⟩ := readFrom_tiles_iff hstart (by decide) (hpos.le.trans hlong) hok
    rw [hblocks, List.nil_append, ← hpos]
    exact htiles
  constructor
  · intro hopens
    have hlong : totalHeaderSize ≤ content.length := by
      by_contra hshort
      obtain ⟨fuel, fmi, hok⟩ := hreads.mpr ⟨.start, .refl, Nat.le_of_not_le hshort⟩
      have hheader := (readHeader_ok_iff content .zeroed).mpr fun hlong => absurd hlong hshort
      exact hshort (hopens fuel fmi (openFileRead_ok_iff.mpr ⟨hheader, hok⟩)).2.1
    refine ⟨hlong, ?_⟩
    intro hsignature p hp hinside hoff
    obtain ⟨e, he, hend⟩ := hoff
    obtain ⟨fuel, fmi, hok⟩ := hreads.mpr ⟨e, hp.trans he, hend⟩
    have hheader := (readHeader_ok_iff content .zeroed).mpr fun _ => hsignature
    have hwell := hopens fuel fmi (openFileRead_ok_iff.mpr ⟨hheader, hok⟩)
    exact (htiles hlong hok).mp hwell.2.2 p hp hinside
  · rintro ⟨hlong, hsound⟩ fuel fmi hopen
    obtain ⟨hheader, hok⟩ := openFileRead_ok_iff.mp hopen
    have hsignature := (readHeader_ok_iff content .zeroed).mp hheader hlong
    have hoff := hreads.mp ⟨fuel, fmi, hok⟩
    refine ⟨hsignature, hlong, (htiles hlong hok).mpr ?_⟩
    intro q hq hinside
    exact hsound hsignature q hq hinside (leadsOff_of_reaches hoff hq hinside)

/-- A header, and a block of four bytes that are not there. -/
def cutOffFile : List UInt8 := headerImage ++ [1, 0, 0, 0, 4, 0, 0, 0]

/-- It is opened, and so is a file without a signature that is too short for one. -/
theorem cutOffFile_opens : ¬ OpensWellFormed cutOffFile ∧ ¬ OpensWellFormed [0x2E, 0x46] := by
  constructor
  · intro hopens
    have hwell := hopens 2 _ rfl
    exact absurd hwell.2.2.2 (by unfold Tiles; decide)
  · intro hopens
    have hwell := hopens 1 _ rfl
    exact absurd hwell.2.1 (by decide)

end Fpc.Fmi
