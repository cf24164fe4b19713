import Fingerprints.Tac.Client

/-!
# The file of the calibration image

`fpc_hal_pn.c` keeps the image of the calibration in a file. Saving one opens the file without emptying
it, and takes any number of bytes written above 0 for all of them. Loading takes the size of the image
from the file.

* **`fpcHalFsWrite_file`**: what the file holds behind a write: the bytes that were written, and then
  what it held there before;
* **`fpcLoadPn_complete`**: where the calls of a load work, it hands on what the file holds, below 2 GiB;
* **`loadsBack_iff`**: when an image that was saved is what a load hands on.
-/

namespace Fpc

open Wire

/-! ## Reading and writing -/

/-- What the system calls of `fpc_save_pn` do: whether the file opens, and the bytes that `write`
writes, unless it fails. -/
structure SaveCalls where
  openFile : Bool
  write : Option Nat
  deriving DecidableEq, Repr

/-- What the system calls of `fpc_load_pn` do, from `access` on: the file is opened for its size and
once more to be read. `malloc` gives a buffer or none, and `read` reads some bytes unless it fails. -/
structure LoadCalls where
  access : Bool
  openSize : Bool
  lseek : Bool
  closeSize : Bool
  malloc : Option (List UInt8)
  openRead : Bool
  read : Option Nat
  deriving DecidableEq, Repr

/-- `fpc_hal_fs_get_filesize`, for what is at the path: its result and the size. The offset of the end
is taken in an `int`. -/
def fpcHalFsGetFilesize (calls : LoadCalls) (file : Option (List UInt8)) : Int × UInt32 :=
  match file with
  | none => (-fpcErrorIo, 0)
  | some content =>
      if !calls.openSize then (-fpcErrorIo, 0)
      else if !calls.lseek then (-fpcErrorIo, 0)
      else
        let retval := toInt32 (UInt32.ofNat content.length)
        if retval = -1 then (-fpcErrorIo, 0)
        else if !calls.closeSize then (-fpcErrorIo, ofInt32 retval)
        else (0, ofInt32 retval)

/-- `fpc_hal_fs_read`: its result and the buffer. -/
def fpcHalFsRead (calls : LoadCalls) (file buf : Option (List UInt8)) (size : UInt32) :
    Int × Option (List UInt8) :=
  match buf with
  | none => (-fpcErrorInput, none)
  | some bytes =>
      match file with
      | none => (-fpcErrorIo, buf)
      | some content =>
          if !calls.openRead then (-fpcErrorIo, buf)
          else
            match calls.read with
            | none => (-fpcErrorIo, buf)
            | some count =>
                let read := content.take (min count size.toNat)
                (toInt32 (UInt32.ofNat read.length), some (overFront bytes read))

/-- `fpc_hal_fs_write`: its result and the file. -/
def fpcHalFsWrite (calls : SaveCalls) (file buf : Option (List UInt8)) (size : UInt32) :
    Int × Option (List UInt8) :=
  match buf with
  | none => (-fpcErrorInput, file)
  | some bytes =>
      if !calls.openFile then (-fpcErrorIo, file)
      else
        -- `O_CREAT`, and no `O_TRUNC`
        let content := file.getD []
        match calls.write with
        | none => (-fpcErrorIo, some content)
        | some count =>
            let written := bytes.take (min count size.toNat)
            (toInt32 (UInt32.ofNat written.length), some (written ++ content.drop written.length))

/-- `fpc_save_pn`: its result and the file. -/
def fpcSavePn (calls : SaveCalls) (file image : Option (List UInt8)) (imageSize : UInt32) :
    Int × Option (List UInt8) :=
  let (writtenBytes, file) := fpcHalFsWrite calls file image imageSize
  if writtenBytes ≤ 0 then (-1, file) else (0, file)

/-- `fpc_load_pn`: its result, and what it hands to `fpc_tee_pn_load`. Without a file there is nothing
to load. -/
def fpcLoadPn (calls : LoadCalls) (teePnLoad : Option (List UInt8) → UInt32 → Int)
    (file : Option (List UInt8)) : Int × Option (Option (List UInt8) × UInt32) :=
  if file.isSome && calls.access then
    let (status, imageSize) := fpcHalFsGetFilesize calls file
    if status ≠ 0 then (status, none)
    else
      let image := malloc calls.malloc imageSize.toNat
      let (readBytes, image) := fpcHalFsRead calls file image imageSize
      if readBytes ≤ 0 then (-1, none)
      else (teePnLoad image imageSize, some (image, imageSize))
  else (0, none)

/-! ## What a save leaves -/

section

variable {calls : SaveCalls} {file : Option (List UInt8)} {image : List UInt8} {imageSize : UInt32}

/-- A number of bytes is above 0 as an `int` when there are some, and less than 2 GiB. -/
theorem toInt32_pos_iff {n : Nat} (h : n < 2 ^ 32) :
    0 < toInt32 (UInt32.ofNat n) ↔ 0 < n ∧ n < 2 ^ 31 := by
  have hint : toInt32 (UInt32.ofNat n) = (n : Int).bmod (2 ^ 32) := by
    rw [toInt32, UInt32.toInt32_ofNat', Int32.toInt_ofNat']
    rfl
  rw [hint, Int.bmod_def]
  omega

/-- Where `write` writes, the file holds the bytes that were written, and behind them what it held
before. -/
theorem fpcHalFsWrite_file (hopen : calls.openFile = true) {count : Nat}
    (hwrite : calls.write = some count) (himage : image.length = imageSize.toNat) :
    fpcHalFsWrite calls file (some image) imageSize =
      (toInt32 (UInt32.ofNat (min count image.length)),
        some (image.take count ++ (file.getD []).drop (min count image.length))) := by
  have htake : image.take (min count imageSize.toNat) = image.take count := by
    rw [← himage, List.take_eq_take_iff]
    omega
  simp only [fpcHalFsWrite, hopen, hwrite, Bool.not_true, Bool.false_eq_true, if_false, htake,
    List.length_take]

/-- A save reports success when `write` wrote some bytes. -/
theorem fpcSavePn_ok_iff (himage : image.length = imageSize.toNat) :
    (fpcSavePn calls file (some image) imageSize).1 = 0 ↔
      calls.openFile = true ∧ ∃ count, calls.write = some count ∧
        0 < min count image.length ∧ min count image.length < 2 ^ 31 := by
  have hlt : image.length < 2 ^ 32 := himage ▸ imageSize.toNat_lt
  by_cases hopen : calls.openFile = true
  · cases hwrite : calls.write with
    | none => simp [fpcSavePn, fpcHalFsWrite, hopen, hwrite, fpcErrorIo]
    | some count =>
      have hpos := toInt32_pos_iff (n := min count image.length) (by omega)
      simp only [fpcSavePn, fpcHalFsWrite_file hopen hwrite himage, hopen, true_and,
        Option.some.injEq, exists_eq_left']
      rw [← hpos]
      split
      · next hnone => simp [Int.not_lt.mpr hnone]
      · next hsome => simp [Int.not_le.mp hsome]
  · simp [fpcSavePn, fpcHalFsWrite, hopen, fpcErrorIo]

/-- What it leaves in the file then. -/
theorem fpcSavePn_file (hopen : calls.openFile = true) {count : Nat}
    (hwrite : calls.write = some count) (himage : image.length = imageSize.toNat) :
    (fpcSavePn calls file (some image) imageSize).2 =
      some (image.take count ++ (file.getD []).drop (min count image.length)) := by
  simp only [fpcSavePn, fpcHalFsWrite_file hopen hwrite himage]
  split <;> rfl

/-- The file is the image where it held, behind the bytes that were written, what the image has
there. -/
theorem written_eq_iff (content image : List UInt8) (count : Nat) :
    image.take count ++ content.drop (min count image.length) = image ↔
      content.drop (min count image.length) = image.drop count := by
  conv_lhs => rhs; rw [← List.take_append_drop count image]
  rw [List.append_right_inj]

/-- So a whole write leaves the image where the file was no longer than it. -/
theorem leftover_whole {content : List UInt8} {count : Nat} (hwhole : image.length ≤ count) :
    content.drop (min count image.length) = image.drop count ↔ content.length ≤ image.length := by
  rw [min_eq_right hwhole, List.drop_of_length_le hwhole, List.drop_eq_nil_iff]

/-! ## What a load hands on -/

/-- The calls of a load work, and all of the file is read. -/
structure LoadCalls.Complete (calls : LoadCalls) (file : Option (List UInt8)) : Prop where
  access : calls.access = true
  openSize : calls.openSize = true
  lseek : calls.lseek = true
  closeSize : calls.closeSize = true
  malloc : calls.malloc ≠ none
  openRead : calls.openRead = true
  read : ∀ content ∈ file, ∃ count, calls.read = some count ∧ content.length ≤ count

/-- The size of a file of less than 2 GiB is asked for in full, and that of a larger one where it is
not taken for an error. -/
theorem fpcHalFsGetFilesize_complete {calls : LoadCalls} {content : List UInt8}
    (hcalls : calls.Complete (some content)) :
    fpcHalFsGetFilesize calls (some content) =
      if toInt32 (UInt32.ofNat content.length) = -1 then (-fpcErrorIo, 0)
      else (0, UInt32.ofNat content.length) := by
  simp only [fpcHalFsGetFilesize, hcalls.openSize, hcalls.lseek, hcalls.closeSize, Bool.not_true,
    Bool.false_eq_true, if_false, ofInt32_toInt32]

/-- All of the file is read into a buffer of its size. -/
theorem fpcHalFsRead_complete {calls : LoadCalls} {content : List UInt8}
    (hcalls : calls.Complete (some content)) (hlt : content.length < 2 ^ 32) (bytes : List UInt8) :
    fpcHalFsRead calls (some content) (malloc (some bytes) content.length)
        (UInt32.ofNat content.length) =
      (toInt32 (UInt32.ofNat content.length), some content) := by
  obtain ⟨count, hread, hcount⟩ := hcalls.read content rfl
  have htake : content.take (min count content.length) = content := List.take_of_length_le (by omega)
  have hbuf : overFront (ofList content.length 0 bytes).toList content = content :=
    overFront_eq Vector.length_toList.symm
  simp only [fpcHalFsRead, malloc, Option.map_some, hcalls.openRead, Bool.not_true, Bool.false_eq_true,
    if_false, hread, UInt32.toNat_ofNat_of_lt' hlt, htake, hbuf]

/-- A load whose calls work hands on the file and its size, where it is not empty and has less than
2 GiB. -/
theorem fpcLoadPn_complete {calls : LoadCalls} {content : List UInt8}
    (hcalls : calls.Complete (some content)) (teePnLoad : Option (List UInt8) → UInt32 → Int)
    (hpos : 0 < content.length) (hlt : content.length < 2 ^ 32) :
    (fpcLoadPn calls teePnLoad (some content)).2 =
      if content.length < 2 ^ 31 then some (some content, UInt32.ofNat content.length) else none := by
  obtain ⟨bytes, hmalloc⟩ := Option.ne_none_iff_exists'.mp hcalls.malloc
  have hint := toInt32_pos_iff hlt
  rw [fpcLoadPn, Option.isSome_some, hcalls.access, Bool.and_self, if_pos rfl,
    fpcHalFsGetFilesize_complete hcalls]
  by_cases hsmall : content.length < 2 ^ 31
  · have hsize : 0 < toInt32 (UInt32.ofNat content.length) := hint.mpr ⟨hpos, hsmall⟩
    rw [if_neg (by omega), if_pos hsmall]
    simp only [ne_eq, not_true_eq_false, if_false, hmalloc, UInt32.toNat_ofNat_of_lt' hlt,
      fpcHalFsRead_complete hcalls hlt, if_neg (Int.not_le.mpr hsize)]
  · have hsize : ¬ 0 < toInt32 (UInt32.ofNat content.length) := fun h => hsmall (hint.mp h).2
    rw [if_neg hsmall]
    by_cases hminus : toInt32 (UInt32.ofNat content.length) = -1
    · rw [if_pos hminus]
      rfl
    · rw [if_neg hminus]
      simp only [ne_eq, not_true_eq_false, if_false, hmalloc, UInt32.toNat_ofNat_of_lt' hlt,
        fpcHalFsRead_complete hcalls hlt, if_pos (Int.not_lt.mp hsize)]

/-! ## The round trip -/

/-- If the save reports success, the file is the image, and a load whose calls work hands it on. -/
def LoadsBack (calls : SaveCalls) (file : Option (List UInt8)) (image : List UInt8)
    (imageSize : UInt32) : Prop :=
  (fpcSavePn calls file (some image) imageSize).1 = 0 →
    let saved := (fpcSavePn calls file (some image) imageSize).2
    saved = some image ∧
      ∀ (loadCalls : LoadCalls) (teePnLoad : Option (List UInt8) → UInt32 → Int),
        loadCalls.Complete saved → (fpcLoadPn loadCalls teePnLoad saved).2 = some (some image, imageSize)

/-- Where `write` writes some bytes, less than 2 GiB, the file holds behind them what the image has
there, and all of the image is less than 2 GiB. -/
def NothingLeft (calls : SaveCalls) (file : Option (List UInt8)) (image : List UInt8) : Prop :=
  calls.openFile = true → ∀ count, calls.write = some count →
    0 < min count image.length → min count image.length < 2 ^ 31 →
    (file.getD []).drop (min count image.length) = image.drop count ∧ image.length < 2 ^ 31

/-- An image that was saved loads back exactly when nothing else is left in the file. -/
theorem loadsBack_iff (himage : image.length = imageSize.toNat) :
    LoadsBack calls file image imageSize ↔ NothingLeft calls file image := by
  have hlt : image.length < 2 ^ 32 := himage ▸ imageSize.toNat_lt
  have hsize : UInt32.ofNat image.length = imageSize := by rw [himage, UInt32.ofNat_toNat]
  unfold LoadsBack NothingLeft
  rw [fpcSavePn_ok_iff himage]
  constructor
  · intro h hopen count hwrite hpos hwritten
    obtain ⟨hsaved, hload⟩ := h ⟨hopen, count, hwrite, hpos, hwritten⟩
    have hleft := hsaved
    rw [fpcSavePn_file hopen hwrite himage, Option.some.injEq, written_eq_iff] at hleft
    refine ⟨hleft, ?_⟩
    -- a load that works is asked for, to see that the size of the image is no obstacle
    have hcomplete : LoadCalls.Complete ⟨true, true, true, true, some [], true, some image.length⟩
        (some image) :=
      { access := rfl, openSize := rfl, lseek := rfl, closeSize := rfl, malloc := by simp
        openRead := rfl, read := fun content hcontent => ⟨_, rfl, by
          rw [Option.mem_some_iff.mp hcontent]⟩ }
    rw [hsaved] at hload
    have hhanded := hload _ (fun _ _ => 0) hcomplete
    rw [fpcLoadPn_complete hcomplete _ (by omega) hlt] at hhanded
    by_contra hbig
    rw [if_neg hbig] at hhanded
    cases hhanded
  · intro h hok
    obtain ⟨hopen, count, hwrite, hpos, hwritten⟩ := hok
    obtain ⟨hleft, hsmall⟩ := h hopen count hwrite hpos hwritten
    have hsaved : (fpcSavePn calls file (some image) imageSize).2 = some image := by
      rw [fpcSavePn_file hopen hwrite himage, (written_eq_iff _ image count).mpr hleft]
    refine ⟨hsaved, ?_⟩
    intro loadCalls teePnLoad hcomplete
    rw [hsaved] at hcomplete ⊢
    rw [fpcLoadPn_complete hcomplete teePnLoad (by omega) hlt, if_pos hsmall, hsize]

end

/-- An image over a shorter one. -/
theorem saveWhole_loadsBack :
    LoadsBack ⟨true, some 2⟩ (some [7]) [9, 8] 2 ∧
      (fpcSavePn ⟨true, some 2⟩ (some [7]) (some [9, 8]) 2).1 = 0 := by
  have hnothing : NothingLeft ⟨true, some 2⟩ (some [7]) [9, 8] := by
    intro _ count hwrite _ _
    obtain rfl := Option.some.inj hwrite
    decide
  exact ⟨(loadsBack_iff rfl).mpr hnothing, by decide⟩

/-- An image over a longer one, all of it written. The end of the longer one stays behind it. -/
theorem saveOver_leftover :
    ¬ ∀ (calls : SaveCalls) (file : Option (List UInt8)) (image : List UInt8) (imageSize : UInt32),
      image.length = imageSize.toNat → 0 < image.length → LoadsBack calls file image imageSize := by
  intro h
  have hsaved := (h ⟨true, some 2⟩ (some [7, 6, 5]) [9, 8] 2 rfl (by decide) (by decide)).1
  revert hsaved
  decide

end Fpc
