import Fingerprints.Hal.Device

/-!
# Tasks of the engineering captures

`do_capture`, `do_verify` and `do_enroll` of `fpc_hal_ext_engineering.c`, from the result of one call to
the next. What the calls of the client library and the allocations return is arbitrary here, and calls
whose results are not used are left out. A field of a record is `none` until it is written.

* **`captureImages_captures`**: what the images of a capture leave in the record, and which of them are
  lost when `do_enroll` captures again;
* **`taskStep_nextInv`**: what a task finds in its record at each place.
-/

namespace Fpc.CaptureRecords

open Wire

def enomem : Int := 12

/-- `REMAINING_UNKNOWN` -/
def remainingUnknown : Int := -1

/-! ## The record -/

/-- `fpc_hal_img_type_t` -/
inductive ImageType
  | raw
  | preprocessed
  deriving DecidableEq, Repr

/-- `fpc_hal_img_data_t`. What was never written is `none`, and the null pointer is `some none`. The
buffers of a task are numbered as it allocates them. -/
structure ImageData where
  imageType : Option ImageType
  buffer : Option (Option Nat)
  bufferSize : Option Nat
  deriving DecidableEq, Repr

/-- `fpc_capture_mode_t` -/
inductive CaptureMode
  | capture
  | verify
  | enroll
  deriving DecidableEq, Repr

/-- `fpc_capture_data_t` -/
structure CaptureData where
  mode : Option CaptureMode
  captureResult : Option Int
  templateUpdateResult : Option Int
  identifyResult : Option Int
  enrollResult : Option Int
  cacResult : Option Int
  userId : Option UInt32
  samplesRemaining : Option Int
  coverage : Option Int
  quality : Option Int
  rawImage : ImageData
  enhancedImage : ImageData
  deriving DecidableEq, Repr

/-- The record in front of its `memset`. -/
def CaptureData.unwritten : CaptureData where
  mode := none
  captureResult := none
  templateUpdateResult := none
  identifyResult := none
  enrollResult := none
  cacResult := none
  userId := none
  samplesRemaining := none
  coverage := none
  quality := none
  rawImage := ⟨none, none, none⟩
  enhancedImage := ⟨none, none, none⟩

/-- The record behind its `memset`, with its mode. -/
def CaptureData.zeroed (mode : CaptureMode) : CaptureData where
  mode := some mode
  captureResult := some 0
  templateUpdateResult := some 0
  identifyResult := some 0
  enrollResult := some 0
  cacResult := some 0
  userId := some 0
  samplesRemaining := some 0
  coverage := some 0
  quality := some 0
  rawImage := ⟨some .raw, some none, some 0⟩
  enhancedImage := ⟨some .raw, some none, some 0⟩

/-- All fields are written. -/
def ImageData.written (image : ImageData) : Bool :=
  image.imageType.isSome && image.buffer.isSome && image.bufferSize.isSome

def CaptureData.written (data : CaptureData) : Bool :=
  data.mode.isSome && data.captureResult.isSome && data.templateUpdateResult.isSome &&
    data.identifyResult.isSome && data.enrollResult.isSome && data.cacResult.isSome &&
    data.userId.isSome && data.samplesRemaining.isSome && data.coverage.isSome &&
    data.quality.isSome && data.rawImage.written && data.enhancedImage.written

/-! ## Images -/

/-- What `fpc_hal_ext_get_raw_image` meets: the size, the allocation, and the retrieval. -/
structure RawFetch where
  sizeStatus : Int
  size : UInt32
  allocates : Bool
  retrieve : Int
  deriving DecidableEq, Repr

/-- What `fpc_hal_ext_get_enhanced_image` meets. -/
structure EnhancedFetch where
  allocates : Bool
  retrieve : Int
  deriving DecidableEq, Repr

/-- What a call of `capture_images` meets: whether an image is injected, the status of the injection or of
the capture, and the images. -/
structure Capture where
  injected : Bool
  status : Int
  cacResult : Int
  raw : RawFetch
  enhanced : EnhancedFetch
  deriving DecidableEq, Repr

/-- `fpc_hal_ext_get_raw_image`: its status, the image, and the buffers that the task has allocated. -/
def getRawImage (f : RawFetch) (image : ImageData) (allocated : Nat) : Int × ImageData × Nat :=
  if f.sizeStatus ≠ 0 then (f.sizeStatus, { image with bufferSize := some 0 }, allocated)
  else
    let image := { image with bufferSize := some f.size.toNat, imageType := some .raw }
    if f.allocates then
      (f.retrieve, { image with buffer := some (some allocated) }, allocated + 1)
    else (-enomem, { image with buffer := some none }, allocated)

/-- `fpc_hal_ext_get_enhanced_image`. The size is the one of the sensor. -/
def getEnhancedImage (sensorSize : Nat) (f : EnhancedFetch) (image : ImageData) (allocated : Nat) :
    Int × ImageData × Nat :=
  let image := { image with bufferSize := some sensorSize }
  if f.allocates then
    let image := { image with buffer := some (some allocated) }
    if f.retrieve ≠ 0 then (f.retrieve, image, allocated + 1)
    else (0, { image with imageType := some .preprocessed }, allocated + 1)
  else (-enomem, { image with buffer := some none }, allocated)

/-- `capture_images` -/
def captureImages (sensorSize : Nat) (c : Capture) (data : CaptureData) (allocated : Nat) :
    Int × CaptureData × Nat :=
  let data := if c.injected then data else { data with cacResult := some c.cacResult }
  if c.status = fpcCaptureOk then
    let data := { data with captureResult := some halCompatAcquiredGood }
    let (status, image, allocated) := getRawImage c.raw data.rawImage allocated
    let data := { data with rawImage := image }
    if status ≠ 0 then (status, data, allocated)
    else
      let (status, image, allocated) :=
        getEnhancedImage sensorSize c.enhanced data.enhancedImage allocated
      (status, { data with enhancedImage := image }, allocated)
  else if c.status = fpcCaptureFingerLost then
    (c.status, { data with captureResult := some halCompatAcquiredTooFast }, allocated)
  else if c.status = fpcCaptureBadQuality then
    (c.status, { data with captureResult := some halCompatAcquiredInsufficient }, allocated)
  else
    -- the cases of the two errors say what the default says
    (c.status, { data with captureResult := some c.status }, allocated)

/-- `free` of the buffer of an image. A pointer that was never written is `none`. -/
def freeImage (image : ImageData) : List (Option Nat) :=
  match image.buffer with
  | none => [none]
  | some none => []
  | some (some buffer) => [some buffer]

/-- `fpc_hal_ext_free_image` -/
def ImageData.afterFree (image : ImageData) : ImageData :=
  { image with buffer := some none, bufferSize := some 0 }

/-! ## Tasks -/

/-- The arguments of `start_capture`. A null pointer is `none`, and so is a mode that is none of the
three. -/
structure Request (C : Type) where
  callback : Option C
  ctx : Option C
  mode : Option CaptureMode

/-- `engineering_module_t`: what captures share in it. -/
structure Module (C : Type) where
  captureCb : Option C
  captureCbCtx : Option C

/-- A record that a callback is given, with the context. -/
structure Report (C : Type) where
  callback : C
  ctx : C
  data : CaptureData

/-- Where a task waits for the result of a call. -/
inductive TaskPlace
  | capture
  | loadTestDb
  | verify
  | identify
  | updateTemplate
  | deleteTestDb
  | beginEnrol
  | enrolImages
  | enrol
  | endEnrol
  | saveTestDb (id : UInt32)
  deriving DecidableEq, Repr

/-- A task: the call that started it, the place, the record, the buffers it has allocated and what it has
freed, and the records that it has given away. -/
structure Task (C : Type) where
  request : Request C
  place : TaskPlace
  data : CaptureData
  allocated : Nat
  freed : List (Option Nat)
  reports : List (Report C)

/-- The result of a call of a task. With that of a load comes what lies in `samples_remaining` where it
was never written. -/
inductive TaskResult
  | captureImages (c : Capture)
  | loadTestDb (status stale : Int)
  | identify (status : Int) (id : UInt32)
  | updateTemplate (status : Int)
  | deleteTestDb (status : Int)
  | beginEnrol (status : Int)
  | enrol (status : Int) (remaining : UInt32)
  | endEnrol (status : Int) (id : UInt32)
  | saveTestDb (status : Int)
  deriving DecidableEq, Repr

/-- How a task goes on. When it is over its last record may clear the fields of the module. -/
inductive Next (C : Type)
  | running (task : Task C)
  | finished (task : Task C) (clears : Bool)

section

variable {C : Type} (module : Module C) (task : Task C)

/-- `execute_capture_callback`, but for the fields that it clears. -/
def executeCaptureCallback (data : CaptureData) : Task C :=
  match module.captureCb, module.captureCbCtx with
  | some cb, some ctx =>
      { task with data := data, reports := task.reports ++ [⟨cb, ctx, data⟩] }
  | _, _ => { task with data := data }

/-- `free_captured_images` -/
def freeCapturedImages : Task C :=
  { task with
    freed := task.freed ++ (freeImage task.data.rawImage ++ freeImage task.data.enhancedImage)
    data := { task.data with rawImage := task.data.rawImage.afterFree
                             enhancedImage := task.data.enhancedImage.afterFree } }

/-- The task goes on with another call. -/
def goto (place : TaskPlace) (data : CaptureData) : Next C :=
  .running { task with place := place, data := data }

/-- The last record, and the images are freed. -/
def out (stale : Int) (data : CaptureData) : Next C :=
  .finished (freeCapturedImages (executeCaptureCallback module task data))
    (data.samplesRemaining.getD stale = 0)

/-- The label `error` of `do_enroll`. -/
def error (data : CaptureData) : Next C :=
  out module task 0 { data with samplesRemaining := some 0 }

/-- A round of the inner loop of `do_enroll` without an image. The record is zeroed for the next one. -/
def retry (data : CaptureData) : Next C :=
  goto (executeCaptureCallback module task { data with samplesRemaining := some remainingUnknown })
    .enrolImages (.zeroed .enroll)

/-- The end of a round of the outer loop of `do_enroll`. -/
def progress (data : CaptureData) : Next C :=
  let task := freeCapturedImages (executeCaptureCallback module task data)
  if data.samplesRemaining = some 0 then .finished (freeCapturedImages task) true
  else goto task .enrolImages (.zeroed .enroll)

/-- A status that `do_enroll` captures again for. -/
def Retried (status : Int) : Prop :=
  status = fpcCaptureQualifyAbort ∨ status = fpcCaptureFingerStuck ∨ status = fpcCaptureFingerLost

instance (status : Int) : Decidable (Retried status) := by
  unfold Retried
  infer_instance

/-- `do_verify` behind `capture_images`. -/
def verifyCaptured : Int × CaptureData × Nat → Next C
  | (status, data, allocated) =>
      let task := { task with allocated := allocated }
      if status ≠ 0 then out module task 0 data else goto task .identify data

/-- `do_enroll` behind `capture_images`. -/
def enrolCaptured : Int × CaptureData × Nat → Next C
  | (status, data, allocated) =>
      let task := { task with allocated := allocated }
      if Retried status then retry module task data
      else if status ≠ fpcCaptureOk then error module task data
      else goto task .enrol data

/-- The tasks go on by a result, where they wait for one of that kind. -/
def taskStep (sensorSize : Nat) (result : TaskResult) : Option (Next C) :=
  match task.place, result with
  -- `do_capture`
  | .capture, .captureImages c =>
      let (_, data, allocated) := captureImages sensorSize c task.data task.allocated
      some (out module { task with allocated := allocated } 0 data)
  -- `do_verify`
  | .loadTestDb, .loadTestDb status stale =>
      some (if status ≠ 0 then out module task stale task.data
        else goto task .verify (.zeroed .verify))
  | .verify, .captureImages c =>
      some (verifyCaptured module task (captureImages sensorSize c task.data task.allocated))
  | .identify, .identify status id =>
      let data := { task.data with identifyResult := some status }
      some (if status ≠ fpcCaptureOk then out module task 0 data
        else goto task .updateTemplate { data with userId := some id })
  | .updateTemplate, .updateTemplate status =>
      some (if status ≠ 0 then out module task 0 task.data
        else out module task 0 { task.data with templateUpdateResult := some status })
  -- `do_enroll`
  | .deleteTestDb, .deleteTestDb status =>
      some (if status ≠ 0 then error module task task.data
        else goto task .beginEnrol (.zeroed .enroll))
  | .beginEnrol, .beginEnrol status =>
      some (if status ≠ 0 then error module task { task.data with enrollResult := some status }
        else goto task .enrolImages (.zeroed .enroll))
  | .enrolImages, .captureImages c =>
      some (enrolCaptured module task (captureImages sensorSize c task.data task.allocated))
  | .enrol, .enrol status remaining =>
      let data := if status < 0 then task.data
        else { task.data with samplesRemaining := some (toInt32 remaining) }
      let data := { data with enrollResult := some status }
      some (if status < 0 ∨ status = fpcEnrolFailedCouldNotComplete ∨
          status = fpcEnrolFailedAlreadyEnroled then error module task data
        else if status = fpcEnrolCompleted then goto task .endEnrol data
        else progress module task data)
  | .endEnrol, .endEnrol status id =>
      some (if status ≠ 0 then error module task { task.data with enrollResult := some status }
        else goto task (.saveTestDb id) task.data)
  | .saveTestDb id, .saveTestDb status =>
      some (if status ≠ 0 then error module task { task.data with enrollResult := some status }
        else progress module task { task.data with userId := some id })
  | _, _ => none

end

/-! ## Images that a record holds -/

/-- The buffers of an image that is not freed. -/
def ImageData.held (image : ImageData) : List (Option Nat) :=
  match image.buffer with
  | some (some buffer) => [some buffer]
  | _ => []

def CaptureData.held (data : CaptureData) : List (Option Nat) :=
  data.rawImage.held ++ data.enhancedImage.held

/-- The buffers that a task has allocated. -/
def buffers (allocated : Nat) : List (Option Nat) := (List.range allocated).map some

/-- A buffer was allocated, and what fails behind that is retried. -/
def Capture.Lost (c : Capture) : Prop :=
  c.status = fpcCaptureOk ∧ c.raw.sizeStatus = 0 ∧ c.raw.allocates = true ∧
    (Retried c.raw.retrieve ∨
      c.raw.retrieve = 0 ∧ c.enhanced.allocates = true ∧ Retried c.enhanced.retrieve)

theorem buffers_succ (allocated : Nat) :
    buffers (allocated + 1) = buffers allocated ++ [some allocated] := by
  simp [buffers, List.range_succ]

theorem written_zeroed (mode : CaptureMode) : (CaptureData.zeroed mode).written = true := rfl

theorem held_zeroed (mode : CaptureMode) : (CaptureData.zeroed mode).held = [] := rfl

/-! What is written stays written where a field is. -/

section

variable {data : CaptureData} (h : data.written = true)

include h

theorem written_samplesRemaining (x : Int) :
    CaptureData.written { data with samplesRemaining := some x } = true := by
  simp only [CaptureData.written, Bool.and_eq_true] at h
  simp [CaptureData.written, h]

theorem written_captureResult (x : Int) :
    CaptureData.written { data with captureResult := some x } = true := by
  simp only [CaptureData.written, Bool.and_eq_true] at h
  simp [CaptureData.written, h]

theorem written_templateUpdateResult (x : Int) :
    CaptureData.written { data with templateUpdateResult := some x } = true := by
  simp only [CaptureData.written, Bool.and_eq_true] at h
  simp [CaptureData.written, h]

theorem written_identifyResult (x : Int) :
    CaptureData.written { data with identifyResult := some x } = true := by
  simp only [CaptureData.written, Bool.and_eq_true] at h
  simp [CaptureData.written, h]

theorem written_enrollResult (x : Int) :
    CaptureData.written { data with enrollResult := some x } = true := by
  simp only [CaptureData.written, Bool.and_eq_true] at h
  simp [CaptureData.written, h]

theorem written_cacResult (x : Int) :
    CaptureData.written { data with cacResult := some x } = true := by
  simp only [CaptureData.written, Bool.and_eq_true] at h
  simp [CaptureData.written, h]

theorem written_userId (x : UInt32) :
    CaptureData.written { data with userId := some x } = true := by
  simp only [CaptureData.written, Bool.and_eq_true] at h
  simp [CaptureData.written, h]

end

/-- What `capture_images` does with a record that holds no image. -/
structure Captures (c : Capture) (data : CaptureData) (allocated : Nat)
    (captured : Int × CaptureData × Nat) : Prop where
  written : captured.2.1.written = true
  samplesRemaining : captured.2.1.samplesRemaining = data.samplesRemaining
  held : buffers captured.2.2 = buffers allocated ++ captured.2.1.held
  lost : Retried captured.1 → (c.Lost ↔ captured.2.1.held ≠ [])
  retried : c.Lost → Retried captured.1

/-- What a fetch does with an image that holds no buffer, where the buffer is `got` or not. -/
structure Fetched (got : Prop) (allocated : Nat) (image : ImageData) (allocated' : Nat) : Prop where
  written : image.written = true
  held : buffers allocated' = buffers allocated ++ image.held
  got : image.held ≠ [] ↔ got

theorem fetched_without {got : Prop} {allocated : Nat} {image : ImageData}
    (hwritten : image.written = true) (hheld : image.held = []) (hgot : ¬ got) :
    Fetched got allocated image allocated where
  written := hwritten
  held := by rw [hheld, List.append_nil]
  got := iff_of_false (not_not.mpr hheld) hgot

theorem fetched_with {got : Prop} {allocated : Nat} {image : ImageData}
    (hwritten : image.written = true) (hheld : image.held = [some allocated]) (hgot : got) :
    Fetched got allocated image (allocated + 1) where
  written := hwritten
  held := by rw [hheld, buffers_succ]
  got := iff_of_true (by rw [hheld]; exact List.cons_ne_nil _ _) hgot

theorem getRawImage_fetched (f : RawFetch) (allocated : Nat) {image : ImageData}
    (hwritten : image.written = true) (hheld : image.held = []) :
    Fetched (f.sizeStatus = 0 ∧ f.allocates = true) allocated (getRawImage f image allocated).2.1
      (getRawImage f image allocated).2.2 := by
  simp only [ImageData.written, Bool.and_eq_true] at hwritten
  unfold getRawImage
  split
  · next hsize =>
    exact fetched_without (by simp [ImageData.written, hwritten]) hheld fun h => hsize h.1
  · next hsize =>
    split
    · next hallocates =>
      exact fetched_with (by simp [ImageData.written]) rfl ⟨not_not.mp hsize, hallocates⟩
    · next hallocates =>
      exact fetched_without (by simp [ImageData.written]) rfl fun h => hallocates h.2

theorem getEnhancedImage_fetched (sensorSize : Nat) (f : EnhancedFetch) (allocated : Nat)
    {image : ImageData} (hwritten : image.written = true) :
    Fetched (f.allocates = true) allocated (getEnhancedImage sensorSize f image allocated).2.1
      (getEnhancedImage sensorSize f image allocated).2.2 := by
  simp only [ImageData.written, Bool.and_eq_true] at hwritten
  unfold getEnhancedImage
  dsimp only
  split
  · next hallocates =>
    split
    · exact fetched_with (by simp [ImageData.written, hwritten]) rfl hallocates
    · exact fetched_with (by simp [ImageData.written]) rfl hallocates
  · next hallocates =>
    exact fetched_without (by simp [ImageData.written, hwritten]) rfl hallocates

theorem getRawImage_status (f : RawFetch) (image : ImageData) (allocated : Nat) :
    (getRawImage f image allocated).1 =
      if f.sizeStatus ≠ 0 then f.sizeStatus else if f.allocates then f.retrieve else -enomem := by
  unfold getRawImage
  split
  · rfl
  · dsimp only
    split <;> rfl

theorem getEnhancedImage_status (sensorSize : Nat) (f : EnhancedFetch) (image : ImageData)
    (allocated : Nat) :
    (getEnhancedImage sensorSize f image allocated).1 =
      if f.allocates then f.retrieve else -enomem := by
  unfold getEnhancedImage
  dsimp only
  split
  · split
    · rfl
    · next hretrieve => exact (not_not.mp hretrieve).symm
  · rfl

theorem not_retried_enomem : ¬ Retried (-enomem) := by decide

theorem not_retried_zero : ¬ Retried 0 := by decide

theorem getRawImage_ok {f : RawFetch} {image : ImageData} {allocated : Nat}
    (hok : (getRawImage f image allocated).1 = 0) :
    f.sizeStatus = 0 ∧ f.allocates = true ∧ f.retrieve = 0 := by
  rw [getRawImage_status] at hok
  split at hok
  · next hsize => exact absurd hok hsize
  · next hsize =>
    split at hok
    · next hallocates => exact ⟨not_not.mp hsize, hallocates, hok⟩
    · cases hok

/-- A capture without an image. -/
theorem captures_without {c : Capture} {data : CaptureData} {allocated : Nat}
    (hwritten : data.written = true) (hheld : data.held = []) (hstatus : c.status ≠ fpcCaptureOk) :
    Captures c data allocated (c.status, data, allocated) where
  written := hwritten
  samplesRemaining := rfl
  held := by rw [hheld, List.append_nil]
  lost := fun _ => iff_of_false (fun h => hstatus h.1) (not_not.mpr hheld)
  retried := fun h => absurd h.1 hstatus

/-- A raw image that fails is lost where its retrieval is retried. -/
theorem captures_rawFailed {c : Capture} {data : CaptureData} {image : ImageData} {status : Int}
    {allocated allocated' : Nat} (hwritten : data.written = true) (hheld : data.held = [])
    (hstatus : c.status = fpcCaptureOk)
    (hraw : getRawImage c.raw data.rawImage allocated = (status, image, allocated'))
    (hne : status ≠ 0) :
    Captures c data allocated (status, { data with rawImage := image }, allocated') := by
  obtain ⟨hrawHeld, henhanced⟩ := List.append_eq_nil_iff.mp hheld
  simp only [CaptureData.written, Bool.and_eq_true] at hwritten
  have hfetched := getRawImage_fetched c.raw allocated hwritten.1.2 hrawHeld
  have hanswer := getRawImage_status c.raw data.rawImage allocated
  rw [hraw] at hfetched hanswer
  dsimp only at hanswer
  have hholds : CaptureData.held { data with rawImage := image } = image.held := by
    change image.held ++ data.enhancedImage.held = image.held
    rw [henhanced, List.append_nil]
  -- what `Lost` says of a buffer that is there is about the retrieval of this image
  have hretrieve : c.raw.sizeStatus = 0 → c.raw.allocates = true → status = c.raw.retrieve := by
    intro hsize hallocates
    rw [hanswer, if_neg (not_not.mpr hsize), if_pos hallocates]
  exact
    { written := by simp [CaptureData.written, hwritten, hfetched.written]
      samplesRemaining := rfl
      held := by rw [hholds, hfetched.held]
      lost := by
        intro hretried
        rw [hholds, hfetched.got]
        constructor
        · exact fun h => ⟨h.2.1, h.2.2.1⟩
        · rintro ⟨hsize, hallocates⟩
          rw [hretrieve hsize hallocates] at hretried
          exact ⟨hstatus, hsize, hallocates, .inl hretried⟩
      retried := by
        rintro ⟨_, hsize, hallocates, hlost⟩
        rw [hretrieve hsize hallocates] at hne ⊢
        obtain hlost | ⟨hzero, _⟩ := hlost
        · exact hlost
        · exact absurd hzero hne }

/-- Behind a raw image that is there both are lost where the retrieval of the second one is retried. -/
theorem captures_enhanced {c : Capture} {data : CaptureData} {raw image : ImageData} {status : Int}
    {sensorSize allocated between allocated' : Nat} (hwritten : data.written = true)
    (hheld : data.held = []) (hstatus : c.status = fpcCaptureOk)
    (hraw : getRawImage c.raw data.rawImage allocated = (0, raw, between))
    (henhanced : getEnhancedImage sensorSize c.enhanced data.enhancedImage between =
      (status, image, allocated')) :
    Captures c data allocated
      (status, { data with rawImage := raw, enhancedImage := image }, allocated') := by
  obtain ⟨hrawHeld, _⟩ := List.append_eq_nil_iff.mp hheld
  simp only [CaptureData.written, Bool.and_eq_true] at hwritten
  have hfetched := getRawImage_fetched c.raw allocated hwritten.1.2 hrawHeld
  have hfetched' := getEnhancedImage_fetched sensorSize c.enhanced between hwritten.2
  have hanswer := getEnhancedImage_status sensorSize c.enhanced data.enhancedImage between
  obtain ⟨hsize, hallocates, hretrieve⟩ := getRawImage_ok (congrArg Prod.fst hraw)
  rw [hraw] at hfetched
  rw [henhanced] at hfetched' hanswer
  dsimp only at hanswer
  exact
    { written := by simp [CaptureData.written, hwritten, hfetched.written, hfetched'.written]
      samplesRemaining := rfl
      held := by
        rw [hfetched'.held, hfetched.held, List.append_assoc]
        rfl
      lost := by
        intro hretried
        have hgot := hfetched.got.mpr ⟨hsize, hallocates⟩
        refine iff_of_true ⟨hstatus, hsize, hallocates, .inr ⟨hretrieve, ?_⟩⟩ fun hnone =>
          hgot (List.append_eq_nil_iff.mp hnone).1
        rw [hanswer] at hretried
        split at hretried
        · next hallocates' => exact ⟨hallocates', hretried⟩
        · exact absurd hretried not_retried_enomem
      retried := by
        rintro ⟨_, _, _, hlost | ⟨_, hallocates', hlost⟩⟩
        · rw [hretrieve] at hlost
          exact absurd hlost not_retried_zero
        · rw [hanswer, if_pos hallocates']
          exact hlost }

/-- Other fields of the record do not matter. -/
theorem Captures.of_data {c : Capture} {data data' : CaptureData} {allocated : Nat}
    {captured : Int × CaptureData × Nat} (h : Captures c data' allocated captured)
    (hsamples : data'.samplesRemaining = data.samplesRemaining) :
    Captures c data allocated captured :=
  ⟨h.written, h.samplesRemaining.trans hsamples, h.held, h.lost, h.retried⟩

theorem captureImages_captures (sensorSize : Nat) (c : Capture) (allocated : Nat) {data : CaptureData}
    (hwritten : data.written = true) (hheld : data.held = []) :
    Captures c data allocated (captureImages sensorSize c data allocated) := by
  have hcac : ∃ data', (if c.injected then data
        else { data with cacResult := some c.cacResult }) = data' ∧
      (∀ result, CaptureData.written { data' with captureResult := some result } = true) ∧
      data'.held = [] ∧ data'.samplesRemaining = data.samplesRemaining := by
    refine ⟨_, rfl, ?_⟩
    split
    · exact ⟨written_captureResult hwritten, hheld, rfl⟩
    · exact ⟨written_captureResult (written_cacResult hwritten _), hheld, rfl⟩
  obtain ⟨data', hdata', hwritten', hheld', hsamples⟩ := hcac
  unfold captureImages
  rw [hdata']
  dsimp only
  split
  · next hstatus =>
    rcases hraw : getRawImage c.raw data'.rawImage allocated with ⟨status, raw, between⟩
    dsimp only
    split
    · next hne => exact (captures_rawFailed (hwritten' _) hheld' hstatus hraw hne).of_data hsamples
    · next heq =>
      rcases henhanced : getEnhancedImage sensorSize c.enhanced data'.enhancedImage between with
        ⟨status', image, allocated'⟩
      rw [not_not.mp heq] at hraw
      exact (captures_enhanced (hwritten' _) hheld' hstatus hraw henhanced).of_data hsamples
  · next hstatus =>
    split
    · exact (captures_without (hwritten' _) hheld' hstatus).of_data hsamples
    · split
      · exact (captures_without (hwritten' _) hheld' hstatus).of_data hsamples
      · exact (captures_without (hwritten' _) hheld' hstatus).of_data hsamples

/-! ## The record along a task -/

section

variable {C : Type} {module : Module C} {task : Task C}

/-- What the task finds in its record. -/
def TaskInv (task : Task C) : Prop :=
  match task.place with
  | .loadTestDb | .deleteTestDb => task.data = .unwritten
  | .capture | .verify =>
      task.data.written = true ∧ task.data.held = [] ∧ task.data.samplesRemaining = some 0
  | .identify | .updateTemplate =>
      task.data.written = true ∧ task.data.samplesRemaining = some 0
  | .beginEnrol | .enrolImages => task.data.written = true ∧ task.data.held = []
  | .enrol | .endEnrol | .saveTestDb _ => task.data.written = true

/-- The record of a task that goes on is what its place finds. -/
def NextInv : Next C → Prop
  | .running task => TaskInv task
  | .finished _ _ => True

theorem nextInv_progress : NextInv (progress module task data) := by
  unfold progress
  dsimp only
  split
  · trivial
  · exact ⟨written_zeroed _, held_zeroed _⟩

theorem nextInv_verifyCaptured {captured : Int × CaptureData × Nat}
    (hwritten : captured.2.1.written = true) (hlast : captured.2.1.samplesRemaining = some 0) :
    NextInv (verifyCaptured module task captured) := by
  unfold verifyCaptured
  dsimp only
  split
  · trivial
  · exact ⟨hwritten, hlast⟩

theorem nextInv_enrolCaptured {captured : Int × CaptureData × Nat}
    (hwritten : captured.2.1.written = true) : NextInv (enrolCaptured module task captured) := by
  unfold enrolCaptured
  dsimp only
  split
  · exact ⟨written_zeroed _, held_zeroed _⟩
  · split
    · trivial
    · exact hwritten

/-- By the place that the task waits at. -/
theorem taskStep_nextInv {sensorSize : Nat} {result : TaskResult} {next : Next C}
    (hinv : TaskInv task) (hnext : taskStep module task sensorSize result = some next) :
    NextInv next := by
  obtain ⟨request, place, data, allocated, freed, reports⟩ := task
  cases place <;> cases result <;> cases hnext
  case capture.captureImages.refl c => trivial
  case loadTestDb.loadTestDb.refl status stale =>
    split
    · trivial
    · exact ⟨written_zeroed _, held_zeroed _, rfl⟩
  case verify.captureImages.refl c =>
    obtain ⟨hwritten, hheld, hlast⟩ := hinv
    have hcaptured := captureImages_captures sensorSize c allocated hwritten hheld
    exact nextInv_verifyCaptured hcaptured.written (hcaptured.samplesRemaining.trans hlast)
  case identify.identify.refl status id =>
    obtain ⟨hwritten, hlast⟩ := hinv
    dsimp only
    split
    · trivial
    · exact ⟨written_userId (written_identifyResult hwritten status) id, hlast⟩
  case updateTemplate.updateTemplate.refl status =>
    split <;> trivial
  case deleteTestDb.deleteTestDb.refl status =>
    split
    · trivial
    · exact ⟨written_zeroed _, held_zeroed _⟩
  case beginEnrol.beginEnrol.refl status =>
    split
    · trivial
    · exact ⟨written_zeroed _, held_zeroed _⟩
  case enrolImages.captureImages.refl c =>
    exact nextInv_enrolCaptured (captureImages_captures _ _ _ hinv.1 hinv.2).written
  case enrol.enrol.refl status remaining =>
    have hwritten : data.written = true := hinv
    dsimp only
    split
    · trivial
    · split
      · refine written_enrollResult ?_ status
        split
        · exact hwritten
        · exact written_samplesRemaining hwritten _
      · exact nextInv_progress
  case endEnrol.endEnrol.refl status id =>
    split
    · trivial
    · exact hinv
  case saveTestDb.saveTestDb.refl id status =>
    split
    · trivial
    · exact nextInv_progress

end

end Fpc.CaptureRecords
