import Fingerprints.Ta.Enrolment

/-!
# The transfer invariant

Either no transfer is open, or its buffer is as long as its size says and the two counters split
it: the bytes in front of `dataOffset` were moved, the `remaining` ones behind it were not. Every
exit of OPEN, READ and WRITE keeps this (`run_transferInv`), and with it every copy stays inside
the buffer and, after `byteArrayValid`, inside the message: `transfer_safe`.
-/

namespace Fpc

open Wire Wire.Outcome Runs

/-- The transfers there are: none, or a buffer that the two counters split. -/
inductive Transfer.Inv : Transfer → Prop
  | closed : Inv .closed
  | opened {t : Transfer} {data : List UInt8}
      (hmode : t.mode = fpcTaBioDbRdonly ∨ t.mode = fpcTaBioDbWronly) (hdata : t.data = some data)
      (hsum : t.dataOffset + t.remaining = t.size) (hsize : t.size = data.length) : Inv t

/-- A transfer to the outside that was just opened. -/
def Transfer.reading (data : List UInt8) : Transfer :=
  { mode := fpcTaBioDbRdonly, size := data.length, remaining := data.length, dataOffset := 0,
    data := some data }

/-- A transfer from the outside that was just opened. -/
def Transfer.writing (size : Nat) : Transfer :=
  { mode := fpcTaBioDbWronly, size := size, remaining := size, dataOffset := 0,
    data := some (List.replicate size 0) }

theorem Transfer.inv_reading (data : List UInt8) : (Transfer.reading data).Inv :=
  .opened (Or.inl rfl) rfl (Nat.zero_add _) rfl

theorem Transfer.inv_writing (size : Nat) : (Transfer.writing size).Inv :=
  .opened (Or.inr rfl) rfl (Nat.zero_add _) (List.length_replicate ..).symm

/-- A transfer without a mode is not open. -/
theorem Transfer.Inv.eq_closed {t : Transfer} (h : t.Inv) (hmode : t.mode = -1) : t = .closed := by
  cases h with
  | closed => rfl
  | opened hopen _ _ _ =>
    rw [hmode] at hopen
    exact absurd hopen (by decide)

/-- Moving what fits keeps the buffer split. -/
theorem Transfer.Inv.advance {t : Transfer} {data data' : List UInt8} (size : Nat) (h : t.Inv)
    (hdata : t.data = some data) (hlen : data'.length = data.length) :
    ({ t with data := some data' }.advance (t.clamp size)).Inv := by
  cases h with
  | closed => cases hdata
  | opened hmode hdata' hsum hsize =>
    rw [hdata] at hdata'
    cases hdata'
    refine .opened hmode rfl ?_ (by rw [hlen]; exact hsize)
    dsimp only [Transfer.advance, Transfer.clamp]
    omega

/-- The counters split the buffer. -/
theorem Transfer.Inv.split {t : Transfer} {data : List UInt8} (h : t.Inv)
    (hdata : t.data = some data) :
    t.dataOffset + t.remaining = t.size ∧ t.size = data.length := by
  cases h with
  | closed => cases hdata
  | opened _ hdata' hsum hsize =>
    rw [hdata] at hdata'
    cases hdata'
    exact ⟨hsum, hsize⟩

/-- What READ and WRITE move lies inside the buffer. -/
theorem Transfer.Inv.clamp_inside {t : Transfer} {data : List UInt8} (h : t.Inv)
    (hdata : t.data = some data) (size : Nat) :
    t.dataOffset + t.clamp size ≤ data.length := by
  have hsplit := h.split hdata
  unfold Transfer.clamp
  omega

theorem Transfer.Inv.data_of_mode {t : Transfer} (h : t.Inv) (hmode : t.mode ≠ -1) :
    ∃ data, t.data = some data := by
  cases h with
  | closed => exact absurd rfl hmode
  | opened _ hdata _ _ => exact ⟨_, hdata⟩

/-! ## OPEN -/

/-- The bytes that the database packs to, at its own size. -/
def PacksTo (pDb : Option FingerprintDatabase) (packed : List UInt8) : Prop :=
  ∃ n, getDataSize pDb = .ok n ∧ n ≠ 0 ∧ getData pDb (List.replicate n 0) n = .ok packed

/-- What the buffer of a transfer to the outside holds, for packed data. -/
def wrappedBuffer (P : Platform) (env : Env) (n : Nat) (packed : List UInt8) : List UInt8 :=
  overFront (List.replicate (P.getWrappedSize (UInt32.ofNat n)).toNat 0)
    (env.wrapCrypto packed).bytes

/-- What `fpc_ta_db_open` does: its status and the transfer. -/
inductive OpenEffect (P : Platform) (env : Env) (bio : Bio) (mode : UInt32) (size : Nat)
    (t : Transfer) : Int → Transfer → Prop
  | busy (hmode : t.mode ≠ -1) : OpenEffect P env bio mode size t (-fpcErrorIo) t
  | failed {result : Int} (hmode : t = .closed) (herror : IsError result) :
      OpenEffect P env bio mode size t result .closed
  | writing (hmode : t = .closed) (hsize : 0 < size ∧ size ≤ fpcTaMaxTransfer)
      (hwronly : mode.toNat = fpcTaBioDbWronly) :
      OpenEffect P env bio mode size t 0 (.writing size)
  | reading {n : Nat} {packed : List UInt8} (hmode : t = .closed)
      (hsize : 0 < size ∧ size ≤ fpcTaMaxTransfer) (hrdonly : mode.toNat = fpcTaBioDbRdonly)
      (hpacked : getDataSize bio.userDb = .ok n ∧ n ≠ 0 ∧
        getData bio.userDb (List.replicate n 0) n = .ok packed)
      (hstatus : ¬ (env.wrapCrypto packed).status < 0)
      (hwrapped : (env.wrapCrypto packed).size = P.getWrappedSize (UInt32.ofNat n)) :
      OpenEffect P env bio mode size t (env.wrapCrypto packed).status.toInt
        (.reading (wrappedBuffer P env n packed))

theorem openExit_error {code : Int} (h : code < 0) (t : Transfer) :
    openExit code t = (code, .closed) := if_pos h

theorem length_wrappedBuffer (P : Platform) (env : Env) (n : Nat) (packed : List UInt8) :
    (wrappedBuffer P env n packed).length = (P.getWrappedSize (UInt32.ofNat n)).toNat := by
  rw [wrappedBuffer, length_overFront, List.length_replicate]

theorem isError_toInt {x : Int32} (h : x < 0) : IsError x.toInt :=
  ⟨x.le_toInt, by rw [← Int32.toInt_zero]; exact Int32.lt_iff_toInt_lt.mp h⟩

/-- The exit of OPEN closes what an error leaves half open. -/
theorem OpenEffect.exit {P : Platform} {env : Env} {bio : Bio} {mode : UInt32} {size : Nat}
    {code result : Int} {t half t' : Transfer} (hmode : t = .closed) (herror : IsError code)
    (h : Outcome.ok (openExit code half) = .ok (result, t')) :
    OpenEffect P env bio mode size t result t' := by
  rw [openExit_error herror.2] at h
  cases h
  exact .failed hmode herror

theorem openExit_isError {code result : Int} {half t' : Transfer} (herror : IsError code)
    (h : Outcome.ok (openExit code half) = .ok (result, t')) : IsError result ∧ t' = .closed := by
  rw [openExit_error herror.2] at h
  cases h
  exact ⟨herror, rfl⟩

/-- The read branch fails and closes the transfer, or it leaves the wrapped database in the buffer,
whatever the transfer was. -/
theorem openRdonly_cases {P : Platform} {env : Env} {bio : Bio} {t t' : Transfer} {result : Int}
    (h : openRdonly P env bio t = .ok (result, t')) :
    (IsError result ∧ t' = .closed) ∨
      ∃ n packed, (getDataSize bio.userDb = .ok n ∧ n ≠ 0 ∧
          getData bio.userDb (List.replicate n 0) n = .ok packed) ∧
        ¬ (env.wrapCrypto packed).status < 0 ∧
        (env.wrapCrypto packed).size = P.getWrappedSize (UInt32.ofNat n) ∧
        result = (env.wrapCrypto packed).status.toInt ∧
        t' = .reading (wrappedBuffer P env n packed) := by
  unfold openRdonly at h
  dsimp only at h
  split at h
  · cases h
  · exact Or.inl (openExit_isError (by decide) h)
  · next n hn =>
    split at h
    · exact Or.inl (openExit_isError (by decide) h)
    · next hne =>
      split at h
      · exact Or.inl (openExit_isError (by decide) h)
      · split at h
        · exact Or.inl (openExit_isError (by decide) h)
        · split at h
          · cases h
          · exact Or.inl (openExit_isError (by decide) h)
          · next packed hpacked =>
            split at h
            · next hstatus => exact Or.inl (openExit_isError (isError_toInt hstatus) h)
            · next hstatus =>
              split at h
              · exact Or.inl (openExit_isError (by decide) h)
              · next hwrapped =>
                have hnonneg : ¬ (env.wrapCrypto packed).status.toInt < 0 := by
                  intro hneg
                  exact hstatus (Int32.lt_iff_toInt_lt.mpr hneg)
                rw [openExit, if_neg hnonneg] at h
                cases h
                refine Or.inr ⟨n, packed, ⟨hn, hne, hpacked⟩, hstatus, not_not.mp hwrapped, rfl, ?_⟩
                rw [Transfer.reading, length_wrappedBuffer]
                rfl

theorem openRdonly_effect {P : Platform} {env : Env} {bio : Bio} {mode : UInt32} {size : Nat}
    {t t' : Transfer} {result : Int} (hmode : t = .closed)
    (hsize : 0 < size ∧ size ≤ fpcTaMaxTransfer) (hrdonly : mode.toNat = fpcTaBioDbRdonly)
    (h : openRdonly P env bio t = .ok (result, t')) :
    OpenEffect P env bio mode size t result t' := by
  cases openRdonly_cases h with
  | inl hfailed =>
    rw [hfailed.2]
    exact .failed hmode hfailed.1
  | inr hopened =>
    obtain ⟨n, packed, hpacked, hstatus, hwrapped, rfl, rfl⟩ := hopened
    exact .reading hmode hsize hrdonly hpacked hstatus hwrapped

/-- Every exit of `fpc_ta_db_open` is one of these. -/
theorem fpcTaDbOpen_effect {P : Platform} {env : Env} {bio : Bio} {mode : UInt32} {size : Nat}
    {t t' : Transfer} {result : Int} (hinv : t.Inv)
    (h : fpcTaDbOpen P env bio t mode size = .ok (result, t')) :
    OpenEffect P env bio mode size t result t' := by
  unfold fpcTaDbOpen at h
  split at h
  · next hmode =>
    cases h
    exact .busy hmode
  · next hmode =>
    have hclosed := hinv.eq_closed (not_not.mp hmode)
    split at h
    · cases h
      rw [hclosed]
      exact .failed rfl (by decide)
    · next hrange =>
      have hsize : 0 < size ∧ size ≤ fpcTaMaxTransfer := by omega
      split at h
      · next hwronly =>
        split at h
        · cases h
          rw [hclosed]
          exact .failed rfl (by decide)
        · cases h
          exact .writing hclosed hsize hwronly
      · split at h
        · next hrdonly => exact openRdonly_effect hclosed hsize hrdonly h
        · exact .exit hclosed (by decide) h

theorem OpenEffect.inv {P : Platform} {env : Env} {bio : Bio} {mode : UInt32} {size : Nat}
    {t t' : Transfer} {result : Int} (h : OpenEffect P env bio mode size t result t')
    (hinv : t.Inv) : t'.Inv := by
  cases h with
  | busy _ => exact hinv
  | failed _ _ => exact .closed
  | writing _ _ _ => exact Transfer.inv_writing size
  | reading _ _ _ _ _ _ => exact Transfer.inv_reading _

/-- Every result of OPEN is in the range of `int`. -/
theorem OpenEffect.fits {P : Platform} {env : Env} {bio : Bio} {mode : UInt32} {size : Nat}
    {t t' : Transfer} {result : Int} (h : OpenEffect P env bio mode size t result t') :
    FitsInt result := by
  cases h with
  | busy _ => decide
  | failed _ herror => exact herror.fitsInt
  | writing _ _ _ => decide
  | reading _ _ _ _ _ _ => exact fitsInt_toInt _

/-! ## READ and WRITE -/

/-- The bytes that a copy of READ or WRITE moves, at the cursor. -/
def Transfer.atCursor (t : Transfer) (size : Nat) : List UInt8 :=
  slice (t.data.getD []) t.dataOffset (t.clamp size)

theorem storeSpan_eq_overlay {buf buf' bytes : List UInt8} {off : Nat}
    (h : storeSpan buf off bytes = .ok buf') : buf' = overlay buf off bytes := by
  unfold storeSpan at h
  split at h
  · cases h
    rfl
  · cases h

/-- What `fpc_ta_db_read` does: its status, the transfer and the message. -/
inductive ReadEffect (t : Transfer) (msg : List UInt8) (size : Nat) :
    Int → Transfer → List UInt8 → Prop
  | refused (h : size = 0 ∨ t.mode ≠ fpcTaBioDbRdonly ∨ t.remaining = 0) :
      ReadEffect t msg size (-fpcErrorInput) t msg
  | copied {data : List UInt8} (hsize : size ≠ 0) (hmode : t.mode = fpcTaBioDbRdonly)
      (hremaining : t.remaining ≠ 0) (hdata : t.data = some data) :
      ReadEffect t msg size (remainingResult (t.advance (t.clamp size)))
        (t.advance (t.clamp size)) (overlay msg offArray (t.atCursor size))

theorem fpcTaDbRead_effect {t t' : Transfer} {msg msg' : List UInt8} {size : Nat} {result : Int}
    (h : fpcTaDbRead t msg size = .ok (result, t', msg')) :
    ReadEffect t msg size result t' msg' := by
  unfold fpcTaDbRead at h
  split at h
  · next hrefused =>
    cases h
    exact .refused hrefused
  · next hcopied =>
    obtain ⟨hsize, hmode, hremaining⟩ : size ≠ 0 ∧ t.mode = fpcTaBioDbRdonly ∧ t.remaining ≠ 0 := by
      rw [not_or, not_or] at hcopied
      exact ⟨hcopied.1, not_not.mp hcopied.2.1, hcopied.2.2⟩
    obtain ⟨⟨moved, out⟩, hcopy, h⟩ := bind_eq_ok.mp h
    cases h
    unfold dbReadCopy at hcopy
    split at hcopy
    · cases hcopy
    · next data hdata =>
      obtain ⟨bytes, hload, hcopy⟩ := bind_eq_ok.mp hcopy
      obtain ⟨stored, hstore, hcopy⟩ := bind_eq_ok.mp hcopy
      cases hcopy
      have hbytes : bytes = t.atCursor size := by
        rw [loadSpan_ok hload, Transfer.atCursor, hdata, Option.getD_some]
      rw [storeSpan_eq_overlay hstore, hbytes]
      exact .copied hsize hmode hremaining hdata

/-- A transfer from the outside with the next bytes in its buffer. -/
def Transfer.take (t : Transfer) (data msg : List UInt8) (size : Nat) : Transfer :=
  { t with data := some (overlay data t.dataOffset (slice msg offArray (t.clamp size))) }.advance
    (t.clamp size)

/-- What `fpc_ta_db_write` does: its status, the instance and the transfer. -/
inductive WriteEffect (env : Env) (bio : Bio) (t : Transfer) (msg : List UInt8) (size : Nat) :
    Int → Bio → Transfer → Prop
  | refused (h : t.mode ≠ fpcTaBioDbWronly ∨ size = 0 ∨ t.remaining = 0) :
      WriteEffect env bio t msg size (-fpcErrorInput) bio t
  | copied {data : List UInt8} (hmode : t.mode = fpcTaBioDbWronly) (hsize : size ≠ 0)
      (hdata : t.data = some data) (hmore : size < t.remaining) :
      WriteEffect env bio t msg size (remainingResult (t.take data msg size)) bio
        (t.take data msg size)
  | completed {data : List UInt8} {result : Int} {bio' : Bio} {t' : Transfer}
      (hmode : t.mode = fpcTaBioDbWronly) (hsize : size ≠ 0) (hremaining : t.remaining ≠ 0)
      (hdata : t.data = some data) (hlast : t.remaining ≤ size)
      (hunwrap : unwrap env bio (t.take data msg size) = .ok (result, bio', t')) :
      WriteEffect env bio t msg size result bio' t'

/-- The bytes that were copied are in the buffer. -/
theorem dbWriteCopy_ok {t moved : Transfer} {msg : List UInt8} {size : Nat}
    (h : dbWriteCopy t msg size = .ok moved) :
    ∃ data, t.data = some data ∧ moved = t.take data msg size := by
  obtain ⟨bytes, hload, h⟩ := bind_eq_ok.mp h
  split at h
  · cases h
  · next data hdata =>
    obtain ⟨stored, hstore, h⟩ := bind_eq_ok.mp h
    cases h
    refine ⟨data, hdata, ?_⟩
    rw [storeSpan_eq_overlay hstore, loadSpan_ok hload, Transfer.take]

theorem fpcTaDbWrite_effect {env : Env} {bio bio' : Bio} {t t' : Transfer} {msg : List UInt8}
    {size : Nat} {result : Int}
    (h : fpcTaDbWrite env bio t msg size = .ok (result, bio', t')) :
    WriteEffect env bio t msg size result bio' t' := by
  unfold fpcTaDbWrite at h
  split at h
  · next hmode =>
    cases h
    exact .refused (Or.inl hmode)
  · next hmode =>
    split at h
    · next hrefused =>
      cases h
      exact .refused (Or.inr hrefused)
    · next hcopied =>
      rw [not_or] at hcopied
      obtain ⟨moved, hcopy, h⟩ := bind_eq_ok.mp h
      obtain ⟨data, hdata, rfl⟩ := dbWriteCopy_ok hcopy
      have hremaining : (t.take data msg size).remaining = t.remaining - min t.remaining size :=
        rfl
      split at h
      · next hzero =>
        exact .completed (not_not.mp hmode) hcopied.1 hcopied.2 hdata (by omega) h
      · next hne =>
        cases h
        exact .copied (not_not.mp hmode) hcopied.1 hdata (by omega)

/-- `unwrap` leaves the counters and the length of the buffer. -/
theorem unwrap_transfer {env : Env} {bio bio' : Bio} {t t' : Transfer} {result : Int}
    (h : unwrap env bio t = .ok (result, bio', t')) :
    t' = { t with
      data := t.data.map fun _ => (fpcUnwrapCrypto env (t.data.getD [])).buffer } := by
  unfold unwrap at h
  dsimp only at h
  split at h
  · cases h
    rfl
  · split at h
    · cases h
    · cases h
      rfl
    · cases h
      rfl

theorem ReadEffect.inv {t t' : Transfer} {msg msg' : List UInt8} {size : Nat} {result : Int}
    (h : ReadEffect t msg size result t' msg') (hinv : t.Inv) : t'.Inv := by
  cases h with
  | refused _ => exact hinv
  | @copied data _ _ _ hdata =>
    have hadvance := hinv.advance size hdata (Eq.refl data.length)
    have hsame : { t with data := some data } = t := by rw [← hdata]
    rwa [hsame] at hadvance

/-- The copy of WRITE keeps the length of the buffer. -/
theorem Transfer.Inv.take {t : Transfer} {data msg : List UInt8} {size : Nat} (h : t.Inv)
    (hdata : t.data = some data) : (t.take data msg size).Inv := by
  have hinside := h.clamp_inside hdata size
  have hshort : (slice msg offArray (t.clamp size)).length ≤ t.clamp size := by
    rw [slice, List.length_take]
    omega
  exact h.advance size hdata (length_overlay (by omega))

theorem WriteEffect.inv {env : Env} {bio bio' : Bio} {t t' : Transfer} {msg : List UInt8}
    {size : Nat} {result : Int} (h : WriteEffect env bio t msg size result bio' t')
    (hinv : t.Inv) : t'.Inv := by
  cases h with
  | refused _ => exact hinv
  | copied _ _ hdata _ => exact hinv.take hdata
  | @completed data _ _ _ _ _ _ hdata _ hunwrap =>
    have htaken : (t.take data msg size).Inv := hinv.take hdata
    rw [unwrap_transfer hunwrap]
    generalize t.take data msg size = taken at htaken
    cases htaken with
    | closed => exact .closed
    | opened hmode htdata hsum hsize =>
      refine .opened hmode (by rw [htdata]; rfl) hsum ?_
      rw [length_fpcUnwrapCrypto_buffer, htdata]
      exact hsize

/-! ## One step -/

section

variable {P : Platform} {ta ta' : Ta} {e : Event}

theorem response_eq {msg : List UInt8} {result : Int} (hmsg : e.result.msg
    = put32 msg offResponse (ofInt32 result)) (hlen : offResponse ≤ msg.length)
    (hfits : FitsInt result) : e.response = result := by
  rw [Event.response, Event.resultAt, hmsg, field32_put32 hlen, toInt32_ofInt32 hfits]

/-- A command of the blob module is its case of the switch. -/
theorem step_dbBlob {cmd : DbBlobCmd} (h : (taSystem P).step ta e ta')
    (hcmd : e.is (.dbBlob cmd) = true) :
    sizeofBioCommand ≤ e.msg.length ∧ dbBlobSwitch P e.env ta e.msg cmd = .ok e.result ∧
      e.result.ta = ta' := by
  obtain ⟨_, hroute, hta⟩ := h
  obtain ⟨hlen, hswitch⟩ := fpcTaRouteCommand_of_dbBlob P e.env ta (is_iff.mp hcmd)
  rw [hswitch] at hroute
  exact ⟨hlen, hroute, hta⟩

theorem step_dbOpen (h : (taSystem P).step ta e ta') (hcmd : e.is (.dbBlob .dbOpen) = true) :
    ∃ result transfer, fpcTaDbOpen P e.env ta.bio ta.transfer (field32 e.msg offDbOpenMode)
        (field32 e.msg offDbOpenSize).toNat = .ok (result, transfer) ∧
      (FitsInt result → e.response = result) ∧ ta' = { ta with transfer := transfer } := by
  obtain ⟨hlen, hswitch, rfl⟩ := step_dbBlob h hcmd
  unfold sizeofBioCommand at hlen
  obtain ⟨mode, hmode, hswitch⟩ := bind_eq_ok.mp hswitch
  obtain ⟨size, hsize, hswitch⟩ := bind_eq_ok.mp hswitch
  obtain ⟨⟨result, transfer⟩, hopen, hswitch⟩ := bind_eq_ok.mp hswitch
  obtain ⟨msg, hstore, hswitch⟩ := bind_eq_ok.mp hswitch
  rw [load32_ok hmode, load32_ok hsize] at hopen
  injection hswitch with hresult
  refine ⟨result, transfer, hopen, ?_, by rw [← hresult]⟩
  apply response_eq
  · rw [← hresult]
    exact storeSpan_eq_overlay hstore
  · unfold offResponse
    omega

theorem step_dbClose (h : (taSystem P).step ta e ta') (hcmd : e.is (.dbBlob .dbClose) = true) :
    e.response = 0 ∧ ta' = { ta with transfer := .closed } := by
  obtain ⟨hlen, hswitch, rfl⟩ := step_dbBlob h hcmd
  unfold sizeofBioCommand at hlen
  obtain ⟨msg, hstore, hswitch⟩ := bind_eq_ok.mp hswitch
  injection hswitch with hresult
  refine ⟨?_, by rw [← hresult]⟩
  apply @response_eq e e.msg
  · rw [← hresult]
    exact storeSpan_eq_overlay hstore
  · unfold offResponse
    omega
  · decide

theorem step_getDbSize (h : (taSystem P).step ta e ta')
    (hcmd : e.is (.dbBlob .getDbSize) = true) : ta' = ta := by
  obtain ⟨_, hswitch, rfl⟩ := step_dbBlob h hcmd
  obtain ⟨_, _, hswitch⟩ := bind_eq_ok.mp hswitch
  obtain ⟨_, _, hswitch⟩ := bind_eq_ok.mp hswitch
  obtain ⟨_, _, hswitch⟩ := bind_eq_ok.mp hswitch
  injection hswitch with hresult
  rw [← hresult]

/-- A READ is turned away with its message, or copies the next bytes into it. -/
theorem step_dbRead (h : (taSystem P).step ta e ta') (hcmd : e.is (.dbBlob .dbRead) = true) :
    (byteArrayValid e.msg = .ok false ∧ ta' = ta ∧ e.result.msg = e.msg) ∨
      (byteArrayValid e.msg = .ok true ∧ ∃ result transfer msg,
        ReadEffect ta.transfer e.msg (field32 e.msg offSize).toNat result transfer msg ∧
        e.result.msg = put32 msg offResponse (ofInt32 result) ∧
        ta' = { ta with transfer := transfer }) := by
  obtain ⟨hlen, hswitch, rfl⟩ := step_dbBlob h hcmd
  obtain ⟨valid, hvalid, hswitch⟩ := bind_eq_ok.mp hswitch
  cases valid with
  | false =>
    injection hswitch with hresult
    left
    rw [← hresult]
    exact ⟨hvalid, rfl, rfl⟩
  | true =>
    obtain ⟨size, hsize, hswitch⟩ := bind_eq_ok.mp hswitch
    obtain ⟨⟨result, transfer, msg⟩, hread, hswitch⟩ := bind_eq_ok.mp hswitch
    obtain ⟨stored, hstore, hswitch⟩ := bind_eq_ok.mp hswitch
    injection hswitch with hresult
    rw [load32_ok hsize] at hread
    right
    refine ⟨hvalid, result, transfer, msg, fpcTaDbRead_effect hread, ?_, by rw [← hresult]⟩
    rw [← hresult]
    exact storeSpan_eq_overlay hstore

/-- A WRITE is turned away, or takes the next bytes out of its message. -/
theorem step_dbWrite (h : (taSystem P).step ta e ta') (hcmd : e.is (.dbBlob .dbWrite) = true) :
    (byteArrayValid e.msg = .ok false ∧ ta' = ta) ∨
      (byteArrayValid e.msg = .ok true ∧ ∃ result bio transfer,
        WriteEffect e.env ta.bio ta.transfer e.msg (field32 e.msg offSize).toNat result bio
          transfer ∧
        ta' = { ta with bio := bio, transfer := transfer }) := by
  obtain ⟨hlen, hswitch, rfl⟩ := step_dbBlob h hcmd
  obtain ⟨valid, hvalid, hswitch⟩ := bind_eq_ok.mp hswitch
  cases valid with
  | false =>
    injection hswitch with hresult
    left
    rw [← hresult]
    exact ⟨hvalid, rfl⟩
  | true =>
    obtain ⟨size, hsize, hswitch⟩ := bind_eq_ok.mp hswitch
    obtain ⟨⟨result, bio, transfer⟩, hwrite, hswitch⟩ := bind_eq_ok.mp hswitch
    obtain ⟨_, _, hswitch⟩ := bind_eq_ok.mp hswitch
    injection hswitch with hresult
    rw [load32_ok hsize] at hwrite
    right
    exact ⟨hvalid, result, bio, transfer, fpcTaDbWrite_effect hwrite, by rw [← hresult]⟩

theorem isDbBlob_or (e : Event) :
    (∃ cmd, e.is (.dbBlob cmd) = true) ∨ ∀ cmd, e.is (.dbBlob cmd) = false := by
  cases Classical.em (∃ cmd, e.is (.dbBlob cmd) = true) with
  | inl h => exact Or.inl h
  | inr h => exact Or.inr fun cmd => Bool.eq_false_iff.mpr fun hcmd => h ⟨cmd, hcmd⟩

/-- The commands of the other modules leave the transfer. -/
theorem step_transfer (h : (taSystem P).step ta e ta')
    (hother : ∀ cmd, e.is (.dbBlob cmd) = false) : ta'.transfer = ta.transfer := by
  obtain ⟨rfl, hroute, rfl⟩ := h
  cases fpcTaRouteCommand_routed hroute with
  | none _ timestamp hta => rw [hta]
  | fs cmd _ hswitch =>
    obtain ⟨userDb, hta⟩ := fsSwitch_frame hswitch
    rw [hta]
  | hwAuth cmd hcmd hswitch =>
    obtain ⟨matchResult, hwAuth, hta⟩ := hwAuthSwitch_frame hcmd hswitch
    rw [hta]
  | dbBlob cmd hcmd _ =>
    have hblob := hother cmd
    rw [is_iff.mpr hcmd] at hblob
    cases hblob
  | bio cmd _ hswitch =>
    obtain ⟨answer, reply, hreply, hta⟩ := bioRespond_ok hswitch
    rw [hta]
    obtain ⟨bio, hframe | ⟨_, hframe⟩⟩ := bioSwitch_frame hreply
    · rw [hframe]
    · rw [hframe]
  | pn cmd _ hswitch =>
    obtain ⟨pn, hta⟩ := pnSwitch_frame hswitch
    rw [hta]

/-- Every command keeps the transfer in order. -/
theorem step_transferInv (hinv : ta.transfer.Inv) (h : (taSystem P).step ta e ta') :
    ta'.transfer.Inv := by
  cases isDbBlob_or e with
  | inr hother => rwa [step_transfer h hother]
  | inl hblob =>
    obtain ⟨cmd, hcmd⟩ := hblob
    cases cmd with
    | getDbSize => rwa [step_getDbSize h hcmd]
    | dbOpen =>
      obtain ⟨result, transfer, hopen, _, hta⟩ := step_dbOpen h hcmd
      rw [hta]
      exact (fpcTaDbOpen_effect hinv hopen).inv hinv
    | dbClose =>
      rw [(step_dbClose h hcmd).2]
      exact .closed
    | dbRead =>
      cases step_dbRead h hcmd with
      | inl hrejected => rwa [hrejected.2.1]
      | inr hread =>
        obtain ⟨_, result, transfer, msg, heffect, _, hta⟩ := hread
        rw [hta]
        exact heffect.inv hinv
    | dbWrite =>
      cases step_dbWrite h hcmd with
      | inl hrejected => rwa [hrejected.2]
      | inr hwrite =>
        obtain ⟨_, result, bio, transfer, heffect, hta⟩ := hwrite
        rw [hta]
        exact heffect.inv hinv

/-! ## Runs -/

variable {history : List Event}

theorem transfer_init {env : Env} (h : fpcTaRouterInit env = .ok ta) : ta.transfer = .closed := by
  obtain ⟨bio, _, h⟩ := bind_eq_ok.mp h
  injection h with h
  rw [← h]

theorem run_transferInv (hrun : (taSystem P).Run history ta) : ta.transfer.Inv := by
  apply hrun.invariant_state (I := fun ta => ta.transfer.Inv)
  · rintro s ⟨env, hinit⟩
    rw [transfer_init hinit]
    exact .closed
  · intro s e s' hinv hstep
    exact step_transferInv hinv hstep

/-- What holds of the transfer in every state of a run. -/
structure TransferSafe (P : Platform) (ta : Ta) : Prop where
  inv : ta.transfer.Inv
  copies_inside : ∀ msg data, byteArrayValid msg = .ok true → ta.transfer.data = some data →
    ta.transfer.dataOffset + ta.transfer.clamp (field32 msg offSize).toNat ≤ data.length ∧
      offArray + ta.transfer.clamp (field32 msg offSize).toNat ≤ msg.length
  read_inside : ∀ msg, byteArrayValid msg = .ok true →
    ¬ (fpcTaDbRead ta.transfer msg (field32 msg offSize).toNat).Faults
  write_inside : ∀ msg, byteArrayValid msg = .ok true → ta.transfer.mode = fpcTaBioDbWronly →
    ¬ (dbWriteCopy ta.transfer msg (field32 msg offSize).toNat).Faults
  open_busy : ∀ e ta', (taSystem P).step ta e ta' → e.is (.dbBlob .dbOpen) = true →
    ta.transfer ≠ .closed → e.response < 0 ∧ ta' = ta
  open_failed : ∀ e ta', (taSystem P).step ta e ta' → e.is (.dbBlob .dbOpen) = true →
    ta.transfer = .closed → e.response < 0 → ta'.transfer = .closed
  closes : ∀ e ta', (taSystem P).step ta e ta' → e.is (.dbBlob .dbClose) = true →
    ta'.transfer = .closed

/-- What READ and WRITE move lies inside a message that was found valid. -/
theorem clamp_inside_message (t : Transfer) {msg : List UInt8}
    (h : byteArrayValid msg = .ok true) :
    offArray + t.clamp (field32 msg offSize).toNat ≤ msg.length := by
  have hvalid := byteArrayValid_true h
  unfold sizeofByteArrayMsg at hvalid
  unfold offArray Transfer.clamp
  omega

theorem Transfer.Inv.read_inside {t : Transfer} {msg : List UInt8} (hinv : t.Inv)
    (h : byteArrayValid msg = .ok true) :
    ¬ (fpcTaDbRead t msg (field32 msg offSize).toNat).Faults := by
  have hmsg := clamp_inside_message t h
  unfold fpcTaDbRead
  split
  · exact not_faults_ok _
  · next hopen =>
    rw [not_or, not_or, not_not] at hopen
    obtain ⟨data, hdata⟩ := hinv.data_of_mode (by rw [hopen.2.1]; decide)
    have hinside := hinv.clamp_inside hdata (field32 msg offSize).toNat
    unfold dbReadCopy
    rw [hdata]
    dsimp only
    rw [loadSpan_eq hinside, ok_bind, storeSpan_eq (by rw [length_slice hinside]; exact hmsg)]
    exact not_faults_ok _

theorem Transfer.Inv.write_inside {t : Transfer} {msg : List UInt8} (hinv : t.Inv)
    (h : byteArrayValid msg = .ok true) (hmode : t.mode = fpcTaBioDbWronly) :
    ¬ (dbWriteCopy t msg (field32 msg offSize).toNat).Faults := by
  have hmsg := clamp_inside_message t h
  obtain ⟨data, hdata⟩ := hinv.data_of_mode (by rw [hmode]; decide)
  have hinside := hinv.clamp_inside hdata (field32 msg offSize).toNat
  unfold dbWriteCopy
  rw [loadSpan_eq hmsg, ok_bind, hdata]
  dsimp only
  rw [storeSpan_eq (by rw [length_slice hmsg]; exact hinside)]
  exact not_faults_ok _

/-- **The blob transfer stays in order.** In every state of a run the transfer is closed or its
counters split its buffer; no copy of READ or WRITE leaves the buffer or the message; an OPEN
while a transfer is open fails and changes nothing; an OPEN that fails leaves the transfer closed;
a CLOSE closes it. -/
theorem transfer_safe (hrun : (taSystem P).Run history ta) : TransferSafe P ta := by
  have hinv := run_transferInv hrun
  constructor
  · exact hinv
  · intro msg data hvalid hdata
    exact ⟨hinv.clamp_inside hdata _, clamp_inside_message _ hvalid⟩
  · intro msg hvalid
    exact hinv.read_inside hvalid
  · intro msg hvalid hmode
    exact hinv.write_inside hvalid hmode
  · intro e ta' hstep hcmd hopen
    obtain ⟨result, transfer, hopened, hresponse, hta⟩ := step_dbOpen hstep hcmd
    have heffect := fpcTaDbOpen_effect hinv hopened
    rw [hresponse heffect.fits, hta]
    cases heffect with
    | busy _ => exact ⟨by decide, rfl⟩
    | failed hclosed _ => exact absurd hclosed hopen
    | writing hclosed _ _ => exact absurd hclosed hopen
    | reading hclosed _ _ _ _ _ => exact absurd hclosed hopen
  · intro e ta' hstep hcmd hclosed herror
    obtain ⟨result, transfer, hopened, hresponse, hta⟩ := step_dbOpen hstep hcmd
    have heffect := fpcTaDbOpen_effect hinv hopened
    rw [hresponse heffect.fits] at herror
    rw [hta]
    cases heffect with
    | busy _ => exact hclosed
    | failed _ _ => rfl
    | writing _ _ _ => exact absurd herror (by decide)
    | reading _ _ _ _ hstatus _ => exact absurd (Int32.lt_iff_toInt_lt.mpr herror) hstatus
  · intro e ta' hstep hcmd
    rw [(step_dbClose hstep hcmd).2]

end

/-- A command during which the crypto service puts 48 bytes behind the data and takes them off
again. -/
def Env.sealing : Env :=
  { Env.willing with
    wrapCrypto := fun data =>
      if data.length + 48 < 2 ^ 32 then
        { status := 0, bytes := data ++ List.replicate 48 0x5E,
          size := UInt32.ofNat data.length + 48 }
      else { status := -1, bytes := [], size := 0 },
    unwrapCrypto := fun encData =>
      { status := 0, buffer := encData, start := 0, size := encData.length - 48 } }

/-- An `OPEN`, by its mode and its size. -/
def openMessage (mode size : UInt32) : List UInt8 :=
  commandMessage 4 13 (le32 0 ++ (le32 0 ++ (le32 mode ++ (le32 size ++ List.replicate 16 0))))

/-- A `READ` of some bytes. -/
def readMessage (size : Nat) : List UInt8 :=
  commandMessage 4 15 (le32 0 ++ (le32 (UInt32.ofNat size) ++ List.replicate (size + 24) 0))

theorem sampleTransfer_safe :
    ∃ history ta, (taSystem samplePlatform).Run history ta ∧
      ta.transfer.mode = fpcTaBioDbRdonly ∧ ta.transfer.remaining = 63 ∧
      TransferSafe samplePlatform ta := by
  obtain ⟨history, ta, result, hrun, hstep, hmode, hremaining⟩ :=
    executeThen_decided samplePlatform [(.sealing, openMessage 0 1)] (.sealing, readMessage 10)
      (fun _ _ result => result.ta.transfer.mode = fpcTaBioDbRdonly ∧
        result.ta.transfer.remaining = 63) (by decide +kernel)
  have hrun' := hrun.step hstep
  exact ⟨_, _, hrun', hmode, hremaining, transfer_safe hrun'⟩

end Fpc
