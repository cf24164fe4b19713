import Fingerprints.Ta.Transfer

/-!
# A transfer is a snapshot, or all or nothing

What the READs of a transfer have returned since it was opened is the part of its buffer in front
of the cursor, and the buffer holds what the database was wrapped to at the OPEN, whatever other
commands came in between. What the WRITEs have sent is that part of the buffer too, as long as
bytes remain; the database changes with the last of them and with no other, and then to what the
bytes decode to.
-/

namespace Fpc

open Wire Wire.Outcome Runs

/-! ## What the events move -/

/-- The event opens a transfer. -/
def opensTransfer (e : Event) : Bool :=
  e.is (.dbBlob .dbOpen) && (e.pre.transfer.mode == -1 && e.result.ta.transfer.mode != -1)

/-- The bytes that a READ returned: as many as remained before it and not after it. -/
def Event.returned (e : Event) : List UInt8 :=
  if e.is (.dbBlob .dbRead) then
    slice e.result.msg offArray (e.pre.transfer.remaining - e.result.ta.transfer.remaining)
  else []

/-- The bytes that a WRITE sent: the payload of its message, where that is valid. -/
def Event.sent (e : Event) : List UInt8 :=
  if e.is (.dbBlob .dbWrite) = true ∧ byteArrayValid e.msg = .ok true then
    slice e.msg offArray (field32 e.msg offSize).toNat
  else []

/-- What has been returned since the transfer was opened. -/
def returnedBytes (history : List Event) : List UInt8 :=
  collect Event.returned (since opensTransfer history)

/-- What has been sent since the transfer was opened. -/
def sentBytes (history : List Event) : List UInt8 :=
  collect Event.sent (since opensTransfer history)

section

variable {P : Platform} {ta ta' : Ta} {e : Event} {history : List Event}

theorem returnedBytes_cons (h : opensTransfer e = false) (history : List Event) :
    returnedBytes (e :: history) = returnedBytes history ++ e.returned := by
  rw [returnedBytes, since_cons_of_neg h, collect_cons, returnedBytes]

theorem sentBytes_cons (h : opensTransfer e = false) (history : List Event) :
    sentBytes (e :: history) = sentBytes history ++ e.sent := by
  rw [sentBytes, since_cons_of_neg h, collect_cons, sentBytes]

/-- Nothing is returned where the transfer does not advance. -/
theorem returned_of_kept (h : (taSystem P).step ta e ta') (ht : ta'.transfer = ta.transfer) :
    e.returned = [] := by
  obtain ⟨rfl, _, rfl⟩ := h
  unfold Event.returned
  split
  · rw [ht, Nat.sub_self]
    exact List.take_zero
  · rfl

theorem sent_of_other (h : e.is (.dbBlob .dbWrite) = false) : e.sent = [] := by
  unfold Event.sent
  rw [if_neg]
  rintro ⟨hwrite, _⟩
  rw [h] at hwrite
  cases hwrite

theorem sent_of_write (h : e.is (.dbBlob .dbWrite) = true) (hvalid : byteArrayValid e.msg = .ok true) :
    e.sent = slice e.msg offArray (field32 e.msg offSize).toNat := if_pos ⟨h, hvalid⟩

theorem length_sent_of_write (h : e.is (.dbBlob .dbWrite) = true)
    (hvalid : byteArrayValid e.msg = .ok true) :
    e.sent.length = (field32 e.msg offSize).toNat := by
  rw [sent_of_write h hvalid]
  exact length_slice (byteArrayValid_true hvalid)

theorem sent_of_invalid (hvalid : byteArrayValid e.msg = .ok false) : e.sent = [] := by
  unfold Event.sent
  rw [if_neg]
  rintro ⟨_, h⟩
  rw [hvalid] at h
  cases h

theorem opensTransfer_of_other (h : e.is (.dbBlob .dbOpen) = false) : opensTransfer e = false := by
  rw [opensTransfer, h, Bool.false_and]

/-! ## The buffer and the history -/

/-- The buffer of a transfer to the outside is what the database was wrapped to at its OPEN, and
the bytes in front of the cursor have been returned. -/
def ReadFrom (P : Platform) (history : List Event) (t : Transfer) : Prop :=
  ∃ opened n packed, latest opensTransfer history = some opened ∧
    (getDataSize opened.pre.bio.userDb = .ok n ∧ n ≠ 0 ∧
      getData opened.pre.bio.userDb (List.replicate n 0) n = .ok packed) ∧
    ¬ (opened.env.wrapCrypto packed).status < 0 ∧
    t.data = some (wrappedBuffer P opened.env n packed) ∧
    returnedBytes history = (wrappedBuffer P opened.env n packed).take t.dataOffset

/-- The size of a transfer from the outside is that of its OPEN; the bytes in front of the cursor
have been sent, until all of them have. -/
def WrittenFrom (history : List Event) (t : Transfer) : Prop :=
  ∃ opened, latest opensTransfer history = some opened ∧
    t.size = (field32 opened.msg offDbOpenSize).toNat ∧
    (t.remaining ≠ 0 → ∃ data, t.data = some data ∧ sentBytes history = data.take t.dataOffset) ∧
    (t.remaining = 0 → t.size ≤ (sentBytes history).length)

/-- What the history says of the transfer that is open. -/
structure TransferFrom (P : Platform) (history : List Event) (t : Transfer) : Prop where
  read : t.mode = fpcTaBioDbRdonly → ReadFrom P history t
  written : t.mode = fpcTaBioDbWronly → WrittenFrom history t

theorem TransferFrom.closed (P : Platform) (history : List Event) :
    TransferFrom P history .closed :=
  ⟨fun h => absurd h (by decide), fun h => absurd h (by decide)⟩

/-- A command that leaves the transfer leaves what the history says of it. -/
theorem TransferFrom.kept (h : TransferFrom P history ta.transfer)
    (hstep : (taSystem P).step ta e ta') (ht : ta'.transfer = ta.transfer)
    (hopens : opensTransfer e = false)
    (hsent : ta.transfer.mode = fpcTaBioDbWronly → e.sent = [] ∨ ta.transfer.remaining = 0) :
    TransferFrom P (e :: history) ta'.transfer := by
  rw [ht]
  constructor
  · intro hmode
    obtain ⟨opened, n, packed, hlatest, hpacked, hstatus, hdata, hreturned⟩ := h.read hmode
    refine ⟨opened, n, packed, by rwa [latest_cons_of_neg hopens], hpacked, hstatus, hdata, ?_⟩
    rw [returnedBytes_cons hopens, returned_of_kept hstep ht, List.append_nil, hreturned]
  · intro hmode
    obtain ⟨opened, hlatest, hsize, hmore, hall⟩ := h.written hmode
    refine ⟨opened, by rwa [latest_cons_of_neg hopens], hsize, ?_, ?_⟩
    · intro hremaining
      obtain ⟨data, hdata, hbytes⟩ := hmore hremaining
      refine ⟨data, hdata, ?_⟩
      rw [sentBytes_cons hopens, (hsent hmode).resolve_right hremaining, List.append_nil, hbytes]
    · intro hremaining
      have hle := hall hremaining
      rw [sentBytes_cons hopens, List.length_append]
      omega

/-- A transfer that was just opened. -/
theorem step_opens (h : (taSystem P).step ta e ta') (hinv : ta.transfer.Inv)
    (hcmd : e.is (.dbBlob .dbOpen) = true) (hopens : opensTransfer e = true) :
    TransferFrom P (e :: history) ta'.transfer := by
  obtain ⟨result, transfer, hopen, _, hta⟩ := step_dbOpen h hcmd
  have heffect := fpcTaDbOpen_effect hinv hopen
  have hlatest := latest_cons_of_pos hopens history
  have hreturned : returnedBytes (e :: history) = [] := by
    rw [returnedBytes, since_cons_of_pos hopens, collect_nil]
  have hsent : sentBytes (e :: history) = [] := by
    rw [sentBytes, since_cons_of_pos hopens, collect_nil]
  obtain ⟨hpre, _, hresult⟩ := h
  rw [opensTransfer, hpre, hresult, hta] at hopens
  rw [hta]
  cases heffect with
  | busy hmode =>
    simp only [Bool.and_eq_true, beq_iff_eq] at hopens
    exact absurd hopens.2.1 hmode
  | failed _ _ =>
    simp only [Bool.and_eq_true] at hopens
    exact absurd hopens.2.2 (by decide)
  | writing _ hsize _ =>
    constructor
    · intro hmode
      exact absurd hmode (by decide : (Transfer.writing 0).mode ≠ fpcTaBioDbRdonly)
    · intro _
      refine ⟨e, hlatest, rfl, ?_, ?_⟩
      · intro _
        exact ⟨_, rfl, hsent.trans List.take_zero.symm⟩
      · intro hzero
        exact absurd hzero (Nat.pos_iff_ne_zero.mp hsize.1)
  | @reading n packed _ _ _ hpacked hstatus _ =>
    constructor
    · intro _
      rw [← hpre] at hpacked
      refine ⟨e, n, packed, hlatest, hpacked, hstatus, rfl, ?_⟩
      exact hreturned.trans List.take_zero.symm
    · intro hmode
      exact absurd hmode (by decide : (Transfer.reading []).mode ≠ fpcTaBioDbWronly)

/-- An OPEN that opens nothing. -/
theorem step_opens_not (h : (taSystem P).step ta e ta') (hinv : ta.transfer.Inv)
    (hfrom : TransferFrom P history ta.transfer) (hcmd : e.is (.dbBlob .dbOpen) = true)
    (hopens : opensTransfer e = false) : TransferFrom P (e :: history) ta'.transfer := by
  have hsent := sent_of_other (is_unique hcmd (show _ ≠ Command.dbBlob .dbWrite by decide))
  obtain ⟨result, transfer, hopen, _, hta⟩ := step_dbOpen h hcmd
  cases fpcTaDbOpen_effect hinv hopen with
  | busy _ => exact hfrom.kept h (by rw [hta]) hopens fun _ => Or.inl hsent
  | failed _ _ =>
    rw [hta]
    exact .closed P _
  | writing hclosed _ _ =>
    obtain ⟨hpre, _, hresult⟩ := h
    rw [opensTransfer, hpre, hresult, hta, hcmd, hclosed] at hopens
    cases hopens
  | reading hclosed _ _ _ _ _ =>
    obtain ⟨hpre, _, hresult⟩ := h
    rw [opensTransfer, hpre, hresult, hta, hcmd, hclosed] at hopens
    cases hopens

/-- The bytes that a READ returned are those at the cursor. -/
theorem returned_of_copied {response : UInt32} {data : List UInt8} (h : (taSystem P).step ta e ta') (hinv : ta.transfer.Inv)
    (hcmd : e.is (.dbBlob .dbRead) = true) (hvalid : byteArrayValid e.msg = .ok true)
    (hdata : ta.transfer.data = some data)
    (hmsg : e.result.msg = put32 (overlay e.msg offArray
      (ta.transfer.atCursor (field32 e.msg offSize).toNat)) offResponse response)
    (hta : ta'.transfer = ta.transfer.advance (ta.transfer.clamp (field32 e.msg offSize).toNat)) :
    e.returned = ta.transfer.atCursor (field32 e.msg offSize).toNat := by
  have hinside := hinv.clamp_inside hdata (field32 e.msg offSize).toNat
  have hfits := clamp_inside_message ta.transfer hvalid
  have hlength : (ta.transfer.atCursor (field32 e.msg offSize).toNat).length
      = ta.transfer.clamp (field32 e.msg offSize).toNat := by
    rw [Transfer.atCursor, hdata, Option.getD_some, length_slice hinside]
  obtain ⟨hpre, _, hresult⟩ := h
  have hmoved : ta.transfer.remaining
      - (ta.transfer.advance (ta.transfer.clamp (field32 e.msg offSize).toNat)).remaining
      = (ta.transfer.atCursor (field32 e.msg offSize).toNat).length := by
    rw [hlength]
    dsimp only [Transfer.advance, Transfer.clamp]
    omega
  have hoverlay : (overlay e.msg offArray
      (ta.transfer.atCursor (field32 e.msg offSize).toNat)).length = e.msg.length :=
    length_overlay (by omega)
  unfold offArray at hfits
  rw [Event.returned, if_pos hcmd, hpre, hresult, hta, hmoved, hmsg,
    slice_put32 (by rw [hoverlay]; unfold offResponse; omega) (Or.inr (by decide)),
    slice_overlay (by unfold offArray; omega)]

/-- What was moved and the bytes at the cursor are what will have been moved. -/
theorem take_advance (data : List UInt8) (off n : Nat) :
    data.take off ++ slice data off n = data.take (off + n) := by
  rw [slice, ← List.take_add]

theorem step_reads (h : (taSystem P).step ta e ta') (hinv : ta.transfer.Inv)
    (hfrom : TransferFrom P history ta.transfer) (hcmd : e.is (.dbBlob .dbRead) = true) :
    TransferFrom P (e :: history) ta'.transfer := by
  have hopens := opensTransfer_of_other (is_unique hcmd (show _ ≠ Command.dbBlob .dbOpen by decide))
  have hsent := sent_of_other (is_unique hcmd (show _ ≠ Command.dbBlob .dbWrite by decide))
  cases step_dbRead h hcmd with
  | inl hrejected => exact hfrom.kept h (by rw [hrejected.2.1]) hopens fun _ => Or.inl hsent
  | inr hread =>
    obtain ⟨hvalid, result, transfer, msg, heffect, hmsg, hta⟩ := hread
    cases heffect with
    | refused _ => exact hfrom.kept h (by rw [hta]) hopens fun _ => Or.inl hsent
    | @copied data _ hmode _ hdata =>
      have hbytes := returned_of_copied h hinv hcmd hvalid hdata hmsg (by rw [hta])
      obtain ⟨opened, n, packed, hlatest, hpacked, hstatus, hbuffer, hreturned⟩ := hfrom.read hmode
      rw [hta]
      constructor
      · intro _
        refine ⟨opened, n, packed, by rwa [latest_cons_of_neg hopens], hpacked, hstatus, hbuffer, ?_⟩
        rw [returnedBytes_cons hopens, hreturned, hbytes, Transfer.atCursor, hbuffer,
          Option.getD_some, take_advance]
        rfl
      · intro hwronly
        exact absurd (hmode.symm.trans hwronly) (by decide)

theorem step_writes (h : (taSystem P).step ta e ta') (hinv : ta.transfer.Inv)
    (hfrom : TransferFrom P history ta.transfer) (hcmd : e.is (.dbBlob .dbWrite) = true) :
    TransferFrom P (e :: history) ta'.transfer := by
  have hopens := opensTransfer_of_other (is_unique hcmd (show _ ≠ Command.dbBlob .dbOpen by decide))
  cases step_dbWrite h hcmd with
  | inl hrejected =>
    exact hfrom.kept h (by rw [hrejected.2]) hopens fun _ => Or.inl (sent_of_invalid hrejected.1)
  | inr hwrite =>
    obtain ⟨hvalid, result, bio, transfer, heffect, hta⟩ := hwrite
    have hsent := sent_of_write hcmd hvalid
    have hlength := length_sent_of_write hcmd hvalid
    cases heffect with
    | refused hrefused =>
      apply hfrom.kept h (by rw [hta]) hopens
      intro hmode
      rcases hrefused with hother | hzero | hdone
      · exact absurd hmode hother
      · left
        rw [hsent, hzero]
        exact List.take_zero
      · exact Or.inr hdone
    | @copied data hmode hsize hdata hmore =>
      obtain ⟨opened, hlatest, hopened, hbytes, _⟩ := hfrom.written hmode
      obtain ⟨data', hdata', hbytes⟩ := hbytes (by omega)
      rw [hdata] at hdata'
      cases hdata'
      have hclamp : ta.transfer.clamp (field32 e.msg offSize).toNat
          = (field32 e.msg offSize).toNat := by
        unfold Transfer.clamp
        omega
      have hinside := hinv.clamp_inside hdata (field32 e.msg offSize).toNat
      rw [hta]
      constructor
      · intro hrdonly
        exact absurd (hmode.symm.trans hrdonly) (by decide)
      · intro _
        refine ⟨opened, by rwa [latest_cons_of_neg hopens], hopened, ?_, ?_⟩
        · intro _
          refine ⟨_, rfl, ?_⟩
          rw [sentBytes_cons hopens, hbytes, hsent]
          dsimp only [Transfer.take, Transfer.advance]
          rw [hclamp]
          have hover := take_overlay (slice e.msg offArray (field32 e.msg offSize).toNat)
            (by omega : ta.transfer.dataOffset ≤ data.length)
          rw [← hsent, hlength] at hover
          rw [← hsent, hover]
        · intro hzero
          dsimp only [Transfer.take, Transfer.advance] at hzero
          omega
    | @completed data _ _ _ hmode _ hremaining hdata hlast hunwrap =>
      obtain ⟨opened, hlatest, hopened, hbytes, _⟩ := hfrom.written hmode
      obtain ⟨data', hdata', hbytes⟩ := hbytes hremaining
      rw [hdata] at hdata'
      cases hdata'
      have htransfer := unwrap_transfer hunwrap
      have hinside := hinv.clamp_inside hdata (field32 e.msg offSize).toNat
      rw [hta]
      constructor
      · intro hrdonly
        dsimp only at hrdonly
        rw [htransfer] at hrdonly
        exact absurd (hmode.symm.trans hrdonly) (by decide)
      · intro _
        refine ⟨opened, by rwa [latest_cons_of_neg hopens], ?_, ?_, ?_⟩
        · dsimp only
          rw [htransfer]
          exact hopened
        · intro hmore
          dsimp only at hmore
          rw [htransfer] at hmore
          dsimp only [Transfer.take, Transfer.advance, Transfer.clamp] at hmore
          omega
        · intro _
          dsimp only
          rw [htransfer, sentBytes_cons hopens, List.length_append, hlength, hbytes,
            List.length_take]
          have hsplit := hinv.split hdata
          dsimp only [Transfer.take, Transfer.advance]
          omega

/-- The history says what the buffer holds: one case a command. -/
theorem step_transferFrom (h : (taSystem P).step ta e ta') (hinv : ta.transfer.Inv)
    (hfrom : TransferFrom P history ta.transfer) : TransferFrom P (e :: history) ta'.transfer := by
  cases isDbBlob_or e with
  | inr hother =>
    exact hfrom.kept h (step_transfer h hother) (opensTransfer_of_other (hother .dbOpen))
      fun _ => Or.inl (sent_of_other (hother .dbWrite))
  | inl hblob =>
    obtain ⟨cmd, hcmd⟩ := hblob
    cases cmd with
    | getDbSize =>
      exact hfrom.kept h (by rw [step_getDbSize h hcmd])
        (opensTransfer_of_other (is_unique hcmd (by decide)))
        fun _ => Or.inl (sent_of_other (is_unique hcmd (by decide)))
    | dbOpen =>
      cases hopens : opensTransfer e with
      | true => exact step_opens h hinv hcmd hopens
      | false => exact step_opens_not h hinv hfrom hcmd hopens
    | dbClose =>
      rw [(step_dbClose h hcmd).2]
      exact .closed P _
    | dbRead => exact step_reads h hinv hfrom hcmd
    | dbWrite => exact step_writes h hinv hfrom hcmd

theorem run_transferFrom (hrun : (taSystem P).Run history ta) :
    TransferFrom P history ta.transfer := by
  apply hrun.invariant (I := fun history ta => TransferFrom P history ta.transfer)
  · rintro s ⟨env, hinit⟩
    rw [transfer_init hinit]
    exact .closed P _
  · intro history s e s' hrun hfrom hstep
    exact step_transferFrom hstep (run_transferInv hrun) hfrom

/-! ## The database -/

/-- The database that a blob unwraps and decodes to, where it does. -/
def decodeBlob (env : Env) (blob : List UInt8) : Option FingerprintDatabase :=
  let unwrapped := fpcUnwrapCrypto env blob
  if unwrapped.status < 0 then none
  else
    match fpcDbCreate env.db (some unwrapped.data) unwrapped.data.length with
    | .ok db => some db
    | _ => none

/-- `unwrap` replaces the database where the blob decodes. -/
theorem unwrap_bio {env : Env} {bio bio' : Bio} {t t' : Transfer} {data : List UInt8} {result : Int}
    (hdata : t.data = some data) (h : unwrap env bio t = .ok (result, bio', t')) :
    bio' = { bio with userDb := (decodeBlob env data).or bio.userDb } := by
  unfold unwrap at h
  rw [hdata, Option.getD_some] at h
  unfold decodeBlob
  dsimp only at h ⊢
  split at h
  · next hstatus =>
    cases h
    rw [if_pos hstatus]
    rfl
  · next hstatus =>
    rw [if_neg hstatus]
    split at h
    · cases h
    · next hcreate =>
      cases h
      rw [hcreate]
      rfl
    · next hcreate =>
      cases h
      rw [hcreate]
      rfl

/-- The event is the WRITE with which the last of the `size` bytes of a transfer arrives. -/
def Completes (history : List Event) (size : Nat) (e : Event) : Prop :=
  e.is (.dbBlob .dbWrite) = true ∧ e.pre.transfer.mode = fpcTaBioDbWronly ∧
    (sentBytes history).length < size ∧ size ≤ (sentBytes (e :: history)).length

/-- The instance after a command of the blob module, by what was sent up to it. -/
def BioAfter (history : List Event) (size : Nat) (e : Event) (bio bio' : Bio) : Prop :=
  (Completes history size e →
    bio' = { bio with
      userDb := (decodeBlob e.env ((sentBytes (e :: history)).take size)).or bio.userDb }) ∧
  (¬ Completes history size e → bio' = bio)

theorem bioAfter_of_not {size : Nat} {bio : Bio} (h : ¬ Completes history size e) :
    BioAfter history size e bio bio := ⟨fun hcompletes => absurd hcompletes h, fun _ => rfl⟩

theorem not_completes_of_other {size : Nat} (h : e.is (.dbBlob .dbWrite) = false) :
    ¬ Completes history size e := by
  rintro ⟨hwrite, _⟩
  rw [h] at hwrite
  cases hwrite

/-- A WRITE changes the database when it brings the last bytes, and then to what they decode to. -/
theorem step_dbWrite_bio (h : (taSystem P).step ta e ta') (hinv : ta.transfer.Inv)
    (hfrom : TransferFrom P history ta.transfer) (hcmd : e.is (.dbBlob .dbWrite) = true) :
    BioAfter history ta.transfer.size e ta.bio ta'.bio := by
  have hopens := opensTransfer_of_other (is_unique hcmd (show _ ≠ Command.dbBlob .dbOpen by decide))
  have hpre : e.pre = ta := h.1
  have hsent := sentBytes_cons hopens history
  cases step_dbWrite h hcmd with
  | inl hrejected =>
    rw [hrejected.2]
    apply bioAfter_of_not
    rintro ⟨_, _, hless, hall⟩
    rw [hsent, sent_of_invalid hrejected.1, List.append_nil] at hall
    omega
  | inr hwrite =>
    obtain ⟨hvalid, result, bio, transfer, heffect, hta⟩ := hwrite
    have hlength := length_sent_of_write hcmd hvalid
    cases heffect with
    | refused hrefused =>
      rw [hta]
      apply bioAfter_of_not
      rintro ⟨_, hmode, hless, hall⟩
      rw [hpre] at hmode
      rcases hrefused with hother | hzero | hdone
      · exact hother hmode
      · rw [hsent, List.length_append, hlength] at hall
        omega
      · obtain ⟨_, _, _, _, hgot⟩ := hfrom.written hmode
        have hgot := hgot hdone
        omega
    | @copied data hmode _ hdata hmore =>
      rw [hta]
      apply bioAfter_of_not
      rintro ⟨_, _, hless, hall⟩
      obtain ⟨_, _, _, hbytes, _⟩ := hfrom.written hmode
      obtain ⟨data', hdata', hbytes⟩ := hbytes (by omega)
      rw [hdata] at hdata'
      cases hdata'
      have hsplit := hinv.split hdata
      rw [hsent, List.length_append, hlength, hbytes, List.length_take] at hall
      omega
    | @completed data _ _ _ hmode _ hremaining hdata hlast hunwrap =>
      obtain ⟨_, _, _, hbytes, _⟩ := hfrom.written hmode
      obtain ⟨data', hdata', hbytes⟩ := hbytes hremaining
      rw [hdata] at hdata'
      cases hdata'
      have hsplit := hinv.split hdata
      have hclamp : ta.transfer.clamp (field32 e.msg offSize).toNat = ta.transfer.remaining :=
        Nat.min_eq_left hlast
      have hshort : (sentBytes history).length = ta.transfer.dataOffset := by
        rw [hbytes, List.length_take]
        omega
      -- the whole buffer is now what was sent, up to its size
      have hbuffer : (overlay data ta.transfer.dataOffset
          (slice e.msg offArray ta.transfer.remaining))
          = (sentBytes (e :: history)).take ta.transfer.size := by
        have hslice : (slice e.msg offArray ta.transfer.remaining).length
            = ta.transfer.remaining := by
          apply length_slice
          rw [← hclamp]
          exact clamp_inside_message _ hvalid
        have hover := take_overlay (slice e.msg offArray ta.transfer.remaining)
          (by omega : ta.transfer.dataOffset ≤ data.length)
        rw [hslice, hsplit.1, hsplit.2, List.take_of_length_le
          (by rw [length_overlay (by omega)])] at hover
        have hpart : slice e.msg offArray ta.transfer.remaining
            = e.sent.take ta.transfer.remaining := by
          rw [sent_of_write hcmd hvalid, slice, slice, List.take_take, Nat.min_eq_left hlast]
        rw [hover, hsent, ← hsplit.1, ← hshort, List.take_length_add_append, hpart, hbytes,
          List.length_take, Nat.min_eq_left (by omega)]
      have hbio := unwrap_bio rfl hunwrap
      rw [hta]
      constructor
      · intro _
        dsimp only
        rw [hbio, hclamp, hbuffer]
      · intro hnot
        refine absurd ⟨hcmd, by rw [hpre]; exact hmode, by omega, ?_⟩ hnot
        rw [hsent, List.length_append, hlength]
        omega

/-- What holds of the transfers of a run: a READ transfer is a snapshot, a WRITE transfer is all or
nothing. -/
structure TransferAtomic (P : Platform) (history : List Event) (ta : Ta) : Prop where
  snapshot : ta.transfer.mode = fpcTaBioDbRdonly → ∃ opened packed,
    latest opensTransfer history = some opened ∧ PacksTo opened.pre.bio.userDb packed ∧
      returnedBytes history ++ (ta.transfer.data.getD []).drop ta.transfer.dataOffset
        = (opened.env.wrapCrypto packed).bytes ∧
      (ta.transfer.remaining = 0 →
        returnedBytes history = (opened.env.wrapCrypto packed).bytes)
  size : ta.transfer.mode = fpcTaBioDbWronly → ∃ opened,
    latest opensTransfer history = some opened ∧
      ta.transfer.size = (field32 opened.msg offDbOpenSize).toNat
  replaces : ∀ e ta', (taSystem P).step ta e ta' → (∃ cmd, e.is (.dbBlob cmd) = true) →
    BioAfter history ta.transfer.size e ta.bio ta'.bio

end

theorem Env.sealing_wrapsToSize : WrapsToSize samplePlatform .sealing := by
  intro data hstatus
  by_cases hfits : data.length + 48 < 2 ^ 32
  · have hwrap : (Env.sealing.wrapCrypto data).bytes = data ++ List.replicate 48 0x5E := by
      unfold Env.sealing
      dsimp only
      rw [if_pos hfits]
    have hsize : samplePlatform.getWrappedSize (UInt32.ofNat data.length)
        = UInt32.ofNat data.length + 48 := rfl
    have hlength : (UInt32.ofNat data.length).toNat = data.length := by
      rw [UInt32.toNat_ofNat']
      omega
    rw [hwrap, hsize, List.length_append, List.length_replicate, UInt32.toNat_add, hlength]
    exact (Nat.mod_eq_of_lt hfits).symm
  · refine absurd ?_ hstatus
    unfold Env.sealing
    dsimp only
    rw [if_neg hfits]
    decide

/-- The commands of a transfer to the outside, with another database loaded in between. -/
def sampleReads : List (Env × List UInt8) :=
  [openMessage 0 1, readMessage 10, commandMessage 11 6 (List.replicate 32 0), readMessage 100].map
    fun msg => (.sealing, msg)

end Fpc
