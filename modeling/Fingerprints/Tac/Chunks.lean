import Fingerprints.Db.Errors
import Fingerprints.Ta.Transfer
import Fingerprints.Tac.HostStorage

/-!
# The chunk protocol

The client computes the size of each chunk from what it still has to move, the application from
the size field of the message, which stays that of the first chunk, and from its own counter. The
two agree because the counters do: between any two messages each side has the same number of bytes
left, and the buffer of one is, up to there, the buffer of the other (`ReadSync`, `WriteSync`).
-/

namespace Fpc

open Wire Wire.Outcome

/-! ## The header -/

/-- A header in the message buffer. -/
theorem dbHeader_ok {shared : List UInt8} (command : UInt32)
    (hlen : sizeofBioCommand ≤ shared.length) :
    ∃ msg, dbHeader shared command = .ok msg ∧ msg.length = shared.length ∧
      field32 msg offTarget = targetFpcTaDbBlob ∧ field32 msg offCommand = command := by
  unfold sizeofBioCommand at hlen
  have htarget : offTarget + 4 ≤ shared.length := by
    unfold offTarget
    omega
  have h1 := length_put32 htarget targetFpcTaDbBlob
  have hcommand : offCommand + 4 ≤ (put32 shared offTarget targetFpcTaDbBlob).length := by
    rw [h1]
    unfold offCommand
    omega
  refine ⟨put32 (put32 shared offTarget targetFpcTaDbBlob) offCommand command, ?_, ?_, ?_, ?_⟩
  · rw [dbHeader, store32_eq htarget, ok_bind, store32_eq hcommand]
  · rw [length_put32 hcommand, h1]
  · rw [field32_put32_of_disjoint hcommand (Or.inl (by decide)),
      field32_put32 (by unfold offTarget; omega)]
  · rw [field32_put32 (by omega)]

/-- A command of the blob module, by its header. -/
theorem commandOf_dbBlob {msg : List UInt8} {cmd : DbBlobCmd} {command : UInt32}
    (hlen : sizeofBioCommand ≤ msg.length) (htarget : field32 msg offTarget = targetFpcTaDbBlob)
    (hcommand : field32 msg offCommand = command) (hcmd : DbBlobCmd.ofWord command = some cmd) :
    commandOf msg = some (.dbBlob cmd) := by
  have hword : Target.ofWord (field32 msg offTarget) = some .dbBlob := by
    rw [htarget]
    decide
  have hblob : dbBlobCmd msg = some cmd := by
    rw [dbBlobCmd, commandIn, if_neg (by omega), hcommand, hcmd]
  unfold sizeofBioCommand at hlen
  rw [commandOf_of_target (by unfold sizeofHeader; omega) hword, moduleCommand, hblob]
  rfl

/-! ## The message -/

/-- The message of a chunk loop over `n` bytes. -/
structure IsChunkMessage (command : UInt32) (n : Nat) (msg : List UInt8) : Prop where
  target : field32 msg offTarget = targetFpcTaDbBlob
  command : field32 msg offCommand = command
  size : (field32 msg offSize).toNat = min n maxChunk
  length : msg.length = chunkMessageSize n

section

variable {command : UInt32} {n : Nat} {msg : List UInt8}

theorem IsChunkMessage.le_length (h : IsChunkMessage command n msg) :
    sizeofBioCommand + min n maxChunk ≤ msg.length := by
  rw [h.length, chunkMessageSize]
  omega

theorem IsChunkMessage.commandOf {cmd : DbBlobCmd} (h : IsChunkMessage command n msg)
    (hcmd : DbBlobCmd.ofWord command = some cmd) : commandOf msg = some (.dbBlob cmd) := by
  have hlen := h.le_length
  exact commandOf_dbBlob (by omega) h.target h.command hcmd

theorem IsChunkMessage.valid (h : IsChunkMessage command n msg) :
    byteArrayValid msg = .ok true := by
  have hlen := h.le_length
  unfold sizeofBioCommand at hlen
  apply byteArrayValid_of_le
  · rw [h.size]
    unfold sizeofByteArrayMsg
    omega
  · rw [h.size]
    unfold sizeofByteArrayMsg maxChunk
    omega

/-- The payload can be changed. -/
theorem IsChunkMessage.overlay {bytes : List UInt8} (h : IsChunkMessage command n msg)
    (hbytes : bytes.length ≤ min n maxChunk) :
    IsChunkMessage command n (overlay msg offArray bytes) := by
  have hlen := h.le_length
  have hin : offArray + bytes.length ≤ msg.length := by
    unfold sizeofBioCommand at hlen
    unfold offArray
    omega
  constructor
  · rw [field32_overlay hin (Or.inl (by decide)), h.target]
  · rw [field32_overlay hin (Or.inl (by decide)), h.command]
  · rw [field32_overlay hin (Or.inl (by decide)), h.size]
  · rw [length_overlay hin, h.length]

/-- The response can be set. -/
theorem IsChunkMessage.put32 (h : IsChunkMessage command n msg) (x : UInt32) :
    IsChunkMessage command n (put32 msg offResponse x) := by
  have hlen := h.le_length
  have hin : offResponse + 4 ≤ msg.length := by
    unfold sizeofBioCommand at hlen
    unfold offResponse
    omega
  constructor
  · rw [field32_put32_of_disjoint hin (Or.inl (by decide)), h.target]
  · rw [field32_put32_of_disjoint hin (Or.inl (by decide)), h.command]
  · rw [field32_put32_of_disjoint hin (Or.inr (by decide)), h.size]
  · rw [length_put32 hin, h.length]

end

/-- The message that a loop starts with. -/
theorem chunkStart_eq (tee : Tee) (command : UInt32) {shared blob : List UInt8}
    (hlen : shared.length = chunkMessageSize blob.length) (hblob : blob.length < 2 ^ 32) :
    ∃ msg, IsChunkMessage command blob.length msg ∧ chunkStart tee shared blob command = .ok
      { tee := tee, shared := msg, blob := blob, offset := 0, remainingSize := blob.length,
        result := 0 } := by
  have hlong : sizeofBioCommand ≤ shared.length := by
    rw [hlen, chunkMessageSize]
    omega
  obtain ⟨msg, hheader, hmsg, htarget, hcommand⟩ := dbHeader_ok command hlong
  have hsize : offSize + 4 ≤ msg.length := by
    unfold sizeofBioCommand at hlong
    unfold offSize
    omega
  refine ⟨put32 msg offSize (UInt32.ofNat (min blob.length maxChunk)), ?_, ?_⟩
  · constructor
    · rw [field32_put32_of_disjoint hsize (Or.inl (by decide)), htarget]
    · rw [field32_put32_of_disjoint hsize (Or.inl (by decide)), hcommand]
    · rw [field32_put32 (by omega), UInt32.toNat_ofNat']
      unfold maxChunk
      omega
    · rw [length_put32 hsize, hmsg, hlen]
  · rw [chunkStart, hheader, ok_bind, store32_eq hsize, ok_bind, wrap32_of_lt hblob]

/-! ## A transfer on its way -/

/-- A transfer to the outside of which some bytes were read. -/
def Transfer.readingAt (data : List UInt8) (off : Nat) : Transfer :=
  { mode := fpcTaBioDbRdonly, size := data.length, remaining := data.length - off,
    dataOffset := off, data := some data }

/-- A transfer from the outside of which some bytes have come in. -/
def Transfer.writingAt (data : List UInt8) (off : Nat) : Transfer :=
  { mode := fpcTaBioDbWronly, size := data.length, remaining := data.length - off,
    dataOffset := off, data := some (data.take off ++ List.replicate (data.length - off) 0) }

theorem Transfer.readingAt_zero (data : List UInt8) : readingAt data 0 = reading data := rfl

theorem Transfer.writingAt_zero (data : List UInt8) : writingAt data 0 = writing data.length := rfl

section

variable {data msg : List UInt8} {off : Nat}

/-- The bytes in front of the cursor, with the next ones. -/
theorem take_append_slice (data : List UInt8) (off k : Nat) :
    data.take off ++ slice data off k = data.take (off + k) := by
  rw [slice, List.take_add]

theorem fpcTaDbRead_readingAt (msg : List UInt8) (size : Nat) (hoff : off < data.length) (hsize : size ≠ 0)
    (hmsg : offArray + min (data.length - off) size ≤ msg.length) :
    fpcTaDbRead (.readingAt data off) msg size =
      .ok (toInt32 (UInt32.ofNat (data.length - (off + min (data.length - off) size))),
        .readingAt data (off + min (data.length - off) size),
        overlay msg offArray (slice data off (min (data.length - off) size))) := by
  have hinside : off + min (data.length - off) size ≤ data.length := by omega
  have hremaining : (Transfer.readingAt data off).remaining ≠ 0 := by
    dsimp only [Transfer.readingAt]
    omega
  have hcopy : dbReadCopy (.readingAt data off) msg size = .ok
      (.readingAt data (off + min (data.length - off) size),
        overlay msg offArray (slice data off (min (data.length - off) size))) := by
    unfold dbReadCopy Transfer.clamp Transfer.advance Transfer.readingAt
    dsimp only
    rw [loadSpan_eq hinside, ok_bind, storeSpan_eq (by rw [length_slice hinside]; exact hmsg),
      ok_bind, Nat.sub_sub]
  rw [fpcTaDbRead, if_neg (by rw [not_or, not_or]; exact ⟨hsize, not_not.mpr rfl, hremaining⟩),
    hcopy, ok_bind]
  rfl

theorem fpcTaDbWrite_writingAt (msg : List UInt8) (size : Nat) (env : Env) (bio : Bio)
    (hoff : off < data.length)
    (hsize : size ≠ 0) (hmsg : offArray + min (data.length - off) size ≤ msg.length)
    (hbytes : slice msg offArray (min (data.length - off) size)
      = slice data off (min (data.length - off) size)) :
    fpcTaDbWrite env bio (.writingAt data off) msg size =
      if data.length - (off + min (data.length - off) size) = 0 then
        unwrap env bio (.writingAt data (off + min (data.length - off) size))
      else .ok (toInt32 (UInt32.ofNat (data.length - (off + min (data.length - off) size))), bio,
        .writingAt data (off + min (data.length - off) size)) := by
  have hinside : off + min (data.length - off) size ≤ data.length := by omega
  have hremaining : (Transfer.writingAt data off).remaining ≠ 0 := by
    dsimp only [Transfer.writingAt]
    omega
  have htake : (data.take off).length = off := by
    rw [List.length_take]
    omega
  have hbuffer : overlay (data.take off ++ List.replicate (data.length - off) 0) off
      (slice data off (min (data.length - off) size))
      = data.take (off + min (data.length - off) size)
        ++ List.replicate (data.length - (off + min (data.length - off) size)) 0 := by
    rw [overlay, length_slice hinside, List.take_left' htake, ← List.append_assoc,
      take_append_slice, List.drop_append, htake, List.drop_of_length_le (by omega), List.nil_append,
      List.drop_replicate]
    congr 2
    omega
  have hcopy : dbWriteCopy (.writingAt data off) msg size = .ok
      (.writingAt data (off + min (data.length - off) size)) := by
    unfold dbWriteCopy Transfer.clamp Transfer.advance Transfer.writingAt
    dsimp only
    rw [loadSpan_eq hmsg, ok_bind, hbytes, storeSpan_eq, ok_bind, hbuffer, Nat.sub_sub]
    rw [length_slice hinside, List.length_append, htake, List.length_replicate]
    omega
  have hmode : (Transfer.writingAt data off).mode = fpcTaBioDbWronly := rfl
  rw [fpcTaDbWrite, if_neg (not_not.mpr hmode),
    if_neg (by rw [not_or]; exact ⟨hsize, hremaining⟩), hcopy, ok_bind]
  rfl

/-- The application handles the message of a chunk to the outside. -/
theorem route_dbRead (P : Platform) (env : Env) (ta : Ta)
    (hmsg : IsChunkMessage fpcTaBioDbReadCmd data.length msg) (hoff : off < data.length) :
    fpcTaRouteCommand P env { ta with transfer := .readingAt data off } msg = .ok
      { ta := { ta with
          transfer := .readingAt data (off + min maxChunk (data.length - off)) },
        msg := put32 (overlay msg offArray (slice data off (min maxChunk (data.length - off))))
          offResponse (UInt32.ofNat (data.length - (off + min maxChunk (data.length - off)))),
        status := 0 } := by
  have hlen := hmsg.le_length
  unfold sizeofBioCommand at hlen
  have hk : min (data.length - off) (min data.length maxChunk)
      = min maxChunk (data.length - off) := by omega
  have hread := fpcTaDbRead_readingAt msg (min data.length maxChunk) hoff
    (by unfold maxChunk sizeofByteArrayMsg; omega) (by unfold offArray; omega)
  rw [hk] at hread
  obtain ⟨_, hroute⟩ := fpcTaRouteCommand_of_dbBlob P env { ta with transfer := .readingAt data off }
    (hmsg.commandOf (show _ = some DbBlobCmd.dbRead by decide))
  rw [hroute, dbBlobSwitch, hmsg.valid, ok_bind, Bool.not_true, if_neg Bool.false_ne_true,
    load32_eq (by unfold offSize; omega), ok_bind, hmsg.size, hread, ok_bind]
  dsimp only
  rw [store32_eq, ok_bind, ofInt32_toInt32]
  rw [length_overlay]
  · unfold offResponse
    omega
  · rw [length_slice (by omega)]
    unfold offArray
    omega

/-- The application handles the message of a chunk from the outside. -/
theorem route_dbWrite (P : Platform) (env : Env) (ta : Ta)
    (hmsg : IsChunkMessage fpcTaBioDbWriteCmd data.length msg) (hoff : off < data.length)
    (hbytes : slice msg offArray (min maxChunk (data.length - off))
      = slice data off (min maxChunk (data.length - off))) :
    fpcTaRouteCommand P env { ta with transfer := .writingAt data off } msg =
      if data.length - (off + min maxChunk (data.length - off)) = 0 then do
        let (response, bio, transfer) ←
          unwrap env ta.bio (.writingAt data (off + min maxChunk (data.length - off)))
        .ok { ta := { ta with bio := bio, transfer := transfer },
              msg := put32 msg offResponse (ofInt32 response), status := 0 }
      else .ok
        { ta := { ta with
            transfer := .writingAt data (off + min maxChunk (data.length - off)) },
          msg := put32 msg offResponse
            (UInt32.ofNat (data.length - (off + min maxChunk (data.length - off)))),
          status := 0 } := by
  have hlen := hmsg.le_length
  unfold sizeofBioCommand at hlen
  have hk : min (data.length - off) (min data.length maxChunk)
      = min maxChunk (data.length - off) := by omega
  have hwrite := fpcTaDbWrite_writingAt msg (min data.length maxChunk) env ta.bio hoff
    (by unfold maxChunk sizeofByteArrayMsg; omega)
    (by unfold offArray; omega) (by rw [hk]; exact hbytes)
  rw [hk] at hwrite
  have hstore (x : UInt32) : store32 msg offResponse x = .ok (put32 msg offResponse x) :=
    store32_eq (by unfold offResponse; omega) x
  obtain ⟨_, hroute⟩ := fpcTaRouteCommand_of_dbBlob P env { ta with transfer := .writingAt data off }
    (hmsg.commandOf (show _ = some DbBlobCmd.dbWrite by decide))
  rw [hroute, dbBlobSwitch, hmsg.valid, ok_bind, Bool.not_true, if_neg Bool.false_ne_true,
    load32_eq (by unfold offSize; omega), ok_bind, hmsg.size, hwrite]
  split
  · simp only [hstore, ok_bind]
  · rw [ok_bind]
    dsimp only
    rw [hstore, ok_bind, ofInt32_toInt32]

end

/-! ## The loops in step -/

/-- Between two rounds of a loop that takes `data` out: the bytes in front of the offset have come,
and the application waits behind them. -/
structure ReadSync (tee : Tee) (data : List UInt8) (s : ChunkLoop) : Prop where
  message : IsChunkMessage fpcTaBioDbReadCmd data.length s.shared
  left : s.offset + s.remainingSize = data.length
  ta : s.tee.ta = { tee.ta with transfer := .readingAt data s.offset }
  buffer : s.tee.sharedBuffer = tee.sharedBuffer
  length : s.blob.length = data.length
  moved : s.blob.take s.offset = data.take s.offset
  result : 0 < s.offset → s.result = s.remainingSize

/-- Between two rounds of a loop that puts `data` in: the application has the bytes in front of the
offset. -/
structure WriteSync (tee : Tee) (data : List UInt8) (s : ChunkLoop) : Prop where
  message : IsChunkMessage fpcTaBioDbWriteCmd data.length s.shared
  left : s.offset + s.remainingSize = data.length
  unfinished : s.remainingSize ≠ 0
  ta : s.tee.ta = { tee.ta with transfer := .writingAt data s.offset }
  buffer : s.tee.sharedBuffer = tee.sharedBuffer
  blob : s.blob = data

/-- The message of a round with its payload. -/
structure HasChunk (s : ChunkLoop) (data shared : List UInt8) : Prop where
  message : IsChunkMessage fpcTaBioDbWriteCmd data.length shared
  payload : slice shared offArray (min maxChunk s.remainingSize)
    = slice data s.offset (min maxChunk s.remainingSize)
  load : loadSpan s.blob s.offset (min maxChunk s.remainingSize)
    = .ok (slice data s.offset (min maxChunk s.remainingSize))
  store : storeSpan s.shared offArray (slice data s.offset (min maxChunk s.remainingSize))
    = .ok shared

section

variable {P : Platform} {tac : Tac} {sees : Int → Int} (envs : Nat → Env) {tee : Tee}
  {data : List UInt8} {s : ChunkLoop}

/-- The next bytes go into the message. -/
theorem WriteSync.chunk (hsync : WriteSync tee data s) : ∃ shared, HasChunk s data shared := by
  have hsum := hsync.left
  have hlen := hsync.message.le_length
  unfold sizeofBioCommand at hlen
  have harr : offArray = 16 := rfl
  have hslice : (slice data s.offset (min maxChunk s.remainingSize)).length
      = min maxChunk s.remainingSize := length_slice (by omega)
  have hover := @slice_overlay s.shared offArray
    (slice data s.offset (min maxChunk s.remainingSize)) (by omega)
  rw [hslice] at hover
  refine ⟨overlay s.shared offArray (slice data s.offset (min maxChunk s.remainingSize)), ?_⟩
  constructor
  · exact hsync.message.overlay (by omega)
  · exact hover
  · rw [hsync.blob]
    exact loadSpan_eq (by omega)
  · exact storeSpan_eq (by omega)

/-- What the application says is left, as the client reads it. -/
theorem response_left (n : Nat) (msg : List UInt8) (hlen : offResponse + 4 ≤ msg.length)
    (hn : n < 2 ^ 31) :
    load32 (put32 msg offResponse (UInt32.ofNat n)) offResponse = .ok (UInt32.ofNat n) ∧
      toInt32 (UInt32.ofNat n) = n ∧ (UInt32.ofNat n).toNat = n := by
  refine ⟨?_, ?_, ?_⟩
  · rw [load32_eq (by rw [length_put32 hlen]; exact hlen), field32_put32 (by omega)]
  · have hfits : FitsInt n := ⟨by omega, by omega⟩
    have hword : UInt32.ofNat n = ofInt32 n := by
      rw [ofInt32, Int32.ofInt_eq_ofNat]
      rfl
    rw [hword, toInt32_ofInt32 hfits]
  · rw [UInt32.toNat_ofNat']
    omega

/-- A round of the loop that takes a blob out goes on, and the two stay in step. -/
theorem sendDbReadRound_next (hdelivers : tac.Delivers P sees) (hsync : ReadSync tee data s)
    (hmax : data.length ≤ fpcTaMaxTransfer) (hleft : s.remainingSize ≠ 0) :
    ∃ s', sendDbReadRound tac envs s = .ok (s', none) ∧ ReadSync tee data s' := by
  have hsum := hsync.left
  have hoff : s.offset < data.length := by omega
  have hrest : s.remainingSize = data.length - s.offset := by omega
  unfold fpcTaMaxTransfer at hmax
  have hlen := hsync.message.le_length
  unfold sizeofBioCommand at hlen
  generalize hk : min maxChunk s.remainingSize = k
  have hkmin : min maxChunk (data.length - s.offset) = k := by rw [← hrest, hk]
  have hpos : 0 < k := by
    unfold maxChunk sizeofByteArrayMsg at hk
    omega
  have hinside : s.offset + k ≤ data.length := by omega
  have hslice : (slice data s.offset k).length = k := length_slice hinside
  have hpayload : (slice data s.offset k).length ≤ min data.length maxChunk := by omega
  have hroute := route_dbRead P (envs s.tee.messages) tee.ta hsync.message hoff
  rw [hkmin] at hroute
  have hmessage := hsync.message.overlay hpayload
  have hlen' := hmessage.le_length
  unfold sizeofBioCommand at hlen'
  obtain ⟨hload, hint, hnat⟩ := response_left (data.length - (s.offset + k))
    (overlay s.shared offArray (slice data s.offset k)) (by unfold offResponse; omega)
    (by omega)
  -- the payload is still in the message behind the response
  have harray : loadSpan (put32 (overlay s.shared offArray (slice data s.offset k)) offResponse
      (UInt32.ofNat (data.length - (s.offset + k)))) offArray k
      = .ok (slice data s.offset k) := by
    rw [loadSpan_eq, slice_put32 (by unfold offResponse; omega) (Or.inr (by decide))]
    · have hover := @slice_overlay s.shared offArray
        (slice data s.offset k) (by unfold offArray; omega)
      rw [hslice] at hover
      rw [hover]
    · rw [length_put32 (by unfold offResponse; omega)]
      have harr : offArray = 16 := rfl
      omega
  have hstore : storeSpan s.blob s.offset (slice data s.offset k)
      = .ok (overlay s.blob s.offset (slice data s.offset k)) :=
    storeSpan_eq (by rw [hslice, hsync.length]; exact hinside)
  let next : Tee :=
    { s.tee with
      ta := { tee.ta with transfer := .readingAt data (s.offset + k) }
      messages := s.tee.messages + 1 }
  refine ⟨
    { tee := next
      shared := put32 (overlay s.shared offArray (slice data s.offset k)) offResponse
        (UInt32.ofNat (data.length - (s.offset + k)))
      blob := overlay s.blob s.offset (slice data s.offset k)
      offset := s.offset + k
      remainingSize := s.remainingSize - k
      result := ((data.length - (s.offset + k) : Nat) : Int) }, ?_, ?_⟩
  · unfold sendDbReadRound transfer
    dsimp only
    rw [hdelivers.transfer, hsync.ta, hroute]
    simp only [ok_bind, hdelivers.zero, hload, hint, hnat, hk]
    rw [if_neg (by omega), if_neg (by omega), if_neg (by omega), harray, ok_bind, hstore, ok_bind]
  · constructor
    · exact hmessage.put32 _
    · dsimp only
      omega
    · rfl
    · exact hsync.buffer
    · rw [length_overlay (by rw [hslice, hsync.length]; exact hinside), hsync.length]
    · have htake := take_overlay (slice data s.offset k)
        (show s.offset ≤ s.blob.length by rw [hsync.length]; omega)
      rw [hslice] at htake
      rw [htake, hsync.moved, take_append_slice]
    · intro _
      dsimp only
      omega

/-- A round of the loop that puts a blob in, before the last one: it goes on, and the two stay in
step. -/
theorem sendDbWriteRound_next (hdelivers : tac.Delivers P sees) (hsync : WriteSync tee data s)
    (hmax : data.length ≤ fpcTaMaxTransfer) (hmore : maxChunk < s.remainingSize) :
    ∃ s', sendDbWriteRound tac envs s = .ok (s', none) ∧ WriteSync tee data s' := by
  have hsum := hsync.left
  have hoff : s.offset < data.length := by omega
  have hrest : s.remainingSize = data.length - s.offset := by omega
  unfold fpcTaMaxTransfer at hmax
  obtain ⟨shared, hchunk⟩ := hsync.chunk
  have hk : min maxChunk (data.length - s.offset) = maxChunk := by omega
  have hroute := route_dbWrite P (envs s.tee.messages) tee.ta hchunk.message hoff
    (by rw [← hrest]; exact hchunk.payload)
  rw [hk, if_neg (by omega)] at hroute
  have hlen := hchunk.message.le_length
  unfold sizeofBioCommand at hlen
  obtain ⟨hload, hint, hnat⟩ := response_left (data.length - (s.offset + maxChunk)) shared
    (by unfold offResponse; omega) (by omega)
  let next : Tee :=
    { s.tee with
      ta := { tee.ta with transfer := .writingAt data (s.offset + maxChunk) }
      messages := s.tee.messages + 1 }
  refine ⟨
    { tee := next
      shared := put32 shared offResponse (UInt32.ofNat (data.length - (s.offset + maxChunk)))
      blob := data
      offset := s.offset + maxChunk
      remainingSize := s.remainingSize - maxChunk
      result := ((data.length - (s.offset + maxChunk) : Nat) : Int) }, ?_, ?_⟩
  · unfold sendDbWriteRound transfer
    dsimp only
    rw [hchunk.load, ok_bind, hchunk.store, ok_bind, hdelivers.transfer, hsync.ta, hroute]
    simp only [ok_bind, hdelivers.zero, hload, hint, hnat]
    rw [if_neg (by omega), if_neg (by omega), if_neg (by omega), hsync.blob,
      show min maxChunk s.remainingSize = maxChunk by omega]
  · constructor
    · exact hchunk.message.put32 _
    · dsimp only
      omega
    · dsimp only
      omega
    · rfl
    · exact hsync.buffer
    · rfl

/-- What `unwrap` comes to: a database, an error, or a fault. -/
theorem unwrap_cases (env : Env) (bio : Bio) (t : Transfer) :
    (∃ bio' t', unwrap env bio t = .ok (0, bio', t')) ∨
      (∃ code t', IsError code ∧ unwrap env bio t = .ok (code, bio, t')) ∨
      ∃ f, unwrap env bio t = .fault f := by
  unfold unwrap
  dsimp only
  split
  · next hstatus =>
    have herror : IsError (fpcUnwrapCrypto env (t.data.getD [])).status :=
      ⟨Int32.le_toInt _, hstatus⟩
    exact Or.inr (Or.inl ⟨_, _, herror, rfl⟩)
  · cases hcreate : fpcDbCreate env.db (some (fpcUnwrapCrypto env (t.data.getD [])).data)
      (fpcUnwrapCrypto env (t.data.getD [])).data.length with
    | ok db => exact Or.inl ⟨_, _, rfl⟩
    | err code => exact Or.inr (Or.inl ⟨_, _, (fpcDbCreate_errors _).of_err code hcreate, rfl⟩)
    | fault f => exact Or.inr (Or.inr ⟨f, rfl⟩)

/-- The end of the loop that puts `data` in, by what the application makes of it. -/
inductive WriteVerdict (env : Env) (tee : Tee) (data : List UInt8) :
    Outcome (ChunkLoop × Option ChunkExit) → Prop
  | taken {s : ChunkLoop} {bio : Bio} {t : Transfer}
      (hunwrap : unwrap env tee.ta.bio (.writingAt data data.length) = .ok (0, bio, t))
      (hta : s.tee.ta = { tee.ta with bio := bio, transfer := t }) (hleft : s.remainingSize = 0)
      (hbuffer : s.tee.sharedBuffer = tee.sharedBuffer) (hresult : s.result = 0) :
      WriteVerdict env tee data (.ok (s, none))
  | refused {s : ChunkLoop} {code : Int} {t : Transfer} (herror : code < 0)
      (hunwrap : unwrap env tee.ta.bio (.writingAt data data.length) = .ok (code, tee.ta.bio, t))
      (hta : s.tee.ta = { tee.ta with transfer := t })
      (hbuffer : s.tee.sharedBuffer = tee.sharedBuffer) (hresult : s.result = code) :
      WriteVerdict env tee data (.ok (s, some .failed))
  | faulted {f : Fault}
      (hunwrap : unwrap env tee.ta.bio (.writingAt data data.length) = .fault f) :
      WriteVerdict env tee data (.fault f)

/-- The last round of the loop that puts a blob in ends as the application decides. -/
theorem sendDbWriteRound_last (hdelivers : tac.Delivers P sees) (hsync : WriteSync tee data s)
    (hlast : s.remainingSize ≤ maxChunk) :
    WriteVerdict (envs s.tee.messages) tee data (sendDbWriteRound tac envs s) := by
  have hsum := hsync.left
  have hne := hsync.unfinished
  have hoff : s.offset < data.length := by omega
  have hrest : s.remainingSize = data.length - s.offset := by omega
  obtain ⟨shared, hchunk⟩ := hsync.chunk
  have hk : min maxChunk (data.length - s.offset) = data.length - s.offset := by omega
  have hend : s.offset + (data.length - s.offset) = data.length := by omega
  have hroute := route_dbWrite P (envs s.tee.messages) tee.ta hchunk.message hoff
    (by rw [← hrest]; exact hchunk.payload)
  rw [hk, hend, if_pos (Nat.sub_self _)] at hroute
  have hlen := hchunk.message.le_length
  unfold sizeofBioCommand at hlen
  have hload (x : UInt32) : load32 (put32 shared offResponse x) offResponse = .ok x := by
    rw [load32_eq, field32_put32 (by unfold offResponse; omega)]
    rw [length_put32 (by unfold offResponse; omega)]
    unfold offResponse
    omega
  unfold sendDbWriteRound transfer
  dsimp only
  rw [hchunk.load, ok_bind, hchunk.store, ok_bind, hdelivers.transfer, hsync.ta, hroute]
  obtain ⟨bio, t, hunwrap⟩ | ⟨code, t, herror, hunwrap⟩ | ⟨f, hunwrap⟩ :=
    unwrap_cases (envs s.tee.messages) tee.ta.bio (.writingAt data data.length)
  · simp only [hunwrap, ok_bind, hdelivers.zero, hload, toInt32_ofInt32 (show FitsInt 0 by decide)]
    rw [if_neg (by omega), if_neg (by omega), if_neg]
    · exact .taken hunwrap rfl (by dsimp only; omega) hsync.buffer rfl
    · rw [show min maxChunk s.remainingSize = s.remainingSize by omega, Nat.sub_self, not_not]
      decide
  · simp only [hunwrap, ok_bind, hdelivers.zero, hload, toInt32_ofInt32 herror.fitsInt]
    rw [if_neg (by omega), if_pos herror.2]
    exact .refused herror.2 hunwrap rfl hsync.buffer rfl
  · rw [hunwrap]
    exact .faulted hunwrap

theorem readLoop_reaches (hdelivers : tac.Delivers P sees) (hsync : ReadSync tee data s)
    (hmax : data.length ≤ fpcTaMaxTransfer) {t : ChunkLoop}
    (h : (readLoop tac envs).Reaches s t) : ReadSync tee data t := by
  apply h.invariant hsync
  intro t t' ht hleft hround
  obtain ⟨next, hnext, hnextSync⟩ := sendDbReadRound_next envs hdelivers ht hmax hleft
  have heq := hround.symm.trans hnext
  injection heq with heq
  injection heq with heq
  rw [heq]
  exact hnextSync

/-- The loop that takes a blob out ends with all of it. -/
theorem readLoop_run (hdelivers : tac.Delivers P sees) (hsync : ReadSync tee data s)
    (hmax : data.length ≤ fpcTaMaxTransfer) :
    ∃ t, (readLoop tac envs).run s = .ok (t, none) ∧ ReadSync tee data t ∧
      t.remainingSize = 0 := by
  apply Loop.run_rule (I := ReadSync tee data)
    (Q := fun r => ∃ t, r = .ok (t, none) ∧ ReadSync tee data t ∧ t.remainingSize = 0)
  · intro t ht hleft
    exact ⟨t, rfl, ht, hleft⟩
  · intro t ht hleft
    exact Or.inl (sendDbReadRound_next envs hdelivers ht hmax hleft)
  · exact hsync

/-- Between two rounds of the loop that puts a blob in, and after the last. -/
def WriteStage (envs : Nat → Env) (tee : Tee) (data : List UInt8) (s : ChunkLoop) : Prop :=
  WriteSync tee data s ∨ ∃ i, WriteVerdict (envs i) tee data (.ok (s, none))

variable {envs} in
theorem WriteStage.counters (h : WriteStage envs tee data s) :
    s.remainingSize = s.tee.ta.transfer.remaining := by
  cases h with
  | inl hsync =>
    have hsum := hsync.left
    rw [hsync.ta]
    dsimp only [Transfer.writingAt]
    omega
  | inr hverdict =>
    obtain ⟨i, hverdict⟩ := hverdict
    cases hverdict with
    | taken hunwrap hta hleft _ _ =>
      rw [hta, hleft, unwrap_transfer hunwrap]
      exact (Nat.sub_self _).symm

/-- A round of the loop that puts a blob in goes on, or ends it as the application decides. -/
theorem WriteStage.round (hdelivers : tac.Delivers P sees)
    (hmax : data.length ≤ fpcTaMaxTransfer) (h : WriteStage envs tee data s)
    (hleft : s.remainingSize ≠ 0) :
    (∃ s', sendDbWriteRound tac envs s = .ok (s', none) ∧ WriteStage envs tee data s') ∨
      ((∀ s', sendDbWriteRound tac envs s ≠ .ok (s', none)) ∧
        ∃ i, WriteVerdict (envs i) tee data (sendDbWriteRound tac envs s)) := by
  cases h with
  | inr hverdict =>
    obtain ⟨i, hverdict⟩ := hverdict
    cases hverdict with
    | taken _ _ hzero _ _ => exact absurd hzero hleft
  | inl hsync =>
    cases Nat.lt_or_ge maxChunk s.remainingSize with
    | inl hmore =>
      obtain ⟨s', hround, hsync'⟩ := sendDbWriteRound_next envs hdelivers hsync hmax hmore
      exact Or.inl ⟨s', hround, Or.inl hsync'⟩
    | inr hlast =>
      have hverdict := sendDbWriteRound_last envs hdelivers hsync hlast
      generalize sendDbWriteRound tac envs s = round at hverdict
      cases hverdict with
      | taken hunwrap hta hzero hbuffer hresult =>
        exact Or.inl ⟨_, rfl, Or.inr ⟨_, .taken hunwrap hta hzero hbuffer hresult⟩⟩
      | refused herror hunwrap hta hbuffer hresult =>
        exact Or.inr ⟨(by intro s' h; cases h), _, .refused herror hunwrap hta hbuffer hresult⟩
      | faulted hunwrap => exact Or.inr ⟨(by intro s' h; cases h), _, .faulted hunwrap⟩

theorem writeLoop_reaches (hdelivers : tac.Delivers P sees)
    (hmax : data.length ≤ fpcTaMaxTransfer) (hsync : WriteSync tee data s) {t : ChunkLoop}
    (h : (writeLoop tac envs).Reaches s t) : WriteStage envs tee data t := by
  apply h.invariant (I := WriteStage envs tee data) (Or.inl hsync)
  intro t t' ht hleft hround
  cases WriteStage.round envs hdelivers hmax ht hleft with
  | inl hnext =>
    obtain ⟨next, hnext, hstage⟩ := hnext
    have heq := hround.symm.trans hnext
    injection heq with heq
    injection heq with heq
    rw [heq]
    exact hstage
  | inr hstop => exact absurd hround (hstop.1 t')

/-- The loop that puts a blob in ends as the application decides on all of it. -/
theorem writeLoop_run (hdelivers : tac.Delivers P sees)
    (hmax : data.length ≤ fpcTaMaxTransfer) (hsync : WriteSync tee data s) :
    ∃ i, WriteVerdict (envs i) tee data ((writeLoop tac envs).run s) := by
  apply Loop.run_rule (I := WriteStage envs tee data)
    (Q := fun r => ∃ i, WriteVerdict (envs i) tee data r)
  · intro t ht hleft
    cases ht with
    | inl hsync => exact absurd hleft hsync.unfinished
    | inr hverdict => exact hverdict
  · intro t ht hleft
    exact WriteStage.round envs hdelivers hmax ht hleft
  · exact Or.inl hsync

/-! ## Opening a transfer -/

/-- A command of the blob module in the message buffer. -/
theorem transferBuffer_dbBlob {msg : List UInt8} {cmd : DbBlobCmd} (hdelivers : tac.Delivers P sees)
    (hcmd : commandOf msg = some (.dbBlob cmd)) :
    transferBuffer tac envs tee msg =
      (dbBlobSwitch P (envs tee.messages) tee.ta msg cmd >>= fun r =>
        .ok (sees r.status,
          { ta := r.ta, messages := tee.messages + 1, sharedBuffer := r.msg })) := by
  unfold transferBuffer transfer
  rw [hdelivers.transfer, (fpcTaRouteCommand_of_dbBlob P _ tee.ta hcmd).2]
  simp only [bind_assoc, ok_bind]

/-- What `db_open` and `db_close` return, by the status of the transfer. -/
def answerOf (sent : Int × Tee) : Outcome (Int × Tee) := do
  let response ← load32 sent.2.sharedBuffer offResponse
  .ok (if sent.1 < 0 then sent.1 else toInt32 response, sent.2)

/-- The message of `db_open` is made before it is sent. -/
theorem dbOpen_message (mode size : UInt32)
    (hbuffer : sizeofBioCommand ≤ tee.sharedBuffer.length) :
    ∃ sent, sent.length = tee.sharedBuffer.length ∧
      commandOf sent = some (.dbBlob .dbOpen) ∧
      field32 sent offDbOpenMode = mode ∧ field32 sent offDbOpenSize = size ∧
      ∀ tac envs, dbOpen tac envs tee mode size
        = transferBuffer tac envs tee sent >>= answerOf := by
  obtain ⟨msg, hheader, hlen, htarget, hcommand⟩ := dbHeader_ok fpcTaBioDbOpenCmd hbuffer
  unfold sizeofBioCommand at hbuffer
  have hmode : offDbOpenMode + 4 ≤ msg.length := by
    unfold offDbOpenMode
    omega
  have h1 := length_put32 hmode mode
  have hsize : offDbOpenSize + 4 ≤ (put32 msg offDbOpenMode mode).length := by
    rw [h1]
    unfold offDbOpenSize
    omega
  have h2 := length_put32 hsize size
  refine ⟨put32 (put32 msg offDbOpenMode mode) offDbOpenSize size, by rw [h2, h1, hlen], ?_, ?_, ?_,
    ?_⟩
  · apply @commandOf_dbBlob _ .dbOpen fpcTaBioDbOpenCmd
    · rw [h2, h1, hlen]
      exact hbuffer
    · rw [field32_put32_of_disjoint hsize (Or.inl (by decide)),
        field32_put32_of_disjoint hmode (Or.inl (by decide)), htarget]
    · rw [field32_put32_of_disjoint hsize (Or.inl (by decide)),
        field32_put32_of_disjoint hmode (Or.inl (by decide)), hcommand]
    · decide
  · rw [field32_put32_of_disjoint hsize (Or.inl (by decide)), field32_put32 (by omega)]
  · rw [field32_put32 (by omega)]
  · intro tac envs
    unfold dbOpen
    rw [hheader, ok_bind, store32_eq hmode, ok_bind, store32_eq hsize, ok_bind]
    rfl

/-- `db_open` returns what the application answers, and leaves it in the message buffer. -/
theorem dbOpen_eq (mode size : UInt32) (hdelivers : tac.Delivers P sees)
    (hbuffer : sizeofBioCommand ≤ tee.sharedBuffer.length) :
    ∃ answered : Int → List UInt8, (∀ r, (answered r).length = tee.sharedBuffer.length) ∧
      dbOpen tac envs tee mode size =
        (fpcTaDbOpen P (envs tee.messages) tee.ta.bio tee.ta.transfer mode size.toNat >>= fun r =>
          .ok (toInt32 (ofInt32 r.1),
            { ta := { tee.ta with transfer := r.2 }, messages := tee.messages + 1,
              sharedBuffer := answered r.1 })) := by
  obtain ⟨sent, hlen, hcmd, hmode, hsize, hopen⟩ := dbOpen_message mode size hbuffer
  unfold sizeofBioCommand at hbuffer
  have hresponse : offResponse + 4 ≤ sent.length := by
    unfold offResponse
    omega
  have hloadMode : load32 sent offDbOpenMode = .ok mode := by
    rw [load32_eq (by unfold offDbOpenMode; omega), hmode]
  have hloadSize : load32 sent offDbOpenSize = .ok size := by
    rw [load32_eq (by unfold offDbOpenSize; omega), hsize]
  have hstore (x : UInt32) : store32 sent offResponse x = .ok (put32 sent offResponse x) :=
    store32_eq hresponse x
  have hload (x : UInt32) : load32 (put32 sent offResponse x) offResponse = .ok x := by
    rw [load32_eq (by rw [length_put32 hresponse]; exact hresponse), field32_put32 (by omega)]
  refine ⟨fun r => put32 sent offResponse (ofInt32 r), ?_, ?_⟩
  · intro r
    rw [length_put32 hresponse, hlen]
  · rw [hopen, transferBuffer_dbBlob envs hdelivers hcmd, dbBlobSwitch, hloadMode, ok_bind,
      hloadSize, ok_bind]
    simp only [answerOf, bind_assoc, hstore, ok_bind, hdelivers.zero, hload]
    rfl

/-- What `db_open` did, by what it returns. -/
theorem dbOpen_effect {tee' : Tee} {mode size : UInt32} {result : Int}
    (hdelivers : tac.Delivers P sees) (hbuffer : sizeofBioCommand ≤ tee.sharedBuffer.length)
    (hinv : tee.ta.transfer.Inv) (h : dbOpen tac envs tee mode size = .ok (result, tee')) :
    OpenEffect P (envs tee.messages) tee.ta.bio mode size.toNat tee.ta.transfer result
      tee'.ta.transfer := by
  obtain ⟨answered, _, heq⟩ := dbOpen_eq envs mode size hdelivers hbuffer
  rw [heq] at h
  obtain ⟨⟨code, t⟩, hopen, h⟩ := bind_eq_ok.mp h
  have heffect := fpcTaDbOpen_effect hinv hopen
  rw [toInt32_ofInt32 heffect.fits] at h
  cases h
  exact heffect

/-- The loop that takes the blob of a transfer out stays in step with the application, and ends
with all of it. -/
structure ReadsAgree (tac : Tac) (envs : Nat → Env) (tee : Tee) (shared blob data : List UInt8)
    (start stop : ChunkLoop) : Prop where
  opened : tee.ta.transfer = .reading data
  started : chunkStart tee shared blob fpcTaBioDbReadCmd = .ok start
  inStep : ∀ s, (readLoop tac envs).Reaches start s →
    s.remainingSize = s.tee.ta.transfer.remaining
  ends : (readLoop tac envs).run start = .ok (stop, none)
  moved : stop.blob = data
  finished : stop.remainingSize = 0 ∧ stop.result = 0
  buffer : stop.tee.sharedBuffer = tee.sharedBuffer

/-- The loop that puts a blob in stays in step with the application, and ends as it decides on all
of the blob. -/
structure WritesAgree (tac : Tac) (envs : Nat → Env) (tee : Tee) (shared blob : List UInt8)
    (start : ChunkLoop) : Prop where
  opened : tee.ta.transfer = .writing blob.length
  started : chunkStart tee shared blob fpcTaBioDbWriteCmd = .ok start
  inStep : ∀ s, (writeLoop tac envs).Reaches start s →
    s.remainingSize = s.tee.ta.transfer.remaining
  ends : ∃ i, WriteVerdict (envs i) tee blob ((writeLoop tac envs).run start)

theorem reads_agree {shared blob : List UInt8} (hdelivers : tac.Delivers P sees)
    (hopened : tee.ta.transfer = .reading data) (hlength : blob.length = data.length)
    (hn : 1 ≤ data.length ∧ data.length ≤ fpcTaMaxTransfer)
    (hshared : shared.length = chunkMessageSize blob.length) :
    ∃ start stop, ReadsAgree tac envs tee shared blob data start stop := by
  have hmax := hn.2
  unfold fpcTaMaxTransfer at hmax
  obtain ⟨msg, hmessage, hstart⟩ := chunkStart_eq tee fpcTaBioDbReadCmd
    hshared (by omega)
  have hsync : ReadSync tee data
      { tee := tee, shared := msg, blob := blob, offset := 0, remainingSize := blob.length,
        result := 0 } := by
    constructor
    · rw [← hlength]
      exact hmessage
    · rw [← hlength]
      exact Nat.zero_add _
    · dsimp only
      rw [Transfer.readingAt_zero, ← hopened]
    · rfl
    · exact hlength
    · rfl
    · intro hpos
      exact absurd hpos (Nat.lt_irrefl 0)
  obtain ⟨stop, hrun, hstop, hleft⟩ := readLoop_run envs hdelivers hsync hn.2
  have hsum := hstop.left
  refine ⟨_, stop, hopened, hstart, ?_, hrun, ?_, ⟨hleft, ?_⟩, hstop.buffer⟩
  · intro s hreaches
    have ht := readLoop_reaches envs hdelivers hsync hn.2 hreaches
    have hleft := ht.left
    rw [ht.ta]
    dsimp only [Transfer.readingAt]
    omega
  · have hmoved := hstop.moved
    rwa [List.take_of_length_le (by rw [hstop.length]; omega),
      List.take_of_length_le (by omega)] at hmoved
  · rw [hstop.result (by omega), hleft]
    rfl

theorem writes_agree {shared blob : List UInt8} (hdelivers : tac.Delivers P sees)
    (hopened : tee.ta.transfer = .writing blob.length)
    (hn : 1 ≤ blob.length ∧ blob.length ≤ fpcTaMaxTransfer)
    (hshared : shared.length = chunkMessageSize blob.length) :
    ∃ start, WritesAgree tac envs tee shared blob start := by
  have hmax := hn.2
  unfold fpcTaMaxTransfer at hmax
  obtain ⟨msg, hmessage, hstart⟩ := chunkStart_eq tee fpcTaBioDbWriteCmd
    hshared (by omega)
  have hsync : WriteSync tee blob
      { tee := tee, shared := msg, blob := blob, offset := 0, remainingSize := blob.length,
        result := 0 } := by
    constructor
    · exact hmessage
    · exact Nat.zero_add _
    · dsimp only
      omega
    · dsimp only
      rw [Transfer.writingAt_zero, ← hopened]
    · rfl
    · rfl
  refine ⟨_, hopened, hstart, ?_, writeLoop_run envs hdelivers hn.2 hsync⟩
  intro s hreaches
  exact (writeLoop_reaches envs hdelivers hn.2 hsync hreaches).counters

/-- **The client and the application agree on the chunks.** After an `OPEN` of `n` bytes that
succeeded, the loop in that direction ends, never out of sync; before every round and at the end
what the client has left is what the application has left; and all `n` bytes were moved in order,
up to what the application makes of them. -/
theorem chunks_agree {tee' : Tee} {mode size : UInt32} {result : Int}
    {shared blob : List UInt8} (hdelivers : tac.Delivers P sees)
    (hbuffer : sizeofBioCommand ≤ tee.sharedBuffer.length) (hinv : tee.ta.transfer.Inv)
    (hopen : dbOpen tac envs tee mode size = .ok (result, tee')) (hresult : 0 ≤ result)
    (hsize : tee'.ta.transfer.size = blob.length)
    (hn : 1 ≤ blob.length ∧ blob.length ≤ fpcTaMaxTransfer)
    (hshared : shared.length = chunkMessageSize blob.length) :
    (mode.toNat = fpcTaBioDbRdonly →
        ∃ data start stop, ReadsAgree tac envs tee' shared blob data start stop) ∧
      (mode.toNat = fpcTaBioDbWronly → ∃ start, WritesAgree tac envs tee' shared blob start) := by
  have heffect := dbOpen_effect envs hdelivers hbuffer hinv hopen
  generalize hopened : tee'.ta.transfer = opened at heffect hsize
  cases heffect with
  | busy _ => exact absurd hresult (by decide)
  | failed _ herror => exact absurd hresult (Int.not_le.mpr herror.2)
  | writing _ _ hwronly =>
    have hblob : size.toNat = blob.length := hsize
    rw [hblob] at hopened
    constructor
    · intro hrdonly
      rw [hwronly] at hrdonly
      exact absurd hrdonly (by decide)
    · intro _
      exact writes_agree envs hdelivers hopened hn hshared
  | reading _ _ hrdonly _ _ _ =>
    constructor
    · intro _
      refine ⟨_, reads_agree envs hdelivers hopened hsize.symm ?_ hshared⟩
      rw [show (wrappedBuffer P _ _ _).length = blob.length from hsize]
      exact hn
    · intro hwronly
      rw [hrdonly] at hwronly
      exact absurd hwronly (by decide)

end

/-- An `OPEN` in the first message after `init`, with the client before and after it. -/
def sampleOpen : Outcome (Tee × Int × Tee) := do
  let ta ← fpcTaRouterInit .willing
  let tee : Tee := { ta := ta, messages := 0, sharedBuffer := List.replicate 40 0 }
  let (result, tee') ← dbOpen sampleTac (fun _ => .sealing) tee 0 73
  .ok (tee, result, tee')

theorem sampleChunks_agree :
    ∃ tee data start stop, ReadsAgree sampleTac (fun _ => .sealing) tee (List.replicate 113 0)
      (List.replicate 73 0) data start stop := by
  obtain ⟨⟨tee, result, tee'⟩, hopen, hsize⟩ := @exists_of_decided _ sampleOpen
    (fun r => r.1.ta.transfer = .closed ∧ r.1.sharedBuffer.length = 40 ∧ 0 ≤ r.2.1 ∧
      r.2.2.ta.transfer.size = 73) _ (by decide +kernel)
  obtain ⟨ta, _, hopen⟩ := bind_eq_ok.mp hopen
  obtain ⟨⟨_, _⟩, hopen, h⟩ := bind_eq_ok.mp hopen
  cases h
  refine ⟨tee', (chunks_agree (fun _ => .sealing) (fpcUtTac_delivers _ _) ?_ ?_ hopen hsize.2.2.1
    (show tee'.ta.transfer.size = (List.replicate 73 (0 : UInt8)).length from hsize.2.2.2)
    (by decide) (by decide)).1 (by decide)⟩
  · rw [hsize.2.1]
    decide
  · rw [hsize.1]
    exact .closed

end Fpc
