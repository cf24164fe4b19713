import Fingerprints.Db.WellFormed

/-!
# Where the codec leaves its buffers

The guards of the codec add a length to a counter in 32 bits. `DecodeInRange` follows the fields
the decoder comes to, with offsets that do not wrap, and asks of each that its end stays below
`2 ^ 32`; that is exactly when the decoder stays inside its buffers (`fpcDbCreate_faults_iff`).
For the encoder the same question is put to the fields it writes (`fpcDbGetData_faults_iff`).
-/

namespace Fpc

open Wire Wire.Outcome

/-! ## The fields the decoder comes to -/

/-- Where the decoder stands after a field of `n` bytes at `p`: behind it if it is there, and
still before it if not. -/
def nextField (b : List UInt8) (n p : Nat) : Nat := if p + n ≤ b.length then p + n else p

theorem takeField_snd (b : List UInt8) (n p : Nat) : (takeField b n p).2 = nextField b n p := by
  unfold takeField nextField
  split <;> rfl

theorem nextField_le {b : List UInt8} {p : Nat} (n : Nat) (h : p ≤ b.length) :
    nextField b n p ≤ b.length := by
  unfold nextField
  split <;> omega

theorem le_nextField (b : List UInt8) (n p : Nat) : nextField b n p ≤ p + n := by
  unfold nextField
  split <;> omega

/-- A word that is missing, in whole or in part, reads as 0. -/
theorem wordAt_missing {b : List UInt8} {p : Nat} (h : b.length < p + 4) : wordAt b p = 0 := by
  have hlen : (bytesAt b p 4).length ≠ 4 := by
    rw [bytesAt, List.length_take, List.length_drop]
    omega
  unfold wordAt ofBe32
  split
  · rename_i hbytes
    rw [hbytes] at hlen
    exact absurd rfl hlen
  · rfl

/-- After the id of the slot at `p`. -/
def slotIdEnd (b : List UInt8) (p : Nat) : Nat := nextField b 32 (nextField b 4 p)

/-- After its user id. -/
def slotUserEnd (b : List UInt8) (ver : UInt8) (p : Nat) : Nat :=
  if ver ≥ fpcDbVersion3 then nextField b 8 (slotIdEnd b p) else slotIdEnd b p

/-- The length of its template. -/
def slotTemplateLength (b : List UInt8) (ver : UInt8) (p : Nat) : Nat :=
  (wordAt b (slotUserEnd b ver p)).toNat

/-- The slot behind the one at `p`, when the decoder goes on. -/
def nextSlot (b : List UInt8) (ver : UInt8) (p : Nat) : Option Nat :=
  if wordAt b p = fpcDbEntryValid then
    if slotUserEnd b ver p + 4 ≤ b.length then
      some (nextField b (slotTemplateLength b ver p) (slotUserEnd b ver p + 4))
    else none
  else if wordAt b p = fpcDbEntryInvalid then some (nextField b 4 p)
  else none

/-- The fields of the slot at `p` end below `2 ^ 32`. -/
structure SlotInRange (b : List UInt8) (ver : UInt8) (p : Nat) : Prop where
  flag : p + 4 < 2 ^ 32
  id : wordAt b p = fpcDbEntryValid → nextField b 4 p + 32 < 2 ^ 32
  userId : wordAt b p = fpcDbEntryValid → ver ≥ fpcDbVersion3 → slotIdEnd b p + 8 < 2 ^ 32
  size : wordAt b p = fpcDbEntryValid → slotUserEnd b ver p + 4 < 2 ^ 32
  template : wordAt b p = fpcDbEntryValid → slotUserEnd b ver p + 4 ≤ b.length →
    slotUserEnd b ver p + 4 + slotTemplateLength b ver p < 2 ^ 32

/-- The fields of `n` slots from `p` on, and of the end marker, end below `2 ^ 32`. -/
def SlotsInRange (b : List UInt8) (ver : UInt8) : (n p : Nat) → Prop
  | 0, p => p + 4 < 2 ^ 32
  | n + 1, p => SlotInRange b ver p ∧ ∀ p', nextSlot b ver p = some p' → SlotsInRange b ver n p'

/-- After the database id, which stands behind the start marker and the version. -/
def databaseIdEnd (b : List UInt8) (ver : UInt8) : Nat :=
  if ver ≥ fpcDbVersion3 then nextField b 8 5 else 5

/-- After the set id and the state id of a set at `p`, behind its key and marker. -/
def setIdsEnd (b : List UInt8) (ver : UInt8) (p : Nat) : Nat :=
  let setIdEnd := nextField b 32 (nextField b 4 p + 4)
  if ver ≥ fpcDbVersion4 then nextField b 32 setIdEnd else setIdEnd

/-- The decoder comes to the slots: the version is one it knows, the markers before the slots are
in place, and the set count is 1. -/
structure ReachesSlots (b : List UInt8) (ver : UInt8) (p : Nat) : Prop where
  start : wordAt b 0 = fpcDbMarkerStartOfDb
  version : b[4]? = some ver
  known : ver = fpcDbVersion2 ∨ ver = fpcDbVersion3 ∨ ver = fpcDbVersion4
  setCount : wordAt b (databaseIdEnd b ver) = 1
  sets : wordAt b (databaseIdEnd b ver + 4) = fpcDbMarkerStartOfSets
  setIds : wordAt b (nextField b 4 (databaseIdEnd b ver + 8)) = fpcDbMarkerStartOfSIds
  slots : p = setIdsEnd b ver (databaseIdEnd b ver + 8)

/-- No field the decoder comes to reaches `2 ^ 32`. The fields before the slots are too close to
the beginning to do so. -/
def DecodeInRange (b : List UInt8) : Prop :=
  ∀ ver p, ReachesSlots b ver p → SlotsInRange b ver fpcDbFingerprintsInSet p

/-! ## Fields, whether or not they are there -/

section Fields

variable {b : List UInt8} {c : Nat}

theorem unpackField_walk {α : Type} {n : Nat} (decode : List UInt8 → α) (data : α)
    (hlt : c + n < 2 ^ 32) :
    unpackField decode n data b c b.length
      = .ok (Unpacked.ofField decode data (takeField b n c)) := by
  rw [unpackField, readField_eq_takeField hlt, ok_bind]

theorem readcounter_ofField {α : Type} (decode : List UInt8 → α) (data : α)
    (field : Option (List UInt8) × Nat) :
    (Unpacked.ofField decode data field).readcounter = field.2 := by
  unfold Unpacked.ofField
  split <;> rfl

/-- A word the decoder comes to: as it stands, or 0 and a failed status when it is missing. -/
theorem unpackUint32_walk (hlt : c + 4 < 2 ^ 32) :
    unpackUint32 0 b c b.length
      = .ok { status := if c + 4 ≤ b.length then 0 else -fpcErrorDb, data := wordAt b c,
              readcounter := nextField b 4 c } := by
  rw [unpackUint32, unpackField_walk ofBe32 0 hlt]
  unfold nextField
  by_cases h : c + 4 ≤ b.length
  · rw [takeField_fits h, if_pos h, if_pos h]
    rfl
  · rw [takeField_short (by omega), if_neg h, if_neg h, wordAt_missing (by omega)]
    rfl

theorem unpackUint64_walk (hlt : c + 8 < 2 ^ 32) (data : UInt64) :
    ∃ r, unpackUint64 data b c b.length = .ok r ∧ r.readcounter = nextField b 8 c :=
  ⟨_, unpackField_walk ofBe64 data hlt, by rw [readcounter_ofField, takeField_snd]⟩

theorem unpackUint8Array_walk {n : Nat} {data : List UInt8} (hdata : data.length = n)
    (hlt : c + n < 2 ^ 32) :
    ∃ r, unpackUint8Array data n b c b.length = .ok r ∧ r.readcounter = nextField b n c := by
  refine ⟨Unpacked.ofField id data (takeField b n c), ?_,
    by rw [readcounter_ofField, takeField_snd]⟩
  rw [unpackUint8Array, copyField_eq_readField hdata, readField_eq_takeField hlt, ok_bind]

theorem unpackField_wraps {α : Type} {n : Nat} (decode : List UInt8 → α) (data : α)
    (hb : b.length < 2 ^ 32) (hc : c ≤ b.length) (hn : n < 2 ^ 32) (h : ¬ c + n < 2 ^ 32) :
    unpackField decode n data b c b.length = .fault (.load b.length) := by
  rw [unpackField, readField_wraps hb hc hn (by omega), fault_bind]

theorem unpackUint8Array_wraps {n : Nat} {data : List UInt8} (hdata : data.length = n)
    (hb : b.length < 2 ^ 32) (hc : c ≤ b.length) (hn : n < 2 ^ 32) (h : ¬ c + n < 2 ^ 32) :
    unpackUint8Array data n b c b.length = .fault (.load b.length) := by
  rw [unpackUint8Array, copyField_eq_readField hdata, readField_wraps hb hc hn (by omega),
    fault_bind]

/-- A marker is found where it stands, and else ends the decoder. -/
theorem unpackVerifyUint32_walk {x : UInt32} (hx : x ≠ 0) (hlt : c + 4 < 2 ^ 32) :
    unpackVerifyUint32 x b c b.length
      = if wordAt b c = x then .ok (c + 4) else .err (-fpcErrorDb) := by
  rw [unpackVerifyUint32, unpackUint32_walk hlt, ok_bind]
  dsimp only
  by_cases hfits : c + 4 ≤ b.length
  · rw [if_pos hfits, if_neg (not_not.mpr rfl), nextField, if_pos hfits]
    by_cases hword : wordAt b c = x
    · rw [if_pos hword, if_neg (not_not.mpr hword.symm)]
    · rw [if_neg hword, if_pos fun h => hword h.symm]
  · rw [if_neg hfits, if_pos (by decide), if_neg]
    rw [wordAt_missing (by omega)]
    exact hx.symm

end Fields

/-! ## Slots -/

section Slots

variable {env : DbEnv} {ver : UInt8} {b : List UInt8} {c : Nat}

theorem unpackUserId_walk (hlt : ver ≥ fpcDbVersion3 → c + 8 < 2 ^ 32) (data : UInt64) :
    ∃ userId, unpackUserId ver data b c b.length
      = .ok (userId, if ver ≥ fpcDbVersion3 then nextField b 8 c else c) := by
  unfold unpackUserId
  by_cases hver : ver ≥ fpcDbVersion3
  · obtain ⟨r, hr, hcounter⟩ := unpackUint64_walk (b := b) (hlt hver) data
    refine ⟨r.data, ?_⟩
    rw [if_pos hver, if_pos hver, hr, ok_bind, hcounter]
  · exact ⟨0, by rw [if_neg hver, if_neg hver]⟩

/-- A slot whose fields end below `2 ^ 32` is passed, or ends the decoder with an error. -/
theorem unpackFinger_in_range (hc : c ≤ b.length) (halloc : env.AllocOk)
    (hr : SlotInRange b ver c) (j : Nat) :
    (∃ f c', nextSlot b ver c = some c' ∧ c' ≤ b.length ∧
        unpackFinger env ver b b.length j c = .ok (f, c')) ∨
      (nextSlot b ver c = none ∧ ∃ code, unpackFinger env ver b b.length j c = .err code) := by
  have hflag := nextField_le (b := b) 4 hc
  unfold nextSlot
  rw [unpackFinger, unpackUint32_walk hr.flag, ok_bind]
  dsimp only
  by_cases hvalid : wordAt b c = fpcDbEntryValid
  · obtain ⟨fid, hfid, hidEnd⟩ := unpackUint8Array_walk (b := b) (c := nextField b 4 c)
      (show Fingerprint.zeroed.fingerprintId.toList.length = 32 from Vector.length_toList)
      (hr.id hvalid)
    have hidEnd : fid.readcounter = slotIdEnd b c := hidEnd
    obtain ⟨userId, huser⟩ := unpackUserId_walk (b := b) (c := slotIdEnd b c)
      (hr.userId hvalid) Fingerprint.zeroed.secureUserId
    have huser : unpackUserId ver Fingerprint.zeroed.secureUserId b (slotIdEnd b c) b.length
        = .ok (userId, slotUserEnd b ver c) := huser
    rw [if_pos hvalid, if_pos hvalid, hfid, ok_bind, hidEnd, huser, ok_bind]
    dsimp only
    rw [unpackUint32_walk (hr.size hvalid), ok_bind]
    dsimp only
    by_cases hsize : slotUserEnd b ver c + 4 ≤ b.length
    · obtain ⟨fmem, hfmem⟩ := halloc.memCalloc (.template j)
      have hcounter : nextField b 4 (slotUserEnd b ver c) = slotUserEnd b ver c + 4 := if_pos hsize
      have hblock : (List.replicate (slotTemplateLength b ver c) (0 : UInt8)).length
          = slotTemplateLength b ver c := List.length_replicate
      obtain ⟨tpl, htpl, hend⟩ := unpackUint8Array_walk hblock (hr.template hvalid hsize)
      rw [if_pos hsize, if_pos hsize, if_neg (not_not.mpr rfl), hfmem, ok_bind, hcounter]
      rw [← slotTemplateLength, htpl, ok_bind, hend]
      exact Or.inl ⟨_, _, rfl, nextField_le _ hsize, rfl⟩
    · rw [if_neg hsize, if_neg hsize, if_pos (by decide)]
      exact Or.inr ⟨rfl, _, rfl⟩
  · rw [if_neg hvalid, if_neg hvalid]
    by_cases hinvalid : wordAt b c = fpcDbEntryInvalid
    · rw [if_pos hinvalid, if_pos hinvalid]
      exact Or.inl ⟨_, _, rfl, hflag, rfl⟩
    · rw [if_neg hinvalid, if_neg hinvalid]
      exact Or.inr ⟨rfl, _, rfl⟩

/-- A slot with a field whose end reaches `2 ^ 32` leads the decoder out of the image. The fields
are tried in the order it comes to them. -/
theorem unpackFinger_wraps (hb : b.length < 2 ^ 32) (hc : c ≤ b.length) (halloc : env.AllocOk)
    (hr : ¬ SlotInRange b ver c) (j : Nat) : (unpackFinger env ver b b.length j c).Faults := by
  have hflagLe := nextField_le (b := b) 4 hc
  have hidLe : slotIdEnd b c ≤ b.length := nextField_le 32 hflagLe
  have huserLe : slotUserEnd b ver c ≤ b.length := by
    unfold slotUserEnd
    split
    · exact nextField_le 8 hidLe
    · exact hidLe
  rw [unpackFinger]
  by_cases hflag : c + 4 < 2 ^ 32
  rotate_left
  · rw [unpackUint32, unpackField_wraps _ _ hb hc (by decide) hflag]
    trivial
  rw [unpackUint32_walk hflag, ok_bind]
  dsimp only
  by_cases hvalid : wordAt b c = fpcDbEntryValid
  rotate_left
  · exact absurd ⟨hflag, fun h => absurd h hvalid, fun h => absurd h hvalid,
      fun h => absurd h hvalid, fun h => absurd h hvalid⟩ hr
  rw [if_pos hvalid]
  have hdata : Fingerprint.zeroed.fingerprintId.toList.length = 32 := Vector.length_toList
  by_cases hid : nextField b 4 c + 32 < 2 ^ 32
  rotate_left
  · rw [unpackUint8Array_wraps hdata hb hflagLe (by decide) hid]
    trivial
  obtain ⟨fid, hfid, hidEnd⟩ := unpackUint8Array_walk hdata hid
  have hidEnd : fid.readcounter = slotIdEnd b c := hidEnd
  rw [hfid, ok_bind, hidEnd]
  by_cases huserId : ver ≥ fpcDbVersion3 → slotIdEnd b c + 8 < 2 ^ 32
  rotate_left
  · obtain ⟨hver, hlong⟩ := Classical.not_imp.mp huserId
    rw [unpackUserId, if_pos hver, unpackUint64,
      unpackField_wraps _ _ hb hidLe (by decide) hlong]
    trivial
  obtain ⟨userId, huser⟩ := unpackUserId_walk (b := b) huserId Fingerprint.zeroed.secureUserId
  have huser : unpackUserId ver Fingerprint.zeroed.secureUserId b (slotIdEnd b c) b.length
      = .ok (userId, slotUserEnd b ver c) := huser
  rw [huser, ok_bind]
  dsimp only
  by_cases hsize : slotUserEnd b ver c + 4 < 2 ^ 32
  rotate_left
  · rw [unpackUint32, unpackField_wraps _ _ hb huserLe (by decide) hsize]
    trivial
  rw [unpackUint32_walk hsize, ok_bind]
  dsimp only
  by_cases hfits : slotUserEnd b ver c + 4 ≤ b.length
  rotate_left
  · exact absurd ⟨hflag, fun _ => hid, fun _ => huserId, fun _ => hsize,
      fun _ h => absurd h hfits⟩ hr
  have hcounter : nextField b 4 (slotUserEnd b ver c) = slotUserEnd b ver c + 4 := if_pos hfits
  obtain ⟨fmem, hfmem⟩ := halloc.memCalloc (.template j)
  rw [if_pos hfits, if_neg (not_not.mpr rfl), hfmem, ok_bind, hcounter]
  have htemplate : ¬ slotUserEnd b ver c + 4 + slotTemplateLength b ver c < 2 ^ 32 := fun h =>
    hr ⟨hflag, fun _ => hid, fun _ => huserId, fun _ => hsize, fun _ _ => h⟩
  have hword : slotTemplateLength b ver c < 2 ^ 32 := UInt32.toNat_lt _
  rw [← slotTemplateLength, unpackUint8Array_wraps List.length_replicate hb hfits hword htemplate]
  trivial

theorem unpackVerifyUint32_faults_iff (hb : b.length < 2 ^ 32) (hc : c ≤ b.length) (x : UInt32) :
    (unpackVerifyUint32 x b c b.length).Faults ↔ ¬ c + 4 < 2 ^ 32 := by
  rw [unpackVerifyUint32]
  by_cases hlt : c + 4 < 2 ^ 32
  · rw [unpackUint32_walk hlt, ok_bind]
    dsimp only
    refine iff_of_false ?_ (not_not.mpr hlt)
    split
    · split
      · exact not_faults_err _
      · split
        · exact not_faults_err _
        · exact not_faults_ok _
    · exact not_faults_err _
  · rw [unpackUint32, unpackField_wraps _ _ hb hc (by decide) hlt, fault_bind]
    exact iff_of_true trivial hlt

/-- The slots and the end marker behind them. Induction on the slots that are left; what is made
of those already passed is kept in `k`. -/
theorem unpackFingers_faults_iff (hb : b.length < 2 ^ 32) (hc : c ≤ b.length)
    (halloc : env.AllocOk) (n j : Nat) {α : Type} (k : List Fingerprint → α) :
    (unpackFingers env ver b b.length n j c >>= fun r =>
        unpackVerifyUint32 fpcDbMarkerEndOfFile b r.2 b.length >>= fun _ =>
          Outcome.ok (k r.1)).Faults
      ↔ ¬ SlotsInRange b ver n c := by
  induction n generalizing j c k with
  | zero =>
    rw [unpackFingers, ok_bind, faults_bind, unpackVerifyUint32_faults_iff hb hc]
    simp [SlotsInRange]
  | succ n ih =>
    rw [unpackFingers, bind_assoc, SlotsInRange]
    by_cases hr : SlotInRange b ver c
    · rcases unpackFinger_in_range hc halloc hr j with
        ⟨f, c', hnext, hc', hfinger⟩ | ⟨hnext, code, hfinger⟩
      · have hrest := ih hc' (j + 1) (fun fs => k (f :: fs))
        rw [hfinger, ok_bind, hnext, and_iff_right hr]
        dsimp only
        rw [bind_assoc]
        simp only [ok_bind, Option.some.injEq, forall_eq']
        exact hrest
      · rw [hfinger, hnext]
        simp [hr]
    · have hfault := unpackFinger_wraps hb hc halloc hr j
      rw [faults_bind]
      simp [hr, hfault]

end Slots

/-! ## Sets and databases -/

section Images

variable {env : DbEnv} {ver : UInt8} {b : List UInt8} {c : Nat}

theorem unpackStateId_walk (hlt : c + 32 < 2 ^ 32) (set : FingerprintSet)
    (db : FingerprintDatabase) :
    (ver ≥ fpcDbVersion4 ∨ (env.random256 .stateId).1 = 0) ∧
        (∃ set', unpackStateId env ver set db b c b.length
          = .ok (set', if ver ≥ fpcDbVersion4 then nextField b 32 c else c)) ∨
      ¬ (ver ≥ fpcDbVersion4 ∨ (env.random256 .stateId).1 = 0) ∧
        ∃ code, unpackStateId env ver set db b c b.length = .err code := by
  unfold unpackStateId
  by_cases hver : ver ≥ fpcDbVersion4
  · have hdata : set.fingerprintStateId.toList.length = 32 := Vector.length_toList
    obtain ⟨r, hr, hcounter⟩ := unpackUint8Array_walk hdata hlt
    rw [if_pos hver, if_pos hver, hr, ok_bind, hcounter]
    exact Or.inl ⟨Or.inl hver, _, rfl⟩
  · by_cases hdraw : (env.random256 .stateId).1 = 0
    · rw [if_neg hver, if_neg hver]
      refine Or.inl ⟨Or.inr hdraw, ?_⟩
      simp [dbUpdateFingerprintStateId, hdraw]
    · rw [if_neg hver, if_neg hver]
      refine Or.inr ⟨not_or.mpr ⟨hver, hdraw⟩, -fpcErrorIo, ?_⟩
      simp [dbUpdateFingerprintStateId, hdraw, fpcErrorIo]

/-- A set close enough to the beginning leads the decoder out of the image exactly when its
marker is there, its state id can be had and its slots are not in range. -/
theorem unpackSet_faults_iff (hb : b.length < 2 ^ 32) (hlt : c + 72 < 2 ^ 32)
    (halloc : env.AllocOk) (db : FingerprintDatabase) :
    (unpackSet env ver db b c b.length).Faults
      ↔ wordAt b (nextField b 4 c) = fpcDbMarkerStartOfSIds ∧
        (ver ≥ fpcDbVersion4 ∨ (env.random256 .stateId).1 = 0) ∧
        ¬ SlotsInRange b ver fpcDbFingerprintsInSet (setIdsEnd b ver c) := by
  have hkey := le_nextField b 4 c
  obtain ⟨addr, haddr⟩ := halloc.memCalloc .fingerprintSet
  rw [unpackSet, haddr, ok_bind]
  dsimp only
  rw [show (FingerprintSet.zeroed addr).fingerprintSetKey = 0 from rfl,
    unpackUint32_walk (by omega), ok_bind]
  dsimp only
  rw [unpackVerifyUint32_walk (by decide) (by omega)]
  by_cases hmarker : wordAt b (nextField b 4 c) = fpcDbMarkerStartOfSIds
  rotate_left
  · rw [if_neg hmarker, err_bind]
    simp [hmarker]
  have hfits : nextField b 4 c + 4 ≤ b.length := by
    by_contra hmissing
    rw [wordAt_missing (by omega)] at hmarker
    exact absurd hmarker (by decide)
  have hdata : (FingerprintSet.zeroed addr).fingerprintSetId.toList.length = 32 :=
    Vector.length_toList
  obtain ⟨setId, hsetId, hidEnd⟩ := unpackUint8Array_walk (b := b) hdata
    (show nextField b 4 c + 4 + 32 < 2 ^ 32 by omega)
  have hidLe := nextField_le 32 hfits
  have hidLt := le_nextField b 32 (nextField b 4 c + 4)
  rw [if_pos hmarker, ok_bind, hsetId, ok_bind, hidEnd]
  rcases @unpackStateId_walk env ver b _
      (show nextField b 32 (nextField b 4 c + 4) + 32 < 2 ^ 32 by omega)
      { FingerprintSet.zeroed addr with
        fingerprintSetKey := wordAt b c, fingerprintSetId := toId256 setId.data } db with
    ⟨hdraw, set', hset'⟩ | ⟨hdraw, code, hset'⟩
  · have hend : (if ver ≥ fpcDbVersion4 then nextField b 32 (nextField b 32 (nextField b 4 c + 4))
        else nextField b 32 (nextField b 4 c + 4)) = setIdsEnd b ver c := rfl
    have hle : setIdsEnd b ver c ≤ b.length := by
      rw [← hend]
      split
      · exact nextField_le 32 hidLe
      · exact hidLe
    rw [hset', ok_bind, hend, and_iff_right hmarker, and_iff_right hdraw]
    exact unpackFingers_faults_iff hb hle halloc fpcDbFingerprintsInSet 0 fun fs =>
      { set' with aFingerprintList := ofList fpcDbFingerprintsInSet Fingerprint.zeroed fs }
  · rw [hset', err_bind]
    simp [hdraw]

theorem databaseIdEnd_le (b : List UInt8) (ver : UInt8) : databaseIdEnd b ver ≤ 13 := by
  have h := le_nextField b 8 5
  unfold databaseIdEnd
  split <;> omega

theorem unpackDatabaseId_walk (db : FingerprintDatabase) (hdb : db.pFingerprintSet = none) :
    (ver ≥ fpcDbVersion3 ∨ ¬ (env.random64 .databaseId).1 < 0) ∧
        (∃ db', unpackDatabaseId env ver db b 5 b.length = .ok (db', databaseIdEnd b ver) ∧
          db'.pFingerprintSet = none) ∨
      ¬ (ver ≥ fpcDbVersion3 ∨ ¬ (env.random64 .databaseId).1 < 0) ∧
        ∃ code, unpackDatabaseId env ver db b 5 b.length = .err code := by
  unfold unpackDatabaseId databaseIdEnd
  by_cases hver : ver ≥ fpcDbVersion3
  · obtain ⟨r, hr, hcounter⟩ := unpackUint64_walk (b := b) (c := 5) (by decide) db.databaseId
    rw [if_pos hver, if_pos hver, hr, ok_bind, hcounter]
    exact Or.inl ⟨Or.inl hver, _, rfl, hdb⟩
  · rw [if_neg hver, if_neg hver]
    unfold dbUpdateDatabaseId
    by_cases hdraw : (env.random64 .databaseId).1 < 0
    · refine Or.inr ⟨by simp [hver, hdraw], -fpcErrorIo, ?_⟩
      dsimp only
      rw [if_pos hdraw]
      dsimp only
      rw [if_pos (by decide)]
    · refine Or.inl ⟨Or.inr hdraw, { db with databaseId := (env.random64 .databaseId).2 }, ?_, hdb⟩
      dsimp only
      rw [if_neg hdraw]
      dsimp only
      rw [if_neg (by decide)]

/-- What the random draws must be for the decoder of a version to go on. -/
def DbEnv.Draws (env : DbEnv) (ver : UInt8) : Prop :=
  (ver ≥ fpcDbVersion3 ∨ ¬ (env.random64 .databaseId).1 < 0) ∧
    (ver ≥ fpcDbVersion4 ∨ (env.random256 .stateId).1 = 0)

/-- The unpacker, on an image with the start marker and a version byte, leaves it exactly when
it comes to the slots and these are not in range. -/
theorem dbUnpackV2V3V4_faults_iff (hb : b.length < 2 ^ 32) (halloc : env.AllocOk)
    (hstart : wordAt b 0 = fpcDbMarkerStartOfDb) (hver : b[4]? = some ver)
    (hknown : ver = fpcDbVersion2 ∨ ver = fpcDbVersion3 ∨ ver = fpcDbVersion4) :
    (dbUnpackV2V3V4 env b b.length ver).Faults
      ↔ env.Draws ver ∧
        ∃ p, ReachesSlots b ver p ∧ ¬ SlotsInRange b ver fpcDbFingerprintsInSet p := by
  obtain ⟨hlt, hbyte⟩ := List.getElem?_eq_some_iff.mp hver
  have hverRem := remains_drop (Nat.le_of_lt hlt)
  rw [List.drop_eq_getElem_cons hlt, hbyte] at hverRem
  have hend := databaseIdEnd_le b ver
  obtain ⟨addr, haddr⟩ := halloc.memCalloc .database
  rw [dbUnpackV2V3V4, haddr, ok_bind]
  dsimp only
  rw [unpackVerifyUint32_walk (by decide) (by decide), if_pos hstart, ok_bind,
    show 0 + 4 = 4 from rfl, unpackVerifyUint8_remains hverRem hb, ok_bind,
    show 4 + 1 = 5 from rfl]
  rcases @unpackDatabaseId_walk env ver b
      { addr := addr, databaseId := 0, pFingerprintSet := none } rfl with
    ⟨hdraw, db', hdb, hnone⟩ | ⟨hdraw, code, hdb⟩
  rotate_left
  · rw [hdb, err_bind]
    exact iff_of_false (not_faults_err _) fun h => hdraw h.1.1
  rw [hdb, ok_bind, hnone]
  dsimp only
  rw [if_neg (by decide), unpackUint32_walk (by omega), ok_bind]
  dsimp only
  have hcount := le_nextField b 4 (databaseIdEnd b ver)
  rw [unpackVerifyUint32_walk (by decide) (by omega)]
  by_cases hone : wordAt b (databaseIdEnd b ver) = 1
  · have hthere : nextField b 4 (databaseIdEnd b ver) = databaseIdEnd b ver + 4 := by
      refine if_pos (Nat.le_of_not_lt fun hmissing => ?_)
      rw [wordAt_missing hmissing] at hone
      exact absurd hone (by decide)
    rw [hthere]
    by_cases hsets : wordAt b (databaseIdEnd b ver + 4) = fpcDbMarkerStartOfSets
    · rw [if_pos hsets, ok_bind, hone, if_neg (by decide), if_neg (by decide), faults_bind,
        unpackSet_faults_iff hb (by omega) halloc db']
      constructor
      · rintro (⟨hmarker, hstate, hslots⟩ | ⟨set, -, hfault⟩)
        · exact ⟨⟨hdraw, hstate⟩, _,
            ⟨hstart, hver, hknown, hone, hsets, hmarker, rfl⟩, hslots⟩
        · exact absurd hfault (not_faults_ok _)
      · rintro ⟨⟨-, hstate⟩, p, hreach, hslots⟩
        rw [hreach.slots] at hslots
        exact Or.inl ⟨hreach.setIds, hstate, hslots⟩
    · rw [if_neg hsets, err_bind]
      refine iff_of_false (not_faults_err _) ?_
      rintro ⟨_, _, hreach, _⟩
      exact hsets hreach.sets
  · -- without a set count of 1 only the end marker is left to read
    have hnone : ¬ (env.Draws ver ∧
        ∃ p, ReachesSlots b ver p ∧ ¬ SlotsInRange b ver fpcDbFingerprintsInSet p) := by
      rintro ⟨_, _, hreach, _⟩
      exact hone hreach.setCount
    refine iff_of_false ?_ hnone
    split
    · rw [ok_bind]
      split
      · exact not_faults_err _
      · rw [unpackVerifyUint32_walk (by decide) (by omega)]
        split
        · exact not_faults_ok _
        · exact not_faults_err _
    · exact not_faults_err _

/-- `fpc_db_create` leaves the image exactly when it comes to the slots and these are not in
range. -/
theorem fpcDbCreate_faults_iff (hb : b.length < 2 ^ 32) (halloc : env.AllocOk) :
    (fpcDbCreate env (some b) b.length).Faults
      ↔ ∃ ver p, env.Draws ver ∧ ReachesSlots b ver p ∧
        ¬ SlotsInRange b ver fpcDbFingerprintsInSet p := by
  rw [fpcDbCreate, dbUnpack, unpackVerifyUint32_walk (by decide) (by decide)]
  by_cases hstart : wordAt b 0 = fpcDbMarkerStartOfDb
  rotate_left
  · rw [if_neg hstart, err_bind]
    refine iff_of_false (not_faults_err _) ?_
    rintro ⟨_, _, _, hreach, _⟩
    exact hstart hreach.start
  rw [if_pos hstart, ok_bind, show 0 + 4 = 4 from rfl]
  cases hver : b[4]? with
  | none =>
    rw [unpackUint8, if_pos (List.getElem?_eq_none_iff.mp hver), ok_bind]
    refine iff_of_false (not_faults_err _) ?_
    rintro ⟨_, _, _, hreach, _⟩
    have hversion := hreach.version
    rw [hver] at hversion
    cases hversion
  | some ver =>
    obtain ⟨hlt, hbyte⟩ := List.getElem?_eq_some_iff.mp hver
    have hverRem := remains_drop (Nat.le_of_lt hlt)
    rw [List.drop_eq_getElem_cons hlt, hbyte] at hverRem
    rw [unpackUint8_remains hverRem hb, ok_bind]
    dsimp only
    rw [if_neg (by decide)]
    have hsame {ver' : UInt8} {p : Nat} (hreach : ReachesSlots b ver' p) : ver' = ver :=
      (Option.some.inj (hver.symm.trans hreach.version)).symm
    by_cases hknown : ver = fpcDbVersion2 ∨ ver = fpcDbVersion3 ∨ ver = fpcDbVersion4
    · have hne : ver ≠ fpcDbVersion1 := by
        rintro rfl
        revert hknown
        decide
      rw [if_neg hne, if_pos hknown, dbUnpackV2V3V4_faults_iff hb halloc hstart hver hknown]
      constructor
      · rintro ⟨hdraws, p, hreach, hslots⟩
        exact ⟨ver, p, hdraws, hreach, hslots⟩
      · rintro ⟨ver', p, hdraws, hreach, hslots⟩
        obtain rfl := hsame hreach
        exact ⟨hdraws, p, hreach, hslots⟩
    · rw [if_neg hknown]
      refine iff_of_false ?_ ?_
      · split <;> exact not_faults_err _
      · rintro ⟨_, _, _, hreach, _⟩
        exact hknown (hsame hreach ▸ hreach.known)

end Images

/-! ## The encoder -/

/-- `fpc_db_get_data` leaves the output exactly when a field it comes to reaches `2 ^ 32`. -/
theorem fpcDbGetData_faults_iff (d : FingerprintDatabase) {out : List UInt8}
    (hout : out.length < 2 ^ 32) :
    (fpcDbGetData d out out.length).Faults ↔ ¬ EndsInRange out.length 0 (dbFields d).2 := by
  have hlen : ∀ f ∈ (dbFields d).2, f.bytes.length < 2 ^ 32 :=
    fun f hf => (packed_dbFields d f hf).length_lt
  have hfill : (List.replicate out.length (1 : UInt8)).length = out.length := List.length_replicate
  have hfaults := writeFields_faults_iff (hfill.symm ▸ hout) (Nat.zero_le _) (dbFields d).2 hlen
  rw [hfill] at hfaults
  rw [fpcDbGetData, dbPack, dbPackV4_write d rfl, bind_assoc, faults_bind, ← hfaults]
  refine or_iff_left ?_
  rintro ⟨s, _, hs⟩
  rw [ok_bind] at hs
  dsimp only at hs
  split at hs
  · exact not_faults_err _ hs
  · split at hs
    · exact not_faults_err _ hs
    · exact not_faults_ok _ hs

/-! ## Exactly when the codec stays inside its buffers -/

/-- **The codec and its buffers.** With allocations that succeed, the decoder never leaves an image,
nor a template block it allocated, exactly when no field it comes to reaches `2 ^ 32`; and the
encoder never leaves its output exactly when no field it comes to does. -/
theorem codec_inside_iff (b : List UInt8) (hb : b.length < 2 ^ 32) (d : FingerprintDatabase)
    (out : List UInt8) (hout : out.length < 2 ^ 32) :
    ((∀ env : DbEnv, env.AllocOk → ¬ (fpcDbCreate env (some b) b.length).Faults)
        ↔ DecodeInRange b) ∧
      (¬ (fpcDbGetData d out out.length).Faults
        ↔ EndsInRange out.length 0 (dbFields d).2) := by
  refine ⟨⟨fun h ver p hreach => ?_, fun h env halloc hfault => ?_⟩, ?_⟩
  · -- a platform on which every draw succeeds takes the decoder as far as the image lets it
    by_contra hslots
    have hdraws : DbEnv.willing.Draws ver := ⟨Or.inr (by decide), Or.inr rfl⟩
    exact h .willing DbEnv.willing_allocOk
      ((fpcDbCreate_faults_iff hb DbEnv.willing_allocOk).mpr ⟨ver, p, hdraws, hreach, hslots⟩)
  · obtain ⟨ver, p, -, hreach, hslots⟩ := (fpcDbCreate_faults_iff hb halloc).mp hfault
    exact hslots (h ver p hreach)
  · rw [fpcDbGetData_faults_iff d hout, not_not]

theorem sampleDatabase_inside :
    ((∀ env : DbEnv, env.AllocOk →
        ¬ (fpcDbCreate env (some truncatedImage) truncatedImage.length).Faults)
        ↔ DecodeInRange truncatedImage) ∧
      (¬ (fpcDbGetData sampleDatabase [0, 0, 0] 3).Faults
        ↔ EndsInRange 3 0 (dbFields sampleDatabase).2) :=
  codec_inside_iff truncatedImage (by decide +kernel) sampleDatabase [0, 0, 0] (by decide)

/-- An image whose first slot announces a template of `2 ^ 32 - 1` bytes, 20 bytes before its
end. -/
def wrappingImage : List UInt8 := announcingImage 0xFFFFFFFF

/-- The guard of the template adds up to 140, below the size of the image, and the byte loop reads
on behind the image. -/
theorem wrappingImage_faults :
    wrappingImage.length = 161 ∧
      (fpcDbCreate .willing (some wrappingImage) wrappingImage.length).Faults := by
  have hlen : wrappingImage.length = 161 := by decide +kernel
  have hreach : ReachesSlots wrappingImage fpcDbVersion4 93 :=
    { start := by decide +kernel, version := by decide +kernel, known := Or.inr (Or.inr rfl),
      setCount := by decide +kernel, sets := by decide +kernel, setIds := by decide +kernel,
      slots := by decide +kernel }
  have hdraws : DbEnv.willing.Draws fpcDbVersion4 := ⟨Or.inr (by decide), Or.inr rfl⟩
  have hslots : ¬ SlotsInRange wrappingImage fpcDbVersion4 fpcDbFingerprintsInSet 93 := fun h =>
    absurd (h.1.template (by decide +kernel) (by decide +kernel)) (by decide +kernel)
  have hb : wrappingImage.length < 2 ^ 32 := by
    rw [hlen]
    decide
  have hfaults := fpcDbCreate_faults_iff (b := wrappingImage) hb DbEnv.willing_allocOk
  have hslot : ∃ ver p, DbEnv.willing.Draws ver ∧ ReachesSlots wrappingImage ver p ∧
      ¬ SlotsInRange wrappingImage ver fpcDbFingerprintsInSet p :=
    ⟨fpcDbVersion4, 93, hdraws, hreach, hslots⟩
  rw [hfaults]
  exact ⟨hlen, hslot⟩

end Fpc
