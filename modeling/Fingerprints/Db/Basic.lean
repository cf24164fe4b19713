import Fingerprints.Types
import Fingerprints.Wire.Word

/-!
# The template database

`fpc_db.c` keeps one optional fingerprint set of five slots. The structures below are its C
structures with their field names; blocks of the heap carry their address. `TemplateDb` is what
a database says, without the addresses and without what invalid slots happen to hold: the
contents that an encoded database carries.
-/

namespace Fpc

abbrev fpcDbFingerprintsInSet : Nat := 5

def fpcDbMarkerStartOfDb : UInt32 := 0xABAD1DEA
def fpcDbMarkerStartOfSets : UInt32 := 0xBEEFF00D
def fpcDbMarkerStartOfSIds : UInt32 := 0xBADC0FFE
def fpcDbMarkerEndOfFile : UInt32 := 0xB105F00D

def fpcDbVersion1 : UInt8 := 1
def fpcDbVersion2 : UInt8 := 2
def fpcDbVersion3 : UInt8 := 3
def fpcDbVersion4 : UInt8 := 4

def fpcDbEntryValid : UInt32 := 1
def fpcDbEntryInvalid : UInt32 := 0

/-- The block an `fpc_algo_template_t` points to. Its `size` is the length of the block. -/
structure Template where
  tpl : Addr
  bytes : List UInt8
  /-- The size is a `uint32_t`. -/
  size_lt : bytes.length < 2 ^ 32
  deriving DecidableEq, Repr

/-- The block of `size` bytes at an address that holds the given bytes. -/
def Template.ofList (tpl : Addr) (size : UInt32) (bytes : List UInt8) : Template :=
  { tpl := tpl, bytes := (Fpc.ofList size.toNat 0 bytes).toList,
    size_lt := by rw [Vector.length_toList]; exact size.toNat_lt }

theorem Template.bytes_ofList (tpl : Addr) {size : UInt32} {bytes : List UInt8}
    (h : bytes.length = size.toNat) : (Template.ofList tpl size bytes).bytes = bytes :=
  toList_ofList 0 h

@[simp] theorem Template.length_ofList (tpl : Addr) (size : UInt32) (bytes : List UInt8) :
    (Template.ofList tpl size bytes).bytes.length = size.toNat :=
  Vector.length_toList

/-- `Fingerprint_t`. No template stands for a null pointer and size 0. -/
structure Fingerprint where
  valid : UInt32
  fingerprintId : Id256
  secureUserId : UInt64
  ftemplate : Option Template
  deriving DecidableEq, Repr

/-- A slot of a set that was just allocated. -/
def Fingerprint.zeroed : Fingerprint :=
  { valid := fpcDbEntryInvalid, fingerprintId := Id256.filled 0, secureUserId := 0,
    ftemplate := none }

/-- `FingerprintSet_t` -/
structure FingerprintSet where
  addr : Addr
  fingerprintSetKey : UInt32
  fingerprintSetId : Id256
  fingerprintStateId : Id256
  aFingerprintList : Vector Fingerprint fpcDbFingerprintsInSet
  deriving DecidableEq, Repr

/-- `struct FingerprintDatabase_s` -/
structure FingerprintDatabase where
  addr : Addr
  databaseId : UInt64
  pFingerprintSet : Option FingerprintSet
  deriving DecidableEq, Repr

/-! ## What a database says -/

/-- An enrolled finger. -/
structure Finger where
  id : Id256
  userId : UInt64
  template : List UInt8
  deriving DecidableEq, Repr

/-- A fingerprint set: five places for fingers. -/
structure FingerSet where
  key : UInt32
  id : Id256
  stateId : Id256
  slots : Vector (Option Finger) fpcDbFingerprintsInSet
  deriving DecidableEq, Repr

/-- The contents of a template database. -/
structure TemplateDb where
  databaseId : UInt64
  set : Option FingerSet
  deriving DecidableEq, Repr

/-- The bytes of a slot's template. -/
def Fingerprint.templateBytes (f : Fingerprint) : List UInt8 :=
  match f.ftemplate with
  | some t => t.bytes
  | none => []

/-- The finger a slot holds, when it is valid. -/
def Fingerprint.view (f : Fingerprint) : Option Finger :=
  if f.valid = fpcDbEntryValid then
    some { id := f.fingerprintId, userId := f.secureUserId, template := f.templateBytes }
  else none

def FingerprintSet.view (s : FingerprintSet) : FingerSet :=
  { key := s.fingerprintSetKey, id := s.fingerprintSetId, stateId := s.fingerprintStateId,
    slots := s.aFingerprintList.map Fingerprint.view }

def FingerprintDatabase.view (d : FingerprintDatabase) : TemplateDb :=
  { databaseId := d.databaseId, set := d.pFingerprintSet.map FingerprintSet.view }

/-- A slot's flag is one of the two values the code writes. -/
def Fingerprint.Flagged (f : Fingerprint) : Prop :=
  f.valid = fpcDbEntryInvalid ∨ f.valid = fpcDbEntryValid

instance (f : Fingerprint) : Decidable f.Flagged :=
  inferInstanceAs (Decidable (_ ∨ _))

/-- Every slot of the database is either valid or invalid. -/
def FingerprintDatabase.Flagged (d : FingerprintDatabase) : Prop :=
  ∀ s ∈ d.pFingerprintSet, ∀ f ∈ s.aFingerprintList.toList, f.Flagged

/-- A database without a set has no flags. -/
theorem flagged_none (addr : Addr) (databaseId : UInt64) :
    FingerprintDatabase.Flagged
      { addr := addr, databaseId := databaseId, pFingerprintSet := none } := by
  intro s hs
  cases hs

instance (d : FingerprintDatabase) : Decidable d.Flagged :=
  inferInstanceAs (Decidable (∀ s ∈ d.pFingerprintSet, _))

theorem Fingerprint.view_of_invalid {f : Fingerprint} (h : f.valid = fpcDbEntryInvalid) :
    f.view = none := by
  rw [Fingerprint.view, if_neg (by rw [h]; decide)]

theorem Fingerprint.view_of_valid {f : Fingerprint} (h : f.valid = fpcDbEntryValid) :
    f.view = some { id := f.fingerprintId, userId := f.secureUserId,
                    template := f.templateBytes } := by
  rw [Fingerprint.view, if_pos h]

/-- A template's length fits the four bytes the image has for it. -/
theorem Fingerprint.templateBytes_lt (f : Fingerprint) : f.templateBytes.length < 2 ^ 32 := by
  unfold Fingerprint.templateBytes
  cases f.ftemplate with
  | none => decide
  | some t => exact t.size_lt

end Fpc
