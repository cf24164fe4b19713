import Mathlib.Tactic.Common

/-!
# Shared types

The error codes every part of the trusted application returns with a minus sign, the 256-bit
identities of fingers and sets, and fixed-size arrays built from a list of entries.
-/

namespace Fpc

/-! ## Error codes (`fpc_types.h`) -/

def fpcErrorInput : Int := 1
def fpcErrorTimedout : Int := 2
def fpcErrorAlloc : Int := 3
def fpcErrorComm : Int := 4
def fpcErrorNospace : Int := 5
def fpcErrorIo : Int := 6
def fpcErrorNoentity : Int := 8
def fpcErrorConfig : Int := 10
def fpcErrorNotInitialized : Int := 11
def fpcErrorResetHardware : Int := 12
def fpcErrorPn : Int := 13
def fpcErrorSensorBroken : Int := 14
def fpcErrorTooManyDeadPixels : Int := 15
def fpcErrorCrypto : Int := 16
def fpcErrorDb : Int := 17
def fpcErrorTemplateCorrupted : Int := 18

/-! ## Arrays of a fixed size -/

/-- The array of `n` entries that a list fills from the front; places the list does not reach
hold `rest`, as in memory that was set to `rest` before. -/
def ofList {α : Type} (n : Nat) (rest : α) (l : List α) : Vector α n :=
  Vector.ofFn fun i => l.getD i rest

theorem toList_ofList {α : Type} {n : Nat} (rest : α) {l : List α} (h : l.length = n) :
    (ofList n rest l).toList = l := by
  apply List.ext_getElem
  · simp [h]
  · intro i h1 h2
    simp [ofList, List.getElem?_eq_getElem h2]

@[simp] theorem ofList_toList {α : Type} {n : Nat} (rest : α) (v : Vector α n) :
    ofList n rest v.toList = v := by
  ext i hi
  simp [ofList]

/-- A 256-bit identity, `id256_t`. -/
abbrev Id256 := Vector UInt8 32

/-- The identity that 32 bytes spell. -/
def toId256 (bytes : List UInt8) : Id256 := ofList 32 0 bytes

theorem toList_toId256 {bytes : List UInt8} (h : bytes.length = 32) :
    (toId256 bytes).toList = bytes := toList_ofList 0 h

@[simp] theorem toId256_toList (id : Id256) : toId256 id.toList = id := ofList_toList 0 id

/-- `memset` of an identity. -/
def Id256.filled (b : UInt8) : Id256 := Vector.replicate 32 b

/-- A heap address. -/
abbrev Addr := Nat

end Fpc
