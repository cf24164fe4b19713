import Mathlib.Data.List.Induction
import Mathlib.Tactic.Common
import Mathlib.Tactic.Ring

/-!
# Words and their bytes

Big-endian and little-endian byte strings of 32-bit and 64-bit words. Both directions of every
codec go through `beNat`, the number a byte string denotes: a word and its bytes denote the
same number (`beNat_be32`, `toNat_ofBe32`), and strings of one length that denote the same
number are equal (`beNat_inj`).
-/

namespace Wire

/-- The number a byte string denotes, most significant byte first. -/
def beNat (bs : List UInt8) : Nat := bs.foldl (fun n b => n * 256 + b.toNat) 0

/-- The four bytes of a 32-bit word, most significant first. -/
def be32 (x : UInt32) : List UInt8 :=
  [(x >>> 24).toUInt8, (x >>> 16).toUInt8, (x >>> 8).toUInt8, x.toUInt8]

/-- The word four bytes denote; other strings denote no word and read as zero. -/
def ofBe32 : List UInt8 → UInt32
  | [b0, b1, b2, b3] =>
      (b0.toUInt32 <<< 24) ||| (b1.toUInt32 <<< 16) ||| (b2.toUInt32 <<< 8) ||| b3.toUInt32
  | _ => 0

/-- The eight bytes of a 64-bit word, most significant first. -/
def be64 (x : UInt64) : List UInt8 :=
  [(x >>> 56).toUInt8, (x >>> 48).toUInt8, (x >>> 40).toUInt8, (x >>> 32).toUInt8,
   (x >>> 24).toUInt8, (x >>> 16).toUInt8, (x >>> 8).toUInt8, x.toUInt8]

/-- The word eight bytes denote; other strings denote no word and read as zero. -/
def ofBe64 : List UInt8 → UInt64
  | [b0, b1, b2, b3, b4, b5, b6, b7] =>
      (b0.toUInt64 <<< 56) ||| (b1.toUInt64 <<< 48) ||| (b2.toUInt64 <<< 40)
        ||| (b3.toUInt64 <<< 32) ||| (b4.toUInt64 <<< 24) ||| (b5.toUInt64 <<< 16)
        ||| (b6.toUInt64 <<< 8) ||| b7.toUInt64
  | _ => 0

/-- The bytes of a word as a little-endian machine stores it. -/
def le32 (x : UInt32) : List UInt8 := (be32 x).reverse

def le64 (x : UInt64) : List UInt8 := (be64 x).reverse

def ofLe32 (bs : List UInt8) : UInt32 := ofBe32 bs.reverse

def ofLe64 (bs : List UInt8) : UInt64 := ofBe64 bs.reverse

@[simp] theorem length_be32 (x : UInt32) : (be32 x).length = 4 := rfl

@[simp] theorem length_be64 (x : UInt64) : (be64 x).length = 8 := rfl

@[simp] theorem length_le32 (x : UInt32) : (le32 x).length = 4 := rfl

@[simp] theorem length_le64 (x : UInt64) : (le64 x).length = 8 := rfl

/-! ## The number a byte string denotes -/

theorem beNat_append_singleton (bs : List UInt8) (b : UInt8) :
    beNat (bs ++ [b]) = beNat bs * 256 + b.toNat := by
  simp [beNat, List.foldl_append]

/-- Byte strings of one length are determined by the number they denote. Induction from the
last byte, which is the remainder modulo 256. -/
theorem beNat_inj {as bs : List UInt8} (hlen : as.length = bs.length)
    (h : beNat as = beNat bs) : as = bs := by
  induction as using List.reverseRecOn generalizing bs with
  | nil =>
    exact (List.length_eq_zero_iff.mp hlen.symm).symm
  | append_singleton as a ih =>
    rcases List.eq_nil_or_concat bs with rfl | ⟨bs', b, rfl⟩
    · simp at hlen
    · rw [List.concat_eq_append] at hlen h ⊢
      rw [beNat_append_singleton, beNat_append_singleton] at h
      have ha := a.toNat_lt
      have hb := b.toNat_lt
      have hlast : a = b := UInt8.toNat_inj.mp (by omega)
      have hlen' : as.length = bs'.length := by simpa using hlen
      rw [ih hlen' (by omega), hlast]

/-- A byte placed just below the bytes collected so far joins them as the next digit. -/
theorem mul_or_mul (a : Nat) {b : Nat} (k : Nat) (h : b < 2 ^ 8) :
    a * 2 ^ (k + 8) ||| b * 2 ^ k = (a * 2 ^ 8 + b) * 2 ^ k := by
  have hb : b * 2 ^ k < 2 ^ (k + 8) := by
    rw [Nat.pow_add, Nat.mul_comm]
    exact Nat.mul_lt_mul_of_pos_left h (Nat.two_pow_pos k)
  rw [← Nat.shiftLeft_eq, ← Nat.shiftLeft_add_eq_or_of_lt hb, Nat.shiftLeft_eq, Nat.pow_add]
  ring

/-! ## The 32-bit codec -/

theorem beNat_be32 (x : UInt32) : beNat (be32 x) = x.toNat := by
  have hx := x.toNat_lt
  simp [beNat, be32, UInt32.toNat_shiftRight, Nat.shiftRight_eq_div_pow]
  omega

/-- A byte shifted within the word keeps all its bits. -/
theorem toNat_shiftLeft32 (b : UInt8) {k : UInt32} (hk : k.toNat + 8 ≤ 32) :
    (b.toUInt32 <<< k).toNat = b.toNat * 2 ^ k.toNat := by
  have hb : b.toNat * 2 ^ k.toNat < 2 ^ 32 :=
    calc b.toNat * 2 ^ k.toNat < 2 ^ 8 * 2 ^ k.toNat :=
          Nat.mul_lt_mul_of_pos_right b.toNat_lt (Nat.two_pow_pos _)
      _ = 2 ^ (k.toNat + 8) := by rw [Nat.pow_add, Nat.mul_comm]
      _ ≤ 2 ^ 32 := Nat.pow_le_pow_right (by decide) hk
  rw [UInt32.toNat_shiftLeft, UInt8.toNat_toUInt32, Nat.mod_eq_of_lt (by omega : k.toNat < 32),
    Nat.shiftLeft_eq, Nat.mod_eq_of_lt hb]

theorem toNat_ofBe32 {bs : List UInt8} (h : bs.length = 4) : (ofBe32 bs).toNat = beNat bs := by
  match bs, h with
  | [b0, b1, b2, b3], _ =>
    simp only [ofBe32, UInt32.toNat_or]
    rw [toNat_shiftLeft32 b0 (by decide), toNat_shiftLeft32 b1 (by decide),
      toNat_shiftLeft32 b2 (by decide), UInt8.toNat_toUInt32]
    -- each disjunction appends one byte below those placed so far
    have h1 := mul_or_mul b0.toNat 16 b1.toNat_lt
    have h2 := mul_or_mul (b0.toNat * 2 ^ 8 + b1.toNat) 8 b2.toNat_lt
    have h3 := mul_or_mul ((b0.toNat * 2 ^ 8 + b1.toNat) * 2 ^ 8 + b2.toNat) 0 b3.toNat_lt
    simp only [Nat.reduceAdd, Nat.pow_zero, Nat.mul_one] at h1 h2 h3
    rw [show (24 : UInt32).toNat = 24 from rfl, show (16 : UInt32).toNat = 16 from rfl,
      show (8 : UInt32).toNat = 8 from rfl, h1, h2, h3]
    simp [beNat]

/-- Decoding the bytes of a word gives the word. -/
@[simp] theorem ofBe32_be32 (x : UInt32) : ofBe32 (be32 x) = x :=
  UInt32.toNat_inj.mp (by rw [toNat_ofBe32 (length_be32 x), beNat_be32])

/-- Four bytes are the bytes of the word they denote. -/
theorem be32_ofBe32 {bs : List UInt8} (h : bs.length = 4) : be32 (ofBe32 bs) = bs :=
  beNat_inj (by rw [length_be32, h]) (by rw [beNat_be32, toNat_ofBe32 h])

/-! ## The 64-bit codec -/

theorem beNat_be64 (x : UInt64) : beNat (be64 x) = x.toNat := by
  have hx := x.toNat_lt
  simp [beNat, be64, UInt64.toNat_shiftRight, Nat.shiftRight_eq_div_pow]
  omega

theorem toNat_shiftLeft64 (b : UInt8) {k : UInt64} (hk : k.toNat + 8 ≤ 64) :
    (b.toUInt64 <<< k).toNat = b.toNat * 2 ^ k.toNat := by
  have hb : b.toNat * 2 ^ k.toNat < 2 ^ 64 :=
    calc b.toNat * 2 ^ k.toNat < 2 ^ 8 * 2 ^ k.toNat :=
          Nat.mul_lt_mul_of_pos_right b.toNat_lt (Nat.two_pow_pos _)
      _ = 2 ^ (k.toNat + 8) := by rw [Nat.pow_add, Nat.mul_comm]
      _ ≤ 2 ^ 64 := Nat.pow_le_pow_right (by decide) hk
  rw [UInt64.toNat_shiftLeft, UInt8.toNat_toUInt64, Nat.mod_eq_of_lt (by omega : k.toNat < 64),
    Nat.shiftLeft_eq, Nat.mod_eq_of_lt hb]

theorem toNat_ofBe64 {bs : List UInt8} (h : bs.length = 8) : (ofBe64 bs).toNat = beNat bs := by
  match bs, h with
  | [b0, b1, b2, b3, b4, b5, b6, b7], _ =>
    simp only [ofBe64, UInt64.toNat_or]
    rw [toNat_shiftLeft64 b0 (by decide), toNat_shiftLeft64 b1 (by decide),
      toNat_shiftLeft64 b2 (by decide), toNat_shiftLeft64 b3 (by decide),
      toNat_shiftLeft64 b4 (by decide), toNat_shiftLeft64 b5 (by decide),
      toNat_shiftLeft64 b6 (by decide), UInt8.toNat_toUInt64]
    have h1 := fun a => mul_or_mul a 48 b1.toNat_lt
    have h2 := fun a => mul_or_mul a 40 b2.toNat_lt
    have h3 := fun a => mul_or_mul a 32 b3.toNat_lt
    have h4 := fun a => mul_or_mul a 24 b4.toNat_lt
    have h5 := fun a => mul_or_mul a 16 b5.toNat_lt
    have h6 := fun a => mul_or_mul a 8 b6.toNat_lt
    have h7 := fun a => mul_or_mul a 0 b7.toNat_lt
    simp only [Nat.reduceAdd, Nat.pow_zero, Nat.mul_one] at h1 h2 h3 h4 h5 h6 h7
    rw [show (56 : UInt64).toNat = 56 from rfl, show (48 : UInt64).toNat = 48 from rfl,
      show (40 : UInt64).toNat = 40 from rfl, show (32 : UInt64).toNat = 32 from rfl,
      show (24 : UInt64).toNat = 24 from rfl, show (16 : UInt64).toNat = 16 from rfl,
      show (8 : UInt64).toNat = 8 from rfl, h1, h2, h3, h4, h5, h6, h7]
    simp [beNat]

@[simp] theorem ofBe64_be64 (x : UInt64) : ofBe64 (be64 x) = x :=
  UInt64.toNat_inj.mp (by rw [toNat_ofBe64 (length_be64 x), beNat_be64])

theorem be64_ofBe64 {bs : List UInt8} (h : bs.length = 8) : be64 (ofBe64 bs) = bs :=
  beNat_inj (by rw [length_be64, h]) (by rw [beNat_be64, toNat_ofBe64 h])

/-! ## Little-endian words -/

@[simp] theorem ofLe32_le32 (x : UInt32) : ofLe32 (le32 x) = x := by
  simp [ofLe32, le32]

theorem le32_ofLe32 {bs : List UInt8} (h : bs.length = 4) : le32 (ofLe32 bs) = bs := by
  rw [le32, ofLe32, be32_ofBe32 (by rw [List.length_reverse, h]), List.reverse_reverse]

@[simp] theorem ofLe64_le64 (x : UInt64) : ofLe64 (le64 x) = x := by
  simp [ofLe64, le64]

end Wire
