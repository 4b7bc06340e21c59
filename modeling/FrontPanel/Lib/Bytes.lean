import Mathlib.Data.BitVec

/-!
# Words and their bytes

A driver that sends a word to its device cuts it into bytes with a mask and a shift, and puts bytes together with a shift and an or. Here both are read as arithmetic on numbers.
-/

namespace FrontPanel

/-- Byte `i` of a word, counted from its low end: mask, then shift. -/
def byteAt (value : BitVec 32) (i : Nat) : UInt8 :=
  .ofBitVec ((value &&& (0xff#32 <<< (8 * i))) >>> (8 * i) |>.setWidth 8)

/-- The mask leaves what the conversion to a byte leaves anyway. -/
theorem byteAt_eq (value : BitVec 32) {i : Nat} (hi : i < 4) :
    byteAt value i = .ofBitVec ((value >>> (8 * i)).setWidth 8) := by
  have hmask : ∀ bit, bit < 8 → (0xff#32).getLsbD bit = true := by decide
  rw [byteAt]
  congr 1
  ext bit hbit
  have hset := hmask bit hbit
  have hin : 8 * i + bit < 32 := by omega
  simp [hin, hset]

theorem byteAt_toNat (value : BitVec 32) {i : Nat} (hi : i < 4) :
    (byteAt value i).toNat = value.toNat >>> (8 * i) % 256 := by
  rw [byteAt_eq value hi]
  show ((value >>> (8 * i)).setWidth 8).toNat = _
  rw [BitVec.toNat_setWidth, BitVec.toNat_ushiftRight]

theorem or_shift_byte (high : Nat) (low : UInt8) :
    (high <<< 8) ||| low.toNat = high * 256 + low.toNat := by
  rw [← Nat.shiftLeft_add_eq_or_of_lt low.toNat_lt, Nat.shiftLeft_eq]

/-- The low 16 bits of a number, the high byte first. -/
def bigEndian16 (n : Nat) : List UInt8 := [UInt8.ofNat (n / 256), UInt8.ofNat n]

theorem ofNat_shiftRight (n : Nat) : UInt8.ofNat (n >>> 8) = UInt8.ofNat (n / 256) := by
  rw [Nat.shiftRight_eq_div_pow]

theorem ofNat_and_mask (n : Nat) : UInt8.ofNat (n &&& 0xff) = UInt8.ofNat n := by
  apply UInt8.toNat.inj
  rw [UInt8.toNat_ofNat', UInt8.toNat_ofNat', Nat.and_two_pow_sub_one_eq_mod n 8, Nat.mod_mod]

end FrontPanel
