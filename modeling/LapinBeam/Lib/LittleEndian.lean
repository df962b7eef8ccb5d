import Mathlib.Algebra.Group.Nat.Defs

/-!
# Little-endian bytes

The fixed-width little-endian encoding of a natural number, and its inverse below the wrap.
-/

namespace LittleEndian

def encode : Nat → Nat → List UInt8
  | 0, _ => []
  | width + 1, n => UInt8.ofNat (n % 256) :: encode width (n / 256)

def decode : List UInt8 → Nat
  | [] => 0
  | byte :: rest => byte.toNat + 256 * decode rest

@[simp]
theorem length_encode (width n : Nat) : (encode width n).length = width := by
  induction width generalizing n with
  | zero => rfl
  | succ width ih => simp [encode, ih]

theorem decode_encode (width n : Nat) : decode (encode width n) = n % 256 ^ width := by
  induction width generalizing n with
  | zero => simp [encode, decode, Nat.mod_one]
  | succ width ih =>
      have hbyte : (UInt8.ofNat (n % 256)).toNat = n % 256 := by simp
      rw [encode, decode, hbyte, ih, Nat.pow_succ']
      exact (Nat.mod_mul).symm

theorem decode_encode_of_lt {width n : Nat} (hlt : n < 256 ^ width) :
    decode (encode width n) = n := by
  rw [decode_encode, Nat.mod_eq_of_lt hlt]

theorem encode_decode (bytes : List UInt8) : encode bytes.length (decode bytes) = bytes := by
  induction bytes with
  | nil => rfl
  | cons byte rest ih =>
      have hlt : byte.toNat < 256 := byte.toNat_lt
      have hlow : (byte.toNat + 256 * decode rest) % 256 = byte.toNat := by omega
      have hhigh : (byte.toNat + 256 * decode rest) / 256 = decode rest := by omega
      rw [List.length_cons, decode, encode, hlow, hhigh, ih, UInt8.ofNat_toNat]

end LittleEndian
