import Mathlib.Algebra.Order.Ring.Nat
import Mathlib.Data.Nat.Notation
import Mathlib.Data.List.Induction
import Mathlib.Tactic.Common

/-!
# Big-endian words and their bit fields

Packet headers are words packed by hand with shifts and masks and sent most
significant byte first.  This file provides the two directions of the byte
order, `toBytes` and `fromBytes`, which are mutually inverse on the strings of a
fixed length, and the two rewriting rules that turn a packed word into ordinary
arithmetic: a mask `2 ^ k - 1` is a remainder, and the disjunction of a shifted
field with a field that fits below it is a sum.  A flag is a field of one bit.
-/

namespace Wire

/-! ## Byte order -/

/-- The unsigned integer that a byte string denotes, most significant byte
first. -/
def fromBytes (bs : List UInt8) : ℕ := bs.foldl (fun n b => n * 256 + b.toNat) 0

/-- The `len` low-order bytes of `n`, most significant byte first. -/
def toBytes (n : ℕ) : ℕ → List UInt8
  | 0 => []
  | len + 1 => toBytes (n / 256) len ++ [UInt8.ofNat n]

@[simp] lemma length_toBytes (n len : ℕ) : (toBytes n len).length = len := by
  induction len generalizing n with
  | zero => rfl
  | succ len ih => simp [toBytes, ih]

@[simp] lemma fromBytes_nil : fromBytes [] = 0 := rfl

lemma fromBytes_concat (bs : List UInt8) (b : UInt8) :
    fromBytes (bs ++ [b]) = fromBytes bs * 256 + b.toNat := by
  simp [fromBytes]

lemma fromBytes_pair (a b : UInt8) : fromBytes [a, b] = a.toNat * 256 + b.toNat := by
  simp [fromBytes]

lemma fromBytes_lt (bs : List UInt8) : fromBytes bs < 256 ^ bs.length := by
  induction bs using List.reverseRecOn with
  | nil => simp
  | append_singleton bs b ih =>
      have hb : b.toNat < 256 := b.toNat_lt
      rw [fromBytes_concat, List.length_append, List.length_singleton, Nat.pow_succ]
      omega

/-- Reading back what was written, when the value fits. -/
lemma fromBytes_toBytes {n len : ℕ} (h : n < 256 ^ len) : fromBytes (toBytes n len) = n := by
  induction len generalizing n with
  | zero => simp only [Nat.pow_zero, Nat.lt_one_iff] at h; simp [toBytes, h]
  | succ len ih =>
      have hdiv : n / 256 < 256 ^ len := by
        rw [Nat.pow_succ] at h
        exact Nat.div_lt_of_lt_mul (by omega)
      rw [toBytes, fromBytes_concat, ih hdiv]
      have hmod : (UInt8.ofNat n).toNat = n % 256 := by simp
      omega

/-- Writing back what was read. -/
lemma toBytes_fromBytes (bs : List UInt8) : toBytes (fromBytes bs) bs.length = bs := by
  induction bs using List.reverseRecOn with
  | nil => rfl
  | append_singleton bs b ih =>
      have hb : b.toNat < 256 := b.toNat_lt
      have hdiv : (fromBytes bs * 256 + b.toNat) / 256 = fromBytes bs := by omega
      have hlow : UInt8.ofNat (fromBytes bs * 256 + b.toNat) = b := by
        apply UInt8.toNat_inj.mp
        simp only [UInt8.toNat_ofNat']
        omega
      rw [fromBytes_concat, List.length_append, List.length_singleton, toBytes, hdiv, ih, hlow]

/-! ## Bit fields -/

/-- Masking with `k` ones keeps the remainder modulo `2 ^ k`. -/
lemma land_mask {x : ℕ} (m k : ℕ) (h : m = 2 ^ k - 1) : x &&& m = x % 2 ^ k := by
  rw [h, Nat.and_two_pow_sub_one_eq_mod]

/-- A field that fits below the shift is added, not mixed in. -/
lemma shiftLeft_lor {a b k : ℕ} (h : b < 2 ^ k) : a <<< k ||| b = a * 2 ^ k + b := by
  rw [← Nat.shiftLeft_add_eq_or_of_lt h, Nat.shiftLeft_eq]

/-! ## Flags -/

lemma bit_le (o : Bool) : (if o then 1 else 0) ≤ 1 := by
  cases o with
  | false => exact Nat.zero_le 1
  | true => exact Nat.le_refl 1

/-- A flag read back from its bit. -/
lemma bit_ne_zero {o : Bool} {n : ℕ} (h : n = if o then 1 else 0) : (n != 0) = o := by
  subst h
  cases o <;> rfl

/-- A bit read back from its flag. -/
lemma bit_eq {o : Bool} {n : ℕ} (h : o = (n % 2 ^ 1 != 0)) : (if o then 1 else 0) = n % 2 ^ 1 := by
  subst h
  simp only [bne_iff_ne]
  split <;> omega

end Wire
