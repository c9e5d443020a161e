/-! Numbers written as digits in any base, most significant digit first.

`digits` is the shortest form, in which zero has no digit at all; `fixed` has a
set width and keeps the lowest digits. Bytes are digits of base 256.
-/

set_option autoImplicit false

namespace TokenDesk

namespace Digits

def value (base : Nat) (ds : List Nat) : Nat :=
  ds.foldl (fun n d => n * base + d) 0

/-- The digits of a number without leading zeros. No base below two has any. -/
def digits (base n : Nat) : List Nat :=
  if _h : 2 ≤ base ∧ 0 < n then
    digits base (n / base) ++ [n % base]
  else []
termination_by n
decreasing_by exact Nat.div_lt_self _h.2 _h.1

def fixed (base : Nat) : (width : Nat) → (n : Nat) → List Nat
  | 0, _ => []
  | width + 1, n => fixed base width (n / base) ++ [n % base]

@[simp] theorem value_nil (base : Nat) : value base [] = 0 := rfl

@[simp] theorem value_append_singleton (base : Nat) (ds : List Nat) (d : Nat) :
    value base (ds ++ [d]) = value base ds * base + d := by
  simp [value]

theorem value_digits {base : Nat} (h : 2 ≤ base) (n : Nat) : value base (digits base n) = n := by
  induction n using Nat.strongRecOn with
  | ind n ih =>
    rw [digits]
    by_cases both : 2 ≤ base ∧ 0 < n
    · rw [dif_pos both, value_append_singleton, ih (n / base) (Nat.div_lt_self both.2 both.1), Nat.mul_comm]
      exact Nat.div_add_mod n base
    · have : n = 0 := by omega
      simp [this]

@[simp] theorem length_fixed (base width n : Nat) : (fixed base width n).length = width := by
  induction width generalizing n with
  | zero => rfl
  | succ width ih => simp [fixed, ih]

theorem value_fixed (base width n : Nat) : value base (fixed base width n) = n % Nat.pow base width := by
  induction width generalizing n with
  | zero => simp [fixed, Nat.mod_one]
  | succ width ih =>
    change _ = n % (Nat.pow base width * base)
    rw [fixed, value_append_singleton, ih, Nat.mul_comm (Nat.pow base width) base, Nat.mod_mul,
      Nat.mul_comm base, Nat.add_comm]

end Digits

namespace Bytes

def toNat (bytes : List UInt8) : Nat :=
  Digits.value 256 (bytes.map UInt8.toNat)

/-- The shortest bytes of a number; zero has none. -/
def ofNat (n : Nat) : List UInt8 :=
  (Digits.digits 256 n).map UInt8.ofNat

def ofNatFixed (width n : Nat) : List UInt8 :=
  (Digits.fixed 256 width n).map UInt8.ofNat

@[simp] theorem length_ofNatFixed (width n : Nat) : (ofNatFixed width n).length = width := by
  simp [ofNatFixed]

end Bytes

end TokenDesk
