import Mathlib.Data.List.TakeWhile
import Mathlib.Data.Nat.Digits.Lemmas
import TokenDesk.Digits

/-! Digits determine their number, and a number its shortest digits.

Writing a number in another base keeps it. What a number cannot tell is how many
zeros stand in front of its digits; `rebase` carries them over one for one, so that
nothing is lost either way. Where the width is set, as in bytes of a word, the zeros
are known, and digits and number determine each other.
-/

set_option autoImplicit false

namespace TokenDesk.Digits

variable {base : Nat}

/-! The library counts digits from the least significant one. -/

theorem value_eq_ofDigits (base : Nat) (ds : List Nat) : value base ds = Nat.ofDigits base ds.reverse := by
  induction ds using List.reverseRecOn with
  | nil => rfl
  | append_singleton ds d ih =>
    rw [value_append_singleton, ih, List.reverse_append, List.reverse_singleton, List.singleton_append,
      Nat.ofDigits_cons, Nat.mul_comm, Nat.add_comm]

theorem digits_eq_reverse (two_le : 2 ≤ base) (n : Nat) : digits base n = (Nat.digits base n).reverse := by
  induction n using Nat.strongRecOn with
  | ind n ih =>
    rw [digits]
    by_cases positive : 0 < n
    · rw [dif_pos ⟨two_le, positive⟩, ih _ (Nat.div_lt_self positive two_le),
        Nat.digits_def' two_le positive, List.reverse_cons]
    · obtain rfl : n = 0 := by omega
      rw [dif_neg fun both => positive both.2]
      simp

theorem lt_of_mem_digits (two_le : 2 ≤ base) {n d : Nat} (listed : d ∈ digits base n) : d < base := by
  rw [digits_eq_reverse two_le, List.mem_reverse] at listed
  exact Nat.digits_lt_base two_le listed

theorem head?_digits (two_le : 2 ≤ base) (n : Nat) : (digits base n).head? ≠ some 0 := by
  rw [digits_eq_reverse two_le, List.head?_reverse]
  by_cases zero : n = 0
  · simp [zero]
  · rw [List.getLast?_eq_some_getLast (Nat.digits_ne_nil_iff_ne_zero.mpr zero)]
    intro last
    exact Nat.getLast_digit_ne_zero base zero (Option.some.inj last)

theorem digits_value (two_le : 2 ≤ base) {ds : List Nat} (bounded : ∀ d ∈ ds, d < base)
    (leading : ds.head? ≠ some 0) : digits base (value base ds) = ds := by
  rw [digits_eq_reverse two_le, value_eq_ofDigits, Nat.digits_ofDigits base two_le, List.reverse_reverse]
  · intro d listed
    exact bounded d (List.mem_reverse.mp listed)
  · intro nonempty zero
    rw [List.getLast_reverse] at zero
    apply leading
    rw [List.head?_eq_some_head (List.reverse_ne_nil_iff.mp nonempty), zero]

theorem value_lt (two_le : 2 ≤ base) {ds : List Nat} (bounded : ∀ d ∈ ds, d < base) :
    value base ds < base ^ ds.length := by
  rw [value_eq_ofDigits, ← List.length_reverse]
  apply Nat.ofDigits_lt_base_pow_length two_le
  intro d listed
  exact bounded d (List.mem_reverse.mp listed)

theorem value_inj (two_le : 2 ≤ base) {ds es : List Nat} (length : ds.length = es.length)
    (bounded : ∀ d ∈ ds, d < base) (bounded' : ∀ e ∈ es, e < base) (same : value base ds = value base es) :
    ds = es := by
  rw [value_eq_ofDigits, value_eq_ofDigits] at same
  apply List.reverse_injective
  refine Nat.ofDigits_inj_of_len_eq two_le (by simpa using length) ?_ ?_ same
  · intro d listed
    exact bounded d (List.mem_reverse.mp listed)
  · intro e listed
    exact bounded' e (List.mem_reverse.mp listed)

theorem lt_of_mem_fixed (positive : 0 < base) {width n d : Nat} (listed : d ∈ fixed base width n) : d < base := by
  induction width generalizing n with
  | zero => cases listed
  | succ width ih =>
    rw [fixed, List.mem_append, List.mem_singleton] at listed
    rcases listed with higher | rfl
    · exact ih higher
    · exact Nat.mod_lt n positive

theorem fixed_value (two_le : 2 ≤ base) {ds : List Nat} (bounded : ∀ d ∈ ds, d < base) :
    fixed base ds.length (value base ds) = ds := by
  refine value_inj two_le (length_fixed _ _ _) (fun d => lt_of_mem_fixed (by omega)) bounded ?_
  rw [value_fixed]
  exact Nat.mod_eq_of_lt (value_lt two_le bounded)

/-- The digits of the same number in another base, with as many zeros in front. -/
def rebase (source target : Nat) (ds : List Nat) : List Nat :=
  ds.takeWhile (· == 0) ++ digits target (value source ds)

theorem exists_zeros (ds : List Nat) :
    ∃ zeros rest, ds = List.replicate zeros 0 ++ rest ∧ rest.head? ≠ some 0 := by
  induction ds with
  | nil => exact ⟨0, [], rfl, by simp⟩
  | cons d ds ih =>
    by_cases zero : d = 0
    · obtain ⟨zeros, rest, rfl, leading⟩ := ih
      exact ⟨zeros + 1, rest, by rw [zero, List.replicate_succ, List.cons_append], leading⟩
    · exact ⟨0, d :: ds, rfl, by simpa using zero⟩

theorem value_zeros (base zeros : Nat) (rest : List Nat) :
    value base (List.replicate zeros 0 ++ rest) = value base rest := by
  induction zeros with
  | zero => rfl
  | succ zeros ih =>
    rw [List.replicate_succ, List.cons_append, ← ih]
    simp [value]

theorem rebase_zeros (source target zeros : Nat) {rest : List Nat} (leading : rest.head? ≠ some 0) :
    rebase source target (List.replicate zeros 0 ++ rest) =
      List.replicate zeros 0 ++ digits target (value source rest) := by
  have stops : rest.takeWhile (· == 0) = [] := by
    cases rest with
    | nil => rfl
    | cons d rest =>
      have positive : d ≠ 0 := by simpa using leading
      simp [positive]
  rw [rebase, value_zeros, List.takeWhile_append_of_pos (by simp), stops, List.append_nil]

theorem rebase_rebase {source target : Nat} (two_le : 2 ≤ source) (two_le' : 2 ≤ target) {ds : List Nat}
    (bounded : ∀ d ∈ ds, d < source) : rebase target source (rebase source target ds) = ds := by
  -- The zeros in front stay what they are; behind them, digits and number determine each other.
  obtain ⟨zeros, rest, rfl, leading⟩ := exists_zeros ds
  have rest_bounded : ∀ d ∈ rest, d < source := fun d listed => bounded d (List.mem_append_right _ listed)
  rw [rebase_zeros source target zeros leading, rebase_zeros target source zeros (head?_digits two_le' _),
    value_digits two_le', digits_value two_le rest_bounded leading]

theorem lt_of_mem_rebase {source target : Nat} (two_le : 2 ≤ target) {ds : List Nat} {d : Nat}
    (listed : d ∈ rebase source target ds) : d < target := by
  rcases List.mem_append.mp listed with zero | written
  · have : d = 0 := by simpa using List.mem_takeWhile_imp zero
    omega
  · exact lt_of_mem_digits two_le written

end TokenDesk.Digits

namespace TokenDesk.Bytes

theorem lt_of_mem_values (bytes : List UInt8) : ∀ d ∈ bytes.map UInt8.toNat, d < 256 := by
  intro d listed
  obtain ⟨byte, -, rfl⟩ := List.mem_map.mp listed
  exact byte.toNat_lt

theorem map_ofNat_toNat (bytes : List UInt8) : (bytes.map UInt8.toNat).map UInt8.ofNat = bytes := by
  rw [List.map_map]
  exact (List.map_congr_left fun byte _ => UInt8.ofNat_toNat).trans (List.map_id bytes)

theorem map_toNat_ofNat {ds : List Nat} (bounded : ∀ d ∈ ds, d < 256) :
    (ds.map UInt8.ofNat).map UInt8.toNat = ds := by
  rw [List.map_map]
  exact (List.map_congr_left fun d listed => UInt8.toNat_ofNat_of_lt' (bounded d listed)).trans (List.map_id ds)

theorem toNat_lt (bytes : List UInt8) : toNat bytes < 256 ^ bytes.length := by
  rw [← (List.length_map UInt8.toNat : (bytes.map UInt8.toNat).length = bytes.length)]
  exact Digits.value_lt (by decide) (lt_of_mem_values bytes)

theorem toNat_ofNatFixed (width n : Nat) : toNat (ofNatFixed width n) = n % 256 ^ width := by
  rw [toNat, ofNatFixed, map_toNat_ofNat fun d => Digits.lt_of_mem_fixed (by decide), Digits.value_fixed]
  rfl

theorem ofNatFixed_toNat (bytes : List UInt8) : ofNatFixed bytes.length (toNat bytes) = bytes := by
  have digits := Digits.fixed_value (by decide) (lt_of_mem_values bytes)
  rw [List.length_map] at digits
  rw [ofNatFixed, toNat, digits, map_ofNat_toNat]

theorem toNat_zeros (zeros : Nat) (bytes : List UInt8) : toNat (List.replicate zeros 0 ++ bytes) = toNat bytes := by
  rw [toNat, List.map_append, List.map_replicate]
  exact Digits.value_zeros 256 zeros _

end TokenDesk.Bytes
