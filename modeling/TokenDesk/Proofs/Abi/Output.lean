import Mathlib.Data.Nat.ModEq
import TokenDesk.Abi.Output
import TokenDesk.Proofs.Results

/-! Where the values in a contract's output stand.

A text or a list of numbers stands behind an offset and a length, both of which the
contract chooses. A decoder follows them as far as the output goes and refuses what
would lie outside. What it returns is the content at the place that the offset names,
all of it and nothing else.
-/

set_option autoImplicit false

namespace TokenDesk.Abi

def wordAt (output : List UInt8) (place : Nat) : Nat :=
  firstWord (output.drop place)

def textOf (bytes : List UInt8) (size : Nat) : String :=
  String.ofList (Text.Utf8.decodeLossy (bytes.take size))

/-- A value of so many parts and bytes stands at a place: its length word there, its content right behind. Offset
and length count by their low eight bytes. -/
structure Locates (output : List UInt8) (place count size : Nat) : Prop where
  offset : place = wordAt output 0 % 2 ^ 64
  count : count = wordAt output place % 2 ^ 64
  inside : place + 32 + size ≤ output.length

def refusal (output : List UInt8) : Error :=
  if output = [] then .emptyOutput
  else if output.length < 32 then .shortOutput output.length
  else overrun

/-- Follow the offset and the length of an output, and read the content if as many bytes are there as so many parts
take. -/
def follow {α : Type} (output : List UInt8) (size : Nat → Nat) (read : List UInt8 → Nat → α) : Except Error α :=
  let place := wordAt output 0 % 2 ^ 64
  let count := wordAt output place % 2 ^ 64
  if place + 32 + size count ≤ output.length then .ok (read (output.drop (place + 32)) count)
  else .error (refusal output)

variable {α : Type} {output bytes : List UInt8} {place count : Nat} {size : Nat → Nat} {read : List UInt8 → Nat → α}

theorem wordAt_zero (output : List UInt8) : wordAt output 0 = firstWord output := by
  rw [wordAt, List.drop_zero]

theorem refusal_of_long (long : 32 ≤ output.length) : refusal output = overrun := by
  have nonempty : output ≠ [] := by
    intro empty
    rw [empty] at long
    simp at long
  rw [refusal, if_neg nonempty, if_neg (Nat.not_lt.mpr long)]

theorem checkLength_of_short (short : output.length < 32) : checkLength output = .error (refusal output) := by
  unfold checkLength refusal
  by_cases empty : output = []
  · simp [empty]
  · simp [empty, short]

theorem checkLength_of_long (long : 32 ≤ output.length) : checkLength output = .ok () := by
  have nonempty : ¬ output.isEmpty := by
    intro empty
    rw [List.isEmpty_iff.mp empty] at long
    simp at long
  rw [checkLength, if_neg nonempty, if_neg (Nat.not_lt.mpr long)]

theorem takeWord_of_long (long : 32 ≤ bytes.length) : takeWord bytes = .ok (firstWord bytes, bytes.drop 32) := by
  rw [takeWord, if_neg (Nat.not_lt.mpr long)]

theorem takeWord_of_short (short : bytes.length < 32) : takeWord bytes = .error overrun := by
  rw [takeWord, if_pos short]

theorem dynamic_eq (long : 32 ≤ output.length) (named : place = wordAt output 0 % 2 ^ 64) : dynamic output =
    if place + 32 ≤ output.length then .ok (wordAt output place % 2 ^ 64, output.drop (place + 32))
    else .error overrun := by
  have offset : firstWord output % Nat.pow 2 64 = place := by
    rw [named, wordAt_zero]
    rfl
  unfold dynamic
  rw [takeWord_of_long long]
  dsimp only [bind, Except.bind]
  rw [offset]
  -- The output can end before the place, or behind it and within the word that stands there.
  by_cases inside : place + 32 ≤ output.length
  · have word_inside : 32 ≤ (output.drop place).length := by
      rw [List.length_drop]
      omega
    rw [if_pos inside, if_neg (show ¬ output.length < place by omega), takeWord_of_long word_inside, List.drop_drop]
    rfl
  · rw [if_neg inside]
    by_cases beyond : output.length < place
    · rw [if_pos beyond]
      rfl
    · have word_outside : (output.drop place).length < 32 := by
        rw [List.length_drop]
        omega
      rw [if_neg beyond, takeWord_of_short word_outside]

/-- What the decoders of texts and of lists do alike: they check every length before they read. -/
theorem follow_eq (size : Nat → Nat) (read : List UInt8 → Nat → α) (output : List UInt8) :
    (do
      checkLength output
      let (count, rest) ← dynamic output
      if rest.length < size count then throw overrun
      return read rest count) = follow output size read := by
  unfold follow
  dsimp only
  by_cases long : 32 ≤ output.length
  · rw [checkLength_of_long long, dynamic_eq long rfl, refusal_of_long long]
    generalize wordAt output 0 % 2 ^ 64 = place
    generalize wordAt output place % 2 ^ 64 = count
    dsimp only [bind, Except.bind]
    -- The content is measured against what is left behind the length word, so no sum can overflow.
    by_cases head : place + 32 ≤ output.length
    · rw [if_pos head]
      dsimp only
      rw [List.length_drop]
      by_cases inside : place + 32 + size count ≤ output.length
      · rw [if_pos inside, if_neg (show ¬ output.length - (place + 32) < size count by omega)]
        rfl
      · rw [if_neg inside, if_pos (show output.length - (place + 32) < size count by omega)]
        rfl
    · rw [if_neg head, if_neg (by omega)]
  · rw [checkLength_of_short (Nat.not_le.mp long), if_neg (by omega)]
    rfl

theorem decodeString_eq (output : List UInt8) : decodeString output = follow output id textOf :=
  follow_eq id textOf output

theorem decodeUintArray_eq (output : List UInt8) : decodeUintArray output = follow output (· * 32) words := by
  rw [← follow_eq]
  simp only [decodeUintArray, Nat.div_lt_iff_lt_mul (show 0 < 32 by decide)]

theorem follow_eq_ok_iff {value : α} : follow output size read = .ok value ↔
    ∃ place count, Locates output place count (size count) ∧ value = read (output.drop (place + 32)) count := by
  unfold follow
  constructor
  · intro found
    dsimp only at found
    split_ifs at found with inside
    cases found
    exact ⟨_, _, ⟨rfl, rfl, inside⟩, rfl⟩
  · intro found
    obtain ⟨place, count, located, rfl⟩ := found
    dsimp only
    rw [← located.offset, ← located.count, if_pos located.inside]

theorem follow_eq_error_iff {cause : Error} : follow output size read = .error cause ↔
    cause = refusal output ∧ ∀ place count, ¬ Locates output place count (size count) := by
  unfold follow
  dsimp only
  constructor
  · intro failed
    split_ifs at failed with inside
    cases failed
    refine ⟨rfl, ?_⟩
    intro place count located
    apply inside
    rw [← located.offset, ← located.count]
    exact located.inside
  · intro both
    obtain ⟨rfl, nowhere⟩ := both
    split_ifs with inside
    · exact absurd ⟨rfl, rfl, inside⟩ (nowhere _ _)
    · rfl

theorem words_eq (bytes : List UInt8) (count : Nat) :
    words bytes count = (List.range count).map fun index => wordAt bytes (32 * index) := by
  induction count generalizing bytes with
  | zero => rfl
  | succ count ih =>
    rw [words, ih, List.range_succ_eq_map, List.map_cons, List.map_map, Nat.mul_zero, wordAt_zero]
    congr 1
    apply List.map_congr_left
    intro index _
    rw [Function.comp_apply, wordAt, wordAt, List.drop_drop, Nat.mul_succ, Nat.add_comm]

theorem Locates.modEq {size : Nat} (located : Locates output place count size) :
    place ≡ wordAt output 0 [MOD 2 ^ 32] ∧ count ≡ wordAt output place [MOD 2 ^ 32] := by
  have low : 2 ^ 32 ∣ 2 ^ 64 := Nat.pow_dvd_pow 2 (by decide)
  constructor
  · rw [located.offset]
    exact (Nat.mod_modEq _ _).of_dvd low
  · rw [located.count]
    exact (Nat.mod_modEq _ _).of_dvd low

/-- Whatever a contract returns, a text or a list read from it is the content at the place that its offset names, and
all of that lies inside. Where no such place is, there is an error. -/
theorem decoded_inside (output : List UInt8) :
    (∀ text, decodeString output = .ok text ↔ ∃ place size, Locates output place size size ∧
      text = textOf (output.drop (place + 32)) size) ∧
    (∀ values, decodeUintArray output = .ok values ↔ ∃ place, Locates output place values.length (values.length * 32) ∧
      values = (List.range values.length).map fun index => wordAt output (place + 32 + 32 * index)) ∧
    (∀ cause, decodeString output = .error cause ↔
      cause = refusal output ∧ ∀ place size, ¬ Locates output place size size) ∧
    (∀ cause, decodeUintArray output = .error cause ↔
      cause = refusal output ∧ ∀ place count, ¬ Locates output place count (count * 32)) ∧
    ∀ place count size, Locates output place count size →
      place ≡ wordAt output 0 [MOD 2 ^ 32] ∧ count ≡ wordAt output place [MOD 2 ^ 32] := by
  -- The words behind the length are taken one after another, and a list has them by their places.
  have listed : ∀ place count, words (output.drop (place + 32)) count =
      (List.range count).map fun index => wordAt output (place + 32 + 32 * index) := by
    intro place count
    simp only [words_eq, wordAt, List.drop_drop]
  rw [decodeString_eq, decodeUintArray_eq]
  refine ⟨fun text => follow_eq_ok_iff, ?_, fun cause => follow_eq_error_iff, fun cause => follow_eq_error_iff, ?_⟩
  · intro values
    rw [follow_eq_ok_iff]
    simp only [listed]
    constructor
    · intro found
      obtain ⟨place, count, located, rfl⟩ := found
      have counted : ((List.range count).map fun index => wordAt output (place + 32 + 32 * index)).length = count := by
        rw [List.length_map, List.length_range]
      rw [counted]
      exact ⟨place, located, rfl⟩
    · intro found
      obtain ⟨place, located, same⟩ := found
      exact ⟨place, values.length, located, same⟩
  · intro place count size located
    exact located.modEq

/-- An offset may point back at itself. The word of zeros is the length of an empty list, too. -/
example : decodeUintArray (List.replicate 32 0) = .ok [] := by decide

end TokenDesk.Abi
