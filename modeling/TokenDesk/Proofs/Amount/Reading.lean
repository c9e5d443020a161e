import Mathlib.Algebra.Ring.Nat
import TokenDesk.Amount

/-! What decimal texts are read as.

The parts of a text are told apart by its first point. They are those of an
amount exactly if the text is written as the grammar here has it, and the
digits glued together then spell the amount without any rounding.
-/

set_option autoImplicit false

namespace TokenDesk.Amount

/-- Digits without a zero in front, unless the zero is all. -/
structure IsInteger (ds : List Char) : Prop where
  nonempty : ds ≠ []
  digits : ds.all Char.isDigit
  leading : ds = ['0'] ∨ ds.head? ≠ some '0'

structure IsFraction (decimals : Decimals) (ds : List Char) : Prop where
  digits : ds.all Char.isDigit
  fits : ds.length ≤ decimals.places

/-- The texts of amounts, each with its integer and its fraction. -/
inductive Writes (decimals : Decimals) : List Char → List Char → List Char → Prop where
  | whole {integer : List Char} : IsInteger integer → Writes decimals integer integer []
  | pointed {integer fraction : List Char} : IsInteger integer → IsFraction decimals fraction →
      Writes decimals (integer ++ '.' :: fraction) integer fraction
  | fractional {fraction : List Char} : fraction ≠ [] → IsFraction decimals fraction →
      Writes decimals ('.' :: fraction) [] fraction

variable {decimals : Decimals} {integer fraction text : List Char}

theorem point_not_mem_of_digits {ds : List Char} (digits : ds.all Char.isDigit) : '.' ∉ ds := by
  intro listed
  have digit := List.all_eq_true.mp digits '.' listed
  cases digit

theorem parts_of_not_mem (pointless : '.' ∉ text) : parts text = (text, []) := by
  rw [parts, (Text.cut?_eq_none_iff '.' text).mpr pointless]
  rfl

theorem parts_append (pointless : '.' ∉ integer) : parts (integer ++ '.' :: fraction) = (integer, fraction) := by
  rw [parts, (Text.cut?_eq_some_iff '.' _ integer fraction).mpr ⟨rfl, pointless⟩]
  rfl

theorem parts_cases (same : parts text = (integer, fraction)) :
    text = integer ∧ fraction = [] ∨ text = integer ++ '.' :: fraction := by
  unfold parts at same
  cases cut : Text.cut? '.' text with
  | none =>
    rw [cut] at same
    cases same
    exact .inl ⟨rfl, rfl⟩
  | some both =>
    rw [cut] at same
    cases same
    exact .inr ((Text.cut?_eq_some_iff '.' text integer fraction).mp cut).1

theorem isInteger_iff (nonempty : integer ≠ []) :
    IsInteger integer ↔ integer.all Char.isDigit ∧ ¬ (1 < integer.length ∧ integer.head? = some '0') := by
  constructor
  · rintro ⟨-, digits, leading⟩
    refine ⟨digits, ?_⟩
    rintro ⟨longer, zero⟩
    rcases leading with alone | other
    · rw [alone] at longer
      exact absurd longer (Nat.lt_irrefl 1)
    · exact other zero
  · rintro ⟨digits, leading⟩
    refine ⟨nonempty, digits, ?_⟩
    by_cases zero : integer.head? = some '0'
    · -- A zero in front of others is what the check refuses, so this one stands alone.
      left
      cases integer with
      | nil => cases zero
      | cons first others =>
        cases zero
        cases others with
        | nil => rfl
        | cons next more => exact absurd ⟨by simp, rfl⟩ leading
    · exact .inr zero

theorem ok_of_guard {α : Type} {fault : AmountFault} {guard : Prop} [Decidable guard]
    {rest : Except AmountFault α} {value : α} :
    (if guard then .error fault else rest) = .ok value ↔ ¬ guard ∧ rest = .ok value := by
  by_cases holds : guard <;> simp [holds]

theorem ne_error_of_guard {α : Type} {fault other : AmountFault} {guard : Prop} [Decidable guard]
    {rest : Except AmountFault α} (apart : fault ≠ other) (others : rest ≠ .error other) :
    (if guard then .error fault else rest) ≠ .error other := by
  by_cases holds : guard
  · simpa [holds] using apart
  · simpa [holds] using others

theorem checkParts_eq_ok_iff :
    checkParts decimals integer fraction = .ok () ↔
      (integer = [] ∧ fraction ≠ [] ∨ IsInteger integer) ∧ IsFraction decimals fraction := by
  unfold checkParts
  simp only [ok_of_guard, and_true]
  constructor
  · rintro ⟨-, integer_digits, digits, nonempty, leading, fits⟩
    have fraction_fits : IsFraction decimals fraction := ⟨by simpa using digits, Nat.le_of_not_lt fits⟩
    by_cases empty : integer = []
    · exact ⟨.inl ⟨empty, by simpa [empty] using nonempty⟩, fraction_fits⟩
    · exact ⟨.inr ((isInteger_iff empty).mpr ⟨by simpa using integer_digits, leading⟩), fraction_fits⟩
  · rintro ⟨written, digits, fits⟩
    have pointless := point_not_mem_of_digits digits
    rcases written with ⟨rfl, nonempty⟩ | written
    · exact ⟨pointless, by simp, by simpa using digits, by simpa using nonempty, by simp, Nat.not_lt_of_le fits⟩
    · obtain ⟨integer_digits, leading⟩ := (isInteger_iff written.nonempty).mp written
      exact ⟨pointless, by simpa using integer_digits, by simpa using digits, by simp [written.nonempty], leading,
        Nat.not_lt_of_le fits⟩

theorem checkParts_ne_notInteger : checkParts decimals integer fraction ≠ .error .notInteger := by
  unfold checkParts
  repeat apply ne_error_of_guard (by decide)
  intro impossible
  cases impossible

theorem writes_iff : Writes decimals text integer fraction ↔
    parts text = (integer, fraction) ∧ checkParts decimals integer fraction = .ok () := by
  rw [checkParts_eq_ok_iff]
  constructor
  · intro written
    cases written with
    | whole written =>
      exact ⟨parts_of_not_mem (point_not_mem_of_digits written.digits), .inr written, rfl, Nat.zero_le _⟩
    | pointed written fits =>
      exact ⟨parts_append (point_not_mem_of_digits written.digits), .inr written, fits⟩
    | fractional nonempty fits => exact ⟨parts_append List.not_mem_nil, .inl ⟨rfl, nonempty⟩, fits⟩
  -- The parts do not tell a text that ends in its point from one without a point; both are written.
  · rintro ⟨same, ⟨rfl, nonempty⟩ | written, fits⟩
    · rcases parts_cases same with ⟨-, empty⟩ | rfl
      · exact absurd empty nonempty
      · exact .fractional nonempty fits
    · rcases parts_cases same with ⟨rfl, rfl⟩ | rfl
      · exact .whole written
      · exact .pointed written fits

theorem ofDigits_append (ds more : List Char) :
    ofDigits (ds ++ more) = ofDigits ds * 10 ^ more.length + ofDigits more := by
  rw [ofDigits, Nat.ofDigitChars_append, Nat.ofDigitChars_eq_ofDigitChars_zero, Nat.mul_comm]
  rfl

theorem ofDigits_glue (fits : fraction.length ≤ decimals.places) :
    ofDigits (glue decimals integer fraction) =
      ofDigits integer * 10 ^ decimals.places + ofDigits fraction * 10 ^ (decimals.places - fraction.length) := by
  have zeros : ofDigits (List.replicate (decimals.places - fraction.length) '0') = 0 := by
    rw [ofDigits, Nat.ofDigitChars_replicate_zero, Nat.mul_zero]
  rw [glue, List.append_assoc, ofDigits_append, ofDigits_append fraction, zeros, List.length_append,
    List.length_replicate, Nat.add_sub_cancel' fits, Nat.add_zero]

theorem readInteger?_glue (checked : checkParts decimals integer fraction = .ok ()) :
    readInteger? (glue decimals integer fraction) = some (ofDigits (glue decimals integer fraction)) := by
  obtain ⟨written, digits, -⟩ := checkParts_eq_ok_iff.mp checked
  refine if_pos ⟨?_, ?_⟩
  · rcases written with ⟨-, nonempty⟩ | written
    · simp [glue, nonempty]
    · simp [glue, written.nonempty]
  · have integer_digits : integer.all Char.isDigit := by
      rcases written with ⟨rfl, -⟩ | written
      · rfl
      · exact written.digits
    have zeros : (List.replicate (decimals.places - fraction.length) '0').all Char.isDigit := by
      simp
    rw [glue, List.all_append, List.all_append, integer_digits, digits, zeros]
    rfl

theorem parseDigits_eq (same : parts text = (integer, fraction)) :
    parseDigits decimals text =
      (checkParts decimals integer fraction).map fun _ => ofDigits (glue decimals integer fraction) := by
  unfold parseDigits
  rw [same]
  cases checked : checkParts decimals integer fraction with
  | error fault => simp [checked]; rfl
  | ok => simp [checked, readInteger?_glue checked]; rfl

theorem parse_of_writes {text : String} (written : Writes decimals text.toList integer fraction) :
    parse decimals text = .ok
      (ofDigits integer * 10 ^ decimals.places + ofDigits fraction * 10 ^ (decimals.places - fraction.length)) := by
  obtain ⟨same, checked⟩ := writes_iff.mp written
  obtain ⟨-, -, fits⟩ := checkParts_eq_ok_iff.mp checked
  rw [parse, parseDigits_eq same, checked, ← ofDigits_glue fits]
  rfl

theorem parse_of_not_writes {text : String}
    (unwritten : ¬ ∃ integer fraction, Writes decimals text.toList integer fraction) :
    ∃ fault, fault ≠ .notInteger ∧ parse decimals text = .error (.invalidFormat text fault) := by
  obtain ⟨integer, fraction, same⟩ : ∃ integer fraction, parts text.toList = (integer, fraction) := ⟨_, _, rfl⟩
  cases checked : checkParts decimals integer fraction with
  | ok => exact absurd ⟨integer, fraction, writes_iff.mpr ⟨same, checked⟩⟩ unwritten
  | error fault =>
    refine ⟨fault, ?_, ?_⟩
    · rintro rfl
      exact checkParts_ne_notInteger checked
    · rw [parse, parseDigits_eq same, checked]
      rfl

/-- Reading is exact: the texts of the grammar have their amounts, and all others are refused with the
text as it is. Nothing that passes the check has too long a fraction or fails to be a number. -/
theorem parse_exact (decimals : Decimals) (text : String) :
    (∀ amount, parse decimals text = .ok amount ↔
      ∃ integer fraction, Writes decimals text.toList integer fraction ∧
        amount = ofDigits integer * 10 ^ decimals.places +
          ofDigits fraction * 10 ^ (decimals.places - fraction.length)) ∧
    ((¬ ∃ integer fraction, Writes decimals text.toList integer fraction) →
      ∃ fault, fault ≠ .notInteger ∧ parse decimals text = .error (.invalidFormat text fault)) ∧
    ∀ integer fraction, parts text.toList = (integer, fraction) →
      checkParts decimals integer fraction = .ok () →
        fraction.length ≤ decimals.places ∧ (readInteger? (glue decimals integer fraction)).isSome := by
  refine ⟨?_, parse_of_not_writes, ?_⟩
  -- The grammar decides whether there is an amount, and its parts which one it is.
  · intro amount
    constructor
    · intro read
      by_cases writes : ∃ integer fraction, Writes decimals text.toList integer fraction
      · obtain ⟨integer, fraction, written⟩ := writes
        refine ⟨integer, fraction, written, ?_⟩
        rw [parse_of_writes written] at read
        exact (Except.ok.inj read).symm
      · obtain ⟨fault, -, refused⟩ := parse_of_not_writes writes
        cases read.symm.trans refused
    · rintro ⟨integer, fraction, written, rfl⟩
      exact parse_of_writes written
  · intro integer fraction _ checked
    obtain ⟨-, -, fits⟩ := checkParts_eq_ok_iff.mp checked
    exact ⟨fits, by rw [readInteger?_glue checked]; rfl⟩

end TokenDesk.Amount
