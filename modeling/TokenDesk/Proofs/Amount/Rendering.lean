import Mathlib.Data.List.DropRight
import TokenDesk.Proofs.Amount.Reading
import TokenDesk.Proofs.Digits

/-! What amounts are written as.

The digits of an amount have one digit or more before the point and all places
behind it. Such digits are known from the amount alone, so reading undoes writing,
and writing what was read leaves of a text only what its amount needs.
-/

set_option autoImplicit false

namespace TokenDesk.Amount

/-- The normal form of a text with these parts. A missing integer is zero, zeros at the end of the
fraction go, and so does the point if nothing is left behind it. -/
def IsNormalForm (integer fraction text : List Char) : Prop :=
  ∃ kept zeros, fraction = kept ++ List.replicate zeros '0' ∧ kept.getLast? ≠ some '0' ∧
    text = (if integer = [] then ['0'] else integer) ++ (if kept = [] then [] else '.' :: kept)

/-- Digits that fill all places of the fraction, with as few of them in front as an integer has. -/
structure IsPadded (decimals : Decimals) (ds : List Char) : Prop where
  digits : ds.all Char.isDigit
  enough : decimals.places < ds.length
  leading : ds.length = decimals.places + 1 ∨ ds.head? ≠ some '0'

variable {decimals : Decimals} {integer fraction text ds : List Char} {amount : Amount}

def digitValue (c : Char) : Nat :=
  c.toNat - '0'.toNat

theorem isDigit_bounds {c : Char} (digit : c.isDigit) : 48 ≤ c.toNat ∧ c.toNat ≤ 57 := by
  simpa [Char.isDigit, UInt32.le_iff_toNat_le] using digit

theorem digitValue_lt {c : Char} (digit : c.isDigit) : digitValue c < 10 := by
  have bounds := isDigit_bounds digit
  change c.toNat - 48 < 10
  omega

theorem digitValue_inj {c other : Char} (digit : c.isDigit) (digit' : other.isDigit)
    (same : digitValue c = digitValue other) : c = other := by
  have bounds := isDigit_bounds digit
  have bounds' := isDigit_bounds digit'
  change c.toNat - 48 = other.toNat - 48 at same
  exact Char.toNat_inj.mp (by omega)

theorem ofDigits_eq_value (ds : List Char) : ofDigits ds = Digits.value 10 (ds.map digitValue) := by
  rw [ofDigits, Nat.ofDigitChars_eq_foldl, Digits.value, List.foldl_map]
  simp only [Nat.mul_comm 10]
  rfl

theorem lt_of_mem_digitValues (digits : ds.all Char.isDigit) : ∀ d ∈ ds.map digitValue, d < 10 := by
  intro d listed
  obtain ⟨c, among, rfl⟩ := List.mem_map.mp listed
  exact digitValue_lt (List.all_eq_true.mp digits c among)

theorem ofDigits_lt (digits : ds.all Char.isDigit) : ofDigits ds < 10 ^ ds.length := by
  have bound := Digits.value_lt (by decide) (lt_of_mem_digitValues digits)
  rwa [List.length_map, ← ofDigits_eq_value] at bound

theorem ofDigits_inj {es : List Char} (length : ds.length = es.length) (digits : ds.all Char.isDigit)
    (digits' : es.all Char.isDigit) (same : ofDigits ds = ofDigits es) : ds = es := by
  rw [ofDigits_eq_value, ofDigits_eq_value] at same
  have values : ds.map digitValue = es.map digitValue :=
    Digits.value_inj (by decide) (by simpa using length) (lt_of_mem_digitValues digits)
      (lt_of_mem_digitValues digits') same
  refine List.ext_getElem length fun i here here' => ?_
  have alike : digitValue ds[i] = digitValue es[i] := by
    have at_index := congrArg (·[i]?) values
    simpa [here, here'] using at_index
  exact digitValue_inj (List.all_eq_true.mp digits _ (List.getElem_mem here))
    (List.all_eq_true.mp digits' _ (List.getElem_mem here')) alike

theorem pow_le_ofDigits {first : Char} {rest : List Char} (digit : first.isDigit) (leading : first ≠ '0') :
    10 ^ rest.length ≤ ofDigits (first :: rest) := by
  have positive : 1 ≤ ofDigits [first] := by
    have bounds := isDigit_bounds digit
    have differs : first.toNat ≠ 48 := fun same => leading (Char.toNat_inj.mp same)
    change 1 ≤ 10 * 0 + (first.toNat - 48)
    omega
  calc 10 ^ rest.length = 1 * 10 ^ rest.length := (Nat.one_mul _).symm
    _ ≤ ofDigits [first] * 10 ^ rest.length := Nat.mul_le_mul_right _ positive
    _ ≤ ofDigits [first] * 10 ^ rest.length + ofDigits rest := Nat.le_add_right _ _
    _ = ofDigits (first :: rest) := (ofDigits_append [first] rest).symm

theorem ofDigits_zero_cons (ds : List Char) : ofDigits ('0' :: ds) = ofDigits ds := by
  have split := ofDigits_append ['0'] ds
  rwa [show ofDigits ['0'] = 0 from rfl, Nat.zero_mul, Nat.zero_add] at split

theorem all_digits (amount : Amount) : (digits amount).all Char.isDigit :=
  List.all_eq_true.mpr fun _ listed => Nat.isDigit_of_mem_toDigits (by decide) (by decide) listed

theorem ofDigits_digits (amount : Amount) : ofDigits (digits amount) = amount :=
  Nat.ofDigitChars_ten_toDigits

theorem length_digits_le_iff {places : Nat} (positive : 0 < places) :
    (digits amount).length ≤ places ↔ amount < 10 ^ places :=
  Nat.length_toDigits_le_iff (by decide) positive

theorem head?_digits (longer : 1 < (digits amount).length) : (digits amount).head? ≠ some '0' := by
  intro zero
  obtain ⟨rest, split⟩ := List.head?_eq_some_iff.mp zero
  -- Without its zero in front the amount would have had one digit less.
  have value : ofDigits rest = amount := by
    rw [← ofDigits_zero_cons, ← split, ofDigits_digits]
  have rest_digits : rest.all Char.isDigit := by
    have all := all_digits amount
    rw [split] at all
    exact (List.all_cons ▸ all : ('0'.isDigit && rest.all Char.isDigit) = true)
  rw [split, List.length_cons] at longer
  have fewer := (length_digits_le_iff (by omega)).mpr (value ▸ ofDigits_lt rest_digits)
  rw [split, List.length_cons] at fewer
  omega

theorem isPadded_paddedDigits (decimals : Decimals) (amount : Amount) :
    IsPadded decimals (paddedDigits decimals amount) := by
  unfold paddedDigits
  constructor
  · rw [List.all_append, all_digits]
    simp
  · simp only [List.length_append, List.length_replicate]
    omega
  · by_cases short : (digits amount).length ≤ decimals.places + 1
    · left
      simp only [List.length_append, List.length_replicate]
      omega
    · right
      simp only [Nat.sub_eq_zero_of_le (Nat.le_of_not_le short), List.replicate_zero, List.nil_append]
      exact head?_digits (by omega)

theorem ofDigits_paddedDigits (decimals : Decimals) (amount : Amount) :
    ofDigits (paddedDigits decimals amount) = amount := by
  have zeros : ∀ n, ofDigits (List.replicate n '0') = 0 := by
    intro n
    rw [ofDigits, Nat.ofDigitChars_replicate_zero, Nat.mul_zero]
  rw [paddedDigits, ofDigits_append, ofDigits_digits, zeros, Nat.zero_mul, Nat.zero_add]

theorem length_of_isPadded (padded : IsPadded decimals ds) :
    ds.length = max (decimals.places + 1) (digits (ofDigits ds)).length := by
  have enough := padded.enough
  have at_most : (digits (ofDigits ds)).length ≤ ds.length :=
    (length_digits_le_iff (by omega)).mpr (ofDigits_lt padded.digits)
  -- Either there are no more digits than there must be, or the first of them is no zero and makes the
  -- amount too large for fewer digits.
  rcases padded.leading with short | leading
  · omega
  · cases ds with
    | nil => cases enough
    | cons first rest =>
      have digit := List.all_eq_true.mp padded.digits first List.mem_cons_self
      have weight : 10 ^ rest.length ≤ ofDigits (first :: rest) :=
        pow_le_ofDigits digit fun zero => leading (congrArg some zero)
      have at_least : rest.length < (digits (ofDigits (first :: rest))).length := by
        by_cases empty : rest.length = 0
        · rw [empty]
          exact Nat.length_toDigits_pos
        · refine Nat.lt_of_not_le fun fewer => ?_
          exact Nat.not_lt_of_le weight ((length_digits_le_iff (Nat.pos_of_ne_zero empty)).mp fewer)
      rw [List.length_cons] at enough at_most ⊢
      omega

theorem paddedDigits_ofDigits (padded : IsPadded decimals ds) : paddedDigits decimals (ofDigits ds) = ds := by
  refine ofDigits_inj ?_ (isPadded_paddedDigits _ _).digits padded.digits (ofDigits_paddedDigits _ _)
  rw [length_of_isPadded padded, length_of_isPadded (isPadded_paddedDigits decimals _), ofDigits_paddedDigits]

theorem isPadded_append (written : IsInteger integer) (digits : fraction.all Char.isDigit)
    (length : fraction.length = decimals.places) : IsPadded decimals (integer ++ fraction) where
  digits := by rw [List.all_append, written.digits, digits]; rfl
  enough := by
    have positive := List.length_pos_iff.mpr written.nonempty
    rw [List.length_append]
    omega
  leading := by
    rcases written.leading with rfl | leading
    · left
      rw [List.length_append, length, List.length_singleton, Nat.add_comm]
    · right
      rwa [List.head?_append_of_ne_nil _ written.nonempty]

theorem exists_parts (padded : IsPadded decimals ds) :
    ∃ integer fraction, ds = integer ++ fraction ∧ IsInteger integer ∧ fraction.all Char.isDigit ∧
      fraction.length = decimals.places := by
  obtain ⟨all, enough, leading⟩ := padded
  -- The integer is one digit and `width` more.
  obtain ⟨width, split⟩ : ∃ width, ds.length = width + 1 + decimals.places :=
    ⟨ds.length - decimals.places - 1, by omega⟩
  have sides := List.take_append_drop (width + 1) ds
  rw [← sides, List.all_append, Bool.and_eq_true] at all
  refine ⟨ds.take (width + 1), ds.drop (width + 1), sides.symm, ⟨?_, all.1, ?_⟩, all.2, ?_⟩
  · intro empty
    have length := congrArg List.length empty
    rw [List.length_take, List.length_nil] at length
    omega
  · cases ds with
    | nil => cases enough
    | cons first rest =>
      rw [List.take_succ_cons, List.head?_cons]
      rcases leading with short | leading
      · obtain rfl : width = 0 := by omega
        by_cases zero : first = '0'
        · exact .inl (by rw [zero, List.take_zero])
        · exact .inr fun same => zero (Option.some.inj same)
      · exact .inr leading
  · rw [List.length_drop]
    omega

theorem render_ofDigits (written : IsInteger integer) (digits : fraction.all Char.isDigit)
    (length : fraction.length = decimals.places) :
    render decimals (ofDigits (integer ++ fraction)) = String.ofList
      (if (trimZeros fraction).isEmpty then integer else integer ++ '.' :: trimZeros fraction) := by
  have split : (integer ++ fraction).length - decimals.places = integer.length := by
    rw [List.length_append, length, Nat.add_sub_cancel]
  rw [render, paddedDigits_ofDigits (isPadded_append written digits length)]
  simp only [split, List.take_left, List.drop_left]

theorem trimZeros_eq_rdropWhile (ds : List Char) : trimZeros ds = ds.rdropWhile (· == '0') := rfl

theorem trimZeros_append_zeros (ds : List Char) (zeros : Nat) :
    trimZeros (ds ++ List.replicate zeros '0') = trimZeros ds := by
  induction zeros with
  | zero => rw [List.replicate_zero, List.append_nil]
  | succ zeros ih =>
    rw [List.replicate_succ', ← List.append_assoc, trimZeros_eq_rdropWhile, List.rdropWhile_concat_pos _ _ _ rfl]
    exact ih

theorem exists_trimmed (ds : List Char) : ∃ zeros, ds = trimZeros ds ++ List.replicate zeros '0' := by
  refine ⟨(ds.rtakeWhile (· == '0')).length, ?_⟩
  have zeros : ds.rtakeWhile (· == '0') = List.replicate (ds.rtakeWhile (· == '0')).length '0' := by
    refine List.eq_replicate_iff.mpr ⟨rfl, fun c listed => ?_⟩
    have zero := List.mem_rtakeWhile_imp listed
    exact beq_iff_eq.mp zero
  rw [← zeros, trimZeros_eq_rdropWhile, List.rdropWhile_append_rtakeWhile]

theorem getLast?_trimZeros (ds : List Char) : (trimZeros ds).getLast? ≠ some '0' := by
  by_cases empty : trimZeros ds = []
  · simp [empty]
  · rw [List.getLast?_eq_some_getLast empty]
    intro last
    have kept := List.rdropWhile_last_not (· == '0') ds empty
    exact kept (beq_iff_eq.mpr (Option.some.inj last))

theorem isFraction_trimZeros (digits : fraction.all Char.isDigit) (length : fraction.length = decimals.places) :
    IsFraction decimals (trimZeros fraction) := by
  obtain ⟨zeros, split⟩ := exists_trimmed fraction
  constructor
  · rw [split, List.all_append, Bool.and_eq_true] at digits
    exact digits.1
  · have parts := congrArg List.length split
    rw [List.length_append] at parts
    omega

theorem isNormalForm_render (written : Writes decimals text integer fraction) :
    IsNormalForm integer fraction (render decimals (ofDigits (glue decimals integer fraction))).toList := by
  obtain ⟨parted, digits, fits⟩ := checkParts_eq_ok_iff.mp (writes_iff.mp written).2
  obtain ⟨zeros, split⟩ := exists_trimmed fraction
  refine ⟨trimZeros fraction, zeros, split, getLast?_trimZeros fraction, ?_⟩
  have whole : IsInteger (if integer = [] then ['0'] else integer) := by
    rcases parted with ⟨rfl, -⟩ | written
    · exact ⟨by simp, rfl, .inl rfl⟩
    · rwa [if_neg written.nonempty]
  -- A zero in place of a missing integer leaves the amount as it is.
  have same : ofDigits (glue decimals integer fraction) = ofDigits ((if integer = [] then ['0'] else integer) ++
      (fraction ++ List.replicate (decimals.places - fraction.length) '0')) := by
    rw [glue, List.append_assoc]
    by_cases missing : integer = []
    · rw [if_pos missing, missing]
      exact (ofDigits_zero_cons _).symm
    · rw [if_neg missing]
  rw [same, render_ofDigits whole (by rw [List.all_append, digits]; simp)
    (by rw [List.length_append, List.length_replicate]; omega), trimZeros_append_zeros, String.toList_ofList]
  by_cases nothing : trimZeros fraction = []
  · simp [nothing]
  · simp [nothing]

theorem parse_render (decimals : Decimals) (amount : Amount) :
    parse decimals (render decimals amount) = .ok amount := by
  obtain ⟨integer, fraction, split, written, digits, length⟩ := exists_parts (isPadded_paddedDigits decimals amount)
  obtain rfl : ofDigits (integer ++ fraction) = amount := by rw [← split, ofDigits_paddedDigits]
  have fits := isFraction_trimZeros digits length
  have writes : Writes decimals (render decimals (ofDigits (integer ++ fraction))).toList integer
      (trimZeros fraction) := by
    rw [render_ofDigits written digits length, String.toList_ofList]
    by_cases nothing : trimZeros fraction = []
    · simpa [nothing] using Writes.whole written
    · simpa [nothing] using Writes.pointed written fits
  -- Reading puts back the zeros that writing left out.
  obtain ⟨zeros, trimmed⟩ := exists_trimmed fraction
  have glued : glue decimals integer (trimZeros fraction) = integer ++ fraction := by
    have parts := congrArg List.length trimmed
    rw [List.length_append, List.length_replicate, length] at parts
    rw [glue, List.append_assoc, parts, Nat.add_sub_cancel_left, ← trimmed]
  rw [parse_of_writes writes, ← ofDigits_glue fits.fits, glued]

theorem exists_writes {text : String} (read : parse decimals text = .ok amount) :
    ∃ integer fraction, Writes decimals text.toList integer fraction ∧
      amount = ofDigits (glue decimals integer fraction) := by
  by_cases writes : ∃ integer fraction, Writes decimals text.toList integer fraction
  · obtain ⟨integer, fraction, written⟩ := writes
    obtain ⟨-, -, fits⟩ := checkParts_eq_ok_iff.mp (writes_iff.mp written).2
    rw [parse_of_writes written, ← ofDigits_glue fits] at read
    exact ⟨integer, fraction, written, (Except.ok.inj read).symm⟩
  · obtain ⟨fault, -, refused⟩ := parse_of_not_writes writes
    cases read.symm.trans refused

theorem Writes.isDigit_or_point (written : Writes decimals text integer fraction) :
    ∀ c ∈ text, c.isDigit ∨ c = '.' := by
  intro c listed
  cases written with
  | whole integer => exact .inl (List.all_eq_true.mp integer.digits c listed)
  | pointed integer fraction =>
    rcases List.mem_append.mp listed with before | behind
    · exact .inl (List.all_eq_true.mp integer.digits c before)
    · rcases List.mem_cons.mp behind with point | after
      · exact .inr point
      · exact .inl (List.all_eq_true.mp fraction.digits c after)
  | fractional _ fraction =>
    rcases List.mem_cons.mp listed with point | after
    · exact .inr point
    · exact .inl (List.all_eq_true.mp fraction.digits c after)

theorem not_mem_of_parse {text : String} (read : parse decimals text = .ok amount) {c : Char}
    (sign : c.isDigit = false) (pointless : c ≠ '.') : c ∉ text.toList := by
  obtain ⟨integer, fraction, written, -⟩ := exists_writes read
  intro listed
  rcases written.isDigit_or_point c listed with digit | point
  · rw [sign] at digit
    cases digit
  · exact pointless point

theorem render_injective (decimals : Decimals) : Function.Injective (render decimals) := by
  intro amount other same
  have read := parse_render decimals amount
  rw [same, parse_render decimals other] at read
  exact (Except.ok.inj read).symm

/-- Writing is undone by reading, and gives each text that can be read its normal form. So the amounts
of two texts are told apart by how they are written. -/
theorem render_canonical (decimals : Decimals) :
    (∀ amount, parse decimals (render decimals amount) = .ok amount) ∧
    (∀ text amount, parse decimals text = .ok amount →
      ∃ integer fraction, Writes decimals text.toList integer fraction ∧
        IsNormalForm integer fraction (render decimals amount).toList) ∧
    (∀ text other amount amount', parse decimals text = .ok amount → parse decimals other = .ok amount' →
      (amount = amount' ↔ render decimals amount = render decimals amount')) ∧
    Function.Injective (render decimals) := by
  refine ⟨parse_render decimals, ?_, ?_, render_injective decimals⟩
  · intro text amount read
    obtain ⟨integer, fraction, written, rfl⟩ := exists_writes read
    exact ⟨integer, fraction, written, isNormalForm_render written⟩
  · intro text other amount amount' _ _
    exact (render_injective decimals).eq_iff.symm

theorem render_canonical_half :
    parse { places := 2 } ".50" = .ok 50 ∧ parse { places := 2 } "0.05" = .ok 5 ∧
      (∃ integer fraction, Writes { places := 2 } ".50".toList integer fraction ∧
        IsNormalForm integer fraction "0.5".toList) ∧
      (50 = 5 ↔ render { places := 2 } 50 = render { places := 2 } 5) := by
  have half : parse { places := 2 } ".50" = .ok 50 := by decide
  have twentieth : parse { places := 2 } "0.05" = .ok 5 := by decide
  have written : render { places := 2 } 50 = "0.5" := by decide
  obtain ⟨-, normal, alike, -⟩ := render_canonical { places := 2 }
  exact ⟨half, twentieth, written ▸ normal ".50" 50 half, alike ".50" "0.05" 50 5 half twentieth⟩

end TokenDesk.Amount
