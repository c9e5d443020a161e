import TokenDesk.Proofs.Abi.Output
import TokenDesk.Proofs.Abi.Reading
import TokenDesk.Proofs.Text.Utf8

/-! Reading back what a contract returns.

A contract returns one value in its standard encoding: in one word, or behind the
offset of its length. Each decoder undoes the encoding of its type, whatever follows
it. What is too short for a word is refused as such, and only a number that is too
large for its type is refused as that.
-/

set_option autoImplicit false

namespace TokenDesk.Abi

inductive ResultType where
  | uint
  | uint8
  | bool
  | address
  | string
  | uintArray
  deriving DecidableEq, Repr

namespace ResultType

def Value : ResultType → Type
  | uint => Amount
  | uint8 => UInt8
  | bool => Bool
  | address => Address
  | string => String
  | uintArray => List Amount

def decode : (type : ResultType) → List UInt8 → Except Error type.Value
  | uint => decodeUint
  | uint8 => decodeUint8
  | bool => decodeBool
  | address => decodeAddress
  | string => decodeString
  | uintArray => decodeUintArray

def encode : (type : ResultType) → type.Value → List UInt8
  | uint, (value : Amount) => word value
  | uint8, (value : UInt8) => word value.toNat
  | bool, (value : Bool) => word value.toNat
  | address, (value : Address) => word (Bytes.toNat value.bytes)
  | string, (value : String) => word 32 ++ word (Argument.utf8 value).length ++ Argument.padded (Argument.utf8 value)
  | uintArray, (values : List Amount) => word 32 ++ word values.length ++ values.flatMap word

/-- Numbers fit into a word, and texts and lists are shorter than 2³². -/
def Fits : (type : ResultType) → type.Value → Prop
  | uint, (value : Amount) => value < 2 ^ 256
  | string, (value : String) => (Argument.utf8 value).length < 2 ^ 32
  | uintArray, (values : List Amount) => values.length < 2 ^ 32 ∧ ∀ value ∈ values, value < 2 ^ 256
  | _, _ => True

def argument? : (type : ResultType) → type.Value → Option Argument
  | uint, (value : Amount) => some (.uint value)
  | uint8, (value : UInt8) => some (.uint8 value)
  | address, (value : Address) => some (.address value)
  | string, (value : String) => some (.string value)
  | bool, _ => none
  | uintArray, _ => none

end ResultType

variable {output rest : List UInt8} {n count : Nat}

theorem firstWord_word (fits : n < 2 ^ 256) (rest : List UInt8) : firstWord (word n ++ rest) = n := by
  rw [firstWord, List.take_left' (length_word n)]
  exact (isWord_word_of_lt fits).toNat

theorem long_word (n : Nat) (rest : List UInt8) : 32 ≤ (word n ++ rest).length := by
  rw [List.length_append, length_word]
  omega

theorem words_flatMap {values : List Nat} (fit : ∀ value ∈ values, value < 2 ^ 256) (rest : List UInt8) :
    words (values.flatMap word ++ rest) values.length = values := by
  induction values with
  | nil => rfl
  | cons value values ih =>
    obtain ⟨here, later⟩ := List.forall_mem_cons.mp fit
    rw [List.flatMap_cons, List.append_assoc, List.length_cons, words, firstWord_word here,
      List.drop_left' (length_word value), ih later]

theorem follow_word {α : Type} {size : Nat → Nat} (read : List UInt8 → Nat → α) (small : count < 2 ^ 32)
    (inside : size count ≤ rest.length) :
    follow (word 32 ++ (word count ++ rest)) size read = .ok (read rest count) := by
  have head : (word 32 ++ word count).length = 64 := by
    rw [List.length_append, length_word, length_word]
  have place : wordAt (word 32 ++ (word count ++ rest)) 0 = 32 := by
    rw [wordAt_zero, firstWord_word (by decide)]
  have length : wordAt (word 32 ++ (word count ++ rest)) 32 = count := by
    rw [wordAt, List.drop_left' (length_word 32), firstWord_word (small.trans (by decide))]
  rw [follow_eq_ok_iff]
  refine ⟨32, count, ⟨?_, ?_, ?_⟩, ?_⟩
  · rw [place]
    decide
  · rw [length, Nat.mod_eq_of_lt (small.trans (by decide))]
  · rw [← List.append_assoc, List.length_append, head]
    omega
  · rw [← List.append_assoc, List.drop_left' head]

theorem textOf_utf8 (text : String) (rest : List UInt8) :
    textOf (Argument.utf8 text ++ rest) (Argument.utf8 text).length = text := by
  rw [textOf, List.take_left, Argument.utf8, Text.Utf8.decodeLossy_encode, String.ofList_toList]

theorem decodeUint_of_long (long : 32 ≤ output.length) : decodeUint output = .ok (firstWord output) := by
  rw [decodeUint, checkLength_of_long long]
  rfl

theorem decodeUint_word (fits : n < 2 ^ 256) (rest : List UInt8) : decodeUint (word n ++ rest) = .ok n := by
  rw [decodeUint_of_long (long_word n rest), firstWord_word fits]

theorem decodeAddress_of_bytes {address : Address} (long : 32 ≤ output.length)
    (low : (output.drop 12).take 20 = address.bytes) : decodeAddress output = .ok address := by
  rw [decodeAddress, checkLength_of_long long, Address.ofBytes?_eq_some_iff.mpr low]
  rfl

theorem decodeAddress_of_long (long : 32 ≤ output.length) : ∃ address, decodeAddress output = .ok address := by
  have width : ((output.drop 12).take 20).length = 20 := by
    rw [List.length_take, List.length_drop]
    omega
  exact ⟨⟨_, width⟩, decodeAddress_of_bytes long rfl⟩

theorem decodeAddress_word (value : Address) (rest : List UInt8) :
    decodeAddress (word (Bytes.toNat value.bytes) ++ rest) = .ok value := by
  have low : (word (Bytes.toNat value.bytes)).drop 12 = value.bytes :=
    ((address_word_iff (length_word _)).mp rfl).2
  apply decodeAddress_of_bytes (long_word _ rest)
  rw [List.drop_append_of_le_length (by rw [length_word]; decide), low, List.take_left' value.length_bytes]

theorem decodeUint8_of_long (long : 32 ≤ output.length) : decodeUint8 output =
    if firstWord output < 256 then .ok (.ofNat (firstWord output))
    else .error (.outOfRange (Amount.decimal (firstWord output))) := by
  rw [decodeUint8, decodeUint_of_long long]
  rfl

theorem decodeUint8_word (value : UInt8) (rest : List UInt8) : decodeUint8 (word value.toNat ++ rest) = .ok value := by
  have small : value.toNat < 256 := value.toNat_lt
  rw [decodeUint8_of_long (long_word _ rest), firstWord_word (small.trans (by decide)), if_pos small,
    UInt8.ofNat_toNat]

theorem decodeBool_of_long (long : 32 ≤ output.length) : decodeBool output = .ok (firstWord output != 0) := by
  rw [decodeBool, decodeUint_of_long long]
  rfl

theorem decodeBool_word (value : Bool) (rest : List UInt8) : decodeBool (word value.toNat ++ rest) = .ok value := by
  have small : value.toNat < 2 ^ 256 := value.toNat_lt.trans (by decide)
  rw [decodeBool_of_long (long_word _ rest), firstWord_word small]
  cases value <;> rfl

theorem decodeString_words {text : String} (short : (Argument.utf8 text).length < 2 ^ 32) (rest : List UInt8) :
    decodeString (word 32 ++ word (Argument.utf8 text).length ++ Argument.padded (Argument.utf8 text) ++ rest) =
      .ok text := by
  rw [decodeString_eq, Argument.padded]
  simp only [List.append_assoc]
  rw [follow_word textOf short, textOf_utf8]
  -- The text lies inside, whatever stands behind it.
  rw [List.length_append]
  exact Nat.le_add_right _ _

theorem decodeUintArray_words {values : List Nat} (short : values.length < 2 ^ 32)
    (fit : ∀ value ∈ values, value < 2 ^ 256) (rest : List UInt8) :
    decodeUintArray (word 32 ++ word values.length ++ values.flatMap word ++ rest) = .ok values := by
  have size : (values.flatMap word).length = values.length * 32 := by
    simp [List.length_flatMap]
  rw [decodeUintArray_eq]
  simp only [List.append_assoc]
  rw [follow_word words short, words_flatMap fit]
  -- So do the numbers.
  rw [List.length_append, size]
  exact Nat.le_add_right _ _

theorem Argument.fits_uint (fits : n < 2 ^ 256) : (uint n).fits :=
  decide_eq_true fits

theorem Argument.encode_singleton (argument : Argument) : encode [argument] = argument.head 32 ++ argument.tail := by
  simp [encode, heads]

namespace ResultType

variable {type : ResultType} {cause : Error}

theorem decode_append (type : ResultType) {value : type.Value} (fits : type.Fits value) (trailing : List UInt8) :
    type.decode (type.encode value ++ trailing) = .ok value := by
  cases type with
  | uint => exact decodeUint_word fits trailing
  | uint8 => exact decodeUint8_word value trailing
  | bool => exact decodeBool_word value trailing
  | address => exact decodeAddress_word value trailing
  | string => exact decodeString_words fits trailing
  | uintArray => exact decodeUintArray_words fits.1 fits.2 trailing

theorem encode_argument {value : type.Value} {argument : Argument} (held : type.argument? value = some argument) :
    Argument.encode [argument] = type.encode value := by
  rw [Argument.encode_singleton]
  cases type with
  | string =>
    cases held
    exact (List.append_assoc _ _ _).symm
  | uint =>
    cases held
    exact List.append_nil _
  | uint8 =>
    cases held
    exact List.append_nil _
  | address =>
    cases held
    exact List.append_nil _
  | bool => cases held
  | uintArray => cases held

theorem fits_argument {value : type.Value} {argument : Argument} (held : type.argument? value = some argument)
    (fits : type.Fits value) : argument.fits := by
  cases type with
  | uint =>
    cases held
    exact Argument.fits_uint fits
  | uint8 =>
    cases held
    rfl
  | address =>
    cases held
    rfl
  | string =>
    cases held
    rfl
  | bool => cases held
  | uintArray => cases held

theorem decode_of_short (type : ResultType) (short : output.length < 32) :
    type.decode output = .error (refusal output) := by
  -- Each decoder looks at the length before anything else.
  have refused := checkLength_of_short short
  cases type with
  | uint =>
    rw [decode, decodeUint, refused]
    rfl
  | uint8 =>
    rw [decode, decodeUint8, decodeUint, refused]
    rfl
  | bool =>
    rw [decode, decodeBool, decodeUint, refused]
    rfl
  | address =>
    rw [decode, decodeAddress, refused]
    rfl
  | string =>
    rw [decode, decodeString, refused]
    rfl
  | uintArray =>
    rw [decode, decodeUintArray, refused]
    rfl

theorem eq_of_decode_of_long (long : 32 ≤ output.length) (failed : type.decode output = .error cause) :
    cause = refusal output ∨
      type = .uint8 ∧ 255 < firstWord output ∧ cause = .outOfRange (Amount.decimal (firstWord output)) := by
  -- Behind one whole word only a text or a list can still be cut off, and only a byte can be too large.
  cases type with
  | uint =>
    rw [decode, decodeUint_of_long long] at failed
    cases failed
  | uint8 =>
    rw [decode, decodeUint8_of_long long] at failed
    by_cases small : firstWord output < 256
    · rw [if_pos small] at failed
      cases failed
    · rw [if_neg small] at failed
      cases failed
      exact .inr ⟨rfl, by omega, rfl⟩
  | bool =>
    rw [decode, decodeBool_of_long long] at failed
    cases failed
  | address =>
    obtain ⟨address, read⟩ := decodeAddress_of_long long
    rw [decode, read] at failed
    cases failed
  | string =>
    rw [decode, decodeString_eq] at failed
    exact .inl (follow_eq_error_iff.mp failed).1
  | uintArray =>
    rw [decode, decodeUintArray_eq] at failed
    exact .inl (follow_eq_error_iff.mp failed).1

theorem eq_refusal_of_decode (failed : type.decode output = .error cause) (other : ∀ text, cause ≠ .outOfRange text) :
    cause = refusal output := by
  by_cases long : 32 ≤ output.length
  · rcases eq_of_decode_of_long long failed with refused | large
    · exact refused
    · exact absurd large.2.2 (other _)
  · rw [decode_of_short type (Nat.not_le.mp long)] at failed
    exact (Except.error.inj failed).symm

theorem decode_eq_empty_iff : type.decode output = .error .emptyOutput ↔ output = [] := by
  constructor
  · intro failed
    have refused := eq_refusal_of_decode failed (by simp)
    unfold refusal at refused
    split_ifs at refused with empty short
    · exact empty
    · cases refused
  · intro empty
    rw [empty]
    exact decode_of_short type (by decide)

theorem decode_eq_short_iff {got : Nat} :
    type.decode output = .error (.shortOutput got) ↔ got = output.length ∧ 0 < got ∧ got < 32 := by
  constructor
  · intro failed
    have refused := eq_refusal_of_decode failed (by simp)
    unfold refusal at refused
    split_ifs at refused with empty short
    · cases refused
      exact ⟨rfl, List.length_pos_iff.mpr empty, short⟩
    · cases refused
  · intro sized
    obtain ⟨rfl, positive, short⟩ := sized
    rw [decode_of_short type short, refusal, if_neg (List.length_pos_iff.mp positive), if_pos short]

theorem decode_eq_outOfRange_iff {text : String} : type.decode output = .error (.outOfRange text) ↔
    type = .uint8 ∧ 32 ≤ output.length ∧ 255 < firstWord output ∧ text = Amount.decimal (firstWord output) := by
  have other : refusal output ≠ .outOfRange text := by
    unfold refusal
    split_ifs <;> simp [overrun]
  constructor
  · intro failed
    by_cases long : 32 ≤ output.length
    · rcases eq_of_decode_of_long long failed with refused | ⟨rfl, large, same⟩
      · exact absurd refused.symm other
      · exact ⟨rfl, long, large, Error.outOfRange.inj same⟩
    · rw [decode_of_short type (Nat.not_le.mp long)] at failed
      exact absurd (Except.error.inj failed) other
  · intro large
    obtain ⟨rfl, long, above, rfl⟩ := large
    rw [decode, decodeUint8_of_long long, if_neg (by omega)]
    rfl

/-- A value that a contract returns in its standard encoding is read back whatever follows it, and so is one that a
call was given. Outputs without a word, and numbers beyond a byte, are refused as what they are. -/
theorem decode_undoes_encode (type : ResultType) :
    (∀ value trailing, type.Fits value → type.decode (type.encode value ++ trailing) = .ok value) ∧
    (∀ value argument front, type.argument? value = some argument → type.Fits value →
      ∃ data, callData front [argument] = .ok data ∧
        ∀ trailing, type.decode (data.drop front.length ++ trailing) = .ok value) ∧
    ∀ output,
      (type.decode output = .error .emptyOutput ↔ output = []) ∧
      (∀ got, type.decode output = .error (.shortOutput got) ↔ got = output.length ∧ 0 < got ∧ got < 32) ∧
      ∀ text, type.decode output = .error (.outOfRange text) ↔
        type = .uint8 ∧ 32 ≤ output.length ∧ 255 < firstWord output ∧ text = Amount.decimal (firstWord output) := by
  refine ⟨fun value trailing fits => decode_append type fits trailing, ?_, fun output =>
    ⟨decode_eq_empty_iff, fun got => decode_eq_short_iff, fun text => decode_eq_outOfRange_iff⟩⟩
  intro value argument front held fits
  refine ⟨front ++ type.encode value, ?_, ?_⟩
  · rw [callData_eq_ok_iff, encode_argument held]
    refine ⟨?_, rfl⟩
    intro other listed
    rw [List.mem_singleton.mp listed]
    exact fits_argument held fits
  · intro trailing
    rw [List.drop_left]
    exact decode_append type fits trailing

end ResultType

end TokenDesk.Abi
