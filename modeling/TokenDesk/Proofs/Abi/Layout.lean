import Mathlib.Algebra.Group.Action.Defs
import Mathlib.Algebra.Order.BigOperators.Group.List
import TokenDesk.Abi.CallData
import TokenDesk.Proofs.Digits

/-! Where encoded arguments stand.

Each argument has a word in the head, and a text a tail of its own. Head and tails
fill the encoding: the first tail begins where the head ends, and each other one where
the one before it ends.
-/

set_option autoImplicit false

namespace TokenDesk.Abi

structure IsWord (value : Nat) (bytes : List UInt8) : Prop where
  length : bytes.length = 32
  toNat : Bytes.toNat bytes = value

structure IsFilling (content filling : List UInt8) : Prop where
  zeros : ∀ byte ∈ filling, byte = 0
  short : filling.length < 32
  whole : 32 ∣ content.length + filling.length

namespace Argument

/-- The words behind the head: one for the length of a text, and as many as its bytes need. -/
def tailWords : Argument → Nat
  | string value => 1 + ((utf8 value).length + 31) / 32
  | _ => 0

def place (arguments : List Argument) (index : Nat) : Nat :=
  32 * (arguments.length + ((arguments.take index).map tailWords).sum)

/-- The number in the word of an argument whose tail begins at the offset. Offsets are counted as far as
a word counts. -/
def headValue (offset : Nat) : Argument → Nat
  | address value => Bytes.toNat value.bytes
  | uint value => value
  | uint8 value => value.toNat
  | string _ => offset % 2 ^ 256

/-- Texts are shorter than 4 GiB. -/
def AreShort (arguments : List Argument) : Prop :=
  ∀ text, .string text ∈ arguments → (utf8 text).length < 2 ^ 32

/-- Head and tails of the arguments, each at its place. -/
structure IsLaidOut (arguments : List Argument) (body : List UInt8) : Prop where
  length : body.length = 32 * (arguments.length + (arguments.map tailWords).sum)
  head : ∀ (index : Nat) (argument : Argument), arguments[index]? = some argument →
    IsWord (argument.headValue (place arguments index)) ((body.drop (32 * index)).take 32)
  tail : ∀ (index : Nat) (text : String), arguments[index]? = some (.string text) →
    ∃ size filling, (body.drop (place arguments index)).take (32 * (string text).tailWords) =
      size ++ utf8 text ++ filling ∧ IsWord (utf8 text).length size ∧ IsFilling (utf8 text) filling

end Argument

theorem isWord_word (n : Nat) : IsWord (n % 2 ^ 256) (word n) where
  length := Bytes.length_ofNatFixed 32 n
  toNat := Bytes.toNat_ofNatFixed 32 n

theorem isWord_word_of_lt {n : Nat} (fits : n < 2 ^ 256) : IsWord n (word n) := by
  have mod := isWord_word n
  rwa [Nat.mod_eq_of_lt fits] at mod

@[simp] theorem length_word (n : Nat) : (word n).length = 32 :=
  (isWord_word n).length

theorem IsWord.lt {value : Nat} {bytes : List UInt8} (written : IsWord value bytes) : value < 2 ^ 256 := by
  rw [← written.toNat]
  refine (Bytes.toNat_lt bytes).trans_eq ?_
  rw [written.length]
  rfl

theorem IsWord.eq_word {value : Nat} {bytes : List UInt8} (written : IsWord value bytes) : bytes = word value := by
  rw [← written.toNat, word, ← written.length]
  exact (Bytes.ofNatFixed_toNat bytes).symm

theorem word_mod (n : Nat) : word (n % 2 ^ 256) = word n :=
  (isWord_word n).eq_word.symm

namespace Argument

variable {arguments : List Argument} {argument : Argument} {index offset : Nat}

theorem isFilling_zeros (content : List UInt8) :
    IsFilling content (List.replicate ((32 - content.length % 32) % 32) 0) where
  zeros _ listed := (List.mem_replicate.mp listed).2
  short := by
    rw [List.length_replicate]
    exact Nat.mod_lt _ (by decide)
  whole := by
    rw [List.length_replicate]
    omega

theorem tail_string (text : String) : (string text).tail =
    word (utf8 text).length ++ utf8 text ++ List.replicate ((32 - (utf8 text).length % 32) % 32) 0 := by
  rw [tail, padded, List.append_assoc]

theorem length_tail (argument : Argument) : argument.tail.length = 32 * argument.tailWords := by
  cases argument with
  | string text =>
    rw [tail_string]
    simp only [List.length_append, length_word, List.length_replicate, tailWords]
    omega
  | _ => rfl

theorem length_head (offset : Nat) (argument : Argument) : (argument.head offset).length = 32 := by
  cases argument <;> exact length_word _

theorem isWord_head (offset : Nat) (fits : argument.fits) :
    IsWord (argument.headValue offset) (argument.head offset) := by
  cases argument with
  | address value =>
    refine isWord_word_of_lt ((Bytes.toNat_lt value.bytes).trans ?_)
    rw [value.length_bytes]
    decide
  | uint value => exact isWord_word_of_lt (of_decide_eq_true fits)
  | uint8 value => exact isWord_word_of_lt (value.toNat_lt.trans (by decide))
  | string text => exact isWord_word offset

theorem length_heads (offset : Nat) (arguments : List Argument) :
    (heads offset arguments).length = 32 * arguments.length := by
  induction arguments generalizing offset with
  | nil => rfl
  | cons argument rest ih =>
    rw [heads, List.length_append, length_head, ih, List.length_cons]
    omega

theorem length_tails (arguments : List Argument) :
    (arguments.flatMap tail).length = 32 * (arguments.map tailWords).sum := by
  induction arguments with
  | nil => rfl
  | cons argument rest ih =>
    rw [List.flatMap_cons, List.length_append, length_tail, ih, List.map_cons, List.sum_cons, Nat.mul_add]

theorem length_encode (arguments : List Argument) :
    (encode arguments).length = 32 * (arguments.length + (arguments.map tailWords).sum) := by
  rw [encode, List.length_append, length_heads, length_tails, Nat.mul_add]

theorem heads_at (here : arguments[index]? = some argument) :
    ((heads offset arguments).drop (32 * index)).take 32 =
      argument.head (offset + 32 * ((arguments.take index).map tailWords).sum) := by
  induction arguments generalizing offset index with
  | nil => cases here
  | cons first rest ih =>
    rw [heads]
    cases index with
    | zero =>
      cases here
      rw [Nat.mul_zero, List.drop_zero, List.take_left' (length_head offset argument)]
      rfl
    | succ index =>
      -- The word of the first argument is dropped, and its tail moves those that follow.
      have dropped : 32 * (index + 1) = (first.head offset).length + 32 * index := by
        rw [length_head, Nat.mul_add, Nat.add_comm]
      rw [dropped, List.drop_length_add_append, ih here, List.take_succ_cons, List.map_cons, List.sum_cons, length_tail,
        Nat.mul_add, Nat.add_assoc]

theorem tails_at (here : arguments[index]? = some argument) :
    ((arguments.flatMap tail).drop (32 * ((arguments.take index).map tailWords).sum)).take (32 * argument.tailWords) =
      argument.tail := by
  induction arguments generalizing index with
  | nil => cases here
  | cons first rest ih =>
    rw [List.flatMap_cons]
    cases index with
    | zero =>
      cases here
      exact List.take_left' (length_tail argument)
    | succ index =>
      rw [List.take_succ_cons, List.map_cons, List.sum_cons, Nat.mul_add, ← length_tail first,
        List.drop_length_add_append, ih here]

theorem place_eq (arguments : List Argument) (index : Nat) : place arguments index =
    (heads (32 * arguments.length) arguments).length + 32 * ((arguments.take index).map tailWords).sum := by
  rw [place, Nat.mul_add, length_heads]

theorem place_lt (short : AreShort arguments) (counted : arguments.length < 2 ^ 64) (index : Nat) :
    place arguments index < 2 ^ 256 := by
  have bounded : ∀ words ∈ (arguments.take index).map tailWords, words ≤ 2 ^ 32 := by
    intro words listed
    obtain ⟨argument, among, rfl⟩ := List.mem_map.mp listed
    cases argument with
    | string text =>
      have length := short text (List.mem_of_mem_take among)
      rw [tailWords]
      omega
    | _ => exact Nat.zero_le _
  have sum := List.sum_le_card_nsmul _ _ bounded
  rw [List.length_map, List.length_take, smul_eq_mul] at sum
  have words : min index arguments.length * 2 ^ 32 ≤ 2 ^ 64 * 2 ^ 32 :=
    Nat.mul_le_mul_right _ ((Nat.min_le_right _ _).trans counted.le)
  rw [place]
  omega

theorem isLaidOut_encode (fits : ∀ argument ∈ arguments, argument.fits) (short : AreShort arguments) :
    IsLaidOut arguments (encode arguments) where
  length := length_encode arguments
  head index argument here := by
    have inside : index < arguments.length := (List.getElem?_eq_some_iff.mp here).1
    -- The word lies wholly in the head.
    have whole : ((encode arguments).drop (32 * index)).take 32 =
        ((heads (32 * arguments.length) arguments).drop (32 * index)).take 32 := by
      rw [encode, List.drop_append_of_le_length (by rw [length_heads]; omega),
        List.take_append_of_le_length (by rw [List.length_drop, length_heads]; omega)]
    rw [whole, heads_at here, ← Nat.mul_add]
    exact isWord_head _ (fits argument (List.mem_of_getElem? here))
  tail index text here := by
    refine ⟨word (utf8 text).length, _, ?_, isWord_word_of_lt ?_, isFilling_zeros (utf8 text)⟩
    · rw [encode, place_eq, List.drop_length_add_append, tails_at here, tail_string]
    · exact (short text (List.mem_of_getElem? here)).trans (by decide)

end Argument

end TokenDesk.Abi
