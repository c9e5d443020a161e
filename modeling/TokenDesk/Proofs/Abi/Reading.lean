import TokenDesk.Proofs.Abi.Layout

/-! Reading encoded arguments back.

The strict reader takes an encoding apart from the front. It wants every word in the
range of its type, every offset at the place where the tail before it ended, nothing
but zeros behind a text, and nothing left over at the end. What it accepts is the
encoding of what it reads, so arguments of the same types have different encodings.
-/

set_option autoImplicit false

namespace TokenDesk.Abi

inductive ArgumentType where
  | address
  | uint
  | uint8
  | string
  deriving DecidableEq, Repr

def Argument.type : Argument → ArgumentType
  | address _ => .address
  | uint _ => .uint
  | uint8 _ => .uint8
  | string _ => .string

def split? (size : Nat) (bytes : List UInt8) : Option (List UInt8 × List UInt8) :=
  if size ≤ bytes.length then some (bytes.take size, bytes.drop size) else none

def readText? (bytes : List UInt8) : Option (String × List UInt8) := do
  let (size, bytes) ← split? 32 bytes
  let (content, bytes) ← split? (Bytes.toNat size) bytes
  let (filling, bytes) ← split? ((32 - content.length % 32) % 32) bytes
  let text ← String.fromUTF8? content.toByteArray
  if filling.all (· == 0) then some (text, bytes) else none

/-- The argument of a word and of the first of the tails, which begins at the offset, and the tails after it. -/
def ArgumentType.read? (offset : Nat) (word tails : List UInt8) : ArgumentType → Option (Argument × List UInt8)
  | address =>
    if word.take 12 = List.replicate 12 0 then
      (Address.ofBytes? (word.drop 12)).map fun value => (.address value, tails)
    else none
  | uint => some (.uint (Bytes.toNat word), tails)
  | uint8 =>
    if Bytes.toNat word < 256 then some (.uint8 (.ofNat (Bytes.toNat word)), tails) else none
  | string =>
    if Bytes.toNat word = offset % 2 ^ 256 then
      (readText? tails).map fun (text, rest) => (.string text, rest)
    else none

/-- Read arguments of the given types from their words and their tails, of which the first begins at the offset. -/
def readFrom? (offset : Nat) (words tails : List UInt8) : List ArgumentType → Option (List Argument)
  | [] => if words = [] ∧ tails = [] then some [] else none
  | type :: types => do
    let (word, words) ← split? 32 words
    let (argument, rest) ← type.read? offset word tails
    let others ← readFrom? (offset + (tails.length - rest.length)) words rest types
    return argument :: others

def decode? (types : List ArgumentType) (body : List UInt8) : Option (List Argument) := do
  let (words, tails) ← split? (32 * types.length) body
  readFrom? words.length words tails types

/-- The argument has an encoding: its value or its length fits into a word. -/
def Argument.IsEncodable : Argument → Prop
  | string text => (utf8 text).length < 2 ^ 256
  | argument => argument.fits

variable {bytes front rest word tails words body : List UInt8} {text : String} {argument : Argument}
  {arguments : List Argument} {type : ArgumentType} {types : List ArgumentType} {offset size : Nat}

theorem split?_eq_some_iff : split? size bytes = some (front, rest) ↔ bytes = front ++ rest ∧ front.length = size := by
  unfold split?
  constructor
  · intro read
    split_ifs at read with enough
    cases read
    exact ⟨(List.take_append_drop size bytes).symm, List.length_take_of_le enough⟩
  · rintro ⟨rfl, rfl⟩
    rw [if_pos (by simp), List.take_left, List.drop_left]

theorem toByteArray_utf8 (text : String) : (Argument.utf8 text).toByteArray = text.toByteArray := by
  change text.toList.utf8Encode = _
  rw [← String.toByteArray_ofList, String.ofList_toList]

theorem fromUTF8?_eq_some_iff : String.fromUTF8? bytes.toByteArray = some text ↔ bytes = Argument.utf8 text := by
  rw [← List.toByteArray_inj, toByteArray_utf8]
  unfold String.fromUTF8?
  constructor
  · intro read
    split at read
    · cases read
      rfl
    · cases read
  · intro same
    rw [dif_pos (same ▸ text.isValidUTF8)]
    exact congrArg some (String.toByteArray_inj.mp same)

theorem readText?_eq_some_iff : readText? bytes = some (text, rest) ↔
    (Argument.utf8 text).length < 2 ^ 256 ∧ bytes = (Argument.string text).tail ++ rest := by
  rw [Argument.tail_string]
  simp only [readText?, bind, Option.bind_eq_some_iff, Prod.exists, split?_eq_some_iff, fromUTF8?_eq_some_iff]
  constructor
  · rintro ⟨size, _, ⟨rfl, width⟩, _, _, ⟨rfl, length⟩, filling, _, ⟨rfl, gap⟩, _, rfl, checked⟩
    split_ifs at checked with zeros
    cases checked
    have written : IsWord (Argument.utf8 text).length size := ⟨width, length.symm⟩
    have blank : filling = List.replicate filling.length 0 :=
      List.eq_replicate_iff.mpr ⟨rfl, fun byte listed => by simpa using List.all_eq_true.mp zeros byte listed⟩
    refine ⟨written.lt, ?_⟩
    rw [← written.eq_word, ← gap, ← blank]
    simp only [List.append_assoc]
  · intro both
    have written := isWord_word_of_lt both.1
    have parts := both.2
    simp only [List.append_assoc] at parts
    refine ⟨_, _, ⟨parts, written.length⟩, _, _, ⟨rfl, written.toNat.symm⟩, _, _, ⟨rfl, List.length_replicate⟩,
      text, rfl, ?_⟩
    rw [if_pos (List.all_eq_true.mpr fun byte listed => beq_iff_eq.mpr (List.mem_replicate.mp listed).2)]

theorem address_word_iff {value : Address} (width : word.length = 32) :
    word = Abi.word (Bytes.toNat value.bytes) ↔ word.take 12 = List.replicate 12 0 ∧ word.drop 12 = value.bytes := by
  have padded : List.replicate 12 0 ++ value.bytes = Abi.word (Bytes.toNat value.bytes) := by
    refine IsWord.eq_word ⟨?_, Bytes.toNat_zeros 12 value.bytes⟩
    rw [List.length_append, List.length_replicate, value.length_bytes]
  rw [← padded]
  constructor
  · rintro rfl
    exact ⟨List.take_left' List.length_replicate, List.drop_left' List.length_replicate⟩
  · rintro ⟨zeros, value⟩
    rw [← zeros, ← value, List.take_append_drop]

theorem eq_word_iff {value : Nat} (width : word.length = 32) :
    word = Abi.word value ↔ Bytes.toNat word = value % 2 ^ 256 := by
  constructor
  · intro same
    rw [same]
    exact (isWord_word value).toNat
  · intro same
    rw [IsWord.eq_word ⟨width, same⟩, word_mod]

theorem read?_address_iff (width : word.length = 32) :
    ArgumentType.address.read? offset word tails = some (argument, rest) ↔
      ∃ value, argument = .address value ∧ word = Abi.word (Bytes.toNat value.bytes) ∧ tails = rest := by
  simp only [ArgumentType.read?, Option.ite_none_right_eq_some, Option.map_eq_some_iff, Address.ofBytes?_eq_some_iff]
  constructor
  · rintro ⟨zeros, value, same, ⟨⟩⟩
    exact ⟨value, rfl, (address_word_iff width).mpr ⟨zeros, same⟩, rfl⟩
  · rintro ⟨value, rfl, written, rfl⟩
    obtain ⟨zeros, digits⟩ := (address_word_iff width).mp written
    exact ⟨zeros, value, digits, rfl⟩

theorem read?_uint_iff (width : word.length = 32) :
    ArgumentType.uint.read? offset word tails = some (argument, rest) ↔
      ∃ value, argument = .uint value ∧ value < 2 ^ 256 ∧ word = Abi.word value ∧ tails = rest := by
  simp only [ArgumentType.read?, Option.some.injEq, Prod.mk.injEq]
  constructor
  · rintro ⟨rfl, rfl⟩
    have written : IsWord (Bytes.toNat word) word := ⟨width, rfl⟩
    exact ⟨_, rfl, written.lt, written.eq_word, rfl⟩
  · rintro ⟨value, rfl, fits, written, rfl⟩
    rw [written, (isWord_word_of_lt fits).toNat]
    exact ⟨rfl, rfl⟩

theorem read?_uint8_iff (width : word.length = 32) :
    ArgumentType.uint8.read? offset word tails = some (argument, rest) ↔
      ∃ value, argument = .uint8 value ∧ word = Abi.word value.toNat ∧ tails = rest := by
  simp only [ArgumentType.read?, Option.ite_none_right_eq_some, Option.some.injEq, Prod.mk.injEq]
  constructor
  · rintro ⟨small, rfl, rfl⟩
    have written : IsWord (Bytes.toNat word) word := ⟨width, rfl⟩
    refine ⟨_, rfl, ?_, rfl⟩
    rw [UInt8.toNat_ofNat_of_lt' small]
    exact written.eq_word
  · rintro ⟨value, rfl, written, rfl⟩
    have number : Bytes.toNat word = value.toNat := by
      rw [written]
      exact (isWord_word_of_lt (value.toNat_lt.trans (by decide))).toNat
    rw [number]
    exact ⟨value.toNat_lt, congrArg _ UInt8.ofNat_toNat, rfl⟩

theorem read?_string_iff (width : word.length = 32) :
    ArgumentType.string.read? offset word tails = some (argument, rest) ↔
      ∃ text, argument = .string text ∧ (Argument.utf8 text).length < 2 ^ 256 ∧ word = Abi.word offset ∧
        tails = (Argument.string text).tail ++ rest := by
  simp only [ArgumentType.read?, Option.ite_none_right_eq_some, Option.map_eq_some_iff, Prod.exists,
    readText?_eq_some_iff]
  constructor
  · rintro ⟨same, text, _, ⟨fits, split⟩, ⟨⟩⟩
    exact ⟨text, rfl, fits, (eq_word_iff width).mpr same, split⟩
  · rintro ⟨text, rfl, fits, written, split⟩
    exact ⟨(eq_word_iff width).mp written, text, rest, ⟨fits, split⟩, rfl⟩

theorem read?_eq_some_iff (width : word.length = 32) : type.read? offset word tails = some (argument, rest) ↔
    argument.type = type ∧ argument.IsEncodable ∧ word = argument.head offset ∧ tails = argument.tail ++ rest := by
  -- Only an argument of the type can be read, and its word must be the one that is written for it.
  cases type with
  | address =>
    rw [read?_address_iff width]
    cases argument with
    | address value => simp [Argument.type, Argument.IsEncodable, Argument.fits, Argument.head, Argument.tail]
    | _ => simp [Argument.type]
  | uint =>
    rw [read?_uint_iff width]
    cases argument with
    | uint value => simp [Argument.type, Argument.IsEncodable, Argument.fits, Argument.head, Argument.tail]
    | _ => simp [Argument.type]
  | uint8 =>
    rw [read?_uint8_iff width]
    cases argument with
    | uint8 value => simp [Argument.type, Argument.IsEncodable, Argument.fits, Argument.head, Argument.tail]
    | _ => simp [Argument.type]
  | string =>
    rw [read?_string_iff width]
    cases argument with
    | string text => simp [Argument.type, Argument.IsEncodable, Argument.head]
    | _ => simp [Argument.type]

theorem readFrom?_eq_some_iff : readFrom? offset words tails types = some arguments ↔
    arguments.map Argument.type = types ∧ (∀ argument ∈ arguments, argument.IsEncodable) ∧
      words = Argument.heads offset arguments ∧ tails = arguments.flatMap Argument.tail := by
  induction types generalizing offset words tails arguments with
  | nil =>
    simp only [readFrom?, Option.ite_none_right_eq_some, Option.some.injEq]
    constructor
    · rintro ⟨⟨rfl, rfl⟩, rfl⟩
      exact ⟨rfl, by simp, rfl, rfl⟩
    · rintro ⟨none_asked, -, rfl, rfl⟩
      obtain rfl := List.map_eq_nil_iff.mp none_asked
      exact ⟨⟨rfl, rfl⟩, rfl⟩
  | cons type types ih =>
    simp only [readFrom?, bind, Option.bind_eq_some_iff, Prod.exists, split?_eq_some_iff]
    constructor
    · rintro ⟨word, words, ⟨rfl, width⟩, argument, rest, read, others, read_others, ⟨rfl⟩⟩
      obtain ⟨rfl, encodable, rfl, rfl⟩ := (read?_eq_some_iff width).mp read
      obtain ⟨rfl, others_encodable, rfl, rfl⟩ := ih.mp read_others
      refine ⟨rfl, List.forall_mem_cons.mpr ⟨encodable, others_encodable⟩, ?_, rfl⟩
      rw [Argument.heads, List.length_append, Nat.add_sub_cancel]
    · rintro ⟨same, encodable, rfl, rfl⟩
      cases arguments with
      | nil => cases same
      | cons argument others =>
        obtain ⟨rfl, rfl⟩ := List.cons.inj same
        obtain ⟨first, later⟩ := List.forall_mem_cons.mp encodable
        have width := Argument.length_head offset argument
        refine ⟨_, _, ⟨rfl, width⟩, argument, others.flatMap Argument.tail,
          (read?_eq_some_iff width).mpr ⟨rfl, first, rfl, rfl⟩, others, ih.mpr ⟨rfl, later, ?_, rfl⟩, rfl⟩
        -- The tails of the others begin behind that of the first.
        rw [List.flatMap_cons, List.length_append, Nat.add_sub_cancel]

theorem decode?_eq_some_iff : decode? types body = some arguments ↔
    arguments.map Argument.type = types ∧ (∀ argument ∈ arguments, argument.IsEncodable) ∧
      body = Argument.encode arguments := by
  simp only [decode?, bind, Option.bind_eq_some_iff, Prod.exists, split?_eq_some_iff, readFrom?_eq_some_iff]
  constructor
  · rintro ⟨words, tails, ⟨rfl, width⟩, rfl, encodable, heads, rfl⟩
    refine ⟨rfl, encodable, ?_⟩
    rw [width, List.length_map] at heads
    rw [Argument.encode, heads]
  · rintro ⟨rfl, encodable, rfl⟩
    have width := Argument.length_heads (32 * arguments.length) arguments
    refine ⟨_, _, ⟨rfl, ?_⟩, rfl, encodable, ?_, rfl⟩
    · rw [width, List.length_map]
    · rw [width]

theorem fits_eq_false_iff : argument.fits = false ↔ ∃ value, argument = .uint value ∧ 2 ^ 256 ≤ value := by
  cases argument <;> simp [Argument.fits]

theorem callData_eq_ok_iff {data : List UInt8} : callData front arguments = .ok data ↔
    (∀ argument ∈ arguments, argument.fits) ∧ data = front ++ Argument.encode arguments := by
  rw [callData, ← List.all_eq_true]
  by_cases all : arguments.all Argument.fits
  · simp [all, eq_comm]
  · simp [all]

theorem callData_eq_error_iff {error : Error} : callData front arguments = .error error ↔
    error = .valueTooLarge ∧ ∃ value, .uint value ∈ arguments ∧ 2 ^ 256 ≤ value := by
  have large : arguments.all Argument.fits = false ↔ ∃ value, .uint value ∈ arguments ∧ 2 ^ 256 ≤ value := by
    rw [List.all_eq_false]
    simp only [Bool.not_eq_true, fits_eq_false_iff]
    constructor
    · rintro ⟨_, listed, value, rfl, large⟩
      exact ⟨value, listed, large⟩
    · rintro ⟨value, listed, large⟩
      exact ⟨_, listed, value, rfl, large⟩
  rw [callData, ← large]
  by_cases all : arguments.all Argument.fits
  · simp [all]
  · simp [all, eq_comm]

theorem isEncodable (fits : argument.fits)
    (short : ∀ text, argument = .string text → (Argument.utf8 text).length < 2 ^ 32) : argument.IsEncodable := by
  cases argument with
  | string text => exact (short text rfl).trans (by decide)
  | _ => exact fits

/-- Arguments have no encoding exactly if one of them is too large. Otherwise the front is followed by a body
in which each of them stands at its place, which is read as these arguments only, and which other arguments of
the same types do not have. -/
theorem callData_exact (front : List UInt8) (arguments : List Argument) :
    ((∃ error, callData front arguments = .error error) ↔ ∃ value, .uint value ∈ arguments ∧ 2 ^ 256 ≤ value) ∧
    (∀ error, callData front arguments = .error error → error = .valueTooLarge) ∧
    ∀ data, callData front arguments = .ok data → Argument.AreShort arguments →
      ∃ body, data = front ++ body ∧ Argument.IsLaidOut arguments body ∧
        (arguments.length < 2 ^ 64 → ∀ index, Argument.place arguments index < 2 ^ 256) ∧
        (∀ bytes, decode? (arguments.map Argument.type) bytes = some arguments ↔ bytes = body) ∧
        ∀ front' others, front'.length = front.length → others.map Argument.type = arguments.map Argument.type →
          Argument.AreShort others → callData front' others = .ok data → front' = front ∧ others = arguments := by
  have encodable {arguments : List Argument} (fits : ∀ argument ∈ arguments, argument.fits)
      (short : Argument.AreShort arguments) : ∀ argument ∈ arguments, argument.IsEncodable :=
    fun argument listed => isEncodable (fits argument listed) fun text same => short text (same ▸ listed)
  refine ⟨?_, fun error failed => (callData_eq_error_iff.mp failed).1, ?_⟩
  · simp only [callData_eq_error_iff, exists_and_right, exists_eq, true_and]
  · intro data written short
    obtain ⟨fits, rfl⟩ := callData_eq_ok_iff.mp written
    refine ⟨_, rfl, Argument.isLaidOut_encode fits short, Argument.place_lt short, ?_, ?_⟩
    · intro bytes
      rw [decode?_eq_some_iff]
      exact ⟨fun read => read.2.2, fun same => ⟨rfl, encodable fits short, same⟩⟩
    · intro front' others length types others_short others_written
      obtain ⟨others_fit, same⟩ := callData_eq_ok_iff.mp others_written
      obtain ⟨fronts, bodies⟩ := List.append_inj same length.symm
      -- The body is read in one way only.
      have read : decode? (arguments.map Argument.type) (Argument.encode arguments) = some arguments :=
        decode?_eq_some_iff.mpr ⟨rfl, encodable fits short, rfl⟩
      have read_others : decode? (arguments.map Argument.type) (Argument.encode arguments) = some others :=
        decode?_eq_some_iff.mpr ⟨types, encodable others_fit others_short, bodies⟩
      exact ⟨fronts.symm, Option.some.inj (read_others.symm.trans read)⟩

theorem callData_exact_two_texts :
    ∃ arguments data body, arguments = [.string "", .uint 7, .string "abcdefghijklmnopqrstuvwxyz012345"] ∧
      Argument.AreShort arguments ∧ callData [0xd0, 0x4c] arguments = .ok data ∧ data = [0xd0, 0x4c] ++ body ∧
      Argument.IsLaidOut arguments body ∧ Argument.place arguments 2 = 128 ∧
      (∀ index, Argument.place arguments index < 2 ^ 256) ∧
      decode? [.string, .uint, .string] body = some arguments := by
  have short : Argument.AreShort [.string "", .uint 7, .string "abcdefghijklmnopqrstuvwxyz012345"] := by
    intro text listed
    simp only [List.mem_cons, List.not_mem_nil, or_false, Argument.string.injEq, reduceCtorEq, false_or] at listed
    rcases listed with rfl | rfl <;> decide
  obtain ⟨-, -, whole⟩ := callData_exact [0xd0, 0x4c] [.string "", .uint 7, .string "abcdefghijklmnopqrstuvwxyz012345"]
  obtain ⟨body, split, laid_out, counted, read, -⟩ := whole _ rfl short
  exact ⟨_, _, body, rfl, short, rfl, split, laid_out, by decide, counted (by decide), (read body).mpr rfl⟩

end TokenDesk.Abi
