import TokenDesk.Json.Forms
import TokenDesk.Proofs.Address.Hex
import TokenDesk.Proofs.Json.Strings

/-! The texts of an address.

An address is read from forty digits behind one mark at most, and the letter case of the
digits does not matter. It is written in several ways, of which the checksummed one raises
letters as a hash decides it. All of them are read as the address, whatever the hash is.
-/

set_option autoImplicit false

namespace TokenDesk

namespace Text.Hex

variable {c : Char} {ds : List Char} {value : Nat}

theorem digit?_toLower (read : (digit? c).isSome) : digit? c.toLower = digit? c :=
  of_decide_eq_true (of_all_digits (p := fun c => digit? c.toLower = digit? c) (by rw [allDigits_eq]; decide) read)

theorem toLower_eq_digit (read : digit? c = some value) : c.toLower = digit value := by
  have lowered : (digit? c).all fun value => c.toLower = digit value :=
    of_all_digits (p := fun c => (digit? c).all fun value => c.toLower = digit value)
      (by rw [allDigits_eq]; decide) (read ▸ rfl)
  rw [read] at lowered
  exact of_decide_eq_true lowered

theorem map_toLower_eq_iff {es : List Char} (digits : ∀ c ∈ ds, (digit? c).isSome)
    (digits' : ∀ c ∈ es, (digit? c).isSome) :
    ds.map Char.toLower = es.map Char.toLower ↔ ds.map digit? = es.map digit? := by
  have values (text : List Char) (hex : ∀ c ∈ text, (digit? c).isSome) :
      (text.map Char.toLower).map digit? = text.map digit? := by
    rw [List.map_map]
    exact List.map_congr_left fun c listed => digit?_toLower (hex c listed)
  have letters (text : List Char) (hex : ∀ c ∈ text, (digit? c).isSome) :
      (text.map digit?).map (fun value => digit (value.getD 0)) = text.map Char.toLower := by
    rw [List.map_map]
    apply List.map_congr_left
    intro c listed
    obtain ⟨value, read⟩ := Option.isSome_iff_exists.mp (hex c listed)
    simp [read, toLower_eq_digit read]
  constructor
  · intro same
    rw [← values ds digits, same, values es digits']
  · intro same
    rw [← letters ds digits, same, letters es digits']

theorem map_toLower_encode (bytes : List UInt8) : (encode bytes).map Char.toLower = encode bytes := by
  have lower {n : Nat} (small : n < 16) : (digit n).toLower = digit n := toLower_eq_digit (digit?_digit small)
  induction bytes with
  | nil => rfl
  | cons byte rest ih =>
    have bound := byte.toNat_lt
    rw [encode, List.map_cons, List.map_cons, ih, lower (by omega), lower (by omega)]

end Text.Hex

namespace Address

open Text.Hex (digit?)

/-- The text is forty digits of either case, behind one mark at most. -/
structure Spells (text : String) (ds : List Char) : Prop where
  length : ds.length = 40
  hex : ∀ c ∈ ds, c ∈ Text.Hex.allDigits
  marked : text.toList = ds ∨ text.toList = '0' :: 'x' :: ds ∨ text.toList = '0' :: 'X' :: ds

def unmarked (text : String) : String :=
  String.ofList (text.toList.drop 2)

def checksummedBy (address : Address) (hash : List UInt8) : String :=
  String.ofList ('0' :: 'x' :: raiseByHash address.digits (Text.Hex.encode hash))

/-- The forms in which an address is written, with their mark or without it. The hash may be any. -/
inductive Renders (address : Address) : (hasMark : Bool) → String → Prop where
  | lower : Renders address true address.lower
  | checksummed {hash : List UInt8} : hash.length = 32 → Renders address true (address.checksummedBy hash)
  | unmarked {text : String} : Renders address true text → Renders address false (unmarked text)

variable {address other : Address} {text : String} {ds : List Char}

theorem withoutMark_of_digits (hex : ∀ c ∈ ds, (digit? c).isSome) : withoutMark ds = ds := by
  unfold withoutMark
  split
  · have mark := hex 'x' (by simp)
    cases mark
  · have mark := hex 'X' (by simp)
    cases mark
  · rfl

theorem spells_iff : Spells text ds ↔
    withoutMark text.toList = ds ∧ ds.length = 40 ∧ ∀ c ∈ ds, (digit? c).isSome := by
  constructor
  · rintro ⟨length, hex, marked⟩
    have digits : ∀ c ∈ ds, (digit? c).isSome := fun c listed => Text.Hex.isSome_digit?_iff.mpr (hex c listed)
    refine ⟨?_, length, digits⟩
    rcases marked with whole | whole | whole
    · rw [whole, withoutMark_of_digits digits]
    · rw [whole]; rfl
    · rw [whole]; rfl
  · rintro ⟨rest, length, digits⟩
    refine ⟨length, fun c listed => Text.Hex.isSome_digit?_iff.mp (digits c listed), ?_⟩
    unfold withoutMark at rest
    split at rest <;> simp_all

theorem isHexText_iff : isHexText text ↔ ∃ ds, Spells text ds := by
  simp [isHexText, spells_iff]

theorem isSome_digit?_digits (address : Address) : ∀ c ∈ address.digits, (digit? c).isSome :=
  Text.Hex.isSome_digit?_of_map rfl

theorem parseHex_of_spells (spells : Spells text ds) :
    parseHex text = .ok address ↔ ds.map Char.toLower = address.digits := by
  obtain ⟨rest, -, hex⟩ := spells_iff.mp spells
  rw [parseHex_eq_ok_iff, rest, ← Text.Hex.map_toLower_eq_iff hex (isSome_digit?_digits address)]
  rw [show address.digits.map Char.toLower = address.digits from Text.Hex.map_toLower_encode address.bytes]

theorem exists_parseHex (spells : Spells text ds) : ∃ address, parseHex text = .ok address := by
  obtain ⟨rest, length, hex⟩ := spells_iff.mp spells
  obtain ⟨bytes, read⟩ := Text.Hex.exists_bytes hex (by omega)
  have count : bytes.length = 20 := by
    have both := congrArg List.length read
    simp at both
    omega
  exact ⟨⟨bytes, count⟩, parseHex_eq_ok_iff.mpr (rest ▸ read)⟩

theorem spells_of_parseHex (read : parseHex text = .ok address) : Spells text (withoutMark text.toList) := by
  have same := parseHex_eq_ok_iff.mp read
  refine spells_iff.mpr ⟨rfl, ?_, Text.Hex.isSome_digit?_of_map same⟩
  simpa [length_digits] using congrArg List.length same

theorem parseHex_of_not_spells (unspelled : ¬ ∃ ds, Spells text ds) : parseHex text = .error (.invalidHex text) := by
  have refused : ofHex? text = none := if_neg (isHexText_iff.not.mpr unspelled)
  rw [parseHex, refused]

def mark : (hasMark : Bool) → List Char
  | true => ['0', 'x']
  | false => []

variable {hasMark : Bool}

theorem Renders.exists_digits (renders : Renders address hasMark text) :
    ∃ ds, text.toList = mark hasMark ++ ds ∧ ds.map digit? = address.digits.map digit? := by
  induction renders with
  | lower => exact ⟨address.digits, String.toList_ofList, rfl⟩
  | @checksummed hash length =>
    refine ⟨raiseByHash address.digits (Text.Hex.encode hash), String.toList_ofList, ?_⟩
    apply map_digit?_raiseByHash _ (isSome_digit?_digits address)
    rw [length_digits, Text.Hex.length_encode, length]
    decide
  | unmarked _ ih =>
    obtain ⟨ds, whole, same⟩ := ih
    refine ⟨ds, ?_, same⟩
    rw [Address.unmarked, String.toList_ofList, whole]
    rfl

theorem Renders.toLower (renders : Renders address hasMark text) :
    text.toLower = String.ofList (mark hasMark ++ address.digits) := by
  obtain ⟨ds, whole, same⟩ := renders.exists_digits
  have hex : ∀ c ∈ ds, (digit? c).isSome := Text.Hex.isSome_digit?_of_map same
  have digits : ds.map Char.toLower = address.digits.map Char.toLower :=
    (Text.Hex.map_toLower_eq_iff hex (isSome_digit?_digits address)).mpr same
  have lowered : (mark hasMark).map Char.toLower = mark hasMark := by cases hasMark <;> rfl
  change String.map Char.toLower text = _
  rw [String.map_eq_internal, whole, List.map_append, digits, lowered]
  rw [show address.digits.map Char.toLower = address.digits from Text.Hex.map_toLower_encode address.bytes]

theorem Renders.parseHex (renders : Renders address hasMark text) : parseHex text = .ok address := by
  obtain ⟨ds, whole, same⟩ := renders.exists_digits
  have hex : ∀ c ∈ ds, (digit? c).isSome := Text.Hex.isSome_digit?_of_map same
  have rest : withoutMark text.toList = ds := by
    cases hasMark with
    | true => rw [whole]; rfl
    | false => rw [whole]; exact withoutMark_of_digits hex
  rw [parseHex_eq_ok_iff, rest, same]

theorem renders_checksummed (address : Address) : Renders address true address.checksummed :=
  .checksummed (Hash.Keccak.length_hash _)

theorem digits_injective (same : address.digits = other.digits) : address = other := by
  have own : Address.parseHex address.lower = .ok address := Renders.lower.parseHex
  have read : Address.parseHex address.lower = .ok other := by
    have lower : address.lower = other.lower := by rw [Address.lower, Address.lower, same]
    rw [lower]
    exact Renders.lower.parseHex
  exact Except.ok.inj (own.symm.trans read)

theorem Renders.digits (renders : Renders address hasMark text) :
    (withoutMark text.toList).map Char.toLower = address.digits :=
  (parseHex_of_spells (spells_of_parseHex renders.parseHex)).mp renders.parseHex

theorem Renders.eq_iff {otherMark : Bool} {otherText : String} (renders : Renders address hasMark text)
    (renders' : Renders other otherMark otherText) : address = other ↔
      (withoutMark text.toList).map Char.toLower = (withoutMark otherText.toList).map Char.toLower := by
  rw [renders.digits, renders'.digits]
  constructor
  · intro same
    rw [same]
  · exact digits_injective

theorem Renders.eq_iff_toLower {otherText : String} (renders : Renders address hasMark text)
    (renders' : Renders other hasMark otherText) : address = other ↔ text.toLower = otherText.toLower := by
  rw [renders.toLower, renders'.toLower]
  constructor
  · intro same
    rw [same]
  · intro same
    exact digits_injective (List.append_cancel_left (String.ofList_injective same))

theorem ofJson_string (text : String) :
    (Json.parse? (Json.compact (.string text))).map ofJson =
      some ((parseHex text).mapError fun e => .refused e.message) := by
  rw [Json.parse?_string]
  rfl

/-- Forty digits of any case behind one mark at most are an address, and nothing else is. Every form
of an address is read as it, in JSON too, and is its lowercase form up to the case. -/
theorem parseHex_exact :
    (∀ text, (isHexText text ↔ ∃ ds, Spells text ds) ∧
      ((∃ address, parseHex text = .ok address) ↔ ∃ ds, Spells text ds) ∧
      ((¬ ∃ ds, Spells text ds) → parseHex text = .error (.invalidHex text))) ∧
    (∀ text ds address, Spells text ds → (parseHex text = .ok address ↔ ds.map Char.toLower = address.digits)) ∧
    (∀ address, Renders address true address.checksummed ∧
      (Json.parse? (Json.compact address.toJson)).map ofJson = some (.ok address)) ∧
    (∀ address hasMark text, Renders address hasMark text →
      parseHex text = .ok address ∧
      (Json.parse? (Json.compact (.string text))).map ofJson = some (.ok address) ∧
      text.toLower = if hasMark then address.lower else unmarked address.lower) ∧
    ∀ address other hasMark otherMark text otherText,
      Renders address hasMark text → Renders other otherMark otherText →
      (address = other ↔
        (withoutMark text.toList).map Char.toLower = (withoutMark otherText.toList).map Char.toLower) ∧
      (hasMark = otherMark → (address = other ↔ text.toLower = otherText.toLower)) := by
  -- No character of a form needs an escape, so JSON adds the quotes only.
  have inJson {address hasMark text} (renders : Renders address hasMark text) :
      (Json.parse? (Json.compact (.string text))).map ofJson = some (.ok address) := by
    rw [ofJson_string, renders.parseHex]
    rfl
  refine ⟨fun text => ⟨isHexText_iff, ?_, parseHex_of_not_spells⟩, fun _ _ _ => parseHex_of_spells,
    fun address => ⟨renders_checksummed address, inJson (renders_checksummed address)⟩, ?_, ?_⟩
  · constructor
    · rintro ⟨address, read⟩
      exact ⟨_, spells_of_parseHex read⟩
    · rintro ⟨ds, spells⟩
      exact exists_parseHex spells
  · intro address hasMark text renders
    refine ⟨renders.parseHex, inJson renders, ?_⟩
    cases hasMark with
    | true => exact renders.toLower
    | false =>
      rw [renders.toLower, unmarked, lower, String.toList_ofList]
      rfl
  · intro address other hasMark otherMark text otherText renders renders'
    refine ⟨renders.eq_iff renders', ?_⟩
    rintro rfl
    exact renders.eq_iff_toLower renders'

end Address

end TokenDesk
