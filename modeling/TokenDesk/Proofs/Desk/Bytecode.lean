import TokenDesk.Command.Create
import TokenDesk.Proofs.Rpc.Quantity
import TokenDesk.Proofs.Text.Blank

/-! The bytecode that a text holds.

White space around it and one mark in front do not count. The rest is two digits for each
byte, and a text that has no digits, an odd number of them, or anything else among them
holds no bytecode.
-/

set_option autoImplicit false

namespace TokenDesk.Bytecode

open Text.Hex (Shows allDigits digit?)

/-- The digits stand in the text behind one mark at most, with white space around. -/
structure Wraps (text ds : List Char) : Prop where
  parts : ∃ before mark after, text = before ++ (mark ++ ds) ++ after ∧ (mark = [] ∨ mark = ['0', 'x']) ∧
    (∀ c ∈ before, Text.isBlank c) ∧ ∀ c ∈ after, Text.isBlank c

def halves (bytes : List UInt8) : List Nat :=
  bytes.flatMap fun byte => [byte.toNat / 16, byte.toNat % 16]

/-- The text holds the bytes, and at least one. -/
structure Spells (text : List Char) (bytes : List UInt8) : Prop where
  digits : ∃ ds, Wraps text ds ∧ ds ≠ [] ∧ List.Forall₂ Shows ds (halves bytes)

structure IsReadable (text : List Char) : Prop where
  digits : ∃ ds, Wraps text ds ∧ ds ≠ [] ∧ ds.length % 2 = 0 ∧ ∀ c ∈ ds, c ∈ allDigits

variable {text ds : List Char} {bytes : List UInt8}

theorem map_digit?_encode (bytes : List UInt8) : (Text.Hex.encode bytes).map digit? = (halves bytes).map some := by
  induction bytes with
  | nil => rfl
  | cons byte rest ih =>
    rw [Text.Hex.map_digit?_encode_cons, ih]
    rfl

theorem shows_iff : List.Forall₂ Shows ds (halves bytes) ↔ ds.map digit? = (Text.Hex.encode bytes).map digit? := by
  rw [Text.Hex.forall₂_shows_iff, map_digit?_encode]

theorem not_isBlank_of_digit? {c : Char} (read : (digit? c).isSome) : ¬ Text.isBlank c := by
  have solid : !Text.isBlank c :=
    Text.Hex.of_all_digits (p := fun c => !Text.isBlank c) (by rw [Text.Hex.allDigits_eq]; decide) read
  simpa using solid

theorem trim_of_parts {before mark after : List Char} (marked : mark = [] ∨ mark = ['0', 'x'])
    (blank : ∀ c ∈ before, Text.isBlank c) (blank_behind : ∀ c ∈ after, Text.isBlank c) (nonempty : ds ≠ [])
    (hex : ∀ c ∈ ds, (digit? c).isSome) : Text.trim (before ++ (mark ++ ds) ++ after) = mark ++ ds := by
  apply Text.trim_append blank blank_behind
  · simp [nonempty]
  · intro c listed
    rcases List.mem_append.mp listed with in_mark | in_digits
    · rcases marked with rfl | rfl
      · cases in_mark
      · have zero : Text.isBlank '0' = false := rfl
        have letter : Text.isBlank 'x' = false := rfl
        have either : c = '0' ∨ c = 'x' := by simpa using in_mark
        rcases either with rfl | rfl
        · simp [zero]
        · simp [letter]
    · exact not_isBlank_of_digit? (hex c in_digits)

theorem stripStart?_of_digits {mark : List Char} (marked : mark = [] ∨ mark = ['0', 'x'])
    (hex : ∀ c ∈ ds, (digit? c).isSome) :
    (Text.stripStart? ['0', 'x'] (mark ++ ds)).getD (mark ++ ds) = ds := by
  rcases marked with rfl | rfl
  · cases stripped : Text.stripStart? ['0', 'x'] ds with
    | none => simp [stripped]
    | some rest =>
      -- The second character of the mark is no digit.
      have split := Text.eq_append_of_stripStart? stripped
      have impossible := hex 'x' (by simp [split])
      cases impossible
  · rw [Text.stripStart?_append]
    rfl

theorem exists_parts (text : List Char) :
    Wraps text ((Text.stripStart? ['0', 'x'] (Text.trim text)).getD (Text.trim text)) := by
  obtain ⟨before, after, whole, blank, blank_behind⟩ := Text.exists_trim text
  cases stripped : Text.stripStart? ['0', 'x'] (Text.trim text) with
  | none => exact ⟨before, [], after, whole, .inl rfl, blank, blank_behind⟩
  | some rest =>
    refine ⟨before, ['0', 'x'], after, ?_, .inr rfl, blank, blank_behind⟩
    rw [Option.getD_some, ← Text.eq_append_of_stripStart? stripped]
    exact whole

theorem parseBytecode_eq_ok_iff {text : String} : Desk.parseBytecode text = .ok bytes ↔ Spells text.toList bytes := by
  unfold Desk.parseBytecode
  constructor
  · intro read
    dsimp only at read
    split_ifs at read with empty
    have decoded := Text.Hex.decode_eq_ok_iff.mp (mapError_eq_ok_iff.mp read)
    exact ⟨_, exists_parts text.toList, by simpa using empty, shows_iff.mpr decoded⟩
  · rintro ⟨ds, ⟨before, mark, after, whole, marked, blank, blank_behind⟩, nonempty, shown⟩
    have same := shows_iff.mp shown
    have hex : ∀ c ∈ ds, (digit? c).isSome := Text.Hex.isSome_digit?_of_map same
    have trimmed := trim_of_parts marked blank blank_behind nonempty hex
    rw [whole, trimmed]
    dsimp only
    rw [stripStart?_of_digits marked hex, if_neg (by simpa using nonempty), Text.Hex.decode_eq_ok_iff.mpr same]
    rfl

theorem isReadable_iff : IsReadable text ↔ ∃ bytes, Spells text bytes := by
  constructor
  · rintro ⟨ds, wraps, nonempty, even, hex⟩
    obtain ⟨bytes, read⟩ := Text.Hex.exists_bytes (fun c listed => Text.Hex.isSome_digit?_iff.mpr (hex c listed)) even
    exact ⟨bytes, ds, wraps, nonempty, shows_iff.mpr read⟩
  · rintro ⟨bytes, ds, wraps, nonempty, shown⟩
    have same := shows_iff.mp shown
    refine ⟨ds, wraps, nonempty, ?_, ?_⟩
    · have length : ds.length = 2 * bytes.length := by simpa using congrArg List.length same
      omega
    · intro c listed
      exact Text.Hex.isSome_digit?_iff.mp (Text.Hex.isSome_digit?_of_map same c listed)

theorem exists_parseBytecode_error_iff {text : String} :
    (∃ cause, Desk.parseBytecode text = .error cause) ↔ ¬ IsReadable text.toList := by
  rw [isReadable_iff]
  constructor
  · rintro ⟨cause, refused⟩ ⟨bytes, spells⟩
    cases refused.symm.trans (parseBytecode_eq_ok_iff.mpr spells)
  · intro unread
    cases read : Desk.parseBytecode text with
    | error cause => exact ⟨cause, rfl⟩
    | ok bytes => exact absurd ⟨bytes, parseBytecode_eq_ok_iff.mp read⟩ unread

end TokenDesk.Bytecode
