/-! Texts cut at a separating character. -/

set_option autoImplicit false

namespace TokenDesk.Text

/-- The pieces between the separators, one more than there are separators. -/
def pieces (separator : Char) : List Char → List (List Char)
  | [] => [[]]
  | c :: rest =>
    if c = separator then [] :: pieces separator rest
    else match pieces separator rest with
      | [] => [[c]]
      | piece :: others => (c :: piece) :: others

def joinWith (separator : Char) : List (List Char) → List Char
  | [] => []
  | [piece] => piece
  | piece :: others => piece ++ separator :: joinWith separator others

def cut? (separator : Char) : List Char → Option (List Char × List Char)
  | [] => none
  | c :: rest =>
    if c = separator then some ([], rest)
    else (cut? separator rest).map fun (before, after) => (c :: before, after)

def stripStart? : List Char → List Char → Option (List Char)
  | [], text => some text
  | _ :: _, [] => none
  | p :: start, c :: text => if p = c then stripStart? start text else none

def contains (part : List Char) : List Char → Bool
  | [] => part.isEmpty
  | c :: rest => (stripStart? part (c :: rest)).isSome || contains part rest

theorem pieces_ne_nil (separator : Char) (text : List Char) : pieces separator text ≠ [] := by
  cases text with
  | nil => simp [pieces]
  | cons c rest =>
    rw [pieces]
    split
    · simp
    · split <;> simp

@[simp] theorem joinWith_pieces (separator : Char) (text : List Char) :
    joinWith separator (pieces separator text) = text := by
  induction text with
  | nil => rfl
  | cons c rest ih =>
    by_cases h : c = separator
    · subst h
      rw [pieces, if_pos rfl]
      cases cutRest : pieces c rest with
      | nil => exact absurd cutRest (pieces_ne_nil c rest)
      | cons piece others =>
        rw [cutRest] at ih
        simp [joinWith, ih]
    · rw [pieces, if_neg h]
      cases cutRest : pieces separator rest with
      | nil => exact absurd cutRest (pieces_ne_nil separator rest)
      | cons piece others =>
        rw [cutRest] at ih
        cases others with
        | nil => simpa [joinWith] using ih
        | cons next more => simpa [joinWith] using ih

theorem not_mem_of_mem_pieces {separator : Char} {text piece : List Char}
    (h : piece ∈ pieces separator text) : separator ∉ piece := by
  induction text generalizing piece with
  | nil =>
    rw [pieces, List.mem_singleton] at h
    simp [h]
  | cons c rest ih =>
    by_cases same : c = separator
    · rw [pieces, if_pos same] at h
      rcases List.mem_cons.mp h with first | later
      · simp [first]
      · exact ih later
    · rw [pieces, if_neg same] at h
      cases cutRest : pieces separator rest with
      | nil => exact absurd cutRest (pieces_ne_nil separator rest)
      | cons front others =>
        simp only [cutRest] at h
        rcases List.mem_cons.mp h with first | later
        · have absent : separator ∉ front := ih (by rw [cutRest]; exact List.mem_cons_self)
          simp [first, Ne.symm same, absent]
        · exact ih (by rw [cutRest]; exact List.mem_cons_of_mem _ later)

theorem pieces_of_not_mem {separator : Char} {text : List Char} (absent : separator ∉ text) :
    pieces separator text = [text] := by
  induction text with
  | nil => rfl
  | cons c rest ih =>
    have apart := List.ne_of_not_mem_cons absent
    rw [pieces, if_neg (Ne.symm apart), ih (List.not_mem_of_not_mem_cons absent)]

theorem pieces_append {separator : Char} {before : List Char} (absent : separator ∉ before) (after : List Char) :
    pieces separator (before ++ separator :: after) = before :: pieces separator after := by
  induction before with
  | nil => rw [List.nil_append, pieces, if_pos rfl]
  | cons c rest ih =>
    have apart := List.ne_of_not_mem_cons absent
    rw [List.cons_append, pieces, if_neg (Ne.symm apart), ih (List.not_mem_of_not_mem_cons absent)]

theorem pieces_joinWith {separator : Char} {parts : List (List Char)} (nonempty : parts ≠ [])
    (apart : ∀ part ∈ parts, separator ∉ part) : pieces separator (joinWith separator parts) = parts := by
  induction parts with
  | nil => exact absurd rfl nonempty
  | cons part others ih =>
    have absent := apart part List.mem_cons_self
    cases others with
    | nil => exact pieces_of_not_mem absent
    | cons next more =>
      have rest := ih (by simp) fun later listed => apart later (List.mem_cons_of_mem _ listed)
      rw [joinWith, pieces_append absent, rest]
      intro impossible
      cases impossible

theorem cut?_eq_none_iff (separator : Char) (text : List Char) : cut? separator text = none ↔ separator ∉ text := by
  induction text with
  | nil => simp [cut?]
  | cons c rest ih =>
    rw [cut?]
    by_cases same : c = separator
    · simp [same]
    · simp [same, Ne.symm same, ih]

theorem cut?_eq_some_iff (separator : Char) (text before after : List Char) :
    cut? separator text = some (before, after) ↔ text = before ++ separator :: after ∧ separator ∉ before := by
  -- What stands before the separator loses a character with the text, until both are at it.
  induction text generalizing before with
  | nil => simp [cut?]
  | cons c rest ih =>
    rw [cut?]
    by_cases same : c = separator
    · subst same
      rw [if_pos rfl]
      cases before with
      | nil => simp
      | cons first others =>
        constructor
        · intro cut
          cases cut
        · rintro ⟨text, absent⟩
          cases text
          exact absurd List.mem_cons_self absent
    · rw [if_neg same]
      cases before with
      | nil => simp [same]
      | cons first others =>
        constructor
        · intro cut
          obtain ⟨⟨start, rest_after⟩, cut_rest, parts⟩ := Option.map_eq_some_iff.mp cut
          cases parts
          obtain ⟨text, absent⟩ := (ih others).mp cut_rest
          exact ⟨by rw [text, List.cons_append], by simp [Ne.symm same, absent]⟩
        · rintro ⟨text, absent⟩
          cases text
          rw [(ih others).mpr ⟨rfl, fun listed => absent (List.mem_cons_of_mem _ listed)⟩]
          rfl

@[simp] theorem stripStart?_append (start text : List Char) :
    stripStart? start (start ++ text) = some text := by
  induction start with
  | nil => cases text <;> rfl
  | cons c start ih => simp [stripStart?, ih]

theorem eq_append_of_stripStart? {start text rest : List Char}
    (h : stripStart? start text = some rest) : text = start ++ rest := by
  induction start generalizing text with
  | nil => simp [stripStart?] at h; simp [h]
  | cons p start ih =>
    cases text with
    | nil => simp [stripStart?] at h
    | cons c text =>
      rw [stripStart?] at h
      by_cases same : p = c
      · rw [if_pos same] at h
        rw [same, ih h, List.cons_append]
      · simp [if_neg same] at h

theorem isSome_stripStart?_iff (start text : List Char) : (stripStart? start text).isSome ↔ start <+: text := by
  constructor
  · intro found
    obtain ⟨rest, stripped⟩ := Option.isSome_iff_exists.mp found
    exact ⟨rest, (eq_append_of_stripStart? stripped).symm⟩
  · rintro ⟨rest, rfl⟩
    rw [stripStart?_append]
    rfl

theorem contains_iff (part text : List Char) : contains part text ↔ part <:+: text := by
  induction text with
  | nil => rw [contains, List.isEmpty_iff, List.infix_nil]
  | cons c rest ih => rw [contains, Bool.or_eq_true, isSome_stripStart?_iff, ih, List.infix_cons_iff]

end TokenDesk.Text
