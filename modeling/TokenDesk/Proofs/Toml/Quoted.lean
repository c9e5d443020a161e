import Mathlib.Tactic.SplitIfs
import TokenDesk.Toml.Quoted

/-! Texts and keys are read as they were written.

Every form of a text holds each character either as it is or as an escape, and
neither is taken for the quotes that end the form. A quote that could be is escaped,
or stands where at most two stand in a row.
-/

set_option autoImplicit false

namespace TokenDesk.Toml

variable {c letter : Char} {text rest body : List Char}

theorem lt_of_isControl (control : isControl c) : c.toNat < 128 := by
  simp [isControl] at control
  omega

theorem isPrintable_of_not_isControl (plain : isControl c = false) (inline : c ≠ '\n') : isPrintable c := by
  by_cases tab : c = '\t'
  · simp [isPrintable, tab]
  · simp_all [isPrintable, isControl]

theorem hexNumber?_fourDigits {n : Nat} (small : n < 128) : hexNumber? (fourDigits n) = some n := by
  have all : ∀ n ∈ List.range 128, hexNumber? (fourDigits n) = some n := by decide +kernel
  exact all n (List.mem_range.mpr small)

theorem charOf?_toNat (c : Char) : charOf? c.toNat = some c := by
  have valid : c.toNat.isValidChar := c.valid
  rw [charOf?, if_pos valid, Char.ofNat_toNat]

inductive Escapes (c : Char) : List Char → Prop where
  | short {letter : Char} : shortEscape? letter = some c → Escapes c [letter]
  | hex : c.toNat < 128 → Escapes c ('u' :: fourDigits c.toNat)

theorem readEscape_short (short : shortEscape? letter = some c) : readEscape (letter :: rest) = some (c, rest) := by
  unfold readEscape
  split
  next same =>
    cases same
    cases short
  next same =>
    cases same
    cases short
  next same =>
    cases same
    rw [short]
    rfl
  next same =>
    cases same

theorem Escapes.readEscape_eq (escapes : Escapes c body) (rest : List Char) :
    readEscape (body ++ rest) = some (c, rest) := by
  cases escapes with
  | short short => exact readEscape_short short
  | hex small =>
    change ((hexNumber? (fourDigits c.toNat)).bind charOf?).map _ = _
    rw [hexNumber?_fourDigits small, Option.bind_some, charOf?_toNat]
    rfl

theorem Escapes.afterGap?_eq (escapes : Escapes c body) (rest : List Char) : afterGap? (body ++ rest) = none := by
  cases escapes with
  | hex small => rfl
  | @short letter short =>
    have apart : letter ≠ '\n' ∧ letter ≠ '\r' ∧ letter ≠ ' ' ∧ letter ≠ '\t' := by
      refine ⟨?_, ?_, ?_, ?_⟩ <;> (rintro rfl; cases short)
    obtain ⟨no_break, no_return, no_space, no_tab⟩ := apart
    rw [List.singleton_append, afterGap?]
    · rw [if_neg (by simp [no_space, no_tab])]
    · exact no_break
    · exact fun _ same _ => no_return same

theorem escape?_cases (c : Char) : (∃ body, escape? c = some ('\\' :: body) ∧ Escapes c body) ∨
    escape? c = none ∧ isControl c = false ∧ c ≠ '\\' ∧ c ≠ '\t' := by
  unfold escape?
  split_ifs with back tab feed ret slash control
  · exact .inl ⟨['b'], rfl, .short (back ▸ rfl)⟩
  · exact .inl ⟨['t'], rfl, .short (tab ▸ rfl)⟩
  · exact .inl ⟨['f'], rfl, .short (feed ▸ rfl)⟩
  · exact .inl ⟨['r'], rfl, .short (ret ▸ rfl)⟩
  · exact .inl ⟨['\\'], rfl, .short (by rw [slash]; rfl)⟩
  · exact .inl ⟨'u' :: fourDigits c.toNat, rfl, .hex (lt_of_isControl control)⟩
  · exact .inr ⟨rfl, by simpa using control, slash, tab⟩

theorem readBasic_escape (escapes : Escapes c body) (rest : List Char) :
    readBasic ('\\' :: (body ++ rest)) = (readBasic rest).map fun (read, after) => (c :: read, after) := by
  rw [readBasic, escapes.readEscape_eq]

theorem readBasic_plain (plain : isPrintable c) (unquoted : c ≠ '"') (straight : c ≠ '\\') (rest : List Char) :
    readBasic (c :: rest) = (readBasic rest).map fun (read, after) => (c :: read, after) := by
  rw [readBasic, if_pos plain]
  · exact unquoted
  · exact straight

theorem readBasic_escapeLine (text rest : List Char) :
    readBasic (escapeLine text ++ '"' :: rest) = some (text, rest) := by
  induction text with
  | nil => rw [escapeLine, List.flatMap_nil, List.nil_append, readBasic]
  | cons c text ih =>
    have one (written : List Char) (read : ∀ more, readBasic (written ++ more) =
        (readBasic more).map fun (read, after) => (c :: read, after)) :
        readBasic (written ++ escapeLine text ++ '"' :: rest) = some (c :: text, rest) := by
      rw [List.append_assoc, read, ih]
      rfl
    rw [escapeLine, List.flatMap_cons]
    -- Quote, line break, other escapes and plain characters are each read back in one step.
    refine one _ fun more => ?_
    by_cases quote : c = '"'
    · rw [if_pos quote]
      have escapes : Escapes c ['"'] := .short (by rw [quote]; rfl)
      exact readBasic_escape escapes more
    · by_cases line : c = '\n'
      · rw [if_neg quote, if_pos line]
        have escapes : Escapes c ['n'] := .short (by rw [line]; rfl)
        exact readBasic_escape escapes more
      · rw [if_neg quote, if_neg line]
        rcases escape?_cases c with ⟨body, escaped, escapes⟩ | ⟨unescaped, plain, straight, -⟩
        · rw [escaped]
          exact readBasic_escape escapes more
        · rw [unescaped]
          exact readBasic_plain (isPrintable_of_not_isControl plain line) quote straight more

theorem readLiteral_append (plain : ∀ c ∈ text, isPrintable c ∧ c ≠ '\x27') (rest : List Char) :
    readLiteral (text ++ '\x27' :: rest) = some (text, rest) := by
  induction text with
  | nil => rfl
  | cons c text ih =>
    obtain ⟨printable, unquoted⟩ := plain c List.mem_cons_self
    rw [List.cons_append, readLiteral, if_pos printable, ih fun c listed => plain c (List.mem_cons_of_mem _ listed)]
    · rfl
    · exact unquoted

/-! Texts that span lines. -/

theorem readBlock_escape (escapes : Escapes c body) (rest : List Char) :
    readBlock ('\\' :: (body ++ rest)) = (readBlock rest).map fun (read, after) => (c :: read, after) := by
  rw [readBlock]
  split
  next gap =>
    cases gap.symm.trans (escapes.afterGap?_eq rest)
  · rw [escapes.readEscape_eq]

theorem readBlock_plain (plain : isPrintable c ∨ c = '\n') (straight : c ≠ '\\') (stays : c ≠ '\r')
    (going : ¬ tripleDouble <+: c :: rest) :
    readBlock (c :: rest) = (readBlock rest).map fun (read, after) => (c :: read, after) := by
  rw [readBlock, if_pos plain]
  · rintro more rfl rfl
    exact going ⟨'"' :: '"' :: more, rfl⟩
  · rintro more rfl rfl
    exact going ⟨'"' :: more, rfl⟩
  · rintro more rfl rfl
    exact going ⟨more, rfl⟩
  · exact straight
  · exact fun _ same _ => stays same

theorem readBlock_quotes {quotes : Nat} (few : quotes ≤ 2) (apart : rest.head? ≠ some '"') :
    readBlock (List.replicate quotes '"' ++ rest) =
      (readBlock rest).map fun (read, after) => (List.replicate quotes '"' ++ read, after) := by
  induction quotes with
  | zero => simp
  | succ quotes ih =>
    have going : ¬ tripleDouble <+: '"' :: (List.replicate quotes '"' ++ rest) := by
      rintro ⟨more, same⟩
      match quotes, few with
      | 0, _ => simp [tripleDouble] at same; exact apart (by rw [← same]; rfl)
      | 1, _ => simp [tripleDouble] at same; exact apart (by rw [← same]; rfl)
    rw [List.replicate_succ, List.cons_append, readBlock_plain (.inl rfl) (by decide) (by decide) going,
      ih (by omega), Option.map_map]
    rfl

theorem readBlock_end {quotes : Nat} (few : quotes ≤ 2) (apart : rest.head? ≠ some '"') :
    readBlock (List.replicate quotes '"' ++ (tripleDouble ++ rest)) = some (List.replicate quotes '"', rest) := by
  -- The text can end in one or two quotes of its own: the last three of a run of quotes close it.
  match quotes, few with
  | 0, _ =>
    rw [List.replicate_zero, List.nil_append, tripleDouble]
    simp only [List.cons_append, List.nil_append]
    rw [readBlock]
    · rintro more rfl
      exact apart rfl
    · rintro more rfl
      exact apart rfl
  | 1, _ =>
    change readBlock ('"' :: '"' :: '"' :: '"' :: rest) = _
    rw [readBlock]
    · rfl
    · rintro more rfl
      exact apart rfl
  | 2, _ =>
    change readBlock ('"' :: '"' :: '"' :: '"' :: '"' :: rest) = _
    rw [readBlock]
    rfl

theorem readBlock_character (unquoted : c ≠ '"') (rest : List Char) :
    readBlock ((escape? c).getD [c] ++ rest) = (readBlock rest).map fun (read, after) => (c :: read, after) := by
  rcases escape?_cases c with ⟨body, escaped, escapes⟩ | ⟨unescaped, plain, straight, -⟩
  · rw [escaped]
    exact readBlock_escape escapes rest
  · rw [unescaped]
    refine readBlock_plain ?_ straight ?_ ?_
    · by_cases line : c = '\n'
      · exact .inr line
      · exact .inl (isPrintable_of_not_isControl plain line)
    · rintro rfl
      cases plain
    · rintro ⟨_, same⟩
      exact unquoted (List.cons.inj same).1.symm

theorem head?_escape (unquoted : c ≠ '"') (rest : List Char) :
    ((escape? c).getD [c] ++ rest).head? ≠ some '"' := by
  rcases escape?_cases c with ⟨body, escaped, -⟩ | ⟨unescaped, -⟩
  · simp [escaped]
  · simpa [unescaped] using unquoted

theorem readBlock_escapeBlock (quotes : Nat) (few : quotes ≤ 2) (text : List Char) (apart : rest.head? ≠ some '"') :
    readBlock (List.replicate quotes '"' ++ (escapeBlock quotes text ++ (tripleDouble ++ rest))) =
      some (List.replicate quotes '"' ++ text, rest) := by
  induction text generalizing quotes with
  | nil =>
    rw [escapeBlock, List.nil_append, List.append_nil]
    exact readBlock_end few apart
  | cons c text ih =>
    -- The quotes before are read first, then the character, and the rest starts without quotes before it.
    have one (written : List Char)
        (read : ∀ more, readBlock (written ++ more) = (readBlock more).map fun (read, after) => (c :: read, after))
        (unquoted : ∀ more, (written ++ more).head? ≠ some '"') :
        readBlock (List.replicate quotes '"' ++ (written ++ escapeBlock 0 text ++ (tripleDouble ++ rest))) =
          some (List.replicate quotes '"' ++ c :: text, rest) := by
      have later := ih 0 (by omega)
      rw [List.replicate_zero, List.nil_append, List.nil_append] at later
      rw [List.append_assoc, readBlock_quotes few (unquoted _), read, later]
      rfl
    by_cases quote : c = '"'
    · subst quote
      rw [escapeBlock, if_pos rfl]
      by_cases full : quotes = 2
      · rw [if_pos full]
        have escapes : Escapes '"' ['"'] := .short rfl
        exact one ['\\', '"'] (fun more => readBlock_escape escapes more) (by simp)
      · have next := ih (quotes + 1) (by omega)
        rw [List.replicate_succ', List.append_assoc, List.append_assoc] at next
        rw [if_neg full]
        exact next
    · rw [escapeBlock, if_neg quote]
      exact one _ (readBlock_character quote) (head?_escape quote)

theorem readLiteralBlock_plain (plain : isPrintable c ∨ c = '\n') (stays : c ≠ '\r')
    (going : ¬ tripleSingle <+: c :: rest) :
    readLiteralBlock (c :: rest) = (readLiteralBlock rest).map fun (read, after) => (c :: read, after) := by
  rw [readLiteralBlock, if_pos plain]
  · rintro more rfl rfl
    exact going ⟨'\x27' :: '\x27' :: more, rfl⟩
  · rintro more rfl rfl
    exact going ⟨'\x27' :: more, rfl⟩
  · rintro more rfl rfl
    exact going ⟨more, rfl⟩
  · exact fun _ same _ => stays same

theorem hasTriple_iff (q : Char) (text : List Char) : hasTriple q text ↔ [q, q, q] <:+: text := by
  fun_induction hasTriple q text with
  | case1 a b c rest ih =>
    rw [Bool.or_eq_true, ih]
    refine (or_congr_left ?_).trans List.infix_cons_iff.symm
    simp only [Bool.and_eq_true, beq_iff_eq, List.cons_prefix_cons, List.nil_prefix, and_true, and_assoc,
      eq_comm (b := q)]
  | case2 text short =>
    refine iff_of_false (by simp) fun within => ?_
    match text, short, within.length_le with
    | a :: b :: c :: rest, short, _ => exact short a b c rest rfl

/-- The text itself has at most two quotes in a row. Where three stand, these are its last characters and the first of
those that end it. -/
theorem readLiteralBlock_closing (single : ¬ tripleSingle <:+: c :: text) (apart : rest.head? ≠ some '\x27')
    (closing : tripleSingle <+: c :: (text ++ (tripleSingle ++ rest))) :
    readLiteralBlock (c :: (text ++ (tripleSingle ++ rest))) = some (c :: text, rest) := by
  obtain ⟨more, same⟩ := closing
  match text, same with
  | [], same =>
    obtain rfl : '\x27' = c := (List.cons.inj same).1
    change readLiteralBlock ('\x27' :: '\x27' :: '\x27' :: '\x27' :: rest) = _
    rw [readLiteralBlock]
    rintro more rfl
    exact apart rfl
  | [d], same =>
    simp only [tripleSingle, List.cons_append, List.cons.injEq] at same
    obtain ⟨rfl, rfl, -⟩ := same
    rfl
  | d :: e :: text, same =>
    simp only [tripleSingle, List.cons_append, List.cons.injEq] at same
    obtain ⟨rfl, rfl, rfl, -⟩ := same
    exact absurd ⟨[], text, rfl⟩ single

/-- A literal block ends at the first three quotes, to which up to two more belong before. -/
theorem readLiteralBlock_append (plain : ∀ c ∈ text, isControl c = false) (single : ¬ tripleSingle <:+: text)
    (apart : rest.head? ≠ some '\x27') :
    readLiteralBlock (text ++ (tripleSingle ++ rest)) = some (text, rest) := by
  induction text with
  | nil =>
    change readLiteralBlock ('\x27' :: '\x27' :: '\x27' :: rest) = _
    rw [readLiteralBlock]
    · rintro more rfl
      exact apart rfl
    · rintro more rfl
      exact apart rfl
  | cons c text ih =>
    -- Three quotes that begin in the text end behind it, as the text has no three in a row.
    by_cases closing : tripleSingle <+: c :: (text ++ (tripleSingle ++ rest))
    · exact readLiteralBlock_closing single apart closing
    · have later := ih (fun c listed => plain c (List.mem_cons_of_mem _ listed)) fun within =>
        single (within.trans (List.suffix_cons c text).isInfix)
      have here := plain c List.mem_cons_self
      rw [List.cons_append, readLiteralBlock_plain ?_ ?_ closing, later]
      · rfl
      · by_cases line : c = '\n'
        · exact .inr line
        · exact .inl (isPrintable_of_not_isControl here line)
      · rintro rfl
        cases here

/-! Whole texts. -/

theorem between_append (q : Char) (text rest : List Char) : between [q] text ++ rest = q :: (text ++ q :: rest) := by
  simp [between]

theorem not_prefix_escapeLine (text : List Char) (apart : rest.head? ≠ some '"') :
    ¬ ['"', '"'] <+: escapeLine text ++ '"' :: rest := by
  cases text with
  | nil =>
    rintro ⟨more, same⟩
    obtain rfl : '"' :: more = rest := (List.cons.inj same).2
    exact apart rfl
  | cons c text =>
    rw [escapeLine, List.flatMap_cons]
    by_cases quote : c = '"'
    · simp [quote]
    · by_cases line : c = '\n'
      · simp [line]
      · rw [if_neg quote, if_neg line]
        rcases escape?_cases c with ⟨body, escaped, -⟩ | ⟨unescaped, -⟩
        · simp [escaped]
        · simp [unescaped, Ne.symm quote]

theorem readText_basic (text : List Char) (apart : rest.head? ≠ some '"') :
    readText (between ['"'] (escapeLine text) ++ rest) = some (text, rest) := by
  rw [between_append, readText, readBasic_escapeLine]
  exact fun more same => not_prefix_escapeLine text apart ⟨more, same.symm⟩

theorem readText_literal (plain : ∀ c ∈ text, isPrintable c ∧ c ≠ '\x27') (apart : rest.head? ≠ some '\x27') :
    readText (between ['\x27'] text ++ rest) = some (text, rest) := by
  rw [between_append, readText, readLiteral_append plain]
  intro more same
  cases text with
  | nil =>
    obtain rfl : rest = '\x27' :: more := (List.cons.inj same).2
    exact apart rfl
  | cons c text =>
    obtain rfl : c = '\x27' := (List.cons.inj same).1
    exact (plain _ List.mem_cons_self).2 rfl

theorem withoutBreak_block {written more : List Char}
    (begins : '\n' ∉ text → withoutBreak (written ++ more) = written ++ more) :
    withoutBreak ((if '\n' ∈ text then '\n' :: written else written) ++ more) = written ++ more := by
  by_cases lines : '\n' ∈ text
  · rw [if_pos lines]
    rfl
  · rw [if_neg lines]
    exact begins lines

theorem withoutBreak_eq (no_break : text.head? ≠ some '\n') (no_return : text.head? ≠ some '\r') :
    withoutBreak text = text := by
  rw [withoutBreak.eq_def]
  split
  · exact absurd rfl no_break
  · exact absurd rfl no_return
  · rfl

theorem withoutBreak_escapeBlock (inline : '\n' ∉ text) (rest : List Char) :
    withoutBreak (escapeBlock 0 text ++ (tripleDouble ++ rest)) = escapeBlock 0 text ++ (tripleDouble ++ rest) := by
  cases text with
  | nil => rfl
  | cons c text =>
    rw [escapeBlock]
    by_cases quote : c = '"'
    · rw [if_pos quote, if_neg (by decide)]
      rfl
    · have line : c ≠ '\n' := (List.ne_of_not_mem_cons inline).symm
      rw [if_neg quote]
      rcases escape?_cases c with ⟨body, escaped, -⟩ | ⟨unescaped, plain, -⟩
      · rw [escaped]
        rfl
      · rw [unescaped]
        refine withoutBreak_eq (by simpa using line) ?_
        rintro ⟨⟩
        cases plain

theorem readText_block (text : List Char) (apart : rest.head? ≠ some '"') :
    readText (block tripleDouble (escapeBlock 0 text) text ++ rest) = some (text, rest) := by
  have read := readBlock_escapeBlock 0 (by omega) text apart
  rw [List.replicate_zero, List.nil_append, List.nil_append] at read
  have opened (more : List Char) : readText (tripleDouble ++ more) = readBlock (withoutBreak more) := rfl
  rw [block, between, List.append_assoc, List.append_assoc, opened,
    withoutBreak_block fun inline => withoutBreak_escapeBlock inline rest, read]

theorem readText_literalBlock (plain : ∀ c ∈ text, isControl c = false) (single : ¬ tripleSingle <:+: text)
    (apart : rest.head? ≠ some '\x27') :
    readText (block tripleSingle text text ++ rest) = some (text, rest) := by
  have begins (inline : '\n' ∉ text) :
      withoutBreak (text ++ (tripleSingle ++ rest)) = text ++ (tripleSingle ++ rest) := by
    cases text with
    | nil => rfl
    | cons c text =>
      refine withoutBreak_eq (by simpa using (List.ne_of_not_mem_cons inline).symm) ?_
      rintro ⟨⟩
      cases plain _ List.mem_cons_self
  have opened (more : List Char) : readText (tripleSingle ++ more) = readLiteralBlock (withoutBreak more) := rfl
  rw [block, between, List.append_assoc, List.append_assoc, opened, withoutBreak_block begins,
    readLiteralBlock_append plain single apart]

theorem readText_writeText (text : List Char) (no_quote : rest.head? ≠ some '"')
    (no_single : rest.head? ≠ some '\x27') :
    readText (writeText text ++ rest) = some (text, rest) := by
  unfold writeText
  dsimp only
  split_ifs with basic literal lines literal_lines broken
  · exact readText_basic text no_quote
  · simp only [Bool.and_eq_true, Bool.not_eq_true', List.any_eq_false, decide_eq_true_eq, decide_eq_false_iff_not,
      Bool.not_eq_true] at literal
    obtain ⟨⟨plain, inline⟩, unquoted⟩ := literal
    refine readText_literal (fun c listed => ⟨isPrintable_of_not_isControl (plain c listed) ?_, ?_⟩) no_single
    · exact ne_of_mem_of_not_mem listed inline
    · exact ne_of_mem_of_not_mem listed unquoted
  · exact readText_block text no_quote
  · simp only [Bool.and_eq_true, Bool.not_eq_true', List.any_eq_false, Bool.not_eq_true] at literal_lines
    obtain ⟨plain, no_triple⟩ := literal_lines
    refine readText_literalBlock plain (fun within => ?_) no_single
    cases no_triple.symm.trans ((hasTriple_iff '\x27' text).mpr within)
  · exact readText_block text no_quote
  · exact readText_basic text no_quote

theorem readKey_basic (text rest : List Char) :
    readKey (between ['"'] (escapeLine text) ++ rest) = some (text, rest) := by
  rw [between_append, readKey, readBasic_escapeLine]

theorem readKey_bare (nonempty : text ≠ []) (bare : ∀ c ∈ text, isBare c)
    (ends : ∀ c ∈ rest.head?, isBare c = false) :
    readKey (text ++ rest) = some (text, rest) := by
  have whole : (text ++ rest).takeWhile isBare = text := by
    have stops : rest.takeWhile isBare = [] := by
      cases rest with
      | nil => rfl
      | cons c rest => rw [List.takeWhile_cons, ends c rfl, if_neg (by decide)]
    rw [List.takeWhile_append_of_pos bare, stops, List.append_nil]
  cases text with
  | nil => exact absurd rfl nonempty
  | cons c text =>
    have first := bare c List.mem_cons_self
    rw [List.cons_append] at whole
    rw [List.cons_append, readKey, whole, if_neg (by simp), ← List.cons_append, List.drop_left]
    · rintro _ ⟨⟩
      cases first
    · rintro _ ⟨⟩
      cases first

theorem readKey_writeKey (text : List Char) (ends : ∀ c ∈ rest.head?, isBare c = false) :
    readKey (writeKey text ++ rest) = some (text, rest) := by
  unfold writeKey
  dsimp only
  split_ifs with bare basic literal
  · simp only [Bool.and_eq_true, Bool.not_eq_true', List.isEmpty_eq_false_iff, List.all_eq_true] at bare
    exact readKey_bare bare.1 bare.2 ends
  · exact readKey_basic text rest
  · simp only [Bool.and_eq_true, Bool.not_eq_true', List.any_eq_false, Bool.or_eq_true, beq_iff_eq, not_or,
      Bool.not_eq_true, decide_eq_true_eq] at literal
    obtain ⟨plain, unquoted⟩ := literal
    rw [between_append, readKey]
    refine readLiteral_append (fun c listed => ?_) rest
    obtain ⟨no_control, inline⟩ := plain c listed
    exact ⟨isPrintable_of_not_isControl no_control inline, ne_of_mem_of_not_mem listed unquoted⟩
  · exact readKey_basic text rest

theorem exists_writeKey (text : List Char) :
    ∃ c rest, writeKey text = c :: rest ∧ (isBare c ∨ c = '"' ∨ c = '\x27') := by
  unfold writeKey
  dsimp only
  split_ifs with bare basic literal
  · simp only [Bool.and_eq_true, Bool.not_eq_true', List.isEmpty_eq_false_iff, List.all_eq_true] at bare
    obtain ⟨c, rest, rfl⟩ := List.exists_cons_of_ne_nil bare.1
    exact ⟨c, rest, rfl, .inl (bare.2 c List.mem_cons_self)⟩
  · exact ⟨'"', _, rfl, .inr (.inl rfl)⟩
  · exact ⟨'\x27', _, rfl, .inr (.inr rfl)⟩
  · exact ⟨'"', _, rfl, .inr (.inl rfl)⟩

theorem exists_writeText (text : List Char) : ∃ q rest, writeText text = q :: rest ∧ (q = '"' ∨ q = '\x27') := by
  unfold writeText
  dsimp only
  split_ifs
  all_goals first | exact ⟨'"', _, rfl, .inl rfl⟩ | exact ⟨'\x27', _, rfl, .inr rfl⟩

end TokenDesk.Toml
