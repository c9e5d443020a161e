import TokenDesk.Proofs.CommandLine.Levels

/-! Reading an option and its value.

There are several ways to spell the two in words. Where the next word would begin an
argument of its own, all of them have the same effect on the level that is open: once that
is settled, it has one argument more.
-/

set_option autoImplicit false

namespace TokenDesk.CommandLine

namespace OptionSpec

/-- By its name or by its letter, with the value behind it or in the same word. -/
inductive Spells (option : OptionSpec) (value : String) : List String → Prop where
  | name : Spells option value ["--" ++ option.name, value]
  | nameJoined : Spells option value ["--" ++ option.name ++ "=" ++ value]
  | letter {letter : Char} : option.letter = some letter → Spells option value [String.ofList ['-', letter], value]
  | letterJoined {letter : Char} : option.letter = some letter →
      Spells option value [String.ofList ('-' :: letter :: '=' :: value.toList)]
  | letterClose {letter : Char} : option.letter = some letter → value ≠ "" → value.toList.head? ≠ some '=' →
      Spells option value [String.ofList ('-' :: letter :: value.toList)]

/-- An option with a value of this kind, which can be told from requests for help and may be missing. -/
structure Takes (kind : ValueKind) (option : OptionSpec) : Prop where
  value : option.value = some kind
  name : option.name ∉ ["", "help", "version"]
  equals : '=' ∉ option.name.toList
  letter : ∀ letter ∈ option.letter, letter ∉ ['-', 'h', 'V']
  isRequired : option.isRequired = false

/-- Among some options, this one is found by its name and by its letter. -/
structure IsFoundIn (options : List OptionSpec) (option : OptionSpec) : Prop where
  name : (options.find? fun other => other.name = option.name) = some option
  letter : ∀ letter ∈ option.letter, (options.find? fun other => other.letter = some letter) = some option

end OptionSpec

namespace Word

variable {word : String}

theorem of_plain (plain : word.toList.head? ≠ some '-') : Word.of word = .plain := by
  rw [Word.of]
  split
  next hyphens =>
    simp [hyphens] at plain
  next hyphens =>
    simp [hyphens] at plain
  next hyphens =>
    simp [hyphens] at plain
  · rfl

theorem of_long {text : List Char} (spelled : word.toList = '-' :: '-' :: text) (something : text ≠ []) :
    Word.of word = match Text.cut? '=' text with
      | some (name, value) => .long (String.ofList name) (some (String.ofList value))
      | none => .long (String.ofList text) none := by
  obtain ⟨c, rest, rfl⟩ := List.exists_cons_of_ne_nil something
  rw [Word.of, spelled]
  rfl

theorem of_name {name : String} (named : name ≠ "") (equals : '=' ∉ name.toList) :
    Word.of ("--" ++ name) = .long name none := by
  have something : name.toList ≠ [] := fun nothing => named (String.toList_inj.mp nothing)
  rw [of_long String.toList_append something, (Text.cut?_eq_none_iff _ _).mpr equals, String.ofList_toList]

theorem of_nameJoined {name value : String} (equals : '=' ∉ name.toList) :
    Word.of ("--" ++ name ++ "=" ++ value) = .long name (some value) := by
  have spelled : ("--" ++ name ++ "=" ++ value).toList = '-' :: '-' :: (name.toList ++ '=' :: value.toList) := by
    simp [String.toList_append]
  have cut := (Text.cut?_eq_some_iff '=' _ name.toList value.toList).mpr ⟨rfl, equals⟩
  rw [of_long spelled (by simp), cut]
  simp only [String.ofList_toList]

theorem of_letters {letter : Char} {rest : List Char} (differs : letter ≠ '-') :
    Word.of (String.ofList ('-' :: letter :: rest)) = .letters (letter :: rest) := by
  rw [Word.of, String.toList_ofList]
  split
  next same =>
    cases same
    exact absurd rfl differs
  next same =>
    cases same
    exact absurd rfl differs
  next same =>
    cases same
    rfl
  next other =>
    exact (other _ _ rfl).elim

end Word

namespace Level

variable {level settled : Level} {option : OptionSpec} {kind : ValueKind} {name value word : String}

def plus (name value : String) (level : Level) : Level :=
  { level with given := level.given ++ [(name, value)], pending := .nothing }

/-- An option can be given to what the level is once it is settled. -/
structure Admits (option : OptionSpec) (kind : ValueKind) (value : String) (level settled : Level) : Prop where
  settles : level.settle = .ok settled
  opened : level.onlyOperands = false
  found : option.IsFoundIn level.options
  fresh : settled.given.lookup option.name = none
  takes : option.Takes kind
  allowed : kind.check value = .ok ()
  commands : ∀ word : String, word.toList.head? = some '-' → level.grammar.commands.lookup word = none

theorem begins_eq_false (hyphen : word.toList.head? = some '-') (unnamed : level.grammar.commands.lookup word = none) :
    level.begins word = false := by
  have helpless : word ≠ "help" := by
    rintro rfl
    simp at hyphen
  simp [begins, isCommand, helpless, unnamed]

theorem begins_of_isAwaiting (waits : level.isAwaiting = true) : level.begins word = false := by
  simp [begins, waits]

theorem attachedTo_eq (something : value ≠ "") (differs : value.toList.head? ≠ some '=') :
    attachedTo value.toList = some value := by
  rw [attachedTo.eq_def]
  split
  next nothing =>
    exact absurd (String.toList_inj.mp nothing) something
  next same =>
    simp [same] at differs
  · rw [String.ofList_toList]

theorem readWord_of_opened (opened : level.onlyOperands = false) : level.readWord word =
    match Word.of word, level.pending with
    | .escape, _ => .ok { level with onlyOperands := true }
    | .long name attached, _ => level.readLong name attached
    | .letters letters, _ => level.readLetters letters
    | .plain, .awaiting name kind => .ok { level with pending := .filled name kind word }
    | .plain, _ => level.readOperand word := by
  rw [readWord, opened]
  rfl

namespace Admits

variable (admits : level.Admits option kind value settled)
include admits

theorem enter : settled.enterOnce option.name value (kind.check value) = .ok (settled.plus option.name value) :=
  enterOnce_eq_ok_iff.mpr ⟨admits.fresh, admits.allowed, rfl⟩

theorem readLong (attached : Option String) :
    level.readLong option.name attached = level.beginOption option attached := by
  have named := admits.takes.name
  simp only [List.mem_cons, List.not_mem_nil, or_false, not_or] at named
  rw [Level.readLong, if_neg (not_or.mpr named.2), admits.found.name]

theorem readLetters {letter : Char} (known : option.letter = some letter) (rest : List Char) :
    level.readLetters (letter :: rest) = level.beginOption option (attachedTo rest) := by
  have lettered := admits.takes.letter letter known
  simp only [List.mem_cons, List.not_mem_nil, or_false, not_or] at lettered
  rw [Level.readLetters, if_neg lettered.2.1, if_neg lettered.2.2, admits.found.letter letter known]
  simp [admits.takes.value]

theorem beginOption_joined : level.beginOption option (some value) = .ok (settled.plus option.name value) := by
  rw [beginOption.eq_def, admits.takes.value]
  exact bind_eq_ok_iff.mpr ⟨settled, admits.settles, admits.enter⟩

theorem beginOption_apart :
    level.beginOption option none = .ok { settled with pending := .awaiting option.name kind } := by
  rw [beginOption.eq_def, admits.takes.value]
  exact bind_eq_ok_iff.mpr ⟨settled, admits.settles, rfl⟩

theorem exists_step_joined {globals : List OptionSpec} {path : List String} {outer : List Level}
    (hyphen : word.toList.head? = some '-') (read : level.readWord word = level.beginOption option (some value)) :
    ∃ next, [word].foldlM (Reading.step globals) (.levels path level outer) = .ok (.levels path next outer) ∧
      next.settle = .ok (settled.plus option.name value) := by
  refine ⟨settled.plus option.name value, ?_, rfl⟩
  rw [List.foldlM_cons, Reading.step_word (begins_eq_false hyphen (admits.commands word hyphen)), read,
    admits.beginOption_joined]
  rfl

theorem exists_step_apart {globals : List OptionSpec} {path : List String} {outer : List Level}
    (hyphen : word.toList.head? = some '-') (read : level.readWord word = level.beginOption option none)
    (plain : value.toList.head? ≠ some '-') :
    ∃ next, [word, value].foldlM (Reading.step globals) (.levels path level outer) = .ok (.levels path next outer) ∧
      next.settle = .ok (settled.plus option.name value) := by
  let waiting : Level := { settled with pending := .awaiting option.name kind }
  have opened : waiting.onlyOperands = false := (keeps_of_settle admits.settles).onlyOperands.trans admits.opened
  have filled : waiting.readWord value = .ok { settled with pending := .filled option.name kind value } := by
    rw [readWord_of_opened opened, Word.of_plain plain]
  refine ⟨{ settled with pending := .filled option.name kind value }, ?_, admits.enter⟩
  rw [List.foldlM_cons, Reading.step_word (begins_eq_false hyphen (admits.commands word hyphen)), read,
    admits.beginOption_apart]
  change [value].foldlM (Reading.step globals) (.levels path waiting outer) = _
  rw [List.foldlM_cons, Reading.step_word (begins_of_isAwaiting rfl), filled]
  rfl

theorem exists_read {more : List String} (plain : value.toList.head? ≠ some '-') (spelled : option.Spells value more)
    (globals : List OptionSpec) (path : List String) (outer : List Level) :
    ∃ next, more.foldlM (Reading.step globals) (.levels path level outer) = .ok (.levels path next outer) ∧
      next.settle = .ok (settled.plus option.name value) := by
  have named : option.name ≠ "" := fun nameless => admits.takes.name (by simp [nameless])
  have lettered {letter : Char} (known : option.letter = some letter) : letter ≠ '-' := fun hyphen =>
    admits.takes.letter letter known (by simp [hyphen])
  -- A value of its own is a word that does not look like an option, so the option still waits for it.
  cases spelled with
  | name =>
    apply admits.exists_step_apart (by simp) _ plain
    rw [readWord_of_opened admits.opened, Word.of_name named admits.takes.equals]
    exact admits.readLong none
  | nameJoined =>
    apply admits.exists_step_joined (by simp)
    rw [readWord_of_opened admits.opened, Word.of_nameJoined admits.takes.equals]
    exact admits.readLong (some value)
  | letter known =>
    apply admits.exists_step_apart (by simp) _ plain
    rw [readWord_of_opened admits.opened, Word.of_letters (lettered known)]
    exact admits.readLetters known []
  | letterJoined known =>
    apply admits.exists_step_joined (by simp)
    rw [readWord_of_opened admits.opened, Word.of_letters (lettered known)]
    refine (admits.readLetters known _).trans ?_
    rw [attachedTo, String.ofList_toList]
  | letterClose known something differs =>
    apply admits.exists_step_joined (by simp)
    rw [readWord_of_opened admits.opened, Word.of_letters (lettered known)]
    refine (admits.readLetters known _).trans ?_
    rw [attachedTo_eq something differs]

end Admits

end Level

end TokenDesk.CommandLine
