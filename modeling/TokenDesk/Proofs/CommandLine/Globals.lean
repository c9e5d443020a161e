import TokenDesk.CommandLine
import TokenDesk.Proofs.CommandLine.Insertion

/-! The options that all commands of this program share.

Such an option may be given before any name of a command and at the end. It means the same
there, whatever its variable holds: the settings and the command are those of the words
without it, with the option set.
-/

set_option autoImplicit false

namespace TokenDesk

/-- What a command line can set whatever its command is. -/
inductive GlobalOption where
  | config
  | rpcUrl
  | contractAddress
  | payer
  | mode
  | symbol
  | blockchain
  | password
  deriving DecidableEq, Repr

namespace GlobalOption

open CommandLine (OptionSpec ValueKind)

def spec : GlobalOption → OptionSpec
  | config => .config
  | rpcUrl => .rpcUrl
  | contractAddress => .contractAddress
  | payer => .payer
  | mode => .mode
  | symbol => .symbol
  | blockchain => .blockchain
  | password => .password

def kind : GlobalOption → ValueKind
  | config => .path
  | _ => .text

/-- Any text will do, but the path of the settings file is not empty. -/
def Allows (option : GlobalOption) (value : String) : Prop :=
  option = config → value ≠ ""

theorem check_of_allows {option : GlobalOption} {value : String} (allowed : option.Allows value) :
    option.kind.check value = .ok () := by
  cases option with
  | config => exact if_neg (allowed rfl)
  | _ => rfl

theorem eq_symbol_of_name {option : GlobalOption} (named : option.spec.name = "symbol") : option = .symbol := by
  revert named
  cases option <;> decide

theorem spec_injective : Function.Injective spec := by
  intro option other
  cases option <;> cases other <;> decide

theorem spec_mem_globalOptions (option : GlobalOption) : option.spec ∈ CommandLine.globalOptions := by
  cases option <;> decide

end GlobalOption

def Invocation.set (option : GlobalOption) (value : String) (invocation : Invocation) : Invocation :=
  match option with
  | .config => { invocation with settingsPath := value }
  | .rpcUrl => { invocation with flags.rpcUrl := some value }
  | .contractAddress => { invocation with flags.contractAddress := some value }
  | .payer => { invocation with flags.payer := some value }
  | .mode => { invocation with flags.mode := some value }
  | .symbol => { invocation with flags.symbol := some value }
  | .blockchain => { invocation with flags.blockchain := some value }
  | .password => { invocation with flags.password := some value }

def Invocation.ofTexts (text? : GlobalOption → Option String) (command : Command) : Invocation where
  settingsPath := (text? .config).getD CommandLine.defaultSettingsPath
  flags := {
    rpcUrl := text? .rpcUrl
    contractAddress := text? .contractAddress
    payer := text? .payer
    mode := text? .mode
    symbol := text? .symbol
    blockchain := text? .blockchain
    password := text? .password }
  command := command

theorem Invocation.ofTexts_update (text? : GlobalOption → Option String) (command : Command) (option : GlobalOption)
    (value : String) :
    ofTexts (Function.update text? option (some value)) command = (ofTexts text? command).set option value := by
  cases option <;> rfl

namespace CommandLine

def commandGrammars : List (List String × Grammar) :=
  ([], grammar) :: (["account", "balance"], accountsGrammar) ::
    grammar.commands.map fun (name, inner) => ([name], inner)

theorem mem_commandGrammars : ∀ entry ∈ commandGrammars, ∀ command ∈ entry.2.commands,
    (entry.1 ++ [command.1], command.2) ∈ commandGrammars := by
  simp [commandGrammars, grammar, Grammar.commands, payGrammar, batchPayGrammar, mintGrammar, createGrammar,
    accountsGrammar]

theorem Grammar.Opens.listed {path : List String} {inner : Grammar} (opens : grammar.Opens path inner) :
    (path, inner) ∈ commandGrammars := by
  induction opens with
  | root => exact List.mem_cons_self
  | command _ found ih =>
    obtain ⟨_, _, split, -⟩ := List.lookup_eq_some_iff.mp found
    exact mem_commandGrammars _ ih _ (by rw [split]; exact List.mem_append_cons_self)

/-- No command has an argument of its own with the name of an option that all share, but for the symbol of `add`. -/
theorem own_names (option : GlobalOption) : ∀ entry ∈ commandGrammars, option.spec.name ∈ entry.2.names →
    option = .symbol ∧ entry.1 = ["add"] := by
  cases option <;> decide

theorem name_in_commands (option : GlobalOption) : ∀ entry ∈ commandGrammars, option.spec.name ∉ entry.2.names →
    ((entry.2.withGlobals globalOptions).find? fun other => other.name = option.spec.name) = some option.spec := by
  cases option <;> decide

theorem letter_in_commands (option : GlobalOption) {letter : Char} (known : option.spec.letter = some letter) :
    ∀ entry ∈ commandGrammars, option.spec.name ∉ entry.2.names →
      ((entry.2.withGlobals globalOptions).find? fun other => other.letter = some letter) = some option.spec := by
  cases option <;> cases known <;> decide

theorem apart_in_commands (option : GlobalOption) : ∀ entry ∈ commandGrammars,
    ∀ other ∈ entry.2.withGlobals globalOptions, other = option.spec ∨ option.spec.IsApart other := by
  cases option <;> decide

theorem command_names : ∀ entry ∈ commandGrammars, ∀ command ∈ entry.2.commands, command.1.toList.head? ≠ some '-' := by
  decide

theorem takes_kind (option : GlobalOption) : option.spec.Takes option.kind := by
  cases option <;> refine ⟨rfl, by decide, by decide, ?_, rfl⟩ <;> rintro letter ⟨⟩ <;> decide

theorem shares_globals (option : GlobalOption) : grammar.Shares globalOptions option.spec option.kind where
  takes := takes_kind option
  found path inner opens own :=
    ⟨name_in_commands option _ opens.listed own, fun _ known => letter_in_commands option known _ opens.listed own⟩
  apart path inner opens := apart_in_commands option _ opens.listed
  commands path inner opens word hyphen := by
    rw [List.lookup_eq_none_iff]
    intro command listed
    have differs := command_names _ opens.listed command listed
    rw [bne_iff_ne]
    rintro rfl
    exact differs hyphen

/-! What a command line gives. -/

def givenIn (environment : Given) (words : List String) : Given :=
  match read globalOptions grammar environment words with
  | .ok (_, given) => given
  | .error _ => []

def held (environment : Given) (words : List String) (option : OptionSpec) : Option String :=
  { given := givenIn environment words, environment : Arguments }.option? option

def Arguments.invocation (arguments : Arguments) (command : Command) : Invocation :=
  .ofTexts (fun option => arguments.option? option.spec) command

theorem parse_eq_ok_iff {environment : Given} {words : List String} {invocation : Invocation} :
    parse environment words = .ok invocation ↔ ∃ path given command,
      read globalOptions grammar environment words = .ok (path, given) ∧
      commandOf { given, environment } path = some command ∧
      Arguments.invocation { given, environment } command = invocation := by
  rw [parse, bind_eq_ok_iff]
  constructor
  · rintro ⟨⟨path, given⟩, reads, rest⟩
    dsimp only at rest
    cases known : commandOf { given, environment } path with
    | some command =>
      rw [known] at rest
      exact ⟨path, given, command, reads, known, Except.ok.inj rest⟩
    | none =>
      rw [known] at rest
      cases rest
  · rintro ⟨path, given, command, reads, known, rfl⟩
    refine ⟨(path, given), reads, ?_⟩
    dsimp only
    rw [known]
    rfl

namespace Arguments

/-- The second arguments have an option more and agree in all others. -/
structure Gains (option : GlobalOption) (value : String) (arguments arguments' : Arguments) : Prop where
  own : arguments'.get? option.spec.name = some value
  get? : ∀ name, option.spec.name ≠ name → arguments'.get? name = arguments.get? name
  all : ∀ name, option.spec.name ≠ name → arguments'.all name = arguments.all name
  standIn? : ∀ other, option.spec.IsApart other →
    Level.standIn? arguments'.environment other = Level.standIn? arguments.environment other

theorem gains_of_between {option : GlobalOption} {value : String} {environment environment' left right : Given}
    (varies : option.spec.Varies option.kind environment environment')
    (fresh : (left ++ right).lookup option.spec.name = none) :
    Gains option value { given := left ++ right, environment }
      { given := left ++ (option.spec.name, value) :: right, environment := environment' } where
  own := by
    rw [List.lookup_append, Option.or_eq_none_iff] at fresh
    rw [get?, List.lookup_append, fresh.1, List.lookup_cons_self]
    rfl
  get? name differs := by
    rw [get?, get?, List.lookup_append, List.lookup_append, List.lookup_cons, beq_false_of_ne (Ne.symm differs)]
  all name differs := by
    rw [all, all, List.filter_append, List.filter_append, List.filter_cons_of_neg (by simpa using differs)]
  standIn? other apart := varies.standIn?_eq apart

variable {option : GlobalOption} {value : String} {arguments arguments' : Arguments}

theorem Gains.option?_eq (gains : Gains option value arguments arguments') {other : OptionSpec}
    (listed : other ∈ globalOptions) :
    arguments'.option? other = if other = option.spec then some value else arguments.option? other := by
  by_cases same : other = option.spec
  · rw [if_pos same, same, option?, gains.own]
    rfl
  · have differs : option.spec.name ≠ other.name ∧ option.spec.IsApart other := by
      revert same other
      cases option <;> decide
    rw [if_neg same, option?, option?, gains.get? _ differs.1, gains.standIn? _ differs.2]

theorem Gains.flag_eq (gains : Gains option value arguments arguments') {name : String}
    (differs : option.spec.name ≠ name) : arguments'.flag name = arguments.flag name := by
  rw [flag, flag, gains.get? name differs]

theorem Gains.text_eq (gains : Gains option value arguments arguments') {name : String} (default : String)
    (differs : option.spec.name ≠ name) : arguments'.text name default = arguments.text name default := by
  rw [text, text, gains.get? name differs]

theorem Gains.word?_eq (gains : Gains option value arguments arguments') {name : String}
    (differs : option.spec.name ≠ name) : arguments'.word? name = arguments.word? name := by
  rw [word?, word?, gains.get? name differs]

/-- An option that all commands share says nothing about the command, unless it is the symbol that is added. -/
theorem Gains.commandOf_eq (gains : Gains option value arguments arguments') {path : List String}
    (own : path = ["add"] → option ≠ .symbol) : commandOf arguments' path = commandOf arguments path := by
  have differs : option.spec.name ∉ ["force", "token_id", "addresses", "amount", "to", "nowait", "file", "price",
      "nonce", "wait", "address", "uri", "contract", "chain-id", "name", "total", "decimals", "bytecode", "save",
      "unit", "sum"] := by
    cases option <;> decide
  have symbol : path = ["add"] → option.spec.name ≠ "symbol" := fun added named =>
    own added (GlobalOption.eq_symbol_of_name named)
  have bytecode : arguments'.option? .bytecode = arguments.option? .bytecode := by
    rw [option?, option?, gains.get?, gains.standIn?]
    all_goals cases option <;> decide
  simp only [List.mem_cons, List.not_mem_nil, or_false, not_or] at differs
  rw [commandOf.eq_def, commandOf.eq_def]
  split <;> simp [gains.get?, gains.all, gains.flag_eq, gains.text_eq, gains.word?_eq, differs, bytecode, symbol]

theorem Gains.invocation_eq (gains : Gains option value arguments arguments') (command : Command) :
    arguments'.invocation command = (arguments.invocation command).set option value := by
  rw [invocation, invocation, ← Invocation.ofTexts_update]
  congr 1
  funext other
  rw [gains.option?_eq other.spec_mem_globalOptions, Function.update_apply]
  exact if_congr GlobalOption.spec_injective.eq_iff rfl rfl

end Arguments

/-- The symbol that `add` is given goes by the name of an option that all commands share, so the two are one. -/
theorem symbol_of_add {environment : Given} {words : List String} {invocation : Invocation} {request : AddRequest}
    (parsed : parse environment words = .ok invocation) (adds : invocation.command = .add request) :
    invocation.flags.symbol = request.symbol := by
  obtain ⟨path, given, command, -, known, rfl⟩ := parse_eq_ok_iff.mp parsed
  rw [commandOf.eq_def] at known
  change command = .add request at adds
  rw [adds] at known
  split at known <;> cases known
  exact Option.or_none

theorem exists_places {environment : Given} {words : List String} {invocation : Invocation}
    (parsed : parse environment words = .ok invocation) :
    ∃ path, Leads globalOptions grammar words path ∧ path ≠ [] ∧
      ∀ earlier name later, path = earlier ++ name :: later → ∃ before behind, words = before ++ name :: behind ∧
        Leads globalOptions grammar before earlier ∧ Names globalOptions grammar before name := by
  obtain ⟨path, given, command, reads, known, -⟩ := parse_eq_ok_iff.mp parsed
  obtain ⟨_, inner, outer, arrives, finished⟩ := Reading.read_eq_ok_iff.mp reads
  obtain ⟨rfl, -⟩ := Reading.finish_eq_ok_iff.mp finished
  refine ⟨path, ⟨inner, outer, arrives⟩, ?_, fun _ _ _ => exists_names ⟨inner, outer, arrives⟩⟩
  rintro rfl
  cases known

section
variable {environment environment' : Given} {words more words' : List String} {invocation : Invocation}
  {option : GlobalOption} {value : String}

/-- An option that all commands share can be put before any name of a command and at the end, however it is spelled.
It is set then, whatever its variable holds, and nothing else is changed. The path of the settings file cannot be
empty, and the symbol is not one for all commands as `add` has a symbol of its own. -/
theorem parse_inserted (parsed : parse environment words = .ok invocation)
    (fresh : (givenIn environment words).lookup option.spec.name = none)
    (shared : ∀ request, invocation.command = .add request → option ≠ .symbol)
    (allowed : option.Allows value) (plain : value.toList.head? ≠ some '-') (spelled : option.spec.Spells value more)
    (varies : option.spec.Varies option.kind environment environment') :
    (∀ words', Inserted globalOptions grammar words more words' →
      parse environment' words' = .ok (invocation.set option value) ∧
      ∀ other ∈ globalOptions, held environment' words' other =
        if other = option.spec then some value else held environment words other) ∧
    ∃ path, Leads globalOptions grammar words path ∧ path ≠ [] ∧
      ∀ earlier name later, path = earlier ++ name :: later → ∃ before behind, words = before ++ name :: behind ∧
        Leads globalOptions grammar before earlier ∧ Names globalOptions grammar before name := by
  refine ⟨?_, exists_places parsed⟩
  intro words' inserted
  obtain ⟨path, given, command, reads, known, rfl⟩ := parse_eq_ok_iff.mp parsed
  -- The one command with an argument of that name is excluded, so the option belongs to all on the path.
  have own : path = ["add"] → option ≠ .symbol := by
    rintro rfl
    cases known
    exact shared _ rfl
  have gives : givenIn environment words = given := by rw [givenIn, reads]
  rw [gives] at fresh
  obtain ⟨left, right, rfl, reads'⟩ := read_inserted (shares_globals option) varies
    (GlobalOption.check_of_allows allowed) plain spelled reads fresh
    (fun inner opens named => own (own_names option _ opens.listed named).2 (own_names option _ opens.listed named).1)
    inserted
  have gains : Arguments.Gains option value _ _ := Arguments.gains_of_between varies fresh
  constructor
  · exact parse_eq_ok_iff.mpr ⟨_, _, command, reads', (gains.commandOf_eq own).trans known, gains.invocation_eq command⟩
  · intro other listed
    have gives' : givenIn environment' words' = left ++ (option.spec.name, value) :: right := by rw [givenIn, reads']
    rw [held, held, gives, gives']
    exact gains.option?_eq listed

theorem parse_inserted_payer :
    let environment : Given := [("TOKENCOMMANDER_FROM", "0xaa")]
    let environment' : Given := [("TOKENCOMMANDER_FROM", "0xcc")]
    let invocation (payer : String) : Invocation :=
      ⟨"./config.toml", ⟨none, none, some payer, none, none, none, none⟩, .accounts ⟨some "WEI", false, ["0x01"]⟩⟩
    parse environment ["account", "balance", "0x01", "-u", "WEI"] = .ok (invocation "0xaa") ∧
    parse environment' ["-f", "balance", "account", "balance", "0x01", "-u", "WEI"] = .ok (invocation "balance") ∧
    parse environment' ["account", "-f", "balance", "balance", "0x01", "-u", "WEI"] = .ok (invocation "balance") ∧
    parse environment' ["account", "balance", "0x01", "-u", "WEI", "-f", "balance"] = .ok (invocation "balance") := by
  intro environment environment' invocation
  have parsed : parse environment ["account", "balance", "0x01", "-u", "WEI"] = .ok (invocation "0xaa") := rfl
  have varies : OptionSpec.payer.Varies .text environment environment' := by
    refine ⟨?_, fun _ _ => .inr rfl⟩
    intro name differs
    have unknown : (name == "TOKENCOMMANDER_FROM") = false := beq_false_of_ne fun same => differs (same ▸ rfl)
    rw [List.lookup_cons, List.lookup_cons, unknown]
  have allowed : GlobalOption.payer.Allows "balance" := nofun
  have spelled : GlobalOption.payer.spec.Spells "balance" ["-f", "balance"] := .letter rfl
  have outer : Names globalOptions grammar [] "account" := ⟨[], ⟨_, _, rfl⟩, _, _, rfl⟩
  have inner : Names globalOptions grammar ["account"] "balance" := ⟨["account"], ⟨_, _, rfl⟩, _, _, rfl⟩
  obtain ⟨places, -⟩ := parse_inserted parsed rfl nofun allowed (by decide) spelled varies
  exact ⟨parsed, (places _ (.before rfl outer)).1, (places _ (.before rfl inner)).1, (places _ (.last (by decide))).1⟩

end

/-- In these words, the option is set wherever one that all commands share may be put. -/
def IsFreeIn (option : GlobalOption) (value : String) (words : List String) : Prop :=
  ∀ invocation words', parse [] words = .ok invocation → (givenIn [] words).lookup option.spec.name = none →
    Inserted globalOptions grammar words ["--" ++ option.spec.name, value] words' →
    parse [] words' = .ok (invocation.set option value)

/-- An empty path is refused, and so is a symbol behind `add`, which knows its own alone. -/
theorem exists_not_free :
    ¬ IsFreeIn .config "" ["convert", "0x5aAeb6053F3E94C9b9A09f33669435E7Ef1BeAed", "--chain-id", "1012"] ∧
    ¬ IsFreeIn .symbol "NUSD" ["add", "0x5aAeb6053F3E94C9b9A09f33669435E7Ef1BeAed"] := by
  constructor
  · intro free
    have refused := free _ _ rfl rfl (.last (by decide))
    cases refused
  · intro free
    have refused := free _ _ rfl rfl (.last (by decide))
    cases refused

end CommandLine

end TokenDesk
