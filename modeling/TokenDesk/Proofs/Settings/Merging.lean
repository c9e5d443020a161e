import TokenDesk.Proofs.Command.Settled

/-! Settings in effect, merged from flags and a file.

Each flag that is given stands in the place of its key, whatever the file has there. First
settings hold the same flags as their keys, beside the defaults of their blockchain. So
whoever loads them needs no flag any more, except a symbol and a password, which are not
in them.
-/

set_option autoImplicit false

namespace TokenDesk

def Flags.unset : Flags :=
  { rpcUrl := none, contractAddress := none, payer := none, mode := none, symbol := none, blockchain := none,
    password := none }

def Flags.onlySymbol (flags : Flags) : Flags :=
  { unset with symbol := flags.symbol }

def Flags.storable (flags : Flags) : Flags :=
  { flags with symbol := none, password := none }

namespace SettingsFile

/-- The file with each flag that is given written over its key. -/
def overriddenBy (file : SettingsFile) (flags : Flags) : SettingsFile :=
  { file with
    rpcUrl := flags.rpcUrl.or file.rpcUrl
    contractAddress := flags.contractAddress.or file.contractAddress
    payer := flags.payer.or file.payer
    mode := flags.mode.or file.mode
    password := flags.password.or file.password
    blockchain := flags.blockchain.or file.blockchain }

/-- The files have the same contracts, and the same in every key whose flag is not given. -/
structure AgreesBeside (flags : Flags) (file other : SettingsFile) : Prop where
  rpcUrl : flags.rpcUrl = none → file.rpcUrl = other.rpcUrl
  contractAddress : flags.contractAddress = none → file.contractAddress = other.contractAddress
  payer : flags.payer = none → file.payer = other.payer
  mode : flags.mode = none → file.mode = other.mode
  password : flags.password = none → file.password = other.password
  blockchain : flags.blockchain = none → file.blockchain = other.blockchain
  contracts : file.contracts = other.contracts

end SettingsFile

section
variable {text? : Option String}

theorem Blockchain.ofSetting_eq_ok_iff {blockchain : Blockchain} :
    ofSetting text? = .ok blockchain ↔ text?.elim (some default) parse? = some blockchain := by
  cases text? with
  | none => simp [ofSetting]
  | some name =>
    rw [ofSetting, Option.elim_some]
    cases parse? name <;> simp

theorem TokenKind.ofSetting_eq_ok_iff {kind : TokenKind} :
    ofSetting text? = .ok kind ↔ text?.elim (some default) parse? = some kind := by
  cases text? with
  | none => simp [ofSetting]
  | some name =>
    rw [ofSetting, Option.elim_some]
    cases parse? name <;> simp

inductive Address.Sets : Option String → Option Address → Prop where
  | absent : Sets none none
  | empty : Sets (some "") none
  | given {text : String} {address : Address} : parseHex text = .ok address → Sets (some text) (some address)

theorem Address.ofSetting_eq_ok_iff {task : String → Task} {address? : Option Address} :
    ofSetting task text? = .ok address? ↔ Sets text? address? := by
  -- An empty text counts as none before it is read, where it would be refused.
  have unread : parseHex "" = .error (.invalidHex "") := rfl
  constructor
  · intro read
    cases text? with
    | none =>
      cases read
      exact .absent
    | some text =>
      by_cases nothing : text = ""
      · rw [ofSetting, if_pos nothing] at read
        cases read
        rw [nothing]
        exact .empty
      · rw [ofSetting, if_neg nothing] at read
        obtain ⟨address, parsed, rfl⟩ := map_eq_ok_iff.mp read
        exact .given (mapError_eq_ok_iff.mp parsed)
  · intro sets
    cases sets with
    | absent => rfl
    | empty => rfl
    | @given text address parsed =>
      have something : text ≠ "" := by
        intro nothing
        rw [nothing, unread] at parsed
        cases parsed
      rw [ofSetting, if_neg something, parsed]
      rfl

theorem Blockchain.ofSetting_name (blockchain : Blockchain) : ofSetting (some blockchain.name) = .ok blockchain := by
  cases blockchain <;> decide

theorem TokenKind.ofSetting_standard (kind : TokenKind) : ofSetting (some kind.standard) = .ok kind := by
  cases kind <;> decide

end

namespace Settings

variable {flags : Flags} {file other : SettingsFile} {settings : Settings}

/-- Where each of the settings comes from. A missing node is the one of the blockchain that is in effect. -/
structure Merges (flags : Flags) (file : SettingsFile) (settings : Settings) : Prop where
  blockchain : (flags.blockchain.or file.blockchain).elim (some default) Blockchain.parse? = some settings.blockchain
  kind : (flags.mode.or file.mode).elim (some default) TokenKind.parse? = some settings.kind
  rpcUrl : settings.rpcUrl = (flags.rpcUrl.or file.rpcUrl).getD settings.blockchain.defaultRpcUrl
  contract : Address.Sets (flags.contractAddress.or file.contractAddress) settings.contracts.default?
  payer : Address.Sets (flags.payer.or file.payer) settings.payer?
  book : file.contractBook = .ok settings.contracts.book
  symbol : settings.symbol = flags.symbol
  password : settings.password = flags.password.or file.password

theorem resolve_eq_ok_iff : resolve flags file = .ok settings ↔ Merges flags file settings := by
  constructor
  · intro resolved
    obtain ⟨blockchain, named, resolved⟩ := bind_eq_ok_iff.mp resolved
    obtain ⟨kind, moded, resolved⟩ := bind_eq_ok_iff.mp resolved
    obtain ⟨contract, contracted, resolved⟩ := bind_eq_ok_iff.mp resolved
    obtain ⟨payer, paid, resolved⟩ := bind_eq_ok_iff.mp resolved
    obtain ⟨book, saved, resolved⟩ := bind_eq_ok_iff.mp resolved
    cases resolved
    exact {
      blockchain := Blockchain.ofSetting_eq_ok_iff.mp named
      kind := TokenKind.ofSetting_eq_ok_iff.mp moded
      rpcUrl := rfl
      contract := Address.ofSetting_eq_ok_iff.mp contracted
      payer := Address.ofSetting_eq_ok_iff.mp paid
      book := mapError_eq_ok_iff.mp saved
      symbol := rfl
      password := rfl }
  · intro merges
    rw [resolve, Blockchain.ofSetting_eq_ok_iff.mpr merges.blockchain, TokenKind.ofSetting_eq_ok_iff.mpr merges.kind,
      Address.ofSetting_eq_ok_iff.mpr merges.contract, Address.ofSetting_eq_ok_iff.mpr merges.payer, merges.book]
    change Except.ok (Settings.mk _ _ _ _ _ _ _) = _
    rw [← merges.rpcUrl, ← merges.symbol, ← merges.password]

theorem resolve_overriddenBy (flags : Flags) (file : SettingsFile) :
    resolve flags file = resolve flags.onlySymbol (file.overriddenBy flags) := by
  simp only [resolve, Flags.onlySymbol, Flags.unset, SettingsFile.overriddenBy, Option.none_or]
  rfl

theorem resolve_of_agreesBeside (agrees : SettingsFile.AgreesBeside flags file other) :
    resolve flags file = resolve flags other := by
  have masked {flag left right : Option String} (same : flag = none → left = right) : flag.or left = flag.or right := by
    cases flag with
    | none => exact same rfl
    | some given => rfl
  have book : file.contractBook = other.contractBook := by
    rw [SettingsFile.contractBook, SettingsFile.contractBook, agrees.contracts]
  simp only [resolve, masked agrees.rpcUrl, masked agrees.contractAddress, masked agrees.payer, masked agrees.mode,
    masked agrees.password, masked agrees.blockchain, book]

theorem initial_storable (flags : Flags) : SettingsFile.initial flags.storable = SettingsFile.initial flags :=
  rfl

theorem password_of_initial (made : SettingsFile.initial flags = .ok file) : file.password = none := by
  obtain ⟨blockchain, -, rest⟩ := bind_eq_ok_iff.mp made
  cases rest
  rfl

/-- First settings make by themselves what the flags make that they were written from. The blockchain and the
standard are read from the names that were written for them, and the node is the default one in both ways. -/
theorem resolve_of_initial (made : SettingsFile.initial flags = .ok file) :
    resolve .unset file = resolve flags.storable .empty := by
  obtain ⟨blockchain, named, rest⟩ := bind_eq_ok_iff.mp made
  cases rest
  have standard : TokenKind.ofSetting (flags.mode.or (some TokenKind.fungible.standard)) =
      TokenKind.ofSetting flags.mode := by
    cases flags.mode with
    | none => exact TokenKind.ofSetting_standard .fungible
    | some mode => rfl
  have node : (flags.rpcUrl.or (some blockchain.defaultRpcUrl)).getD blockchain.defaultRpcUrl =
      flags.rpcUrl.getD blockchain.defaultRpcUrl := by
    cases flags.rpcUrl <;> rfl
  simp only [resolve, Flags.unset, Flags.storable, SettingsFile.defaults, SettingsFile.empty, Option.none_or,
    Option.or_none, Blockchain.ofSetting_name, named, standard]
  change (TokenKind.ofSetting flags.mode >>= _) = (TokenKind.ofSetting flags.mode >>= _)
  rw [node]
  rfl

/-- Flags, a file and the first settings written from the flags agree. A flag that is given stands for its key, an
empty address is none, and the node is the default one of the blockchain that is in effect. First settings that a
run has written are loaded with the effect of its flags, and a symbol and a password make no difference to it. -/
theorem resolve_agrees {σ : Type} (flags : Flags) :
    (∀ file, resolve flags file = resolve flags.onlySymbol (file.overriddenBy flags)) ∧
    (∀ file other, SettingsFile.AgreesBeside flags file other → resolve flags file = resolve flags other) ∧
    (∀ file settings, resolve flags file = .ok settings ↔ Merges flags file settings) ∧
    ∀ (outside : Host (StateM σ)) (path : String) (force : Bool),
      let init := fun flags => (Command.init force).run outside.withDirectory.recorded flags path
      (∀ before state, ∃ result log after later,
        (((init flags).run.run []).run before).run state = (((result, log), after), later) ∧
          (result = .ok () → ∃ file, before.Stores path file after ∧ file.password = none ∧
            resolve .unset file = resolve flags.storable .empty)) ∧
      init flags = init flags.storable := by
  refine ⟨resolve_overriddenBy flags, fun _ _ => resolve_of_agreesBeside, fun _ _ => resolve_eq_ok_iff, ?_⟩
  intro outside path force init
  constructor
  -- What a run of `init` leaves in the directory is the file of first settings, if it succeeds.
  · intro before state
    obtain ⟨log, result, after, later, ran, passes, settles⟩ :=
      Command.run_seen_settles outside.withDirectory_seen flags path (.init force) [] before state
    refine ⟨result, log, after, later, ran, ?_⟩
    intro succeeded
    have leaves := settles before after passes
    rw [succeeded] at leaves
    obtain ⟨-, file, made, stores⟩ := leaves
    exact ⟨file, stores, password_of_initial made, resolve_of_initial made⟩
  · change Host.initSettings _ flags path force = Host.initSettings _ flags.storable path force
    rw [Host.initSettings, Host.initSettings, initial_storable]

end Settings

def Host.alone : Host (StateM Unit) where
  files := {
    isPresent _ := pure false
    readText _ := throw .notFound
    writeText _ _ := throw .notFound
    createFolders _ := throw .notFound }
  web := {
    post _ _ := pure (.error "no node")
    get _ := pure (.error "no node")
    sleep _ := pure () }
  say _ := pure ()
  askPassphrase _ := pure (.error "no terminal")

/-- A node of its own and a payer who is none, with a symbol and a password that are not to be stored. -/
def Flags.secretive : Flags :=
  { unset with rpcUrl := some "http://localhost", payer := some "", symbol := some "TOK", password := some "secret" }

def secretiveRun : ((Except Failure Unit × List HostEvent) × Directory) × Unit :=
  ((((Command.init false).run Host.alone.withDirectory.recorded .secretive "a/b.toml").run.run []).run
    ⟨.empty, []⟩).run ()

theorem Settings.resolve_agrees_secretive :
    (∃ file, Directory.Stores "a/b.toml" file ⟨.empty, []⟩ secretiveRun.1.2 ∧ file.password = none ∧
      resolve .unset file = resolve Flags.secretive.storable .empty) ∧
    resolve .secretive { SettingsFile.empty with rpcUrl := some "" } = resolve .secretive .empty := by
  have succeeds : secretiveRun.1.1.1.toOption = some () := by decide +kernel
  obtain ⟨-, masks, -, writes⟩ := resolve_agrees (σ := Unit) .secretive
  constructor
  · obtain ⟨result, log, after, later, ran, holds⟩ := (writes .alone "a/b.toml" false).1 ⟨.empty, []⟩ ()
    have same : secretiveRun = (((result, log), after), later) := ran
    rw [same] at succeeds ⊢
    exact holds (toOption_eq_some_iff.mp succeeds)
  · apply masks
    exact ⟨nofun, fun _ => rfl, fun _ => rfl, fun _ => rfl, fun _ => rfl, fun _ => rfl, rfl⟩

end TokenDesk
