import TokenDesk.Proofs.Amount.Rendering
import TokenDesk.Proofs.Command.Outline
import TokenDesk.Proofs.Desk.Bytecode

/-! What a token contract is created from.

The texts of the request, the settings and the file of the bytecode decide it. All of them
are read before the web is asked for anything.
-/

set_option autoImplicit false

namespace TokenDesk

def HostEvent.isRequest : HostEvent → Bool
  | posted _ _ _ => true
  | got _ _ => true
  | _ => false

def IsOffline (log : List HostEvent) : Prop :=
  ∀ event ∈ log, event.isRequest = false

structure CreateSheet where
  url : String
  payer : Address
  kind : TokenKind
  params : TokenParams
  bytecode : List UInt8

namespace CreateRequest

/-- The parameters are those of the request. Its total is written as an amount under its decimals, and the supply is
exactly this amount. -/
structure Asks (request : CreateRequest) (symbol : String) (params : TokenParams) : Prop where
  name : params.name = request.name
  symbol : params.symbol = symbol
  decimals : params.decimals.places = request.decimals.toNat
  total : ∃ integer fraction, Amount.Writes params.decimals request.total.toList integer fraction ∧
    params.totalSupply = Amount.ofDigits integer * 10 ^ params.decimals.places +
      Amount.ofDigits fraction * 10 ^ (params.decimals.places - fraction.length)

/-- Why a request asks for no token. -/
inductive Refuses (request : CreateRequest) : Failure → Prop where
  | decimals : 18 < request.decimals.toNat → Refuses request (.amount (.decimalsOutOfRange request.decimals.toNat))
  | total {decimals : Decimals} (fault : AmountFault) : decimals.places = request.decimals.toNat →
      (¬ ∃ integer fraction, Amount.Writes decimals request.total.toList integer fraction) →
        Refuses request (.during (.parseSupply request.total) (.amount (.invalidFormat request.total fault)))

end CreateRequest

/-- How the bytecode is read: from the text of its file, if there is one that holds bytecode. -/
inductive ReadsBytecode (path : String) : List HostEvent → Except Failure (List UInt8) → Prop where
  | unreadable (fault : FileFault) : ReadsBytecode path [.readText path (.error fault)]
      (.error (.during (.readBytecodeFile path) (.file fault)))
  | refused {text : String} (cause : Failure) : ¬ Bytecode.IsReadable text.toList →
      ReadsBytecode path [.readText path (.ok text)] (.error (.during (.parseBytecodeFile path) cause))
  | read {text : String} {bytecode : List UInt8} : Bytecode.Spells text.toList bytecode →
      ReadsBytecode path [.readText path (.ok text)] (.ok bytecode)

/-- How everything is read: the texts, then the file, and then the account that is to pay for it. -/
inductive ReadsCreateSheet (settings : Settings) (request : CreateRequest) :
    List HostEvent → Except Failure CreateSheet → Prop where
  | unnamed : settings.symbol = none → ReadsCreateSheet settings request [] (.error (.refused .symbolUnset))
  | refused {symbol : String} {cause : Failure} : settings.symbol = some symbol → request.Refuses cause →
      ReadsCreateSheet settings request [] (.error cause)
  | unread {symbol : String} {params : TokenParams} {log : List HostEvent} {cause : Failure} :
      settings.symbol = some symbol → request.Asks symbol params →
        ReadsBytecode request.bytecodePath log (.error cause) → ReadsCreateSheet settings request log (.error cause)
  | unpaid {symbol : String} {params : TokenParams} {log : List HostEvent} {bytecode : List UInt8} :
      settings.symbol = some symbol → request.Asks symbol params →
        ReadsBytecode request.bytecodePath log (.ok bytecode) → settings.payer? = none →
          ReadsCreateSheet settings request log (.error (.refused .payerUnset))
  | read {symbol : String} {params : TokenParams} {log : List HostEvent} {bytecode : List UInt8} {payer : Address} :
      settings.symbol = some symbol → request.Asks symbol params →
        ReadsBytecode request.bytecodePath log (.ok bytecode) → settings.payer? = some payer →
          ReadsCreateSheet settings request log
            (.ok { url := settings.rpcUrl, payer, kind := settings.kind, params, bytecode })

theorem Decimals.ofNat_eq_ok_iff {places : Nat} {decimals : Decimals} :
    ofNat places = .ok decimals ↔ decimals.places = places := by
  unfold ofNat
  constructor
  · intro held
    split at held
    · cases held
      rfl
    · cases held
  · rintro rfl
    exact dif_pos decimals.places_le

theorem Decimals.ofNat_eq_error_iff {places : Nat} {cause : AmountError} :
    ofNat places = .error cause ↔ 18 < places ∧ cause = .decimalsOutOfRange places := by
  unfold ofNat
  split_ifs with fits
  · simp
    omega
  · simp [Nat.lt_of_not_le fits, eq_comm]

theorem Amount.parse_eq_ok_iff {decimals : Decimals} {text : String} {amount : Amount} :
    parse decimals text = .ok amount ↔ ∃ integer fraction, Writes decimals text.toList integer fraction ∧
      amount = ofDigits integer * 10 ^ decimals.places +
        ofDigits fraction * 10 ^ (decimals.places - fraction.length) := by
  constructor
  · intro read
    obtain ⟨integer, fraction, written, -⟩ := exists_writes read
    exact ⟨integer, fraction, written, Except.ok.inj (read.symm.trans (parse_of_writes written))⟩
  · rintro ⟨integer, fraction, written, rfl⟩
    exact parse_of_writes written

theorem Amount.of_parse_error {decimals : Decimals} {text : String} {cause : AmountError}
    (failed : parse decimals text = .error cause) : ∃ fault, cause = .invalidFormat text fault ∧
      ¬ ∃ integer fraction, Writes decimals text.toList integer fraction := by
  have unwritten : ¬ ∃ integer fraction, Writes decimals text.toList integer fraction := by
    rintro ⟨integer, fraction, written⟩
    cases failed.symm.trans (parse_of_writes written)
  obtain ⟨fault, -, refused⟩ := parse_of_not_writes unwritten
  exact ⟨fault, Except.error.inj (failed.symm.trans refused), unwritten⟩

namespace CreateRequest

variable {request : CreateRequest} {symbol : String} {params : TokenParams} {cause : Failure}

theorem asks_of_ofTexts (read : TokenParams.ofTexts request.name symbol request.total request.decimals = .ok params) :
    request.Asks symbol params := by
  obtain ⟨decimals, scale, rest⟩ := bind_eq_ok_iff.mp read
  obtain ⟨totalSupply, total, ⟨rfl⟩⟩ := bind_eq_ok_iff.mp rest
  exact ⟨rfl, rfl, Decimals.ofNat_eq_ok_iff.mp (mapError_eq_ok_iff.mp scale),
    Amount.parse_eq_ok_iff.mp (mapError_eq_ok_iff.mp total)⟩

theorem refuses_of_ofTexts
    (failed : TokenParams.ofTexts request.name symbol request.total request.decimals = .error cause) :
    request.Refuses cause := by
  rcases bind_eq_error_iff.mp failed with unscaled | ⟨decimals, scale, rest⟩
  · obtain ⟨reason, unheld, rfl⟩ := mapError_eq_error_iff.mp unscaled
    obtain ⟨large, rfl⟩ := Decimals.ofNat_eq_error_iff.mp unheld
    exact .decimals large
  · rcases bind_eq_error_iff.mp rest with unread | ⟨totalSupply, -, ⟨⟩⟩
    obtain ⟨reason, unparsed, rfl⟩ := mapError_eq_error_iff.mp unread
    obtain ⟨fault, rfl, unwritten⟩ := Amount.of_parse_error unparsed
    exact .total fault (Decimals.ofNat_eq_ok_iff.mp (mapError_eq_ok_iff.mp scale)) unwritten

end CreateRequest

theorem IsOffline.append {log more : List HostEvent} (first : IsOffline log) (second : IsOffline more) :
    IsOffline (log ++ more) := by
  intro event listed
  exact (List.mem_append.mp listed).elim (first event) (second event)

theorem LoadsSettings.isOffline {path : String} {flags : Flags} {log : List HostEvent}
    {result : Except Failure Settings} (loads : LoadsSettings path flags log result) : IsOffline log := by
  refine Chained.closed loads .append ?_ ?_
  · intro log result loaded
    cases loaded <;> simp [IsOffline, HostEvent.isRequest]
  · intro file log result resolved
    rw [resolved.1]
    simp [IsOffline]

theorem ReadsBytecode.isOffline {path : String} {log : List HostEvent} {result : Except Failure (List UInt8)}
    (reads : ReadsBytecode path log result) : IsOffline log := by
  cases reads <;> simp [IsOffline, HostEvent.isRequest]

theorem ReadsCreateSheet.isOffline {settings : Settings} {request : CreateRequest} {log : List HostEvent}
    {result : Except Failure CreateSheet} (reads : ReadsCreateSheet settings request log result) : IsOffline log := by
  have nothing : IsOffline [] := fun _ listed => by cases listed
  cases reads with
  | unnamed _ => exact nothing
  | refused _ _ => exact nothing
  | unread _ _ file => exact file.isOffline
  | unpaid _ _ file _ => exact file.isOffline
  | read _ _ file _ => exact file.isOffline

namespace Desk

variable {m : Type → Type} [Monad m]

def readCreation (desk : Desk m) (request : CreateRequest) : Action m CreateSheet := do
  let some symbol := desk.settings.symbol | throw (.refused .symbolUnset)
  let params ← liftM (TokenParams.ofTexts request.name symbol request.total request.decimals)
  let bytecode ← Action.ofHost (readBytecode desk.host.files request.bytecodePath)
  let payer ← desk.payer
  return { url := desk.settings.rpcUrl, payer, kind := desk.settings.kind, params, bytecode }

variable [LawfulMonad m] {trace : Trace m HostEvent} {desk : Desk m} (seen : desk.host.IsSeen trace)
include seen

theorem readsBytecode_seen (path : String) :
    trace.Emits (readBytecode desk.host.files path).run (ReadsBytecode path) := by
  refine trace.emits_bind_adapt_run (seen.readText path) ?_ ?_
  · rintro _ fault rfl
    exact .unreadable fault
  · rintro _ text rfl
    refine trace.emits_liftM_run ?_
    cases read : parseBytecode text with
    | error cause => exact .refused cause (Bytecode.exists_parseBytecode_error_iff.mp ⟨cause, read⟩)
    | ok bytecode => exact .read (Bytecode.parseBytecode_eq_ok_iff.mp read)

theorem readCreation_seen (request : CreateRequest) :
    (trace.beside Rpc.Session).Emits (desk.readCreation request).run (ReadsCreateSheet desk.settings request) := by
  unfold readCreation
  cases named : desk.settings.symbol with
  | none => exact (trace.beside Rpc.Session).emits_throw_run (.unnamed named)
  | some symbol =>
    refine (trace.beside Rpc.Session).emits_bind_liftM_run ?_ ?_
    · intro cause failed
      exact .refused named (CreateRequest.refuses_of_ofTexts failed)
    intro params known
    have asks := CreateRequest.asks_of_ofTexts known
    have file : (trace.beside Rpc.Session).Emits
        (Action.ofHost (readBytecode desk.host.files request.bytecodePath)).run (ReadsBytecode request.bytecodePath) :=
      Trace.emits_beside_lift (desk.readsBytecode_seen seen request.bytecodePath)
    refine (trace.beside Rpc.Session).emits_bind_run file ?_ ?_
    · intro log cause unread
      exact .unread named asks unread
    intro log bytecode read
    refine (trace.beside Rpc.Session).emits_bind_liftM_run ?_ ?_
    · intro cause failed
      rw [List.append_nil]
      rw [Settings.payer] at failed
      cases configured : desk.settings.payer? with
      | some payer =>
        rw [configured] at failed
        cases failed
      | none =>
        rw [configured] at failed
        cases failed
        exact .unpaid named asks read configured
    · intro payer configured
      refine (trace.beside Rpc.Session).emits_pure_run ?_
      rw [List.append_nil]
      exact .read named asks read (Settings.payer_eq_ok_iff.mp configured)

end Desk

end TokenDesk
