import TokenDesk.Proofs.Command.Guard
import TokenDesk.Proofs.Host.ReadOnly
import TokenDesk.Proofs.Settings.Rewriting

/-! Commands that save settings.

Three commands write, and each of them writes nothing but settings, which it decided on
before. Every other command does the same on a host that refuses to write.
-/

set_option autoImplicit false

namespace TokenDesk

open Rpc (Session)

inductive Saves (path text : String) : List HostEvent → Except Failure Unit → Prop where
  | refused {folder : String} {fault : FileFault} : Path.parent? path = some folder →
      Saves path text [.createdFolders folder (.error fault)] (.error (.during (.createFolder folder) (.file fault)))
  | within {folder : String} (result : Except FileFault Unit) : Path.parent? path = some folder →
      Saves path text [.createdFolders folder (.ok ()), .wroteText path text result]
        (result.mapError fun fault => .during (.writeSettings path) (.file fault))
  | here (result : Except FileFault Unit) : Path.parent? path = none →
      Saves path text [.wroteText path text result]
        (result.mapError fun fault => .during (.writeSettings path) (.file fault))

/-- What a run leaves behind that saves what it chooses, if it comes to a choice of anything, and changes no file
otherwise. -/
inductive Rewrites (path : String) (Chooses : List HostEvent → Option SettingsFile → Prop) :
    List HostEvent → Except Failure Unit → Prop where
  | failed {log : List HostEvent} {cause : Failure} : Unchanging log → Rewrites path Chooses log (.error cause)
  | kept {log : List HostEvent} : Unchanging log → Chooses log none → Rewrites path Chooses log (.ok ())
  | saves {read saving more : List HostEvent} {file : SettingsFile} {result : Except Failure Unit} :
      Unchanging read → Saves path file.text saving result → Unchanging more →
        Chooses (read ++ (saving ++ more)) (some file) → Rewrites path Chooses (read ++ (saving ++ more)) result

section
variable {path : String} {Chooses Picks : List HostEvent → Option SettingsFile → Prop}
  {earlier log : List HostEvent} {result : Except Failure Unit}

theorem Rewrites.after (unchanged : Unchanging earlier) (rewrites : Rewrites path Picks log result)
    (stronger : ∀ choice, Picks log choice → Chooses (earlier ++ log) choice) :
    Rewrites path Chooses (earlier ++ log) result := by
  cases rewrites with
  | failed kept => exact .failed (unchanged.append kept)
  | kept kept choice => exact .kept (unchanged.append kept) (stronger none choice)
  | saves kept saving rest choice =>
    have chosen := stronger _ choice
    rw [← List.append_assoc] at chosen ⊢
    exact .saves (unchanged.append kept) saving rest chosen

end

section
variable {n : Type → Type} [Monad n] {trace : Trace n HostEvent} {α : Type} {path : String}
  {Chooses : List HostEvent → Option SettingsFile → Prop}

theorem rewrites_bind {first : ExceptT Failure n α} {next : α → ExceptT Failure n Unit}
    {Finds : α → List HostEvent → Prop}
    (emits : trace.Emits first.run fun log result =>
      Unchanging log ∧ ∀ value, result = .ok value → Finds value log)
    (others : ∀ value, trace.Emits (next value).run
      (Rewrites path fun log choice => ∀ earlier, Finds value earlier → Chooses (earlier ++ log) choice)) :
    trace.Emits (first >>= next).run (Rewrites path Chooses) :=
  trace.emits_bind_run emits (fun _ _ holds => .failed holds.1) fun earlier value holds =>
    trace.emits_mono (others value) fun _ _ rewrites =>
      rewrites.after holds.1 fun _ chosen => chosen earlier (holds.2 value rfl)

theorem rewrites_keep {action : ExceptT Failure n Unit}
    (emits : trace.Emits action.run fun log _ => Unchanging log) (chosen : ∀ log, Chooses log none) :
    trace.Emits action.run (Rewrites path Chooses) :=
  trace.emits_mono emits fun log result unchanged => match result with
    | .ok () => .kept unchanged (chosen log)
    | .error _ => .failed unchanged

theorem rewrites_bindThrow (cause : Failure) (next : α → ExceptT Failure n Unit) :
    trace.Emits ((throw cause : ExceptT Failure n α) >>= next).run (Rewrites path Chooses) := by
  have thrown : trace.Emits (throw cause : ExceptT Failure n α).run fun log result =>
      Unchanging log ∧ result = .error cause := trace.emits_throw_run ⟨.nil, rfl⟩
  refine trace.emits_bind_run thrown (fun _ _ holds => .failed holds.1) fun _ _ holds => ?_
  cases holds.2

theorem rewrites_bindExcept [LawfulMonad n] {first : Except Failure α} {next : α → ExceptT Failure n Unit}
    (others : ∀ value, first = .ok value → trace.Emits (next value).run (Rewrites path Chooses)) :
    trace.Emits (liftM first >>= next).run (Rewrites path Chooses) :=
  trace.emits_bind_liftM_run (fun _ _ => .failed .nil) others

theorem rewrites_save {file : SettingsFile} {saving : ExceptT Failure n Unit} {last : Unit → ExceptT Failure n Unit}
    (saves : trace.Emits saving.run (Saves path file.text))
    (tells : trace.Emits (last ()).run fun log result => Unchanging log ∧ result = .ok ())
    (chosen : ∀ log, Chooses log (some file)) : trace.Emits (saving >>= last).run (Rewrites path Chooses) := by
  have whole {log more : List HostEvent} {result : Except Failure Unit} (saved : Saves path file.text log result)
      (unchanged : Unchanging more) : Rewrites path Chooses (log ++ more) result :=
    .saves .nil saved unchanged (chosen _)
  refine trace.emits_bind_run saves (fun log cause saved => ?_) fun log _ saved => ?_
  · simpa using whole saved .nil
  · refine trace.emits_mono tells ?_
    rintro more _ ⟨unchanged, rfl⟩
    exact whole saved unchanged

end

variable {m : Type → Type} [Monad m] [LawfulMonad m] {trace : Trace m HostEvent} {host : Host m}

section
variable (seen : host.IsSeen trace)
include seen

theorem SettingsFile.save_seen (path : String) (file : SettingsFile) :
    trace.Emits (file.save host.files path).run (Saves path file.text) := by
  have writes := seen.writeText path file.text
  unfold SettingsFile.save
  cases told : Path.parent? path with
  | none =>
    refine trace.emits_adapt_run (trace.emits_mono writes ?_)
    rintro _ result rfl
    exact .here result told
  | some folder =>
    refine trace.emits_bind_adapt_run (seen.createFolders folder) ?_ ?_
    · rintro _ fault rfl
      exact .refused told
    · rintro _ _ rfl
      refine trace.emits_adapt_run (trace.emits_mono writes ?_)
      rintro _ result rfl
      exact .within result told

theorem Host.say_unchanging (line : String) : trace.Emits (liftM (host.say line) : ExceptT Failure m Unit).run
    fun log result => Unchanging log ∧ result = .ok () := by
  refine trace.emits_lift_run (trace.emits_mono (seen.say line) ?_)
  rintro _ _ rfl
  exact ⟨unchanging_of_single rfl, rfl⟩

theorem Host.initSettings_rewrites (flags : Flags) (path : String) (force : Bool) :
    trace.Emits (host.initSettings flags path force).run (Rewrites path fun log choice =>
      (force = true ∨ ∃ rest, log = .checked path false :: rest) ∧
        ∃ file, SettingsFile.initial flags = .ok file ∧ choice = some file) := by
  have checks : trace.Emits (liftM (host.files.isPresent path) : ExceptT Failure m Bool).run fun log result =>
      Unchanging log ∧ ∀ present, result = .ok present → log = [.checked path present] := by
    refine trace.emits_lift_run (trace.emits_mono (seen.isPresent path) ?_)
    rintro _ present rfl
    exact ⟨unchanging_of_single rfl, by rintro _ ⟨⟩; rfl⟩
  refine rewrites_bind checks fun present => ?_
  by_cases refused : (present && !force) = true
  · rw [if_pos refused]
    exact rewrites_bindThrow _ _
  · rw [if_neg refused]
    refine rewrites_bindExcept fun file same => ?_
    refine rewrites_save (SettingsFile.save_seen seen path file) (Host.say_unchanging seen _) ?_
    rintro log _ rfl
    refine ⟨?_, file, same, rfl⟩
    cases force with
    | true => exact .inl rfl
    | false =>
      obtain rfl : present = false := by simpa using refused
      exact .inr ⟨log, rfl⟩

end

namespace Desk

variable {desk : Desk m} (seen : desk.host.IsSeen trace)

def readOnly (desk : Desk m) : Desk m :=
  { desk with host := desk.host.readOnly }

include seen

theorem say_unchanging (line : String) : (trace.beside Session).Emits (desk.say line).run fun log result =>
    Unchanging log ∧ result = .ok () := by
  refine (trace.beside Session).emits_lift_run (Trace.emits_beside_lift (trace.emits_mono (seen.say line) ?_))
  rintro _ _ rfl
  exact ⟨unchanging_of_single rfl, rfl⟩

end Desk

/-- A contract is called by the symbol that is given, or else by its own. -/
def AddRequest.Names (request : AddRequest) (contract : Address) (symbol : String) (log : List HostEvent) : Prop :=
  request.symbol = some symbol ∨
    request.symbol = none ∧ Rpc.IsRead contract "symbol()" [] Abi.decodeString symbol log

def AddRequest.Chooses (request : AddRequest) (file : SettingsFile) (log : List HostEvent)
    (choice : Option SettingsFile) : Prop :=
  ∃ contract symbol, Address.parseHex request.contract = .ok contract ∧ request.Names contract symbol log ∧
    choice = if file.contracts.get? symbol = none then
      some { file with contracts := file.contracts.insert symbol contract.checksummed } else none

theorem AddRequest.Names.append {request : AddRequest} {contract : Address} {symbol : String} {log : List HostEvent}
    (names : request.Names contract symbol log) (more : List HostEvent) : request.Names contract symbol (log ++ more) :=
  names.imp_right fun ⟨unnamed, read⟩ => ⟨unnamed, .append (.inl read)⟩

theorem AddRequest.Chooses.prepend {request : AddRequest} {file : SettingsFile} {log : List HostEvent}
    {choice : Option SettingsFile} (chooses : request.Chooses file log choice) (earlier : List HostEvent) :
    request.Chooses file (earlier ++ log) choice := by
  obtain ⟨contract, symbol, parsed, names, same⟩ := chooses
  exact ⟨contract, symbol, parsed, names.imp_right fun ⟨unnamed, read⟩ => ⟨unnamed, .append (.inr read)⟩, same⟩

namespace Desk

variable {desk : Desk m} (seen : desk.host.IsSeen trace)
include seen

theorem symbolFor_seen (request : AddRequest) (contract : Address) :
    (trace.beside Session).Emits (symbolFor (desk.contractAt contract) request.symbol).run fun log result =>
      Unchanging log ∧ ∀ symbol, result = .ok symbol → request.Names contract symbol log := by
  unfold AddRequest.Names
  cases request.symbol with
  | some symbol => exact (trace.beside Session).emits_pure_run ⟨.nil, by rintro _ ⟨⟩; exact .inl rfl⟩
  | none =>
    refine (trace.beside Session).emits_mono (Trace.emits_of_unwritten (desk.readOnly.reading_seen
      (Host.readOnly_seen seen) .readMissingSymbol contract "symbol()" [] Abi.decodeString)) ?_
    rintro _ result ⟨events, rfl, -, read⟩
    refine ⟨unchanging_unchanging, fun symbol same => .inr ⟨rfl, ?_⟩⟩
    rw [Rpc.IsRead, Rpc.calls_unchanging]
    exact read symbol same

theorem add_rewrites (file : SettingsFile) (path : String) (request : AddRequest) :
    (trace.beside Session).Emits (desk.add file path request).run (Rewrites path (request.Chooses file)) := by
  refine rewrites_bindExcept fun contract parsed => rewrites_bind (desk.symbolFor_seen seen request contract)
    fun symbol => rewrites_bindExcept fun (addition, changed) same => ?_
  have read := mapError_eq_ok_iff.mp parsed
  obtain ⟨rfl, free, rfl⟩ | ⟨rfl, taken⟩ := SettingsFile.addContract_eq_ok (mapError_eq_ok_iff.mp same)
  · refine rewrites_save (Trace.emits_beside_lift (SettingsFile.save_seen seen path _)) (desk.say_unchanging seen _) ?_
    intro log earlier names
    exact ⟨contract, symbol, read, names.append log, by rw [if_pos free]⟩
  · refine rewrites_keep ((trace.beside Session).emits_mono (desk.say_unchanging seen _) fun _ _ holds => holds.1) ?_
    intro log earlier names
    exact ⟨contract, symbol, read, names.append log, by rw [if_neg taken]⟩

end Desk

namespace Desk

variable (desk : Desk m)

omit [LawfulMonad m] in
theorem validAddresses_readOnly (given : List String) :
    validAddresses desk.readOnly given = validAddresses desk given := by
  induction given with
  | nil => rfl
  | cons text rest ih =>
    rw [validAddresses, validAddresses, ih]
    rfl

omit [LawfulMonad m] in
theorem balance_readOnly (given : List String) : desk.readOnly.balance given = desk.balance given := by
  have owners_same : owners desk.readOnly given = owners desk given := by
    unfold owners
    rw [validAddresses_readOnly]
    rfl
  unfold balance
  rw [owners_same]
  rfl

end Desk

namespace Command

def saves : Command → Bool
  | .init _ => true
  | .add _ => true
  | .create _ => true
  | _ => false

omit [LawfulMonad m] in
theorem atDesk_readOnly {flags : Flags} {path : String} {action : SettingsFile → Desk m → Action m Unit}
    (same : ∀ file desk, action file (Desk.readOnly desk) = action file desk) :
    atDesk host.readOnly flags path action = atDesk host flags path action := by
  have same_here (file : SettingsFile) (settings : Settings) :
      action file { settings, host := host.readOnly } = action file { settings, host } := same file ⟨settings, host⟩
  unfold atDesk
  simp only [same_here]
  rfl

omit [LawfulMonad m] in
theorem run_readOnly {command : Command} (reads : command.saves = false) (flags : Flags) (path : String) :
    command.run host.readOnly flags path = command.run host flags path := by
  cases command with
  | init force => cases reads
  | add request => cases reads
  | create request => cases reads
  | version => rfl
  | balance addresses =>
    rw [run, run]
    exact atDesk_readOnly fun _ desk => desk.balance_readOnly addresses
  | _ =>
    rw [run, run]
    exact atDesk_readOnly fun _ _ => rfl

theorem run_unchanging (seen : host.IsSeen trace) {command : Command} (reads : command.saves = false) (flags : Flags)
    (path : String) : trace.Emits (command.run host flags path).run fun log _ => Unchanging log := by
  rw [← run_readOnly reads]
  refine trace.emits_mono (Command.run_outlined (Host.readOnly_seen seen) flags path command) ?_
  rintro _ _ ⟨events, rfl, -⟩
  exact unchanging_unchanging

end Command

end TokenDesk
