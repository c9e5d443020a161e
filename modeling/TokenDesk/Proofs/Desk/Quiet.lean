import TokenDesk.Desk
import TokenDesk.Proofs.Results
import TokenDesk.Proofs.Rpc.Calls

/-! Actions at a desk that ask the node to do nothing. -/

set_option autoImplicit false

namespace TokenDesk

open Rpc (Quiet Session)

/-- No run of the action unlocks an account or sends a transaction. -/
def IsQuiet {n : Type → Type} [Monad n] {ε α : Type} (trace : Trace n HostEvent) (action : ExceptT ε n α) : Prop :=
  trace.Emits action.run fun log _ => Quiet log

namespace IsQuiet

section
variable {n : Type → Type} [Monad n] {ε ε' α β : Type} {trace : Trace n HostEvent}

theorem pure (value : α) : IsQuiet trace (Pure.pure value : ExceptT ε n α) :=
  trace.emits_pure Rpc.quiet_nil

theorem throw (cause : ε) : IsQuiet trace (MonadExcept.throw cause : ExceptT ε n α) :=
  trace.emits_pure Rpc.quiet_nil

theorem bindThrow (cause : ε) (next : α → ExceptT ε n β) :
    IsQuiet trace ((MonadExcept.throw cause : ExceptT ε n α) >>= next) :=
  trace.emits_mono (trace.emits_throw_bind cause next) fun _ _ ⟨nothing, _⟩ => nothing ▸ Rpc.quiet_nil

theorem liftExcept (result : Except ε α) : IsQuiet trace (liftM result : ExceptT ε n α) :=
  trace.emits_pure Rpc.quiet_nil

theorem bind {first : ExceptT ε n α} {next : α → ExceptT ε n β} (quiet : IsQuiet trace first)
    (others : ∀ value, IsQuiet trace (next value)) : IsQuiet trace (first >>= next) :=
  trace.emits_bind_run quiet (fun _ _ silent => silent) fun _ value silent =>
    trace.emits_mono (others value) fun _ _ later => silent.append later

theorem follow {P : List HostEvent → Prop} {first : ExceptT ε n α} {next : α → ExceptT ε n β}
    (emits : trace.Emits first.run fun log _ => P log) (kept : ∀ {log more}, P log → Quiet more → P (log ++ more))
    (quiet : ∀ value, IsQuiet trace (next value)) : trace.Emits (first >>= next).run fun log _ => P log :=
  trace.emits_bind_run emits (fun _ _ holds => holds) fun _ value holds =>
    trace.emits_mono (quiet value) fun _ _ silent => kept holds silent

theorem forM {items : List β} {each : β → ExceptT ε n PUnit} (quiet : ∀ item, IsQuiet trace (each item)) :
    IsQuiet trace (items.forM each) := by
  induction items with
  | nil => exact .pure _
  | cons item rest ih => exact (quiet item).bind fun _ => ih

theorem bindExcept {first : Except ε α} {next : α → ExceptT ε n β} [LawfulMonad n]
    (others : ∀ value, first = .ok value → IsQuiet trace (next value)) : IsQuiet trace (liftM first >>= next) :=
  trace.emits_bind_liftM_run (fun _ _ => Rpc.quiet_nil) others

theorem tryCatch {action : ExceptT ε n α} {handler : ε → ExceptT ε n α} (quiet : IsQuiet trace action)
    (handled : ∀ cause, IsQuiet trace (handler cause)) :
    IsQuiet trace (MonadExcept.tryCatch action handler) := by
  refine trace.emits_bind quiet fun log result silent => ?_
  cases result with
  | ok value =>
    refine trace.emits_pure ?_
    rwa [List.append_nil]
  | error cause => exact trace.emits_mono (handled cause) fun _ _ later => silent.append later

variable [LawfulMonad n]

theorem adapt {action : ExceptT ε' n α} (quiet : IsQuiet trace action) (f : ε' → ε) : IsQuiet trace (action.adapt f) :=
  trace.emits_adapt_run quiet

theorem lift {action : n α} (quiet : trace.Emits action fun log _ => Quiet log) :
    IsQuiet trace (liftM action : ExceptT ε n α) :=
  trace.emits_lift_run quiet

theorem map {action : ExceptT ε n α} (quiet : IsQuiet trace action) (f : α → β) : IsQuiet trace (f <$> action) := by
  rw [map_eq_pure_bind]
  exact quiet.bind fun value => .pure (f value)

theorem mapM {items : List β} {each : β → ExceptT ε n α} (quiet : ∀ item, IsQuiet trace (each item)) :
    IsQuiet trace (items.mapM each) := by
  induction items with
  | nil => exact .pure []
  | cons item rest ih =>
    rw [List.mapM_cons]
    exact (quiet item).bind fun first => ih.bind fun others => .pure (first :: others)

end

section
variable {m : Type → Type} [Monad m] [LawfulMonad m] {ε α : Type} {trace : Trace m HostEvent}

theorem liftHost {action : m α} (quiet : trace.Emits action fun log _ => Quiet log) :
    IsQuiet (trace.beside Session) (liftM action : ExceptT ε (Rpc.Requests m) α) :=
  .lift (Trace.emits_beside_lift quiet)

theorem ofHost {action : ExceptT Failure m α} (quiet : IsQuiet trace action) :
    IsQuiet (trace.beside Session) (Action.ofHost action) :=
  Trace.emits_beside_lift quiet

end

end IsQuiet

namespace Desk

variable {m : Type → Type} [Monad m] {trace : Trace m HostEvent} {desk : Desk m}

theorem quiet_of_heard {ε α : Type} {action : ExceptT ε (Rpc.Requests m) α}
    {P : List TransportEvent → Except ε α → Prop}
    (heard : ((trace.beside Session).through (Rpc.Wire desk.settings.rpcUrl)).Emits action.run P)
    (quiet : ∀ events result, P events result → ∀ event ∈ events, event.isQuiet) :
    IsQuiet (trace.beside Session) action :=
  (trace.beside Session).emits_mono (Trace.emits_through_iff.mp heard) fun _ result ⟨events, told, holds⟩ =>
    Rpc.quiet_of_told told (quiet events result holds)

theorem token_eq_ok_iff {token : Token (Rpc.Requests m)} :
    desk.token = .ok token ↔ ∃ address, desk.settings.contractAddress = .ok address ∧
      token = { kind := desk.settings.kind, contract := desk.contractAt address } := by
  rw [Desk.token, map_eq_ok_iff]
  exact exists_congr fun address => and_congr_right fun _ => eq_comm

variable [LawfulMonad m]

theorem transport_heard (seen : desk.host.IsSeen trace) :
    desk.transport.IsHeard ((trace.beside Session).through (Rpc.Wire desk.settings.rpcUrl)) :=
  desk.client.transport_heard seen.web

theorem say_quiet (seen : desk.host.IsSeen trace) (line : String) : IsQuiet (trace.beside Session) (desk.say line) :=
  .liftHost (trace.emits_mono (seen.say line) fun _ _ same => Rpc.quiet_of_calls_eq_nil (by rw [same]; rfl))

theorem sayAll_seen (seen : desk.host.IsSeen trace) (lines : List String) :
    (trace.beside Session).Emits (desk.sayAll lines).run fun log result =>
      log = lines.map .said ∧ result = .ok () := by
  induction lines with
  | nil => exact (trace.beside Session).emits_pure_run ⟨rfl, rfl⟩
  | cons line rest ih =>
    refine (trace.beside Session).emits_bind_lift_run (Trace.emits_beside_lift (seen.say line)) ?_
    rintro _ _ rfl
    refine (trace.beside Session).emits_mono ih ?_
    rintro _ _ ⟨rfl, rfl⟩
    exact ⟨rfl, rfl⟩

theorem sayAll_quiet (seen : desk.host.IsSeen trace) (lines : List String) :
    IsQuiet (trace.beside Session) (desk.sayAll lines) :=
  .forM fun line => desk.say_quiet seen line

section
variable (seen : desk.host.IsSeen trace)
include seen

theorem ask_seen (address : Address) {α : Type} (signature : String) (arguments : List Abi.Argument)
    (read : List UInt8 → Except Abi.Error α) :
    (trace.beside Session).Emits ((desk.contractAt address).ask signature arguments read).run fun log result =>
      Quiet log ∧ ∀ value, result = .ok value → Rpc.IsRead address signature arguments read value log := by
  cases encoded : Contract.dataOf signature arguments with
  | error cause =>
    rw [Contract.ask, encoded, bind_liftM_error]
    exact (trace.beside Session).emits_throw_run ⟨Rpc.quiet_nil, by rintro _ ⟨⟩⟩
  | ok data =>
    refine (trace.beside Session).emits_mono (Trace.emits_through_iff.mp
      (Contract.ask_heard (desk.contractAt address) (desk.transport_heard seen) encoded read)) ?_
    rintro log result ⟨_, told, _, rfl, same⟩
    obtain ⟨part, _, rfl, ⟨reply, rfl, posts⟩, ⟨⟩⟩ := told.of_cons
    rw [List.append_nil]
    refine ⟨posts.quiet (by decide), fun value given => ?_⟩
    rw [Rpc.IsRead, posts.calls_eq]
    exact ⟨_, List.mem_singleton.mpr rfl, data, encoded, rfl, rfl, same.symm.trans given⟩

theorem reading_seen (task : Task) (address : Address) {α : Type} (signature : String) (arguments : List Abi.Argument)
    (read : List UInt8 → Except Abi.Error α) :
    (trace.beside Session).Emits
      (Action.ofContract task ((desk.contractAt address).ask signature arguments read)).run fun log result =>
        Quiet log ∧ ∀ value, result = .ok value → Rpc.IsRead address signature arguments read value log := by
  refine (trace.beside Session).emits_adapt_run ((trace.beside Session).emits_mono
    (desk.ask_seen seen address signature arguments read) fun log result holds => ⟨holds.1, fun value given => ?_⟩)
  exact holds.2 value (mapError_eq_ok_iff.mp given)

theorem ask_quiet (address : Address) {α : Type} (signature : String) (arguments : List Abi.Argument)
    (read : List UInt8 → Except Abi.Error α) :
    IsQuiet (trace.beside Session) ((desk.contractAt address).ask signature arguments read) :=
  (trace.beside Session).emits_mono (desk.ask_seen seen address signature arguments read) fun _ _ holds => holds.1

theorem decimals_quiet (address : Address) :
    IsQuiet (trace.beside Session) (Erc20.mk (desk.contractAt address)).decimals :=
  (desk.ask_quiet seen address _ _ _).bind fun _ => .liftExcept _

theorem clientAsk_quiet (method : String) (params : List Json)
    (harmless : method ≠ "eth_sendTransaction" ∧ method ≠ "personal_unlockAccount") :
    IsQuiet (trace.beside Session) (desk.client.ask method params) :=
  (trace.beside Session).emits_mono (desk.client.ask_seen seen.web method params)
    fun _ _ ⟨_, _, posts⟩ => posts.quiet harmless

theorem clientBalance_quiet (account : Address) : IsQuiet (trace.beside Session) (desk.client.balance account) :=
  (trace.beside Session).emits_mono (desk.client.askText_seen seen.web _ _ _)
    fun _ _ ⟨_, _, posts⟩ => posts.quiet (by decide)

theorem clientAccounts_quiet : IsQuiet (trace.beside Session) desk.client.accounts := by
  refine (desk.clientAsk_quiet seen "eth_accounts" [] (by decide)).bind fun result => ?_
  cases result with
  | array items => exact .liftExcept _
  | _ => exact .throw _

theorem chainId_quiet : IsQuiet (trace.beside Session) desk.chainId := by
  refine .adapt (quiet_of_heard (desk.transport_heard seen).networkId ?_) _
  rintro _ answer rfl event listed
  rw [List.mem_singleton.mp listed]
  rfl

theorem receipt_quiet (tx : TxId) : IsQuiet (trace.beside Session) (desk.receipt tx) := by
  refine .adapt (quiet_of_heard ((desk.transport_heard seen).waitForReceipt tx) ?_) _
  rintro _ answer rfl event listed
  rw [List.mem_singleton.mp listed]
  rfl

theorem parseAddress_quiet (text : String) : IsQuiet (trace.beside Session) (desk.parseAddress text) := by
  rw [Desk.parseAddress]
  cases Address.parseHex text with
  | ok address => exact .pure address
  | error cause =>
    dsimp only
    split
    · exact .bind (.map (desk.chainId_quiet seen) some) fun _ => .liftExcept _
    · exact .bind (.pure none) fun _ => .liftExcept _

theorem confirm_quiet (sent : Sent) (waits : Bool) : IsQuiet (trace.beside Session) (desk.confirm sent waits) := by
  refine .bind (desk.say_quiet seen _) fun _ => ?_
  cases waits with
  | false => exact .pure _
  | true =>
    exact .bind (desk.say_quiet seen _) fun _ => .bind (desk.receipt_quiet seen sent.tx) fun _ =>
      desk.say_quiet seen _

end

end Desk

end TokenDesk
