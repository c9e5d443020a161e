import TokenDesk.Proofs.Batch.Submission
import TokenDesk.Proofs.Desk.Quiet
import TokenDesk.Token.Creation

/-! Sending transactions from a desk.

A single submission sends at most one transaction. A batch sends as many as it
comes to, and all of them are the payer's.
-/

set_option autoImplicit false

namespace TokenDesk

open Rpc (Call Quiet Session sendCall)

/-- Transactions of one account are sent, at most so many if there is a limit, and nothing is unlocked. -/
structure IsSending (payer : Address) (limit : Option Nat) (log : List HostEvent) : Prop where
  unlocks_nothing : ∀ call ∈ Rpc.calls log, call.isUnlock = false
  sender : ∀ call ∈ Rpc.calls log, call.isSend → call.sender? = some payer.lower
  length_le : ∀ most, limit = some most → (Rpc.calls log).countP Call.isSend ≤ most

namespace IsSending

variable {payer : Address} {limit : Option Nat} {log more : List HostEvent}

theorem countP_of_quiet (quiet : Quiet log) : (Rpc.calls log).countP Call.isSend = 0 :=
  Rpc.countP_isSend_eq_zero fun call listed => (quiet call listed).1

theorem of_quiet (quiet : Quiet log) : IsSending payer limit log where
  unlocks_nothing call listed := (quiet call listed).2
  sender _ listed send := absurd send (quiet.not_isSend listed)
  length_le _ _ := by
    rw [countP_of_quiet quiet]
    exact Nat.zero_le _

theorem append_quiet (sending : IsSending payer limit log) (quiet : Quiet more) :
    IsSending payer limit (log ++ more) where
  unlocks_nothing call listed := by
    rw [Rpc.calls_append, List.mem_append] at listed
    exact listed.elim (sending.unlocks_nothing call) fun later => (quiet call later).2
  sender call listed := by
    rw [Rpc.calls_append, List.mem_append] at listed
    exact listed.elim (sending.sender call) ((of_quiet quiet : IsSending payer none more).sender call)
  length_le most same := by
    rw [Rpc.calls_append, List.countP_append, countP_of_quiet quiet]
    exact sending.length_le most same

end IsSending

section
variable {options : SendOptions} {destination : Option Address} {data : List UInt8} {events : List TransportEvent}
  {result : Except ContractError Sent} {url : String} {log : List HostEvent}

theorem Quoted.isQuiet {α : Type} {event : Except TransportError α → TransportEvent} {fixed : Option α}
    {answer : Except TransportError α} (quoted : Quoted event fixed events answer)
    (quiet : ∀ answer, (event answer).isQuiet) : ∀ heard ∈ events, heard.isQuiet := by
  cases quoted with
  | fixed value => exact fun _ listed => by cases listed
  | asked answer =>
    intro heard listed
    rw [List.mem_singleton.mp listed]
    exact quiet answer

theorem Submission.arranged (made : Submission options destination data events result) :
    ∃ asked sent, events = asked ++ sent ∧ (∀ event ∈ asked, event.isQuiet) ∧
      (sent = [] ∨ ∃ transaction answer, sent = [.sendTransaction transaction answer] ∧
        transaction.sender = options.sender ∧ transaction.data = data) := by
  cases made with
  | unpriced price => exact ⟨events, [], (List.append_nil _).symm, price.isQuiet fun _ => rfl, .inl rfl⟩
  | @unlimited first second _ _ price limit =>
    refine ⟨first ++ second, [], (List.append_nil _).symm, fun event listed => ?_, .inl rfl⟩
    exact (List.mem_append.mp listed).elim (price.isQuiet (fun _ => rfl) event) (limit.isQuiet (fun _ => rfl) event)
  | @sent first second _ _ answer price limit =>
    refine ⟨first ++ second, [_], (List.append_assoc _ _ _).symm, fun event listed => ?_,
      .inr ⟨_, answer, rfl, rfl, rfl⟩⟩
    exact (List.mem_append.mp listed).elim (price.isQuiet (fun _ => rfl) event) (limit.isQuiet (fun _ => rfl) event)

theorem Submission.calls (made : Submission options destination data events result)
    (told : Told (Rpc.Wire url) events log) :
    ∃ quiet sent, log = quiet ++ sent ∧ Quiet quiet ∧
      (Rpc.calls sent = [] ∨ ∃ transaction reply, Rpc.calls sent = [sendCall transaction reply] ∧
        transaction.sender = options.sender ∧ transaction.data = data) := by
  obtain ⟨asked, sent, rfl, quiet, one⟩ := made.arranged
  obtain ⟨first, second, rfl, told_asked, told_sent⟩ := told.of_append
  refine ⟨first, second, rfl, Rpc.quiet_of_told told_asked quiet, ?_⟩
  rcases one with rfl | ⟨transaction, answer, rfl, sender, same⟩
  · cases told_sent
    exact .inl rfl
  · obtain ⟨part, _, rfl, ⟨reply, -, posts⟩, ⟨⟩⟩ := told_sent.of_cons
    rw [List.append_nil]
    exact .inr ⟨transaction, reply, posts.calls_eq, sender, same⟩

theorem Submission.isSending (made : Submission options destination data events result)
    (told : Told (Rpc.Wire url) events log) :
    IsSending options.sender (some 1) log ∧
      ∀ call ∈ Rpc.calls log, call.isSend → call.data? = some (Rpc.bytesText data) := by
  obtain ⟨quiet, sent, rfl, silent, one⟩ := made.calls told
  -- Whatever is sent is in the second part, which has one call at most.
  have loud (call : Call) (listed : call ∈ Rpc.calls (quiet ++ sent)) (send : call.isSend) : call ∈ Rpc.calls sent := by
    rw [Rpc.calls_append, List.mem_append] at listed
    exact listed.resolve_left fun early => silent.not_isSend early send
  rcases one with none_sent | ⟨transaction, reply, one_sent, sender, same⟩
  · have still : Quiet (quiet ++ sent) := silent.append (Rpc.quiet_of_calls_eq_nil none_sent)
    exact ⟨.of_quiet still, fun call listed send => by rw [none_sent] at loud; cases loud call listed send⟩
  · rw [one_sent] at loud
    refine ⟨⟨fun call listed => ?_, fun call listed send => ?_, ?_⟩, fun call listed send => ?_⟩
    · rw [Rpc.calls_append, one_sent, List.mem_append, List.mem_singleton] at listed
      rcases listed with early | rfl
      · exact (silent call early).2
      · rfl
    · rw [List.mem_singleton.mp (loud call listed send), Rpc.sender?_sendCall, sender]
    · rintro _ ⟨rfl⟩
      rw [Rpc.calls_append, List.countP_append, IsSending.countP_of_quiet silent, one_sent]
      exact Nat.le_refl 1
    · rw [List.mem_singleton.mp (loud call listed send), Rpc.data?_sendCall, same]

end

namespace Batch

variable {contract : Address} {order : Order} {plan : Plan} {report : Report} {events : List TransportEvent}
  {funds : Except TransportError (List UInt8)} {asked paid : List TransportEvent} {requests : List Transfer}

theorem Submits.payer_eq (submits : Submits contract order plan report events funds asked paid requests)
    {request : Transfer} (listed : request ∈ requests) : request.payer = order.payer := by
  by_cases enough : IsCovered plan funds
  · obtain ⟨price, start, -, -, -, numbered, failed⟩ := submits.covered enough
    by_cases known : ∃ gasPrice nonce, price = .ok gasPrice ∧ start = .ok nonce
    · obtain ⟨gasPrice, nonce, rfl, rfl⟩ := known
      obtain ⟨index, here⟩ := List.mem_iff_getElem?.mp listed
      obtain ⟨payment, -, payer, -⟩ := numbered gasPrice nonce rfl rfl index request here
      exact payer
    · rw [failed known] at listed
      cases listed
  · rw [(submits.uncovered enough).2.2] at listed
    cases listed

theorem isQuiet_of_relays {calls : List LedgerEvent} (told : Told (Erc20.Relays contract) calls events)
    {event : TransportEvent} (listed : event ∈ events) :
    event.isQuiet ∨ ∃ transaction answer, event = .sendTransaction transaction answer := by
  obtain ⟨call, -, part, relays, within⟩ := told.exists_of_mem listed
  cases relays <;> simp only [List.mem_cons, List.not_mem_nil, or_false] at within
  case unsent gasLimit cause =>
    rcases within with rfl | rfl
    · exact .inl rfl
    · exact .inr ⟨_, _, rfl⟩
  case sent gasLimit tx =>
    rcases within with rfl | rfl
    · exact .inl rfl
    · exact .inr ⟨_, _, rfl⟩
  all_goals
    rw [within]
    exact .inl rfl

theorem Submits.isSending (submits : Submits contract order plan report events funds asked paid requests)
    {calls : List LedgerEvent} (relayed : Told (Erc20.Relays contract) calls events) {url : String}
    {log : List HostEvent} (told : Told (Rpc.Wire url) events log) : IsSending order.payer none log := by
  -- Each call belongs to one event of the transport, which asks for nothing or sends for the payer.
  have stands (call : Call) (listed : call ∈ Rpc.calls log) : (call.isSend = false ∧ call.isUnlock = false) ∨
      ∃ transaction reply, call = sendCall transaction reply ∧ transaction.sender = order.payer := by
    obtain ⟨heard, within, same⟩ := List.mem_filterMap.mp listed
    obtain ⟨event, among, part, wire, here⟩ := told.exists_of_mem within
    have made : call ∈ Rpc.calls part := List.mem_filterMap.mpr ⟨heard, here, same⟩
    rcases isQuiet_of_relays relayed among with quiet | ⟨transaction, answer, rfl⟩
    · exact .inl (wire.quiet quiet call made)
    · obtain ⟨reply, -, posts⟩ := wire
      rw [posts.calls_eq, List.mem_singleton] at made
      have transacts : TransportEvent.transaction? (.sendTransaction transaction answer) = some transaction := rfl
      obtain ⟨index, position⟩ := List.mem_iff_getElem?.mp (List.mem_filterMap.mpr ⟨_, among, transacts⟩)
      obtain ⟨request, gasLimit, -, -, -, requested, rfl, -⟩ := submits.sent index transaction position
      exact .inr ⟨_, reply, made, submits.payer_eq (List.mem_of_getElem? requested)⟩
  refine ⟨fun call listed => ?_, fun call listed send => ?_, by rintro _ ⟨⟩⟩
  · rcases stands call listed with ⟨-, silent⟩ | ⟨transaction, reply, rfl, -⟩
    · exact silent
    · rfl
  · rcases stands call listed with ⟨silent, -⟩ | ⟨transaction, reply, rfl, sender⟩
    · rw [silent] at send
      cases send
    · rw [Rpc.sender?_sendCall, sender]

end Batch

namespace Desk

variable {m : Type → Type} [Monad m] [LawfulMonad m] {trace : Trace m HostEvent} {desk : Desk m}
  (seen : desk.host.IsSeen trace)
include seen

theorem transact_seen (contract payer : Address) (signature : String) (arguments : List Abi.Argument) :
    (trace.beside Session).Emits ((desk.contractAt contract).transact (.of payer) signature arguments).run
      fun log _ => IsSending payer (some 1) log ∧ ∀ call ∈ Rpc.calls log, call.isSend →
        ∃ data, Contract.dataOf signature arguments = .ok data ∧ call.data? = some (Rpc.bytesText data) := by
  cases encoded : Contract.dataOf signature arguments with
  | error cause =>
    rw [Contract.transact, encoded, bind_liftM_error]
    refine (trace.beside Session).emits_throw_run ⟨.of_quiet Rpc.quiet_nil, fun call listed => ?_⟩
    cases listed
  | ok data =>
    refine (trace.beside Session).emits_mono (Trace.emits_through_iff.mp
      (Contract.transact_heard (desk.contractAt contract) (desk.transport_heard seen) (.of payer) encoded)) ?_
    rintro log result ⟨events, told, made⟩
    obtain ⟨sending, same⟩ := made.isSending told
    exact ⟨sending, fun call listed send => ⟨data, rfl, same call listed send⟩⟩

theorem deploy_seen (payer : Address) (kind : TokenKind) (bytecode : List UInt8) (params : TokenParams) :
    (trace.beside Session).Emits (desk.transport.deploy (.of payer) kind bytecode params).run
      fun log _ => IsSending payer (some 1) log := by
  refine (trace.beside Session).emits_bind_liftM_run (fun _ _ => .of_quiet Rpc.quiet_nil) fun data _ => ?_
  refine (trace.beside Session).emits_mono (Trace.emits_through_iff.mp
    (Transport.submit_heard (desk.transport_heard seen) (.of payer) none data)) ?_
  rintro log result ⟨events, told, made⟩
  exact (made.isSending told).1

theorem execute_seen (contract : Address) (order : Batch.Order) (plan : Plan) :
    (trace.beside Session).Emits (Batch.execute (Erc20.ledger ⟨desk.contractAt contract⟩) order plan)
      fun log report => ∃ (made : Batch.Run order plan) (events : List TransportEvent), report = made.report ∧
        Told (Erc20.Relays contract) made.calls events ∧ Told (Rpc.Wire desk.settings.rpcUrl) events log := by
  have heard := Erc20.ledger_heard ⟨desk.contractAt contract⟩ (desk.transport_heard seen)
  refine (trace.beside Session).emits_mono (Trace.emits_through_iff.mp
    (Trace.emits_through_iff.mp (Batch.execute_heard heard order plan))) ?_
  rintro log report ⟨events, told, calls, relayed, made, rfl, rfl⟩
  exact ⟨made, events, rfl, relayed, told⟩

theorem execute_isSending (contract : Address) (order : Batch.Order) (plan : Plan) :
    (trace.beside Session).Emits (Batch.execute (Erc20.ledger ⟨desk.contractAt contract⟩) order plan)
      fun log _ => IsSending order.payer none log := by
  refine (trace.beside Session).emits_mono (desk.execute_seen seen contract order plan) ?_
  rintro log report ⟨made, events, rfl, relayed, told⟩
  obtain ⟨funds, asked, paid, requests, submits⟩ := Batch.submits_of_told made relayed
  exact submits.isSending relayed told

end Desk

end TokenDesk
