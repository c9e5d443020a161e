import TokenDesk.Proofs.Rpc.Wire

/-! A client from its first request on.

Whatever a node answers and whatever it is asked for, the requests of a client are
numbered from one. The network is asked for until the node has told it, and never
after that.
-/

set_option autoImplicit false

namespace TokenDesk.Rpc

inductive Operation where
  | balance (account : Address)
  | accounts
  | call (contract : Address) (data : List UInt8)
  | estimateGas (sender : Address) (destination : Option Address) (data : List UInt8)
  | sendTransaction (transaction : Transaction)
  | pendingNonce (account : Address)
  | networkId
  | gasPrice
  | waitForReceipt (tx : TxId)
  | unlockAccount (account : Address) (passphrase : String) (time : Duration)

namespace Operation

def Value : Operation → Type
  | balance _ => Amount
  | accounts => List Address
  | call _ _ => List UInt8
  | estimateGas _ _ _ => UInt64
  | sendTransaction _ => TxId
  | pendingNonce _ => UInt64
  | networkId => ChainId
  | gasPrice => Amount
  | waitForReceipt _ => Receipt
  | unlockAccount _ _ _ => Bool

def method : Operation → String
  | balance _ => "eth_getBalance"
  | accounts => "eth_accounts"
  | call _ _ => "eth_call"
  | estimateGas _ _ _ => "eth_estimateGas"
  | sendTransaction _ => "eth_sendTransaction"
  | pendingNonce _ => "eth_getTransactionCount"
  | networkId => "net_version"
  | gasPrice => "eth_gasPrice"
  | waitForReceipt _ => receiptMethod
  | unlockAccount _ _ _ => "personal_unlockAccount"

def params : Operation → List Json
  | balance account => [.string account.lower, .string "latest"]
  | accounts => []
  | call contract data => [callJson contract data, .string "pending"]
  | estimateGas sender destination data => [estimateJson sender destination data]
  | sendTransaction transaction => [transactionJson transaction]
  | pendingNonce account => [.string account.lower, .string "pending"]
  | networkId => []
  | gasPrice => []
  | waitForReceipt tx => [.string tx.hex]
  | unlockAccount account passphrase time => [.string account.lower, .string passphrase, .nat time.seconds]

theorem eq_networkId_of_method {operation : Operation} (same : operation.method = "net_version") :
    operation = networkId := by
  cases operation with
  | networkId => rfl
  | _ => simp [method, receiptMethod] at same

end Operation

theorem method_of_request_eq {id other : UInt64} {method name : String} {params more : List Json}
    (same : request id method params = request other name more) : method = name := by
  simp only [request, Json.object.injEq, List.cons.injEq, Prod.mk.injEq, Json.string.injEq, true_and] at same
  exact same.1

/-- Requests whose ids count on from one of them. -/
inductive Numbered : (next : UInt64) → List Json → (after : UInt64) → Prop where
  | nil {next : UInt64} : Numbered next [] next
  | cons {next after : UInt64} {bodies : List Json} (method : String) (params : List Json) :
      Numbered (next + 1) bodies after → Numbered next (request next method params :: bodies) after

theorem Numbered.append {next middle after : UInt64} {bodies more : List Json} (numbered : Numbered next bodies middle)
    (later : Numbered middle more after) : Numbered next (bodies ++ more) after := by
  induction numbered with
  | nil => exact later
  | cons method params _ ih => exact .cons method params (ih later)

theorem Numbered.getElem? {next after : UInt64} {bodies : List Json} (numbered : Numbered next bodies after)
    {index : Nat} {body : Json} (here : bodies[index]? = some body) :
    ∃ method params, body = request (next + .ofNat index) method params := by
  induction numbered generalizing index with
  | nil => cases here
  | cons method params _ ih =>
    cases index with
    | zero =>
      cases here
      exact ⟨method, params, congrArg (request · method params) (UInt64.add_zero _).symm⟩
    | succ index =>
      obtain ⟨method, params, rfl⟩ := ih here
      exact ⟨method, params, by rw [UInt64.ofNat_add, UInt64.add_assoc, UInt64.add_comm 1]; rfl⟩

/-- Requests for one method, and pauses between them. -/
inductive Sends (url method : String) (params : List Json) :
    (next : UInt64) → List HostEvent → (after : UInt64) → Prop where
  | nil {next : UInt64} : Sends url method params next [] next
  | posted {next after : UInt64} {rest : List HostEvent} (reply : Except String HttpReply) :
      Sends url method params (next + 1) rest after →
        Sends url method params next (.posted url (request next method params) reply :: rest) after
  | slept {next after : UInt64} {rest : List HostEvent} (time : Duration) : Sends url method params next rest after →
      Sends url method params next (.slept time :: rest) after

end Rpc

def HostEvent.body? : HostEvent → Option Json
  | posted _ body _ => some body
  | _ => none

namespace Rpc

namespace Sends

variable {url method : String} {params : List Json} {next middle after : UInt64} {log more : List HostEvent}

theorem append (sends : Sends url method params next log middle) (later : Sends url method params middle more after) :
    Sends url method params next (log ++ more) after := by
  induction sends with
  | nil => exact later
  | posted reply _ ih => exact .posted reply (ih later)
  | slept time _ ih => exact .slept time (ih later)

theorem numbered (sends : Sends url method params next log after) :
    Numbered next (log.filterMap HostEvent.body?) after := by
  induction sends with
  | nil => exact .nil
  | posted reply _ ih => exact .cons method params ih
  | slept time _ ih => exact ih

theorem eq_of_posted (sends : Sends url method params next log after) {address : String} {body : Json}
    {reply : Except String HttpReply} (made : .posted address body reply ∈ log) :
    address = url ∧ ∃ id, body = request id method params := by
  induction sends with
  | nil => cases made
  | posted other _ ih =>
    rcases List.mem_cons.mp made with here | later
    · cases here
      exact ⟨rfl, _, rfl⟩
    · exact ih later
  | slept time _ ih =>
    rcases List.mem_cons.mp made with here | later
    · cases here
    · exact ih later

end Sends

section
variable {m : Type → Type} [Monad m] {trace : Trace m HostEvent} {α β ε : Type}

/-- All that the computation sends are requests for one method, and it leaves the network alone. -/
def IsNumbered (trace : Trace m HostEvent) (url method : String) (params : List Json)
    (x : ExceptT ε (Requests m) α) : Prop :=
  ∀ session : Session, trace.Emits (x.run.run session) fun log outcome =>
    Sends url method params session.nextId log outcome.2.nextId ∧ outcome.2.network = session.network

namespace IsNumbered

variable {url method : String} {params : List Json}

theorem of_result (result : Except ε α) :
    IsNumbered trace url method params (liftM result : ExceptT ε (Requests m) α) :=
  fun _ => trace.emits_pure ⟨.nil, rfl⟩

theorem bind {first : ExceptT ε (Requests m) α} {next : α → ExceptT ε (Requests m) β}
    (numbered : IsNumbered trace url method params first)
    (others : ∀ value, IsNumbered trace url method params (next value)) :
    IsNumbered trace url method params (first >>= next) := by
  intro session
  rw [ExceptT.run_bind, StateT.run_bind]
  refine trace.emits_bind (numbered session) fun log outcome sent => ?_
  obtain ⟨answer, middle⟩ := outcome
  obtain ⟨sends, kept⟩ := sent
  cases answer with
  | error cause =>
    apply trace.emits_pure
    rw [List.append_nil]
    exact ⟨sends, kept⟩
  | ok value =>
    refine trace.emits_mono (others value middle) fun more outcome later => ?_
    exact ⟨sends.append later.1, later.2.trans kept⟩

end IsNumbered

variable [LawfulMonad m] (client : Client m)

theorem run_liftM_bind (x : Requests m α) (next : α → ExceptT ε (Requests m) β) (session : Session) :
    ((liftM x : ExceptT ε (Requests m) α) >>= next).run.run session =
      x.run session >>= fun outcome => (next outcome.1).run.run outcome.2 := by
  change StateT.run (ExceptT.run (ExceptT.lift x >>= next)) session = _
  rw [ExceptT.run_bind, ExceptT.run_lift, StateT.run_bind, StateT.run_map, bind_map_left]

theorem run_liftM (x : m α) (session : Session) :
    (liftM x : Requests m α).run session = (fun value => (value, session)) <$> x := by
  change (StateT.lift x).run session = _
  rw [StateT.run_lift, map_eq_pure_bind]

theorem liftM_bind (result : Except ε α) (next : α → Except ε β) :
    ((liftM result : ExceptT ε m α) >>= fun value => liftM (next value)) = liftM (result >>= next) := by
  cases result with
  | error cause => exact bind_liftM_error cause _
  | ok value => exact bind_liftM_ok value _

namespace Client

theorem ask_from (seen : client.web.IsSeen trace) (method : String) (params : List Json) (session : Session) :
    trace.Emits ((client.ask method params).run.run session) fun log outcome =>
      ∃ reply, log = [.posted client.url (request session.nextId method params) reply] ∧
        outcome = (answerOf reply, { session with nextId := session.nextId + 1 }) := by
  have taken : (takeId : Requests m UInt64).run session =
      pure (session.nextId, { session with nextId := session.nextId + 1 }) := rfl
  rw [ask, run_liftM_bind, taken, pure_bind]
  change trace.Emits (((liftM (liftM (client.web.post client.url (request session.nextId method params)) :
    Requests m (Except String HttpReply)) : ExceptT TransportError (Requests m) _) >>= _).run.run _) _
  rw [run_liftM_bind, run_liftM, bind_map_left]
  apply trace.emits_bind (seen.post _ _)
  rintro _ reply rfl
  simp only [liftM_bind]
  apply trace.emits_pure
  exact ⟨reply, rfl, rfl⟩

theorem askText_from (seen : client.web.IsSeen trace) (method : String) (params : List Json)
    (read : String → Except Fault α) (session : Session) :
    trace.Emits ((client.askText method params read).run.run session) fun log outcome =>
      ∃ reply, log = [.posted client.url (request session.nextId method params) reply] ∧
        outcome = (textOf method read reply, { session with nextId := session.nextId + 1 }) := by
  rw [askText, ExceptT.run_bind, StateT.run_bind]
  apply trace.emits_bind (client.ask_from seen method params session)
  rintro _ _ ⟨reply, rfl, rfl⟩
  cases answer : answerOf reply with
  | error cause =>
    apply trace.emits_pure
    exact ⟨reply, rfl, by rw [textOf, answer]; rfl⟩
  | ok json =>
    cases json with
    | string text =>
      apply trace.emits_pure
      exact ⟨reply, rfl, by rw [textOf, answer]; rfl⟩
    | _ =>
      apply trace.emits_pure
      exact ⟨reply, rfl, by rw [textOf, answer]; rfl⟩

theorem ask_numbered (seen : client.web.IsSeen trace) (method : String) (params : List Json) :
    IsNumbered trace client.url method params (client.ask method params) := by
  intro session
  refine trace.emits_mono (client.ask_from seen method params session) ?_
  rintro _ _ ⟨reply, rfl, rfl⟩
  exact ⟨.posted reply .nil, rfl⟩

theorem askText_numbered (seen : client.web.IsSeen trace) (method : String) (params : List Json)
    (read : String → Except Fault α) :
    IsNumbered trace client.url method params (client.askText method params read) := by
  intro session
  refine trace.emits_mono (client.askText_from seen method params read session) ?_
  rintro _ _ ⟨reply, rfl, rfl⟩
  exact ⟨.posted reply .nil, rfl⟩

theorem accounts_numbered (seen : client.web.IsSeen trace) :
    IsNumbered trace client.url "eth_accounts" [] client.accounts := by
  apply IsNumbered.bind (client.ask_numbered seen _ _)
  intro json
  cases json with
  | array items => exact .of_result ((items.mapM addressOf).mapError invalid)
  | _ => exact .of_result (.error _)

theorem unlockAccount_numbered (seen : client.web.IsSeen trace) (account : Address) (passphrase : String)
    (time : Duration) :
    IsNumbered trace client.url "personal_unlockAccount"
      [.string account.lower, .string passphrase, .nat time.seconds]
      (client.unlockAccount account passphrase time) := by
  apply IsNumbered.bind (client.ask_numbered seen _ _)
  intro json
  cases json with
  | bool unlocked => exact .of_result (.ok unlocked)
  | _ => exact .of_result (.error _)

theorem sleep_numbered (seen : client.web.IsSeen trace) (method : String) (params : List Json) :
    IsNumbered trace client.url method params
      (liftM (client.web.sleep client.pollInterval) : ExceptT ε (Requests m) Unit) := by
  intro session
  change trace.Emits ((ExceptT.lift (liftM (client.web.sleep client.pollInterval) : Requests m Unit)).run.run session) _
  rw [ExceptT.run_lift, StateT.run_map, run_liftM, Functor.map_map]
  refine trace.emits_map (trace.emits_mono (seen.sleep _) ?_)
  rintro _ _ rfl
  exact ⟨.slept _ .nil, rfl⟩

theorem pollReceipt_numbered (seen : client.web.IsSeen trace) (tx : TxId) (deadline clock : Nat) :
    IsNumbered trace client.url receiptMethod [.string tx.hex] (client.pollReceipt tx deadline clock) := by
  induction clock using Client.pollReceipt.induct client deadline with
  | case1 clock ih =>
    rw [pollReceipt]
    apply IsNumbered.bind (client.ask_numbered seen _ _)
    intro json
    cases json with
    | null =>
      by_cases late : deadline ≤ clock
      · simp only [if_pos late]
        exact .of_result (.error _)
      · simp only [if_neg late]
        exact IsNumbered.bind (client.sleep_numbered seen _ _) fun _ => ih late
    | _ => exact .of_result ((parseReceipt tx _).mapError invalid)

theorem networkId_known (nextId : UInt64) (chain : ChainId) :
    trace.Emits (client.networkId.run.run ⟨nextId, some chain⟩) fun log outcome =>
      log = [] ∧ outcome = (.ok chain, ⟨nextId, some chain⟩) := by
  change trace.Emits (((liftM (get : Requests m Session) : ExceptT TransportError (Requests m) Session) >>= _).run.run
    _) _
  rw [run_liftM_bind, StateT.run_get, pure_bind]
  exact trace.emits_pure ⟨rfl, rfl⟩

theorem networkId_unknown (seen : client.web.IsSeen trace) (nextId : UInt64) :
    trace.Emits (client.networkId.run.run ⟨nextId, none⟩) fun log outcome =>
      ∃ reply, log = [.posted client.url (request nextId "net_version" []) reply] ∧
        outcome = (textOf "net_version" parseNetworkVersion reply,
          ⟨nextId + 1, (textOf "net_version" parseNetworkVersion reply).toOption⟩) := by
  change trace.Emits (((liftM (get : Requests m Session) : ExceptT TransportError (Requests m) Session) >>= _).run.run
    _) _
  rw [run_liftM_bind, StateT.run_get, pure_bind]
  dsimp only
  rw [ExceptT.run_bind, StateT.run_bind]
  apply trace.emits_bind (client.askText_from seen _ _ _ _)
  rintro _ _ ⟨reply, rfl, rfl⟩
  cases answer : textOf "net_version" parseNetworkVersion reply with
  | error cause =>
    apply trace.emits_pure
    exact ⟨reply, rfl, by rw [answer]; rfl⟩
  | ok chain =>
    change trace.Emits (((liftM (modify fun session : Session => { session with network := some chain } :
      Requests m PUnit) : ExceptT TransportError (Requests m) PUnit) >>= _).run.run _) _
    rw [run_liftM_bind, StateT.run_modify, pure_bind]
    apply trace.emits_pure
    exact ⟨reply, rfl, by rw [answer]; rfl⟩

def perform (client : Client m) : (operation : Operation) → ExceptT TransportError (Requests m) operation.Value
  | .balance account => client.balance account
  | .accounts => client.accounts
  | .call contract data => client.transport.call contract data
  | .estimateGas sender destination data => client.transport.estimateGas sender destination data
  | .sendTransaction transaction => client.transport.sendTransaction transaction
  | .pendingNonce account => client.transport.pendingNonce account
  | .networkId => client.transport.networkId
  | .gasPrice => client.transport.gasPrice
  | .waitForReceipt tx => client.transport.waitForReceipt tx
  | .unlockAccount account passphrase time => client.transport.unlockAccount account passphrase time

theorem perform_numbered (seen : client.web.IsSeen trace) {operation : Operation} (other : operation ≠ .networkId) :
    IsNumbered trace client.url operation.method operation.params (client.perform operation) := by
  cases operation with
  | balance account => exact client.askText_numbered seen _ _ _
  | accounts => exact client.accounts_numbered seen
  | call contract data => exact client.askText_numbered seen _ _ _
  | estimateGas sender destination data => exact client.askText_numbered seen _ _ _
  | sendTransaction transaction => exact client.askText_numbered seen _ _ _
  | pendingNonce account => exact client.askText_numbered seen _ _ _
  | networkId => exact absurd rfl other
  | gasPrice => exact client.askText_numbered seen _ _ _
  | waitForReceipt tx => exact client.pollReceipt_numbered seen tx _ 0
  | unlockAccount account passphrase time => exact client.unlockAccount_numbered seen account passphrase time

end Client

end

/-! The life of a client. -/

/-- An operation with its answer, and what was seen of the web meanwhile. -/
structure Performed where
  operation : Operation
  answer : Except TransportError operation.Value
  log : List HostEvent

def Performed.chain? : Performed → Option ChainId
  | ⟨.networkId, answer, _⟩ => answer.toOption
  | _ => none

theorem Performed.chain?_of_other {operation : Operation} (other : operation ≠ .networkId)
    (answer : Except TransportError operation.Value) (log : List HostEvent) :
    Performed.chain? ⟨operation, answer, log⟩ = none := by
  cases operation with
  | networkId => exact absurd rfl other
  | _ => rfl

def chainIn (performed : List Performed) : Option ChainId :=
  performed.findSome? Performed.chain?

theorem chainIn_cons (first : Performed) (rest : List Performed) :
    chainIn (first :: rest) = first.chain?.or (chainIn rest) := by
  rw [chainIn, List.findSome?_cons]
  cases first.chain? <;> rfl

def bodies (performed : List Performed) : List Json :=
  performed.flatMap fun each => each.log.filterMap HostEvent.body?

variable {σ : Type}

namespace Client

def recorded (client : Client (StateM σ)) : Client (StateT (List HostEvent) (StateM σ)) :=
  { web := client.web.recorded, url := client.url, pollInterval := client.pollInterval,
    pollInterval_pos := client.pollInterval_pos, confirmationTimeout := client.confirmationTimeout }

def observe (client : Client (StateM σ)) (operation : Operation) (session : Session) (state : σ) :
    Performed × Session × σ :=
  let outcome := (((client.recorded.perform operation).run.run session).run []).run state
  (⟨operation, outcome.1.1.1, outcome.1.2⟩, outcome.1.1.2, outcome.2)

def history (client : Client (StateM σ)) : List Operation → Session → σ → List Performed × Session
  | [], session, _ => ([], session)
  | operation :: rest, session, state =>
    let first := client.observe operation session state
    let others := client.history rest first.2.1 first.2.2
    (first.1 :: others.1, others.2)

end Client

inductive Step (url : String) : Session → Performed → Session → Prop where
  | asked {before after : Session} {operation : Operation} {answer : Except TransportError operation.Value}
      {log : List HostEvent} (other : operation ≠ .networkId)
      (sends : Sends url operation.method operation.params before.nextId log after.nextId)
      (kept : after.network = before.network) : Step url before ⟨operation, answer, log⟩ after
  | known {before : Session} {chain : ChainId} (remembered : before.network = some chain) :
      Step url before ⟨.networkId, .ok chain, []⟩ before
  | unknown {before : Session} (forgotten : before.network = none) (reply : Except String HttpReply) :
      Step url before
        ⟨.networkId, textOf "net_version" parseNetworkVersion reply,
          [.posted url (request before.nextId "net_version" []) reply]⟩
        ⟨before.nextId + 1, (textOf "net_version" parseNetworkVersion reply).toOption⟩

inductive Steps (url : String) : Session → List Performed → Session → Prop where
  | nil {session : Session} : Steps url session [] session
  | cons {before middle after : Session} {first : Performed} {rest : List Performed} :
      Step url before first middle → Steps url middle rest after → Steps url before (first :: rest) after

theorem Client.observe_of_emits (client : Client (StateM σ)) {operation : Operation} {session : Session}
    {P : List HostEvent → Except TransportError operation.Value × Session → Prop}
    (emits : (Trace.journal HostEvent σ).Emits ((client.recorded.perform operation).run.run session) P) (state : σ) :
    ∃ answer log after last, client.observe operation session state = (⟨operation, answer, log⟩, after, last) ∧
      P log (answer, after) := by
  obtain ⟨log, outcome, last, ran, holds⟩ := emits [] state
  refine ⟨outcome.1, log, outcome.2, last, ?_, holds⟩
  unfold observe
  rw [ran]
  rfl

theorem Client.observe_networkId (client : Client (StateM σ)) {session : Session}
    {P : List HostEvent → Except TransportError ChainId × Session → Prop}
    (emits : (Trace.journal HostEvent σ).Emits (client.recorded.networkId.run.run session) P) (state : σ) :
    ∃ answer log after last,
      client.observe .networkId session state = (⟨.networkId, answer, log⟩, after, last) ∧ P log (answer, after) :=
  @observe_of_emits σ client .networkId session P emits state

theorem Client.observe_step (client : Client (StateM σ)) (operation : Operation) (session : Session) (state : σ) :
    ∃ performed after last, client.observe operation session state = (performed, after, last) ∧
      performed.operation = operation ∧ Step client.url session performed after := by
  have seen : client.recorded.web.IsSeen (.journal HostEvent σ) := client.web.recorded_seen
  by_cases network : operation = .networkId
  · subst network
    obtain ⟨nextId, _ | chain⟩ := session
    · obtain ⟨answer, log, after, last, ran, reply, rfl, same⟩ :=
        client.observe_networkId (client.recorded.networkId_unknown seen nextId) state
      cases same
      exact ⟨_, _, _, ran, rfl, .unknown rfl reply⟩
    · obtain ⟨answer, log, after, last, ran, rfl, same⟩ :=
        client.observe_networkId (client.recorded.networkId_known nextId chain) state
      cases same
      exact ⟨_, _, _, ran, rfl, .known rfl⟩
  · obtain ⟨answer, log, after, last, ran, sends, kept⟩ :=
      client.observe_of_emits (client.recorded.perform_numbered seen network session) state
    exact ⟨_, _, _, ran, rfl, .asked network sends kept⟩

theorem Client.history_steps (client : Client (StateM σ)) (operations : List Operation) (session : Session)
    (state : σ) :
    (client.history operations session state).1.map Performed.operation = operations ∧
      Steps client.url session (client.history operations session state).1
        (client.history operations session state).2 := by
  induction operations generalizing session state with
  | nil => exact ⟨rfl, .nil⟩
  | cons operation rest ih =>
    obtain ⟨performed, middle, next, ran, same, step⟩ := client.observe_step operation session state
    obtain ⟨others, steps⟩ := ih middle next
    rw [history, ran]
    exact ⟨congrArg₂ List.cons same others, .cons step steps⟩

/-! What all lives have in common. -/

section
variable {url : String} {before after : Session}

theorem Step.numbered {performed : Performed} (step : Step url before performed after) :
    Numbered before.nextId (performed.log.filterMap HostEvent.body?) after.nextId := by
  cases step with
  | asked other sends kept => exact sends.numbered
  | known remembered => exact .nil
  | unknown forgotten reply => exact .cons _ _ .nil

theorem Step.network {performed : Performed} (step : Step url before performed after) :
    after.network = before.network.or performed.chain? := by
  cases step with
  | asked other sends kept => rw [Performed.chain?_of_other other, Option.or_none, kept]
  | known remembered => rw [remembered, Option.some_or]
  | unknown forgotten reply =>
    rw [forgotten, Option.none_or]
    rfl

theorem Step.eq_of_posted {performed : Performed} (step : Step url before performed after) {address : String}
    {body : Json} {reply : Except String HttpReply} (made : .posted address body reply ∈ performed.log) :
    address = url ∧ ∃ id, body = request id performed.operation.method performed.operation.params := by
  cases step with
  | asked other sends kept => exact sends.eq_of_posted made
  | known remembered => cases made
  | unknown forgotten reply =>
    cases List.mem_singleton.mp made
    exact ⟨rfl, before.nextId, rfl⟩

theorem Step.networkId_cases {performed : Performed} (step : Step url before performed after)
    (network : performed.operation = .networkId) :
    (before.network = none ∧ ∃ reply, performed = ⟨.networkId, textOf "net_version" parseNetworkVersion reply,
      [.posted url (request before.nextId "net_version" []) reply]⟩) ∨
    ∃ chain, before.network = some chain ∧ performed = ⟨.networkId, .ok chain, []⟩ := by
  cases step with
  | asked other sends kept => exact absurd network other
  | known remembered => exact .inr ⟨_, remembered, rfl⟩
  | unknown forgotten reply => exact .inl ⟨forgotten, reply, rfl⟩

theorem Step.asks_network_iff {performed : Performed} (step : Step url before performed after) :
    (∃ address id params reply, .posted address (request id "net_version" params) reply ∈ performed.log) ↔
      performed.operation = .networkId ∧ before.network = none := by
  constructor
  · rintro ⟨address, id, params, reply, made⟩
    obtain ⟨-, other, same⟩ := step.eq_of_posted made
    have network : performed.operation = .networkId :=
      Operation.eq_networkId_of_method (method_of_request_eq same).symm
    rcases step.networkId_cases network with ⟨forgotten, -⟩ | ⟨chain, -, rfl⟩
    · exact ⟨network, forgotten⟩
    · cases made
  · rintro ⟨network, forgotten⟩
    rcases step.networkId_cases network with ⟨-, reply, rfl⟩ | ⟨chain, remembered, -⟩
    · exact ⟨url, before.nextId, [], reply, List.mem_singleton.mpr rfl⟩
    · cases forgotten.symm.trans remembered

theorem Steps.numbered {performed : List Performed} (steps : Steps url before performed after) :
    Numbered before.nextId (bodies performed) after.nextId := by
  induction steps with
  | nil => exact .nil
  | cons step _ ih => exact step.numbered.append ih

theorem Steps.network {performed : List Performed} (steps : Steps url before performed after) :
    after.network = before.network.or (chainIn performed) := by
  induction steps with
  | nil => exact Option.or_none.symm
  | cons step _ ih => rw [ih, step.network, chainIn_cons, Option.or_assoc]

theorem Steps.step_at {performed : List Performed} (steps : Steps url before performed after) {index : Nat}
    {each : Performed} (here : performed[index]? = some each) :
    ∃ session next, Step url session each next ∧
      session.network = before.network.or (chainIn (performed.take index)) := by
  induction steps generalizing index with
  | nil => cases here
  | cons step _ ih =>
    cases index with
    | zero =>
      cases here
      exact ⟨_, _, step, Option.or_none.symm⟩
    | succ index =>
      obtain ⟨session, next, later, known⟩ := ih here
      refine ⟨session, next, later, ?_⟩
      rw [known, step.network, List.take_succ_cons, chainIn_cons, Option.or_assoc]

end

/-- What a client does over its life. The chain that is known before an operation is that of the first
success before it. -/
structure IsLife (url : String) (performed : List Performed) (last : Session) : Prop where
  ids_eq : ∀ index body, (bodies performed)[index]? = some body →
    ∃ method params, body = request (.ofNat (index + 1)) method params
  requests_eq : ∀ each ∈ performed, ∀ address body reply, .posted address body reply ∈ each.log →
    address = url ∧ ∃ id, body = request id each.operation.method each.operation.params
  network_asked_iff : ∀ index each, performed[index]? = some each →
    ((∃ address id params reply, .posted address (request id "net_version" params) reply ∈ each.log) ↔
      each.operation = .networkId ∧ chainIn (performed.take index) = none)
  network_of_unknown : ∀ index each, performed[index]? = some each → each.operation = .networkId →
    chainIn (performed.take index) = none → ∃ id reply,
      each = ⟨.networkId, textOf "net_version" parseNetworkVersion reply,
        [.posted url (request id "net_version" []) reply]⟩
  network_of_known : ∀ index each chain, performed[index]? = some each → each.operation = .networkId →
    chainIn (performed.take index) = some chain → each = ⟨.networkId, .ok chain, []⟩
  remembered : last.network = chainIn performed

theorem Steps.isLife {url : String} {performed : List Performed} {last : Session}
    (steps : Steps url {} performed last) : IsLife url performed last where
  -- A new client counts from one, and the first request has the index zero.
  ids_eq index body here := by
    rw [Nat.add_comm, UInt64.ofNat_add]
    exact steps.numbered.getElem? here
  requests_eq each listed address body reply made := by
    obtain ⟨index, here⟩ := List.mem_iff_getElem?.mp listed
    obtain ⟨session, next, step, -⟩ := steps.step_at here
    exact step.eq_of_posted made
  network_asked_iff index each here := by
    obtain ⟨session, next, step, known⟩ := steps.step_at here
    rw [step.asks_network_iff, known, Option.none_or]
  network_of_unknown index each here network unknown := by
    obtain ⟨session, next, step, known⟩ := steps.step_at here
    rw [unknown] at known
    rcases step.networkId_cases network with ⟨-, reply, same⟩ | ⟨chain, remembered, -⟩
    · exact ⟨session.nextId, reply, same⟩
    · cases known.symm.trans remembered
  network_of_known index each chain here network found := by
    obtain ⟨session, next, step, known⟩ := steps.step_at here
    rw [found] at known
    rcases step.networkId_cases network with ⟨forgotten, -⟩ | ⟨chain, remembered, same⟩
    · cases known.symm.trans forgotten
    · cases known.symm.trans remembered
      exact same
  remembered := by rw [steps.network, Option.none_or]

/-- Whatever is asked of a client and whatever the node answers. -/
theorem Client.history_isLife (client : Client (StateM σ)) (operations : List Operation) (state : σ) :
    (client.history operations {} state).1.map Performed.operation = operations ∧
      IsLife client.url (client.history operations {} state).1 (client.history operations {} state).2 := by
  obtain ⟨same, steps⟩ := client.history_steps operations {} state
  exact ⟨same, steps.isLife⟩

end TokenDesk.Rpc
