import TokenDesk.Proofs.Contract.Trace
import TokenDesk.Proofs.Host.Trace
import TokenDesk.Rpc.Client

/-! What is seen of the web when a transport is a client of a node.

A question is one request, whose reply decides the answer. Only the id of the
network may be known already, and a receipt may be asked for many times.
-/

set_option autoImplicit false

namespace TokenDesk.Rpc

def answerOf (reply : Except String HttpReply) : Except TransportError Json :=
  reply.mapError .http >>= resultOf

def textOf {α : Type} (method : String) (read : String → Except Fault α) (reply : Except String HttpReply) :
    Except TransportError α :=
  answerOf reply >>= fun
    | .string text => (read text).mapError invalid
    | other => .error (invalid (.wrongResult method "a string" other))

def unlockedOf (reply : Except String HttpReply) : Except TransportError Bool :=
  answerOf reply >>= fun
    | .bool unlocked => .ok unlocked
    | other => .error (invalid (.wrongResult "personal_unlockAccount" "a bool" other))

def readTxId (text : String) : Except Fault TxId :=
  (TxId.parse text).mapError .badTransaction

def callJson (contract : Address) (data : List UInt8) : Json :=
  Json.objectOf [("to", .string contract.lower), ("data", .string (bytesText data))]

/-- The request for a method was made, and this came back. -/
def Posts (url method : String) (params : List Json) (reply : Except String HttpReply) (part : List HostEvent) : Prop :=
  ∃ id, part = [.posted url (request id method params) reply]

def receiptMethod : String := "eth_getTransactionReceipt"

/-- Requests for a receipt, with pauses as long as there is none. -/
inductive Polls (url : String) (tx : TxId) : List HostEvent → Except TransportError Receipt → Prop where
  | failed {part : List HostEvent} {reply : Except String HttpReply} {cause : TransportError} :
      Posts url receiptMethod [.string tx.hex] reply part → answerOf reply = .error cause →
        Polls url tx part (.error cause)
  | ended {part : List HostEvent} {reply : Except String HttpReply} (waited : Duration) :
      Posts url receiptMethod [.string tx.hex] reply part → answerOf reply = .ok .null →
        Polls url tx part (.error (.timeout tx waited))
  | given {part : List HostEvent} {reply : Except String HttpReply} {json : Json} :
      Posts url receiptMethod [.string tx.hex] reply part → answerOf reply = .ok json → json ≠ .null →
        Polls url tx part ((parseReceipt tx json).mapError invalid)
  | paused {part rest : List HostEvent} {reply : Except String HttpReply} {answer : Except TransportError Receipt}
      (pause : Duration) : Posts url receiptMethod [.string tx.hex] reply part → answerOf reply = .ok .null →
        Polls url tx rest answer → Polls url tx (part ++ .slept pause :: rest) answer

/-- What is seen of the web for one event of a transport. -/
def Wire (url : String) : TransportEvent → List HostEvent → Prop
  | .call contract data answer, part => ∃ reply, answer = textOf "eth_call" parseBytes reply ∧
      Posts url "eth_call" [callJson contract data, .string "pending"] reply part
  | .estimateGas sender destination data answer, part => ∃ reply, answer = textOf "eth_estimateGas" parseWord reply ∧
      Posts url "eth_estimateGas" [estimateJson sender destination data] reply part
  | .sendTransaction transaction answer, part => ∃ reply, answer = textOf "eth_sendTransaction" readTxId reply ∧
      Posts url "eth_sendTransaction" [transactionJson transaction] reply part
  | .pendingNonce account answer, part => ∃ reply, answer = textOf "eth_getTransactionCount" parseWord reply ∧
      Posts url "eth_getTransactionCount" [.string account.lower, .string "pending"] reply part
  | .networkId answer, part => part = [] ∧ answer.isOk ∨
      ∃ reply, answer = textOf "net_version" parseNetworkVersion reply ∧ Posts url "net_version" [] reply part
  | .gasPrice answer, part => ∃ reply, answer = textOf "eth_gasPrice" parseAmount reply ∧
      Posts url "eth_gasPrice" [] reply part
  | .waitForReceipt tx answer, part => Polls url tx part answer
  | .unlockAccount account passphrase time answer, part => ∃ reply, answer = unlockedOf reply ∧
      Posts url "personal_unlockAccount" [.string account.lower, .string passphrase, .nat time.seconds] reply part

variable {m : Type → Type} [Monad m] [LawfulMonad m] {trace : Trace m HostEvent} (client : Client m)

namespace Client

theorem ask_seen (seen : client.web.IsSeen trace) (method : String) (params : List Json) :
    (trace.beside Session).Emits (client.ask method params).run fun events answer =>
      ∃ reply, answer = answerOf reply ∧ Posts client.url method params reply events := by
  have numbered : (trace.beside Session).Emits (takeId : Requests m UInt64) fun events _ => events = [] :=
    fun session => trace.emits_pure rfl
  refine (trace.beside Session).emits_bind_lift_run numbered ?_
  rintro _ id rfl
  refine (trace.beside Session).emits_bind_lift_run (Trace.emits_beside_lift (seen.post _ _)) ?_
  rintro _ reply rfl
  refine (trace.beside Session).emits_bind_liftM_run ?_ ?_
  · intro cause failed
    exact ⟨reply, by rw [answerOf, failed]; rfl, id, rfl⟩
  · intro got replied
    exact (trace.beside Session).emits_liftM_run ⟨reply, by rw [answerOf, replied]; rfl, id, rfl⟩

theorem askText_seen (seen : client.web.IsSeen trace) {α : Type} (method : String) (params : List Json)
    (read : String → Except Fault α) :
    (trace.beside Session).Emits (client.askText method params read).run fun events answer =>
      ∃ reply, answer = textOf method read reply ∧ Posts client.url method params reply events := by
  refine (trace.beside Session).emits_bind_run (client.ask_seen seen method params) ?_ ?_
  · rintro events cause ⟨reply, answer, posts⟩
    exact ⟨reply, by rw [textOf, ← answer]; rfl, posts⟩
  · rintro events json ⟨reply, answer, posts⟩
    rw [← List.append_nil events] at posts
    cases json with
    | string text =>
      exact (trace.beside Session).emits_liftM_run ⟨reply, by rw [textOf, ← answer]; rfl, posts⟩
    | _ => exact (trace.beside Session).emits_throw_run ⟨reply, by rw [textOf, ← answer]; rfl, posts⟩

theorem unlockAccount_seen (seen : client.web.IsSeen trace) (account : Address) (passphrase : String)
    (time : Duration) :
    (trace.beside Session).Emits (client.unlockAccount account passphrase time).run fun events answer =>
      Wire client.url (.unlockAccount account passphrase time answer) events := by
  refine (trace.beside Session).emits_bind_run (client.ask_seen seen _ _) ?_ ?_
  · rintro events cause ⟨reply, answer, posts⟩
    exact ⟨reply, by rw [unlockedOf, ← answer]; rfl, posts⟩
  · rintro events json ⟨reply, answer, posts⟩
    rw [← List.append_nil events] at posts
    cases json with
    | bool unlocked => exact (trace.beside Session).emits_pure_run ⟨reply, by rw [unlockedOf, ← answer]; rfl, posts⟩
    | _ => exact (trace.beside Session).emits_throw_run ⟨reply, by rw [unlockedOf, ← answer]; rfl, posts⟩

theorem networkId_seen (seen : client.web.IsSeen trace) :
    (trace.beside Session).Emits client.networkId.run fun events answer =>
      Wire client.url (.networkId answer) events := by
  have looked : (trace.beside Session).Emits (get : Requests m Session) fun events _ => events = [] :=
    fun session => trace.emits_pure rfl
  have noted (change : Session → Session) :
      (trace.beside Session).Emits (modify change : Requests m PUnit) fun events _ => events = [] :=
    fun session => trace.emits_pure rfl
  refine (trace.beside Session).emits_bind_lift_run looked ?_
  rintro _ ⟨nextId, known⟩ rfl
  -- The node is asked once a session only.
  cases known with
  | some chain => exact (trace.beside Session).emits_pure_run (.inl ⟨rfl, rfl⟩)
  | none =>
    refine (trace.beside Session).emits_bind_run (client.askText_seen seen _ _ _) ?_ ?_
    · rintro events cause ⟨reply, answer, posts⟩
      exact .inr ⟨reply, answer, posts⟩
    · rintro events chain ⟨reply, answer, posts⟩
      refine (trace.beside Session).emits_bind_lift_run (noted _) ?_
      rintro _ _ rfl
      refine (trace.beside Session).emits_pure_run (.inr ⟨reply, answer, ?_⟩)
      simpa using posts

theorem pollReceipt_seen (seen : client.web.IsSeen trace) (tx : TxId) (deadline clock : Nat) :
    (trace.beside Session).Emits (client.pollReceipt tx deadline clock).run fun events answer =>
      Polls client.url tx events answer := by
  -- By the time that is left: each pause takes some of it and comes with one more request.
  induction clock using Client.pollReceipt.induct client deadline with
  | case1 clock ih =>
    rw [pollReceipt]
    refine (trace.beside Session).emits_bind_run (client.ask_seen seen _ _) ?_ ?_
    · rintro events cause ⟨reply, answer, posts⟩
      exact .failed posts answer.symm
    · rintro events json ⟨reply, answer, posts⟩
      cases json with
      | null =>
        by_cases late : deadline ≤ clock
        · rw [← List.append_nil events] at posts
          simp only [if_pos late]
          exact (trace.beside Session).emits_throw_run (.ended _ posts answer.symm)
        · simp only [if_neg late]
          refine (trace.beside Session).emits_bind_lift_run (Trace.emits_beside_lift (seen.sleep _)) ?_
          rintro _ _ rfl
          exact (trace.beside Session).emits_mono (ih late) fun _ _ polls => .paused _ posts answer.symm polls
      | _ =>
        rw [← List.append_nil events] at posts
        exact (trace.beside Session).emits_liftM_run (.given posts answer.symm (by simp))

theorem transport_heard (seen : client.web.IsSeen trace) :
    client.transport.IsHeard ((trace.beside Session).through (Wire client.url)) where
  call _ _ := Trace.through_single (client.askText_seen seen _ _ _)
  estimateGas _ _ _ := Trace.through_single (client.askText_seen seen _ _ _)
  sendTransaction _ := Trace.through_single (client.askText_seen seen _ _ _)
  pendingNonce _ := Trace.through_single (client.askText_seen seen _ _ _)
  networkId := Trace.through_single (client.networkId_seen seen)
  gasPrice := Trace.through_single (client.askText_seen seen _ _ _)
  waitForReceipt tx := Trace.through_single (client.pollReceipt_seen seen tx _ 0)
  unlockAccount account passphrase time := Trace.through_single (client.unlockAccount_seen seen account passphrase time)

end Client

end TokenDesk.Rpc
