import TokenDesk.Proofs.Json.Members
import TokenDesk.Proofs.Rpc.Wire

/-! The calls of a node that are seen on the web.

Only unlocking an account and sending a transaction ask a node to do something.
What is seen of the events of a transport is quiet otherwise.
-/

set_option autoImplicit false

namespace TokenDesk

namespace Rpc

/-- A request to a node, as its body has it, and what came back. -/
structure Call where
  method : String
  params : List Json
  reply : Except String HttpReply

namespace Call

def isSend (call : Call) : Bool :=
  call.method = "eth_sendTransaction"

def isUnlock (call : Call) : Bool :=
  call.method = "personal_unlockAccount"

def field? (call : Call) (name : String) : Option String :=
  call.params.head?.bind (Json.member? name) |>.bind text?

def sender? (call : Call) : Option String :=
  call.field? "from"

def data? (call : Call) : Option String :=
  call.field? "data"

/-- The request unlocks the account, and the node says that it did. -/
def Unlocks (call : Call) (account : Address) : Prop :=
  call.isUnlock ∧ call.params.head? = some (.string account.lower) ∧ unlockedOf call.reply = .ok true

/-- The request reads a contract, whose output has this value. -/
def Reads {α : Type} (call : Call) (contract : Address) (signature : String) (arguments : List Abi.Argument)
    (read : List UInt8 → Except Abi.Error α) (value : α) : Prop :=
  ∃ data, Contract.dataOf signature arguments = .ok data ∧ call.method = "eth_call" ∧
    call.params = [callJson contract data, .string "pending"] ∧
    Contract.reading read (textOf "eth_call" parseBytes call.reply) = .ok value

end Call

end Rpc

def HostEvent.call? : HostEvent → Option Rpc.Call
  | posted _ body reply =>
    match body.member? "method", body.member? "params" with
    | some (.string method), some (.array params) => some { method, params, reply }
    | _, _ => none
  | _ => none

namespace Rpc

def calls (log : List HostEvent) : List Call :=
  log.filterMap HostEvent.call?

@[simp] theorem calls_append (log more : List HostEvent) : calls (log ++ more) = calls log ++ calls more :=
  List.filterMap_append

@[simp] theorem calls_said (lines : List String) : calls (lines.map .said) = [] := by
  induction lines with
  | nil => rfl
  | cons line rest ih => exact ih

/-- A contract is read somewhere in the log, and its output has this value. -/
def IsRead {α : Type} (contract : Address) (signature : String) (arguments : List Abi.Argument)
    (read : List UInt8 → Except Abi.Error α) (value : α) (log : List HostEvent) : Prop :=
  ∃ call ∈ calls log, call.Reads contract signature arguments read value

theorem IsRead.append {α : Type} {contract : Address} {signature : String} {arguments : List Abi.Argument}
    {read : List UInt8 → Except Abi.Error α} {value : α} {log more : List HostEvent}
    (known : IsRead contract signature arguments read value log ∨ IsRead contract signature arguments read value more) :
    IsRead contract signature arguments read value (log ++ more) := by
  rw [IsRead, calls_append]
  rcases known with ⟨call, listed, reads⟩ | ⟨call, listed, reads⟩
  · exact ⟨call, List.mem_append_left _ listed, reads⟩
  · exact ⟨call, List.mem_append_right _ listed, reads⟩

theorem Posts.calls_eq {url method : String} {params : List Json} {reply : Except String HttpReply}
    {part : List HostEvent} (posts : Posts url method params reply part) :
    calls part = [{ method, params, reply }] := by
  obtain ⟨id, rfl⟩ := posts
  rfl

theorem Posts.printed_eq_nil {url method : String} {params : List Json} {reply : Except String HttpReply}
    {part : List HostEvent} (posts : Posts url method params reply part) : printed part = [] := by
  obtain ⟨id, rfl⟩ := posts
  rfl

def sendCall (transaction : Transaction) (reply : Except String HttpReply) : Call where
  method := "eth_sendTransaction"
  params := [transactionJson transaction]
  reply := reply

section
variable (transaction : Transaction) (reply : Except String HttpReply)

@[simp] theorem sender?_sendCall : (sendCall transaction reply).sender? = some transaction.sender.lower := by
  change ((transactionJson transaction).member? "from").bind text? = _
  rw [transactionJson, Json.member?_objectOf]
  cases transaction.destination <;> cases transaction.nonce <;> rfl

@[simp] theorem data?_sendCall : (sendCall transaction reply).data? = some (bytesText transaction.data) := by
  change ((transactionJson transaction).member? "data").bind text? = _
  rw [transactionJson, Json.member?_objectOf]
  cases transaction.destination <;> cases transaction.nonce <;> rfl

end

/-- Nothing here asks the node to do anything. -/
def Quiet (log : List HostEvent) : Prop :=
  ∀ call ∈ calls log, call.isSend = false ∧ call.isUnlock = false

@[simp] theorem quiet_nil : Quiet [] := fun _ listed => by cases listed

theorem quiet_of_calls_eq_nil {log : List HostEvent} (none_made : calls log = []) : Quiet log := by
  intro call listed
  rw [none_made] at listed
  cases listed

theorem countP_isSend_eq_zero {log : List HostEvent} (sends_nothing : ∀ call ∈ calls log, call.isSend = false) :
    (calls log).countP Call.isSend = 0 := by
  apply List.countP_eq_zero.mpr
  intro call listed
  simp [sends_nothing call listed]

theorem Quiet.not_isSend {log : List HostEvent} {call : Call} (quiet : Quiet log) (listed : call ∈ calls log) :
    ¬ call.isSend := by
  simp [(quiet call listed).1]

theorem Quiet.append {log more : List HostEvent} (first : Quiet log) (second : Quiet more) : Quiet (log ++ more) := by
  intro call listed
  rw [calls_append, List.mem_append] at listed
  exact listed.elim (first call) (second call)

structure IsSilent (log : List HostEvent) : Prop where
  quiet : Quiet log
  prints_nothing : printed log = []

theorem IsSilent.nil : IsSilent [] :=
  ⟨quiet_nil, rfl⟩

theorem IsSilent.append {log more : List HostEvent} (first : IsSilent log) (second : IsSilent more) :
    IsSilent (log ++ more) where
  quiet := first.quiet.append second.quiet
  prints_nothing := by
    rw [printed_append, first.prints_nothing, second.prints_nothing]
    rfl

theorem Posts.quiet {url method : String} {params : List Json} {reply : Except String HttpReply}
    {part : List HostEvent} (posts : Posts url method params reply part)
    (harmless : method ≠ "eth_sendTransaction" ∧ method ≠ "personal_unlockAccount") : Quiet part := by
  intro call listed
  rw [posts.calls_eq, List.mem_singleton] at listed
  rw [listed]
  simpa [Call.isSend, Call.isUnlock] using harmless

theorem Polls.quiet {url : String} {tx : TxId} {part : List HostEvent} {answer : Except TransportError Receipt}
    (polls : Polls url tx part answer) : Quiet part := by
  induction polls with
  | failed posts _ => exact posts.quiet (by decide)
  | ended _ posts _ => exact posts.quiet (by decide)
  | given posts _ _ => exact posts.quiet (by decide)
  | @paused part rest _ _ pause posts _ _ ih =>
    have pausing : Quiet [.slept pause] := quiet_of_calls_eq_nil rfl
    exact (posts.quiet (by decide)).append (pausing.append ih)

end Rpc

def TransportEvent.isQuiet : TransportEvent → Bool
  | sendTransaction _ _ => false
  | unlockAccount _ _ _ _ => false
  | _ => true

namespace Rpc

theorem Wire.quiet {url : String} {event : TransportEvent} {part : List HostEvent} (wire : Wire url event part)
    (quiet : event.isQuiet) : Quiet part := by
  cases event with
  | call contract data answer =>
    obtain ⟨reply, -, posts⟩ := wire
    exact posts.quiet (by decide)
  | estimateGas sender destination data answer =>
    obtain ⟨reply, -, posts⟩ := wire
    exact posts.quiet (by decide)
  | sendTransaction transaction answer => cases quiet
  | pendingNonce account answer =>
    obtain ⟨reply, -, posts⟩ := wire
    exact posts.quiet (by decide)
  | networkId answer =>
    rcases wire with ⟨rfl, -⟩ | ⟨reply, -, posts⟩
    · exact quiet_nil
    · exact posts.quiet (by decide)
  | gasPrice answer =>
    obtain ⟨reply, -, posts⟩ := wire
    exact posts.quiet (by decide)
  | waitForReceipt tx answer => exact Polls.quiet wire
  | unlockAccount account passphrase time answer => cases quiet

theorem Polls.printed_eq_nil {url : String} {tx : TxId} {part : List HostEvent} {answer : Except TransportError Receipt}
    (polls : Polls url tx part answer) : printed part = [] := by
  induction polls with
  | failed posts _ => exact posts.printed_eq_nil
  | ended _ posts _ => exact posts.printed_eq_nil
  | given posts _ _ => exact posts.printed_eq_nil
  | paused pause posts _ _ ih =>
    rw [printed_append, posts.printed_eq_nil]
    exact ih

theorem Wire.printed_eq_nil {url : String} {event : TransportEvent} {part : List HostEvent}
    (wire : Wire url event part) : printed part = [] := by
  cases event with
  | waitForReceipt tx answer => exact Polls.printed_eq_nil wire
  | networkId answer =>
    rcases wire with ⟨rfl, -⟩ | ⟨reply, -, posts⟩
    · rfl
    · exact posts.printed_eq_nil
  | _ =>
    obtain ⟨reply, -, posts⟩ := wire
    exact posts.printed_eq_nil

theorem printed_of_told {url : String} {events : List TransportEvent} {log : List HostEvent}
    (told : Told (Wire url) events log) : printed log = [] := by
  induction told with
  | nil => rfl
  | cons wire _ ih => rw [printed_append, wire.printed_eq_nil, ih, List.append_nil]

theorem quiet_of_told {url : String} {events : List TransportEvent} {log : List HostEvent}
    (told : Told (Wire url) events log) (quiet : ∀ event ∈ events, event.isQuiet) : Quiet log := by
  induction told with
  | nil => exact quiet_nil
  | cons wire _ ih =>
    exact (Wire.quiet wire (quiet _ List.mem_cons_self)).append
      (ih fun event listed => quiet event (List.mem_cons_of_mem _ listed))

end Rpc

end TokenDesk
