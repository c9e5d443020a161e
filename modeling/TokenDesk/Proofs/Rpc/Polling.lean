import Mathlib.Algebra.Order.Floor.Div
import Mathlib.Tactic.IntervalCases
import TokenDesk.Proofs.Rpc.Session

/-! Polling for a receipt until a deadline.

The loop counts nothing. After a poll that found no receipt it compares a clock with
the deadline, and only the pauses move the clock. So it ends, whatever a node replies:
with the first reply that decides, or with the poll at which the clock has reached the
deadline, which still counts.
-/

set_option autoImplicit false

namespace TokenDesk

def HostEvent.pause? : HostEvent → Option Duration
  | slept time => some time
  | _ => none

namespace Rpc

/-- What a reply to a poll decides: the receipt, or why there is none. A node that has no receipt yet
decides nothing. -/
def decided? (tx : TxId) (reply : Except String HttpReply) : Option (Except TransportError Receipt) :=
  match answerOf reply with
  | .error cause => some (.error cause)
  | .ok .null => none
  | .ok json => some ((parseReceipt tx json).mapError invalid)

/-- The response has neither a result nor an error. -/
def IsBlank (response : HttpReply) : Prop :=
  response.isSuccess ∧ ∃ members, Json.readAll? Response.reader response.body = some (.object members) ∧
    once "result" members = some none ∧ (once "error" members).bind errorOf? = some none

def pollEvent (url : String) (tx : TxId) (id : UInt64) (reply : Except String HttpReply) : HostEvent :=
  .posted url (request id receiptMethod [.string tx.hex]) reply

/-- A poll at once, and one more after each pause. -/
def pollLog (url : String) (tx : TxId) (pause : Duration) (id : UInt64) (replies : Nat → Except String HttpReply)
    (pauses : Nat) : List HostEvent :=
  pollEvent url tx id (replies 0) ::
    (List.range pauses).flatMap fun index =>
      [.slept pause, pollEvent url tx (id + .ofNat (index + 1)) (replies (index + 1))]

/-- How the polls end of which at most `limit` come after a pause: after so many pauses and with this answer. -/
inductive Ends (tx : TxId) (timeout : Duration) (limit : Nat) (replies : Nat → Except String HttpReply) :
    (pauses : Nat) → Except TransportError Receipt → Prop where
  | decided {pauses : Nat} {answer : Except TransportError Receipt} : pauses ≤ limit →
      (∀ index < pauses, decided? tx (replies index) = none) → decided? tx (replies pauses) = some answer →
        Ends tx timeout limit replies pauses answer
  | timeout : (∀ index ≤ limit, decided? tx (replies index) = none) →
      Ends tx timeout limit replies limit (.error (.timeout tx timeout))

theorem decided?_of_isBlank {response : HttpReply} (blank : IsBlank response) (tx : TxId) :
    decided? tx (.ok response) = none := by
  obtain ⟨success, members, read, no_result, no_error⟩ := blank
  have parsed : Response.parse response.body = .ok ⟨.null, none⟩ := by
    unfold Response.parse
    rw [read, Option.bind_some]
    obtain ⟨error, given, settled⟩ := Option.bind_eq_some_iff.mp no_error
    simp [Response.ofJson?, no_result, given, settled, Json.settled]
  have answered : answerOf (.ok response) = .ok .null := by
    change resultOf response = _
    unfold resultOf
    simp only [success, not_true_eq_false, if_false, parsed]
    rfl
  simp only [decided?, answered]

theorem next_add_ofNat (id : UInt64) (count : Nat) : id + .ofNat (count + 1) = id + 1 + .ofNat count := by
  rw [UInt64.ofNat_add, UInt64.add_comm (.ofNat count), ← UInt64.add_assoc]
  rfl

theorem pollLog_succ (url : String) (tx : TxId) (pause : Duration) (id : UInt64)
    (replies : Nat → Except String HttpReply) (pauses : Nat) :
    pollLog url tx pause id replies (pauses + 1) =
      pollEvent url tx id (replies 0) :: .slept pause ::
        pollLog url tx pause (id + 1) (fun index => replies (index + 1)) pauses := by
  have shift : (fun index => [HostEvent.slept pause,
      pollEvent url tx (id + .ofNat (index + 1 + 1)) (replies (index + 1 + 1))]) =
      fun index => [HostEvent.slept pause,
        pollEvent url tx (id + 1 + .ofNat (index + 1)) (replies (index + 1 + 1))] := by
    funext index
    rw [next_add_ofNat]
  simp only [pollLog, List.range_succ_eq_map, List.flatMap_cons, List.flatMap_map, shift]
  rfl

theorem length_bodies_pollLog (url : String) (tx : TxId) (pause : Duration) (id : UInt64)
    (replies : Nat → Except String HttpReply) (pauses : Nat) :
    ((pollLog url tx pause id replies pauses).filterMap HostEvent.body?).length = pauses + 1 := by
  induction pauses generalizing id replies with
  | zero => rfl
  | succ pauses ih =>
    rw [pollLog_succ, ← ih (id + 1) fun index => replies (index + 1)]
    rfl

theorem pauses_pollLog (url : String) (tx : TxId) (pause : Duration) (id : UInt64)
    (replies : Nat → Except String HttpReply) (pauses : Nat) :
    (pollLog url tx pause id replies pauses).filterMap HostEvent.pause? = List.replicate pauses pause := by
  induction pauses generalizing id replies with
  | zero => rfl
  | succ pauses ih =>
    rw [pollLog_succ, List.replicate_succ, ← ih (id + 1) fun index => replies (index + 1)]
    rfl

namespace Ends

variable {tx : TxId} {timeout : Duration} {limit pauses : Nat} {replies : Nat → Except String HttpReply}
  {answer : Except TransportError Receipt}

theorem after_pause (undecided : decided? tx (replies 0) = none)
    (ends : Ends tx timeout limit (fun index => replies (index + 1)) pauses answer) :
    Ends tx timeout (limit + 1) replies (pauses + 1) answer := by
  cases ends with
  | decided within before here =>
    apply Ends.decided (Nat.succ_le_succ within) _ here
    intro index earlier
    cases index with
    | zero => exact undecided
    | succ index => exact before index (Nat.lt_of_succ_lt_succ earlier)
  | timeout none_yet =>
    apply Ends.timeout
    intro index within
    cases index with
    | zero => exact undecided
    | succ index => exact none_yet index (Nat.le_of_succ_le_succ within)

theorem eq_of_first {first : Nat} {verdict : Except TransportError Receipt}
    (ends : Ends tx timeout limit replies pauses answer) (within : first ≤ limit)
    (before : ∀ index < first, decided? tx (replies index) = none)
    (here : decided? tx (replies first) = some verdict) : pauses = first ∧ answer = verdict := by
  -- Before its end no reply decides, so neither of the two can come before the other.
  cases ends with
  | decided reached earlier last =>
    rcases Nat.lt_trichotomy pauses first with sooner | same | later
    · have undecided := before pauses sooner
      rw [last] at undecided
      cases undecided
    · subst same
      exact ⟨rfl, Option.some.inj (last.symm.trans here)⟩
    · have undecided := earlier first later
      rw [here] at undecided
      cases undecided
  | timeout none_yet =>
    have undecided := none_yet first within
    rw [here] at undecided
    cases undecided

end Ends

theorem ceilDiv_of_pos {time interval : Nat} (positive : 0 < interval) (left : 0 < time) :
    time ⌈/⌉ interval = (time - interval) ⌈/⌉ interval + 1 := by
  apply eq_of_forall_ge_iff
  intro bound
  rw [ceilDiv_le_iff_le_mul positive]
  cases bound with
  | zero => simp; omega
  | succ bound =>
    rw [Nat.add_le_add_iff_right, ceilDiv_le_iff_le_mul positive, Nat.mul_succ]
    omega

/-! Runs. -/

namespace Client

variable {σ : Type} (client : Client (StateM σ))

def poll (client : Client (StateM σ)) (tx : TxId) (id : UInt64) (state : σ) : Except String HttpReply × σ :=
  (client.web.post client.url (request id receiptMethod [.string tx.hex])).run state

def pause (client : Client (StateM σ)) (state : σ) : σ :=
  ((client.web.sleep client.pollInterval).run state).2

/-- What the node would reply to one poll after another, with a pause before each but the first. -/
def replies (client : Client (StateM σ)) (tx : TxId) : (id : UInt64) → (state : σ) → Nat → Except String HttpReply
  | id, state, 0 => (client.poll tx id state).1
  | id, state, index + 1 => client.replies tx (id + 1) (client.pause (client.poll tx id state).2) index

/-- The loop with the clock at this point, from a session, a log and a state of the web on. -/
def pollFrom (client : Client (StateM σ)) (tx : TxId) (deadline clock : Nat) (session : Session)
    (log : List HostEvent) (state : σ) :
    ((Except TransportError Receipt × Session) × List HostEvent) × σ :=
  (((client.recorded.pollReceipt tx deadline clock).run.run session).run log).run state

theorem run_ask (method : String) (params : List Json) (session : Session) (log : List HostEvent) (state : σ) :
    (((client.recorded.ask method params).run.run session).run log).run state =
      let replied := (client.web.post client.url (request session.nextId method params)).run state
      (((answerOf replied.1, { session with nextId := session.nextId + 1 }),
        log ++ [.posted client.url (request session.nextId method params) replied.1]), replied.2) := by
  have taken : (takeId : Requests (StateT (List HostEvent) (StateM σ)) UInt64).run session =
      pure (session.nextId, { session with nextId := session.nextId + 1 }) := rfl
  rw [ask, run_liftM_bind, taken, pure_bind]
  simp only [liftM_bind]
  rfl

/-- One round of the loop: a poll, and what follows it if it decides nothing. -/
theorem pollFrom_eq (tx : TxId) (deadline clock : Nat) (session : Session) (log : List HostEvent) (state : σ) :
    client.pollFrom tx deadline clock session log state =
      let polled := client.poll tx session.nextId state
      let after : Session := { session with nextId := session.nextId + 1 }
      let logged := log ++ [pollEvent client.url tx session.nextId polled.1]
      match decided? tx polled.1 with
      | some answer => (((answer, after), logged), polled.2)
      | none =>
        if deadline ≤ clock then (((.error (.timeout tx client.confirmationTimeout), after), logged), polled.2)
        else client.pollFrom tx deadline (clock + client.pollInterval.milliseconds) after
          (logged ++ [.slept client.pollInterval]) (client.pause polled.2) := by
  have asked := client.run_ask "eth_getTransactionReceipt" [.string tx.hex] session log state
  dsimp only at asked ⊢
  unfold pollFrom
  rw [pollReceipt, ExceptT.run_bind, StateT.run_bind, StateT.run_bind, StateT.run_bind, asked]
  unfold decided? poll receiptMethod
  cases answerOf ((client.web.post client.url
      (request session.nextId "eth_getTransactionReceipt" [.string tx.hex])).run state).1 with
  | error cause => rfl
  | ok json =>
    cases json with
    | null =>
      dsimp only
      by_cases late : deadline ≤ clock
      · simp only [if_pos late]
        rfl
      · simp only [if_neg late]
        rfl
    | _ => rfl

/-- From any point of the clock on, the pauses that are left are the intervals until the deadline. -/
theorem pollFrom_ends (tx : TxId) (deadline clock : Nat) (session : Session) (log : List HostEvent) (state : σ) :
    ∃ pauses answer last,
      client.pollFrom tx deadline clock session log state =
        (((answer, { session with nextId := session.nextId + .ofNat (pauses + 1) }),
          log ++ pollLog client.url tx client.pollInterval session.nextId (client.replies tx session.nextId state)
            pauses), last) ∧
      Ends tx client.confirmationTimeout ((deadline - clock) ⌈/⌉ client.pollInterval.milliseconds)
        (client.replies tx session.nextId state) pauses answer := by
  -- Along the recursion of the loop. A pause brings the clock nearer to the deadline, and there are no pauses left
  -- once it is reached.
  induction clock using Client.pollReceipt.induct client deadline generalizing session log state with
  | case1 clock ih =>
    rw [pollFrom_eq]
    dsimp only
    cases decided : decided? tx (client.poll tx session.nextId state).1 with
    | some answer =>
      refine ⟨0, answer, _, rfl, .decided (Nat.zero_le _) ?_ decided⟩
      intro index earlier
      exact absurd earlier (Nat.not_lt_zero index)
    | none =>
      by_cases late : deadline ≤ clock
      · have no_time : deadline - clock = 0 := Nat.sub_eq_zero_of_le late
        rw [if_pos late, no_time, zero_ceilDiv]
        refine ⟨0, _, _, rfl, .timeout ?_⟩
        intro index within
        rw [Nat.le_zero.mp within]
        exact decided
      · obtain ⟨pauses, answer, last, ran, ends⟩ := ih late { session with nextId := session.nextId + 1 }
          (log ++ [pollEvent client.url tx session.nextId (client.poll tx session.nextId state).1] ++
            [.slept client.pollInterval]) (client.pause (client.poll tx session.nextId state).2)
        have time_left : 0 < deadline - clock := by omega
        rw [if_neg late, ran, ceilDiv_of_pos client.pollInterval_pos time_left, Nat.sub_sub]
        refine ⟨pauses + 1, answer, last, ?_, ends.after_pause decided⟩
        rw [pollLog_succ, next_add_ofNat session.nextId (pauses + 1), List.append_assoc, List.append_assoc]
        rfl

theorem observe_waitForReceipt (tx : TxId) (session : Session) (state : σ) :
    client.observe (.waitForReceipt tx) session state =
      let outcome := client.pollFrom tx client.confirmationTimeout.milliseconds 0 session [] state
      (⟨.waitForReceipt tx, outcome.1.1.1, outcome.1.2⟩, outcome.1.1.2, outcome.2) :=
  rfl

/-- Whatever a node replies, waiting for a receipt ends with the first reply that decides among those that are
due up to the deadline, or else with the last of them. The last one may come at the deadline itself. -/
theorem waitForReceipt_ends (client : Client (StateM σ)) (tx : TxId) (session : Session) (state : σ) :
    let limit := client.confirmationTimeout.milliseconds ⌈/⌉ client.pollInterval.milliseconds
    let replies := client.replies tx session.nextId state
    (∃ pauses answer log last,
      client.observe (.waitForReceipt tx) session state =
        (⟨.waitForReceipt tx, answer, log⟩, { session with nextId := session.nextId + .ofNat (pauses + 1) }, last) ∧
      log = pollLog client.url tx client.pollInterval session.nextId replies pauses ∧
      (log.filterMap HostEvent.body?).length = pauses + 1 ∧
      log.filterMap HostEvent.pause? = List.replicate pauses client.pollInterval ∧
      Ends tx client.confirmationTimeout limit replies pauses answer ∧
      ∀ receipt, (∀ index < limit, decided? tx (replies index) = none) →
        decided? tx (replies limit) = some (.ok receipt) → answer = .ok receipt) ∧
    (∀ response, IsBlank response → decided? tx (.ok response) = none) ∧
    ∀ web url, let usual : Client (StateM σ) := { web, url }
      usual.confirmationTimeout.milliseconds ⌈/⌉ usual.pollInterval.milliseconds + 1 = 181 := by
  intro limit replies
  -- At the start nothing of the time has passed.
  obtain ⟨pauses, answer, last, ran, ends⟩ :=
    client.pollFrom_ends tx client.confirmationTimeout.milliseconds 0 session [] state
  rw [Nat.sub_zero] at ends
  refine ⟨⟨pauses, answer, pollLog client.url tx client.pollInterval session.nextId replies pauses, last, ?_, rfl,
    length_bodies_pollLog _ _ _ _ _ _,
    pauses_pollLog _ _ _ _ _ _, ends, ?_⟩, ?_, ?_⟩
  · rw [observe_waitForReceipt, ran]
    rfl
  · intro receipt before here
    exact (ends.eq_of_first (Nat.le_refl limit) before here).2
  · intro response blank
    exact decided?_of_isBlank blank tx
  · intro web url
    simp [Duration.ofSeconds, Nat.ceilDiv_eq_add_pred_div]

def thirdTime : Web (StateM Nat) where
  post _ _ := modifyGet fun polls =>
    (.ok ⟨200, if polls = 2 then "\x7b\"result\":\x7b\"gasUsed\":\"0x5208\"\x7d\x7d" else "\x7b\x7d"⟩, polls + 1)
  get _ := pure (.error "refused")
  sleep _ := pure ()

theorem waitForReceipt_ends_at_deadline :
    ∃ (client : Client (StateM Nat)) (tx : TxId) (log : List HostEvent) (last : Session × Nat),
      client.web = thirdTime ∧ client.confirmationTimeout = .ofSeconds 2 ∧
      client.observe (.waitForReceipt tx) {} 0 =
        (⟨.waitForReceipt tx, .ok { tx, gasUsed := 21000, success := true, contract := none }, log⟩, last) ∧
      log.filterMap HostEvent.pause? = [.ofSeconds 1, .ofSeconds 1] := by
  let client : Client (StateM Nat) :=
    { web := thirdTime, url := "http://localhost", confirmationTimeout := .ofSeconds 2 }
  let tx : TxId := ⟨List.replicate 32 7, List.length_replicate⟩
  obtain ⟨⟨pauses, answer, log, last, ran, -, -, slept, ends, -⟩, no_result, -⟩ := client.waitForReceipt_ends tx {} 0
  have limit : client.confirmationTimeout.milliseconds ⌈/⌉ client.pollInterval.milliseconds = 2 := by decide
  rw [limit] at ends
  have blank : IsBlank ⟨200, "\x7b\x7d"⟩ := ⟨rfl, [], by cbv, rfl, rfl⟩
  have none_yet : ∀ index < 2, decided? tx (client.replies tx 1 0 index) = none := by
    intro index earlier
    interval_cases index
    · exact no_result _ blank
    · exact no_result _ blank
  have third : decided? tx (client.replies tx 1 0 2) =
      some (.ok { tx, gasUsed := 21000, success := true, contract := none }) := by decide +kernel
  obtain ⟨rfl, rfl⟩ := ends.eq_of_first (Nat.le_refl 2) none_yet third
  exact ⟨client, tx, log, _, rfl, rfl, ran, slept⟩

end Client

end Rpc

end TokenDesk
