import TokenDesk.Proofs.Address.Hex
import TokenDesk.Proofs.Digits
import TokenDesk.Proofs.Rpc.Calls
import TokenDesk.Proofs.Rpc.Session

/-! Transactions as a node reads them.

A node reads the object of a transaction by the rules for such objects: numbers and data
are hexadecimal, a number has no zeros in front, and what is left out has a meaning of its
own. Read that way, the object that a client writes is the transaction it was asked to send.
-/

set_option autoImplicit false

namespace TokenDesk

/-- The text is `0x` with the digits of the number, one at least and no zero in front of others. -/
def IsQuantity (n : Nat) (text : String) : Prop :=
  ∃ (ds : List Char) (values : List Nat), text.toList = '0' :: 'x' :: ds ∧
    ds.map Text.Hex.digit? = values.map some ∧ Digits.value 16 values = n ∧
    ds ≠ [] ∧ (ds.head? = some '0' → ds = ['0'])

namespace Text.Hex

theorem digit?_eq_some_zero_iff {c : Char} : digit? c = some 0 ↔ c = '0' := by
  constructor
  · intro read
    have all : allDigits.all fun c => digit? c = some 0 → c = '0' := by
      rw [allDigits_eq]
      decide
    have listed : (digit? c).isSome := by rw [read]; rfl
    exact of_decide_eq_true (of_all_digits all listed) read
  · rintro rfl
    decide

theorem map_digit?_eq_iff {ds : List Char} {values : List Nat} : ds.map digit? = values.map some ↔
    (∀ c ∈ ds, (digit? c).isSome) ∧ ds.filterMap digit? = values := by
  induction ds generalizing values with
  | nil => cases values <;> simp
  | cons d rest ih =>
    cases read : digit? d with
    | none => cases values <;> simp [read]
    | some value => cases values <;> simp [read, ih]; grind

theorem value_encode (bytes : List UInt8) :
    ∃ values : List Nat, (encode bytes).map digit? = values.map some ∧
      Digits.value 16 values = Bytes.toNat bytes := by
  -- From the left, each byte shifts by 256 what its two digits shift by 16 twice.
  have from_left (start : Nat) : ∃ values : List Nat, (encode bytes).map digit? = values.map some ∧
      values.foldl (fun n d => n * 16 + d) start = (bytes.map UInt8.toNat).foldl (fun n d => n * 256 + d) start := by
    induction bytes generalizing start with
    | nil => exact ⟨[], rfl, rfl⟩
    | cons byte rest ih =>
      obtain ⟨values, same, folded⟩ := ih (start * 256 + byte.toNat)
      refine ⟨byte.toNat / 16 :: byte.toNat % 16 :: values, ?_, ?_⟩
      · rw [map_digit?_encode_cons, same]
        rfl
      · have shifted : (start * 16 + byte.toNat / 16) * 16 + byte.toNat % 16 = start * 256 + byte.toNat := by omega
        rw [List.foldl_cons, List.foldl_cons, shifted, folded]
        rfl
  exact from_left 0

theorem value_dropWhile {ds : List Char} {values : List Nat} (same : ds.map digit? = values.map some) :
    ∃ others : List Nat, (ds.dropWhile (· == '0')).map digit? = others.map some ∧
      Digits.value 16 others = Digits.value 16 values := by
  induction ds generalizing values with
  | nil => exact ⟨values, same, rfl⟩
  | cons d rest ih =>
    cases values with
    | nil => cases same
    | cons value values =>
      obtain ⟨read, later⟩ := List.cons.inj same
      by_cases zero : d = '0'
      · subst zero
        obtain rfl : 0 = value := Option.some.inj ((digit?_eq_some_zero_iff.mpr rfl).symm.trans read)
        obtain ⟨others, shown, valued⟩ := ih later
        exact ⟨others, by simpa using shown, valued.trans (Digits.value_zeros 16 1 values).symm⟩
      · exact ⟨value :: values, by simpa [zero] using same, rfl⟩

end Text.Hex

theorem Bytes.toNat_ofNat (n : Nat) : toNat (ofNat n) = n := by
  rw [toNat, ofNat, map_toNat_ofNat fun d => Digits.lt_of_mem_digits (by decide), Digits.value_digits (by decide)]

theorem Amount.toNat_toBytes (amount : Amount) : Bytes.toNat amount.toBytes = amount := by
  unfold toBytes
  split_ifs with zero
  · rw [zero]
    rfl
  · exact Bytes.toNat_ofNat amount

namespace Rpc

theorem isQuantity_zero : IsQuantity 0 "0x0" :=
  ⟨['0'], [0], by decide, by decide, rfl, by decide, fun _ => rfl⟩

theorem isQuantity_quantityText (n : Nat) : IsQuantity n (quantityText n) := by
  by_cases zero : n = 0
  · rw [zero]
    exact isQuantity_zero
  have written : quantityDigits n = (Digits.digits 16 n).map Text.Hex.digit := if_neg zero
  have valued := Digits.value_digits (show 2 ≤ 16 by decide) n
  have read (d : Nat) (listed : d ∈ Digits.digits 16 n) : Text.Hex.digit? (Text.Hex.digit d) = some d :=
    Text.Hex.digit?_digit (Digits.lt_of_mem_digits (by decide) listed)
  refine ⟨quantityDigits n, Digits.digits 16 n, String.toList_ofList, ?_, valued, ?_, ?_⟩
  · rw [written, List.map_map]
    exact List.map_congr_left read
  · intro nothing
    rw [written, List.map_eq_nil_iff] at nothing
    rw [nothing] at valued
    exact zero valued.symm
  · intro leading
    rw [written, List.head?_map, Option.map_eq_some_iff] at leading
    obtain ⟨d, first, shown⟩ := leading
    have zero_first := read d (List.mem_of_mem_head? first)
    rw [Text.Hex.digit?_eq_some_zero_iff.mpr shown] at zero_first
    cases zero_first
    exact absurd first (Digits.head?_digits (by decide) n)

theorem isQuantity_amountText (amount : Amount) : IsQuantity amount (amountText amount) := by
  obtain ⟨written, read, valued⟩ := Text.Hex.value_encode amount.toBytes
  obtain ⟨values, shown, same⟩ := Text.Hex.value_dropWhile read
  rw [valued, Amount.toNat_toBytes] at same
  have leading := List.head?_dropWhile_not (· == '0') (Text.Hex.encode amount.toBytes)
  unfold amountText
  split
  next nothing =>
    rw [nothing, List.map_nil] at shown
    rw [List.map_eq_nil_iff.mp shown.symm] at same
    rw [← same]
    exact isQuantity_zero
  next something =>
    refine ⟨_, values, String.toList_ofList, shown, same, something, fun first => ?_⟩
    rw [first] at leading
    cases leading

/-! The rules for reading. -/

def marked? (text : String) : Option (List Char) :=
  match text.toList with
  | '0' :: 'x' :: ds => some ds
  | _ => none

def readQuantity? (text : String) : Option Nat := do
  let ds ← marked? text
  if ds ≠ [] ∧ (ds.head? = some '0' → ds = ['0']) ∧ ds.all fun c => (Text.Hex.digit? c).isSome then
    some (Digits.value 16 (ds.filterMap Text.Hex.digit?))
  else none

def readWord? (text : String) : Option UInt64 := do
  let n ← readQuantity? text
  if n < UInt64.size then some (.ofNat n) else none

def readData? (text : String) : Option (List UInt8) := do
  let ds ← marked? text
  (Text.Hex.decode ds).toOption

def readAddress? (text : String) : Option Address := do
  let bytes ← readData? text
  Address.ofBytes? bytes

def required? {α : Type} (read : String → Option α) : Option Json → Option α
  | some (.string text) => read text
  | _ => none

def optional? {α : Type} (read : String → Option α) : Option Json → Option (Option α)
  | none => some none
  | some (.string text) => (read text).map some
  | some _ => none

/-- Read the object of a transaction. Without a destination it creates a contract, without a nonce the node
chooses one, and without a value it moves none of the chain's own currency. -/
def readTransaction? (object : Json) : Option Transaction := do
  let sender ← required? readAddress? (object.member? "from")
  let destination ← optional? readAddress? (object.member? "to")
  let data ← required? readData? (object.member? "data")
  let nonce ← optional? readWord? (object.member? "nonce")
  let gasPrice ← required? readQuantity? (object.member? "gasPrice")
  let gasLimit ← required? readWord? (object.member? "gas")
  if (object.member? "value").isSome then none
  else some { sender, destination, data, nonce, gasPrice, gasLimit }

theorem marked?_eq_some_iff {text : String} {ds : List Char} :
    marked? text = some ds ↔ text.toList = '0' :: 'x' :: ds := by
  unfold marked?
  split
  next rest whole =>
    rw [whole]
    simp
  next other =>
    exact iff_of_false (by simp) fun whole => other ds whole

theorem readQuantity?_eq_some_iff {text : String} {n : Nat} : readQuantity? text = some n ↔ IsQuantity n text := by
  constructor
  · intro read
    obtain ⟨ds, marked, rest⟩ := Option.bind_eq_some_iff.mp read
    split_ifs at rest with written
    obtain ⟨nonempty, leading, digits⟩ := written
    obtain rfl := Option.some.inj rest
    exact ⟨ds, _, marked?_eq_some_iff.mp marked, Text.Hex.map_digit?_eq_iff.mpr ⟨List.all_eq_true.mp digits, rfl⟩,
      rfl, nonempty, leading⟩
  · rintro ⟨ds, values, marked, shown, rfl, nonempty, leading⟩
    obtain ⟨digits, same⟩ := Text.Hex.map_digit?_eq_iff.mp shown
    refine Option.bind_eq_some_iff.mpr ⟨ds, marked?_eq_some_iff.mpr marked, ?_⟩
    rw [if_pos ⟨nonempty, leading, List.all_eq_true.mpr digits⟩, same]

theorem readWord?_quantityText (word : UInt64) : readWord? (quantityText word.toNat) = some word := by
  rw [readWord?, readQuantity?_eq_some_iff.mpr (isQuantity_quantityText word.toNat)]
  simp [word.toNat_lt_size]

theorem readData?_bytesText (bytes : List UInt8) : readData? (bytesText bytes) = some bytes := by
  rw [readData?, bytesText, marked?_eq_some_iff.mpr String.toList_ofList]
  simp [Except.toOption]

theorem readAddress?_lower (address : Address) : readAddress? address.lower = some address := by
  have read : readData? address.lower = some address.bytes := readData?_bytesText address.bytes
  rw [readAddress?, read]
  exact Address.ofBytes?_eq_some_iff.mpr rfl

theorem optional?_map {α : Type} {read : String → Option α} {write : α → String}
    (inverse : ∀ value, read (write value) = some value) (given : Option α) :
    optional? read (given.map fun value => .string (write value)) = some given := by
  cases given with
  | none => rfl
  | some value => simp [optional?, inverse]

theorem member?_transactionJson (t : Transaction) :
    (transactionJson t).member? "from" = some (.string t.sender.lower) ∧
      (transactionJson t).member? "to" = t.destination.map (fun contract => .string contract.lower) ∧
      (transactionJson t).member? "data" = some (.string (bytesText t.data)) ∧
      (transactionJson t).member? "nonce" = t.nonce.map (fun nonce => .string (quantityText nonce.toNat)) ∧
      (transactionJson t).member? "gasPrice" = some (.string (amountText t.gasPrice)) ∧
      (transactionJson t).member? "gas" = some (.string (quantityText t.gasLimit.toNat)) ∧
      (transactionJson t).member? "value" = none := by
  simp only [transactionJson, Json.member?_objectOf]
  cases t.destination <;> cases t.nonce <;> exact ⟨rfl, rfl, rfl, rfl, rfl, rfl, rfl⟩

theorem readTransaction?_transactionJson (t : Transaction) : readTransaction? (transactionJson t) = some t := by
  obtain ⟨sender, destination, data, nonce, gasPrice, gasLimit, value⟩ := member?_transactionJson t
  have priced : readQuantity? (amountText t.gasPrice) = some t.gasPrice :=
    readQuantity?_eq_some_iff.mpr (isQuantity_amountText t.gasPrice)
  rw [readTransaction?, sender, destination, data, nonce, gasPrice, gasLimit, value]
  simp [required?, readAddress?_lower, readData?_bytesText, readWord?_quantityText, priced,
    optional?_map readAddress?_lower, optional?_map readWord?_quantityText]

theorem transactionJson_injective : Function.Injective transactionJson := by
  intro t other same
  have read := readTransaction?_transactionJson t
  rw [same, readTransaction?_transactionJson] at read
  exact (Option.some.inj read).symm

def quantityNames : List String := ["gas", "gasPrice", "nonce"]

def callNames : List String := ["from", "to", "data"]

theorem exists_isQuantity {t : Transaction} {name : String} (named : name ∈ quantityNames) {value : Json}
    (given : (transactionJson t).member? name = some value) :
    ∃ n text, value = .string text ∧ IsQuantity n text := by
  obtain ⟨-, -, -, nonce, gasPrice, gasLimit, -⟩ := member?_transactionJson t
  simp only [quantityNames, List.mem_cons, List.not_mem_nil, or_false] at named
  rcases named with rfl | rfl | rfl
  · cases gasLimit.symm.trans given
    exact ⟨_, _, rfl, isQuantity_quantityText _⟩
  · cases gasPrice.symm.trans given
    exact ⟨_, _, rfl, isQuantity_amountText _⟩
  · rw [nonce, Option.map_eq_some_iff] at given
    obtain ⟨number, -, rfl⟩ := given
    exact ⟨_, _, rfl, isQuantity_quantityText _⟩

theorem member?_estimateJson (t : Transaction) {name : String} (named : name ∈ callNames) :
    (estimateJson t.sender t.destination t.data).member? name = (transactionJson t).member? name := by
  obtain ⟨sender, destination, data, -⟩ := member?_transactionJson t
  simp only [callNames, List.mem_cons, List.not_mem_nil, or_false] at named
  rcases named with rfl | rfl | rfl
  · rw [sender, estimateJson, Json.member?_objectOf]
    cases t.destination <;> rfl
  · rw [destination, estimateJson, Json.member?_objectOf]
    cases t.destination <;> rfl
  · rw [data, estimateJson, Json.member?_objectOf]
    cases t.destination <;> rfl

theorem Client.observe_askText {σ : Type} (client : Client (StateM σ)) {operation : Operation} {method : String}
    {params : List Json} {read : String → Except Fault operation.Value}
    (asks : client.recorded.perform operation = client.recorded.askText method params read) (session : Session)
    (state : σ) : ∃ reply, (client.observe operation session state).1.log =
      [.posted client.url (request session.nextId method params) reply] := by
  have asked := client.recorded.askText_from client.web.recorded_seen method params read session
  rw [← asks] at asked
  obtain ⟨answer, log, after, last, ran, reply, rfl, -⟩ := client.observe_of_emits asked state
  rw [ran]
  exact ⟨reply, rfl⟩

/-! A transaction and the estimate that precedes it. -/

section
variable {options : SendOptions} {destination : Option Address} {data : List UInt8} {log : List TransportEvent}
  {result : Except ContractError Sent} {url : String}

/-- A request of a submission asks for the price, for the estimate of the call, or for the call itself. -/
inductive SubmissionCall (options : SendOptions) (destination : Option Address) (data : List UInt8) :
    Call → Prop where
  | gasPrice (reply : Except String HttpReply) : SubmissionCall options destination data ⟨"eth_gasPrice", [], reply⟩
  | estimateGas (reply : Except String HttpReply) : SubmissionCall options destination data
      ⟨"eth_estimateGas", [estimateJson options.sender destination data], reply⟩
  | sendTransaction (t : Transaction) (sender : t.sender = options.sender) (same : t.destination = destination)
      (payload : t.data = data) (reply : Except String HttpReply) :
      SubmissionCall options destination data (sendCall t reply)

theorem exists_answer_of_quoted {α : Type} {event : Except TransportError α → TransportEvent} {fixed : Option α}
    {answer : Except TransportError α} (quoted : Quoted event fixed log answer) {asked : TransportEvent}
    (listed : asked ∈ log) : ∃ answer, asked = event answer := by
  cases quoted with
  | fixed value => cases listed
  | asked answer => exact ⟨answer, List.mem_singleton.mp listed⟩

theorem Wire.submissionCall_gasPrice {answer : Except TransportError Amount} {part : List HostEvent}
    (wire : Wire url (.gasPrice answer) part) {call : Call} (made : call ∈ calls part) :
    SubmissionCall options destination data call := by
  obtain ⟨reply, -, posts⟩ := wire
  rw [posts.calls_eq, List.mem_singleton] at made
  rw [made]
  exact .gasPrice reply

theorem Wire.submissionCall_estimateGas {answer : Except TransportError UInt64} {part : List HostEvent}
    (wire : Wire url (.estimateGas options.sender destination data answer) part) {call : Call}
    (made : call ∈ calls part) : SubmissionCall options destination data call := by
  obtain ⟨reply, -, posts⟩ := wire
  rw [posts.calls_eq, List.mem_singleton] at made
  rw [made]
  exact .estimateGas reply

theorem Wire.submissionCall_sendTransaction {t : Transaction} {answer : Except TransportError TxId}
    {part : List HostEvent} (wire : Wire url (.sendTransaction t answer) part) (sender : t.sender = options.sender)
    (same : t.destination = destination) (payload : t.data = data) {call : Call} (made : call ∈ calls part) :
    SubmissionCall options destination data call := by
  obtain ⟨reply, -, posts⟩ := wire
  rw [posts.calls_eq, List.mem_singleton] at made
  rw [made]
  exact .sendTransaction t sender same payload reply

theorem submissionCall_of_event (submission : Submission options destination data log result) {event : TransportEvent}
    (listed : event ∈ log) {part : List HostEvent} (wire : Wire url event part) {call : Call}
    (made : call ∈ calls part) : SubmissionCall options destination data call := by
  cases submission with
  | unpriced price =>
    obtain ⟨answer, rfl⟩ := exists_answer_of_quoted price listed
    exact wire.submissionCall_gasPrice made
  | unlimited price limit =>
    rcases List.mem_append.mp listed with asked | asked
    · obtain ⟨answer, rfl⟩ := exists_answer_of_quoted price asked
      exact wire.submissionCall_gasPrice made
    · obtain ⟨answer, rfl⟩ := exists_answer_of_quoted limit asked
      exact wire.submissionCall_estimateGas made
  | sent answer price limit =>
    rw [List.mem_append, List.mem_append, List.mem_singleton] at listed
    rcases listed with asked | asked | rfl
    · obtain ⟨answer, rfl⟩ := exists_answer_of_quoted price asked
      exact wire.submissionCall_gasPrice made
    · obtain ⟨answer, rfl⟩ := exists_answer_of_quoted limit asked
      exact wire.submissionCall_estimateGas made
    · exact wire.submissionCall_sendTransaction rfl rfl rfl made

theorem submissionCall_of_told {heard : List HostEvent} (told : Told (Wire url) log heard)
    (submission : Submission options destination data log result) {call : Call} (made : call ∈ calls heard) :
    SubmissionCall options destination data call := by
  obtain ⟨event, heard_of, named⟩ := List.mem_filterMap.mp made
  obtain ⟨spoken, listed, part, wire, within⟩ := told.exists_of_mem heard_of
  exact submissionCall_of_event submission listed wire (List.mem_filterMap.mpr ⟨event, within, named⟩)

theorem SubmissionCall.field?_eq {estimate sent : Call} (estimates : SubmissionCall options destination data estimate)
    (is_estimate : estimate.method = "eth_estimateGas") (sends : SubmissionCall options destination data sent)
    (is_send : sent.isSend) {name : String} (named : name ∈ callNames) : estimate.field? name = sent.field? name := by
  cases estimates with
  | gasPrice reply => simp at is_estimate
  | sendTransaction t sender same payload reply => simp [sendCall] at is_estimate
  | estimateGas reply =>
    cases sends with
    | gasPrice reply => simp [Call.isSend] at is_send
    | estimateGas reply => simp [Call.isSend] at is_send
    | sendTransaction t sender same payload reply =>
      subst same payload
      rw [← sender]
      exact congrArg (·.bind text?) (member?_estimateJson t named)

end

variable {σ : Type}

def Client.submissionLog (client : Client (StateM σ)) (options : SendOptions) (destination : Option Address)
    (data : List UInt8) (session : Session) (state : σ) : List HostEvent :=
  ((((client.recorded.transport.submit options destination data).run.run session).run []).run state).1.2

theorem Client.submissionCall (client : Client (StateM σ)) (options : SendOptions) (destination : Option Address)
    (data : List UInt8) (session : Session) (state : σ) {call : Call}
    (made : call ∈ calls (client.submissionLog options destination data session state)) :
    SubmissionCall options destination data call := by
  have seen : client.recorded.web.IsSeen (.journal HostEvent σ) := client.web.recorded_seen
  have heard := Transport.submit_heard (client.recorded.transport_heard seen) options destination data
  obtain ⟨log, outcome, last, ran, events, told, submission⟩ := heard session [] state
  rw [submissionLog, ran] at made
  exact submissionCall_of_told told submission made

/-- How a client writes transactions, and the estimates of the calls that they make. -/
structure WritesTransactions (client : Client (StateM σ)) (session : Session) (state : σ) : Prop where
  sent : ∀ t, ∃ reply, (client.observe (.sendTransaction t) session state).1.log =
    [.posted client.url (request session.nextId "eth_sendTransaction" [transactionJson t]) reply]
  read_eq : ∀ t, readTransaction? (transactionJson t) = some t
  injective : Function.Injective transactionJson
  quantities : ∀ t, ∀ name ∈ quantityNames, ∀ value, (transactionJson t).member? name = some value →
    ∃ n text, value = .string text ∧ IsQuantity n text
  estimated : ∀ sender destination data, ∃ reply,
    (client.observe (.estimateGas sender destination data) session state).1.log =
      [.posted client.url (request session.nextId "eth_estimateGas" [estimateJson sender destination data]) reply]
  estimate_agrees : ∀ t, ∀ name ∈ callNames,
    (estimateJson t.sender t.destination t.data).member? name = (transactionJson t).member? name
  /-- Where an estimate precedes a transaction, it is of the call that the transaction makes. -/
  submission_agrees : ∀ options destination data,
    ∀ estimate ∈ calls (client.submissionLog options destination data session state),
    ∀ sent ∈ calls (client.submissionLog options destination data session state),
      estimate.method = "eth_estimateGas" → sent.isSend →
        ∀ name ∈ callNames, estimate.field? name = sent.field? name

/-- A transaction that is sent is the one that the node reads. -/
theorem Client.writesTransactions (client : Client (StateM σ)) (session : Session) (state : σ) :
    WritesTransactions client session state where
  sent _ := client.observe_askText rfl session state
  read_eq := readTransaction?_transactionJson
  injective := transactionJson_injective
  quantities _ _ named _ given := exists_isQuantity named given
  estimated _ _ _ := client.observe_askText rfl session state
  estimate_agrees t _ named := member?_estimateJson t named
  submission_agrees options destination data _ made _ made_sent is_estimate is_send _ named :=
    (client.submissionCall options destination data session state made).field?_eq is_estimate
      (client.submissionCall options destination data session state made_sent) is_send named

end Rpc

end TokenDesk
