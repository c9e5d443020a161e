import Mathlib.Data.List.Nodup
import TokenDesk.Proofs.Batch.Run

/-! The calls of a run, for every ledger.

The requests for transfers are the first payments of the plan, each once and
with the nonce that its position gives. Taken transfers are waited for at once
or not at all, and no call follows a failed one.
-/

set_option autoImplicit false

namespace TokenDesk

def LedgerEvent.request? : LedgerEvent → Option Transfer
  | transfer request _ => some request
  | _ => none

def LedgerEvent.isFailed : LedgerEvent → Bool
  | balanceOf _ answer => !answer.isOk
  | pendingNonce _ answer => !answer.isOk
  | chainId answer => !answer.isOk
  | suggestGasPrice answer => !answer.isOk
  | transfer _ answer => !answer.isOk
  | waitConfirmed _ answer => !answer.isOk

namespace Batch

def requests (calls : List LedgerEvent) : List Transfer :=
  calls.filterMap LedgerEvent.request?

/-- How transfers and waits alternate in a run that waits, or does not. -/
inductive Exchange : Bool → List LedgerEvent → Prop where
  | done {waits : Bool} : Exchange waits []
  | refused {waits : Bool} (request : Transfer) (cause : LedgerError) :
      Exchange waits [.transfer request (.error cause)]
  | broadcast {rest : List LedgerEvent} (request : Transfer) (sent : Submitted) :
      Exchange false rest → Exchange false (.transfer request (.ok sent) :: rest)
  | unconfirmed (request : Transfer) (sent : Submitted) (cause : LedgerError) :
      Exchange true [.transfer request (.ok sent), .waitConfirmed sent.tx (.error cause)]
  | confirmed {rest : List LedgerEvent} (request : Transfer) (sent : Submitted) (confirmation : Confirmation) :
      Exchange true rest →
        Exchange true (.transfer request (.ok sent) :: .waitConfirmed sent.tx (.ok confirmation) :: rest)

/-- What the request at a position is, if the first has the given nonce. Nonces are compared as
numbers, so none of them has wrapped. -/
def IsRequest (order : Order) (gasPrice : Amount) (start : Nat) (payments : List Payment)
    (index : Nat) (request : Transfer) : Prop :=
  ∃ payment, payments[index]? = some payment ∧ request.payer = order.payer ∧
    request.destination = payment.destination ∧ request.amount = payment.amount ∧
    request.gasPrice = gasPrice ∧ request.nonce.toNat = start + index

/-- What the calls for the payments of a plan have to be. -/
structure PaymentCalls (order : Order) (gasPrice : Amount) (start : Nat) (payments : List Payment)
    (calls : List LedgerEvent) : Prop where
  exchange : Exchange order.waits calls
  requests_numbered : ∀ index request, (requests calls)[index]? = some request →
    IsRequest order gasPrice start payments index request
  nonces_nodup : ((requests calls).map Transfer.nonce).Nodup
  complete : (requests calls).length = payments.length ∨
    start + (requests calls).length = UInt64.size ∨
    ∃ call, calls.getLast? = some call ∧ call.isFailed

variable {waits : Bool} {next : Option UInt64} {payments : List Payment}

@[simp] theorem requests_append (calls more : List LedgerEvent) :
    requests (calls ++ more) = requests calls ++ requests more := by
  simp [requests]

@[simp] theorem Settlement.requests_calls (request : Transfer) (first : Settlement waits) :
    requests (first.calls request) = [request] := by
  cases first <;> rfl

@[simp] theorem Halt.requests_calls (request : Transfer) (halt : Halt waits) :
    requests (halt.calls request) = [request] := by
  cases halt <;> rfl

theorem Course.exchange (order : Order) (gasPrice : Amount) (taken : Course waits next payments) :
    Exchange waits (taken.calls order gasPrice) := by
  induction taken with
  | finished => exact .done
  | exhausted => exact .done
  | halted halt =>
    cases halt with
    | refused cause => exact .refused _ cause
    | unconfirmed sent cause => exact .unconfirmed _ sent cause
  | settled first others ih =>
    cases first with
    | broadcast sent => exact .broadcast _ sent ih
    | confirmed sent confirmation => exact .confirmed _ sent confirmation ih

theorem Course.requests_numbered (order : Order) (gasPrice : Amount) (taken : Course waits next payments)
    {start : Nat} (numbered : next = nonceAt start) {index : Nat} {request : Transfer}
    (here : (requests (taken.calls order gasPrice))[index]? = some request) :
    IsRequest order gasPrice start payments index request := by
  -- The first request has the nonce of the course; those behind it count from the nonce after that.
  induction taken generalizing start index with
  | finished => simp [Course.calls, requests] at here
  | exhausted => simp [Course.calls, requests] at here
  | @halted nonce payment rest halt =>
    simp only [Course.calls, Halt.requests_calls] at here
    cases index with
    | zero =>
      cases here
      exact ⟨payment, rfl, rfl, rfl, rfl, rfl, (eq_toNat_of_nonceAt numbered).symm⟩
    | succ index => cases here
  | @settled nonce payment rest first others ih =>
    simp only [Course.calls, requests_append, Settlement.requests_calls, List.singleton_append] at here
    cases index with
    | zero =>
      cases here
      exact ⟨payment, rfl, rfl, rfl, rfl, rfl, (eq_toNat_of_nonceAt numbered).symm⟩
    | succ index =>
      obtain ⟨later, place, payer, destination, amount, price, nonces⟩ :=
        ih (nonceAfter_of_nonceAt numbered) here
      exact ⟨later, place, payer, destination, amount, price, by omega⟩

theorem Course.complete (order : Order) (gasPrice : Amount) (taken : Course waits next payments)
    {start : Nat} (numbered : next = nonceAt start) (bounded : start ≤ UInt64.size) :
    (requests (taken.calls order gasPrice)).length = payments.length ∨
      start + (requests (taken.calls order gasPrice)).length = UInt64.size ∨
      ∃ call, (taken.calls order gasPrice).getLast? = some call ∧ call.isFailed := by
  induction taken generalizing start with
  | finished => exact .inl rfl
  | exhausted => exact .inr (.inl (Nat.le_antisymm bounded (size_le_of_nonceAt numbered)))
  | halted halt => cases halt <;> exact .inr (.inr ⟨_, rfl, rfl⟩)
  | settled first others ih =>
    have last := ih (nonceAfter_of_nonceAt numbered) (add_one_le_of_nonceAt numbered)
    simp only [Course.calls, requests_append, Settlement.requests_calls, List.length_append,
      List.length_cons, List.length_nil, List.getLast?_append]
    -- Whatever ends the rest of the course ends the whole of it.
    rcases last with all | used | ⟨call, last, failed⟩
    · exact .inl (by omega)
    · exact .inr (.inl (by omega))
    · exact .inr (.inr ⟨call, by rw [last]; rfl, failed⟩)

theorem nodup_of_numbered {order : Order} {gasPrice : Amount} {start : Nat} {asked : List Transfer}
    (numbered : ∀ index request, asked[index]? = some request →
      IsRequest order gasPrice start payments index request) :
    (asked.map Transfer.nonce).Nodup := by
  rw [List.nodup_iff_getElem?_ne_getElem?]
  intro i j before bounded same
  -- Equal nonces would be equal numbers, but the numbers are the positions counted from one start.
  rw [List.length_map] at bounded
  simp only [List.getElem?_map, List.getElem?_eq_getElem bounded,
    List.getElem?_eq_getElem (Nat.lt_trans before bounded), Option.map_some, Option.some.injEq] at same
  obtain ⟨-, -, -, -, -, -, first⟩ := numbered i _ (List.getElem?_eq_getElem (Nat.lt_trans before bounded))
  obtain ⟨-, -, -, -, -, -, second⟩ := numbered j _ (List.getElem?_eq_getElem bounded)
  rw [same] at first
  omega

theorem Course.paymentCalls {order : Order} {start : UInt64} (gasPrice : Amount)
    (taken : Course order.waits (some start) payments) :
    PaymentCalls order gasPrice start.toNat payments (taken.calls order gasPrice) where
  exchange := taken.exchange order gasPrice
  requests_numbered _ _ := taken.requests_numbered order gasPrice (nonceAt_toNat start).symm
  nonces_nodup := nodup_of_numbered fun _ _ =>
    taken.requests_numbered order gasPrice (nonceAt_toNat start).symm
  complete := taken.complete order gasPrice (nonceAt_toNat start).symm (Nat.le_of_lt start.toNat_lt_size)

def questions (order : Order) (price : Except LedgerError Amount) (start : Except LedgerError UInt64) :
    List LedgerEvent :=
  (if order.gasPrice.isNone then [.suggestGasPrice price] else []) ++
    if order.startNonce.isNone && price.isOk then [.pendingNonce order.payer start] else []

variable {σ : Type}

/-- Every call of a run, whatever the ledger answers. Each call after the balance presupposes that the
balance covers the plan, and the payments presuppose that no question before them failed. -/
theorem execute_calls (ledger : Ledger (StateM σ)) (order : Order) (plan : Plan) (state : σ) :
    ∃ (funds : Except LedgerError Amount) (asked paid : List LedgerEvent),
      callsOf ledger order plan state = .balanceOf order.payer funds :: (asked ++ paid) ∧
      ((¬ ∃ balance, funds = .ok balance ∧ plan.total ≤ balance) → asked = [] ∧ paid = []) ∧
      ((∃ balance, funds = .ok balance ∧ plan.total ≤ balance) →
        ∃ (price : Except LedgerError Amount) (start : Except LedgerError UInt64),
          (∀ fixed, order.gasPrice = some fixed → price = .ok fixed) ∧
          (∀ fixed, order.startNonce = some fixed → start = .ok fixed) ∧
          asked = questions order price start ∧
          (∀ gasPrice nonce, price = .ok gasPrice → start = .ok nonce →
            PaymentCalls order gasPrice nonce.toNat plan.payments paid) ∧
          ((¬ ∃ gasPrice nonce, price = .ok gasPrice ∧ start = .ok nonce) → paid = [])) := by
  obtain ⟨made, -, calls⟩ := exists_run ledger order plan state
  rw [calls]
  cases made with
  | unknownFunds cause => exact ⟨.error cause, [], [], rfl, by simp, by simp⟩
  | shortFunds balance short =>
    exact ⟨.ok balance, [], [], rfl, by simp, fun ⟨_, same, covered⟩ =>
      absurd covered (Except.ok.inj same ▸ Nat.not_le_of_lt short)⟩
  | unpriced balance covered price =>
    refine ⟨.ok balance, price.calls .suggestGasPrice, [], by simp [Run.calls],
      fun uncovered => absurd ⟨balance, rfl, covered⟩ uncovered, fun _ => ?_⟩
    -- No nonce was asked for; unless one is fixed, any failure stands for the answer that never came.
    refine ⟨.error price.cause, (order.startNonce.map .ok).getD (.error price.cause), ?_, ?_, ?_, ?_, ?_⟩
    · simp [price.eq_none]
    · intro fixed same
      simp [same]
    · simp [questions, price.calls_eq, price.eq_none, Except.isOk, Except.toBool]
    · simp
    · simp
  | unnumbered balance covered price start =>
    refine ⟨.ok balance, price.calls .suggestGasPrice ++ start.calls (.pendingNonce order.payer), [],
      by simp [Run.calls], fun uncovered => absurd ⟨balance, rfl, covered⟩ uncovered, fun _ => ?_⟩
    refine ⟨.ok price.value, .error start.cause, ?_, ?_, ?_, ?_, ?_⟩
    · exact fun fixed same => congrArg _ (price.value_of_fixed same)
    · simp [start.eq_none]
    · simp [questions, price.calls_eq, start.calls_eq, start.eq_none, Except.isOk, Except.toBool]
    · simp
    · simp
  | sequenced balance covered price start taken =>
    refine ⟨.ok balance, price.calls .suggestGasPrice ++ start.calls (.pendingNonce order.payer),
      taken.calls order price.value, rfl,
      fun uncovered => absurd ⟨balance, rfl, covered⟩ uncovered, fun _ => ?_⟩
    refine ⟨.ok price.value, .ok start.value, ?_, ?_, ?_, ?_, ?_⟩
    · exact fun fixed same => congrArg _ (price.value_of_fixed same)
    · exact fun fixed same => congrArg _ (start.value_of_fixed same)
    · simp [questions, price.calls_eq, start.calls_eq, Except.isOk, Except.toBool]
    · rintro gasPrice nonce ⟨rfl⟩ ⟨rfl⟩
      exact taken.paymentCalls price.value
    · exact fun failed => absurd ⟨_, _, rfl, rfl⟩ failed

/-- A ledger that has funds for everyone but knows no gas price. -/
def priceless : Ledger (StateM Unit) where
  balanceOf _ := pure 10
  pendingNonce _ := pure 4
  chainId := pure default
  suggestGasPrice := throw (.transport "down")
  transfer _ := throw .wouldAlwaysFail
  waitConfirmed tx := throw (.confirmationTimeout tx)

/-- A nonce that the order leaves open is not asked for in every run that the balance covers. -/
theorem exists_unasked_nonce :
    ¬ ∀ (ledger : Ledger (StateM Unit)) (order : Order) (plan : Plan) (balance : Amount),
      .balanceOf order.payer (.ok balance) ∈ callsOf ledger order plan () → plan.total ≤ balance →
        (order.startNonce = none ↔ ∃ answer, .pendingNonce order.payer answer ∈ callsOf ledger order plan ()) := by
  intro always
  have calls : callsOf priceless ⟨.zero, none, none, false⟩ (.ofPayments [⟨.zero, 1, 1⟩]) () =
      [.balanceOf .zero (.ok 10), .suggestGasPrice (.error (.transport "down"))] := rfl
  have asked := always priceless ⟨.zero, none, none, false⟩ (.ofPayments [⟨.zero, 1, 1⟩]) 10
  rw [calls] at asked
  obtain ⟨answer, made⟩ := (asked (by simp) (by decide)).mp rfl
  simp at made

end Batch

end TokenDesk
