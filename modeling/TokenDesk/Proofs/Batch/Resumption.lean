import TokenDesk.Proofs.Batch.Calls
import TokenDesk.Proofs.Batch.Entries

/-! Runs taken up again.

Nonce and number of transactions in a report say where a run that stopped can be
taken up: no payment is then made twice, and none is left out.
-/

set_option autoImplicit false

namespace TokenDesk

def LedgerEvent.takenRequest? : LedgerEvent → Option Transfer
  | transfer request (.ok _) => some request
  | _ => none

namespace Batch

def takenRequests (calls : List LedgerEvent) : List Transfer :=
  calls.filterMap LedgerEvent.takenRequest?

/-- An order that leaves no term to the ledger. -/
def Order.fixed (payer : Address) (gasPrice : Amount) (waits : Bool) (start : UInt64) : Order :=
  { payer, gasPrice := some gasPrice, startNonce := some start, waits }

def planned (payer : Address) (gasPrice : Amount) : (next : Option UInt64) → List Payment → List Transfer
  | _, [] => []
  | none, _ :: _ => []
  | some nonce, payment :: rest =>
    { payer, destination := payment.destination, amount := payment.amount, nonce, gasPrice } ::
      planned payer gasPrice (nonceAfter nonce) rest

theorem Stretch.isCompleted_report (gasPrice : Amount) (stretch : Stretch) :
    (stretch.report gasPrice).isCompleted ↔ stretch.failure = none := by
  obtain ⟨failure, nextNonce, gasTotal, outcomes⟩ := stretch
  cases failure <;> simp [Stretch.report, Stretch.ending, Report.isCompleted]

variable {waits : Bool} {next : Option UInt64} {payments : List Payment}

@[simp] theorem takenRequests_append (calls later : List LedgerEvent) :
    takenRequests (calls ++ later) = takenRequests calls ++ takenRequests later := by
  simp [takenRequests]

@[simp] theorem Settlement.takenRequests_calls (request : Transfer) (first : Settlement waits) :
    takenRequests (first.calls request) = [request] := by
  cases first <;> rfl

theorem length_takenRequests (calls : List LedgerEvent) : (takenRequests calls).length = (accepted calls).length := by
  rw [takenRequests, accepted, List.length_filterMap_eq_countP, List.length_filterMap_eq_countP]
  congr 1
  funext call
  -- A request was taken exactly if its answer says so.
  rcases call with _ | _ | _ | _ | ⟨request, _ | sent⟩ | _ <;> rfl

@[simp] theorem planned_nil (payer : Address) (gasPrice : Amount) : planned payer gasPrice next [] = [] := by
  cases next <;> rfl

theorem planned_drop (payer : Address) (gasPrice : Amount) (start count : Nat) :
    (planned payer gasPrice (nonceAt start) payments).drop count =
      planned payer gasPrice (nonceAt (start + count)) (payments.drop count) := by
  induction payments generalizing start count with
  | nil => simp
  | cons payment rest ih =>
    cases count with
    | zero => rfl
    | succ count =>
      rw [List.drop_succ_cons, ← Nat.add_assoc, Nat.add_right_comm]
      cases numbered : nonceAt start with
      | none =>
        have used := size_le_of_nonceAt numbered.symm
        have exhausted : nonceAt (start + 1 + count) = none := if_neg (by omega)
        rw [exhausted]
        cases rest.drop count <;> rfl
      | some nonce =>
        rw [planned, List.drop_succ_cons, nonceAfter_of_nonceAt numbered.symm]
        exact ih (start + 1) count

namespace Course

theorem requests_prefix (order : Order) (gasPrice : Amount) (taken : Course waits next payments) :
    requests (taken.calls order gasPrice) <+: planned order.payer gasPrice next payments := by
  induction taken with
  | finished => exact List.nil_prefix
  | exhausted => exact List.nil_prefix
  | halted halt =>
    rw [calls, Halt.requests_calls, planned]
    exact List.prefix_append [_] _
  | settled first others ih =>
    rw [calls, requests_append, Settlement.requests_calls, planned]
    exact (List.prefix_append_right_inj [_]).mpr ih

theorem takenRequests_prefix (order : Order) (gasPrice : Amount) (taken : Course waits next payments) :
    takenRequests (taken.calls order gasPrice) <+: requests (taken.calls order gasPrice) := by
  induction taken with
  | finished => exact List.nil_prefix
  | exhausted => exact List.nil_prefix
  | halted halt =>
    cases halt with
    | refused cause => exact List.nil_prefix
    | unconfirmed sent cause => exact List.prefix_rfl
  | settled first others ih =>
    rw [calls, takenRequests_append, Settlement.takenRequests_calls, requests_append, Settlement.requests_calls]
    exact (List.prefix_append_right_inj [_]).mpr ih

theorem length_accepted_le (order : Order) (gasPrice : Amount) (taken : Course waits next payments) :
    (accepted (taken.calls order gasPrice)).length ≤ payments.length := by
  induction taken with
  | finished => exact Nat.le_refl 0
  | exhausted => exact Nat.zero_le _
  | halted halt =>
    cases halt with
    | refused cause => exact Nat.zero_le _
    | unconfirmed sent cause => exact Nat.succ_le_succ (Nat.zero_le _)
  | settled first others ih =>
    rw [calls, accepted_append, Settlement.accepted_calls, List.length_append, List.length_cons, Nat.add_comm]
    exact Nat.succ_le_succ ih

theorem takenRequests_of_finished (order : Order) (gasPrice : Amount) (index : Nat)
    (taken : Course waits next payments) (finished : (taken.stretch gasPrice index).failure = none) :
    takenRequests (taken.calls order gasPrice) = planned order.payer gasPrice next payments ∧
      (takenRequests (taken.calls order gasPrice)).length = payments.length := by
  induction taken generalizing index with
  | finished => simp [calls, takenRequests]
  | exhausted => cases finished
  | halted halt => cases finished
  | settled first others ih =>
    obtain ⟨all, length⟩ := ih (index + 1) finished
    rw [calls, takenRequests_append, Settlement.takenRequests_calls]
    exact ⟨congrArg _ all, congrArg Nat.succ length⟩

theorem takenRequests_append_planned (order : Order) (gasPrice : Amount) (index : Nat)
    (taken : Course waits next payments) {start : Nat} (numbered : next = nonceAt start) :
    takenRequests (taken.calls order gasPrice) ++
        planned order.payer gasPrice (taken.stretch gasPrice index).nextNonce
          (payments.drop (accepted (taken.calls order gasPrice)).length) =
      planned order.payer gasPrice next payments := by
  have first := (taken.takenRequests_prefix order gasPrice).trans (taken.requests_prefix order gasPrice)
  rw [List.prefix_iff_eq_take, length_takenRequests] at first
  rw [taken.stretch_nextNonce order gasPrice index numbered, ← planned_drop, ← numbered, first]
  exact List.take_append_drop _ _

end Course

variable {σ : Type}

theorem transfers_cases (ledger : Ledger (StateM σ)) (payer : Address) (gasPrice : Amount) (waits : Bool)
    (start : UInt64) (payments : List Payment) (state : σ) :
    let report := reportOf ledger (.fixed payer gasPrice waits start) (.ofPayments payments) state
    let calls := callsOf ledger (.fixed payer gasPrice waits start) (.ofPayments payments) state
    (requests calls = [] ∧ takenRequests calls = [] ∧ report.isCompleted = false ∧ report.nextNonce = none) ∨
    ∃ taken : Course waits (some start) payments, report = (taken.stretch gasPrice 0).report gasPrice ∧
      requests calls = requests (taken.calls (.fixed payer gasPrice waits start) gasPrice) ∧
      takenRequests calls = takenRequests (taken.calls (.fixed payer gasPrice waits start) gasPrice) := by
  intro report calls
  obtain ⟨made, reported, called⟩ :=
    exists_run ledger (.fixed payer gasPrice waits start) (.ofPayments payments) state
  simp only [report, calls]
  rw [reported, called]
  -- Price and nonce are fixed, so no question for them can fail.
  cases made with
  | unknownFunds cause => exact .inl ⟨rfl, rfl, rfl, rfl⟩
  | shortFunds balance short => exact .inl ⟨rfl, rfl, rfl, rfl⟩
  | unpriced balance covered price => cases price.eq_none
  | unnumbered balance covered price first => cases first.eq_none
  | sequenced balance covered price first taken =>
    cases price
    cases first
    let order : Order := .fixed payer gasPrice waits start
    have filterMap_calls {β : Type} (read : LedgerEvent → Option β) :=
      @Run.filterMap_calls order (.ofPayments payments) β read
    exact .inr ⟨taken, rfl,
      filterMap_calls _ (fun _ => rfl) (fun _ => rfl) (fun _ => rfl) covered (.fixed gasPrice) (.fixed start) taken,
      filterMap_calls _ (fun _ => rfl) (fun _ => rfl) (fun _ => rfl) covered (.fixed gasPrice) (.fixed start) taken⟩

/-- A run can be taken up where its report says: nothing that was taken is asked for again, and what the
second run asks for is what comes next in the plan. If it completes, all of the plan was taken, in order. -/
theorem execute_resumed (ledger : Ledger (StateM σ)) (payer : Address) (gasPrice : Amount) (waits : Bool)
    (start : UInt64) (payments : List Payment) (state later : σ) {next : UInt64}
    (left : (reportOf ledger (.fixed payer gasPrice waits start) (.ofPayments payments) state).nextNonce = some next) :
    let report := reportOf ledger (.fixed payer gasPrice waits start) (.ofPayments payments) state
    let calls := callsOf ledger (.fixed payer gasPrice waits start) (.ofPayments payments) state
    let others := payments.drop report.submitted
    let again := callsOf ledger (.fixed payer gasPrice waits next) (.ofPayments others) later
    takenRequests calls ++ requests again <+: planned payer gasPrice (some start) payments ∧
      ((reportOf ledger (.fixed payer gasPrice waits next) (.ofPayments others) later).isCompleted →
        takenRequests calls ++ takenRequests again = planned payer gasPrice (some start) payments ∧
          (takenRequests calls ++ takenRequests again).length = payments.length) := by
  intro report calls others again
  rcases transfers_cases ledger payer gasPrice waits start payments state with
    ⟨-, -, -, none_left⟩ | ⟨first, reported, -, first_taken⟩
  · cases left.symm.trans none_left
  have first_left : (first.stretch gasPrice 0).nextNonce = some next := by
    rw [reported] at left
    exact left
  have submitted : report.submitted =
      (accepted (first.calls (.fixed payer gasPrice waits start) gasPrice)).length := by
    simp only [report]
    rw [reported]
    exact first.report_submitted _ gasPrice
  -- What was taken of the first run and what it leaves to the second are the whole plan.
  have whole : takenRequests calls ++ planned payer gasPrice (some next) others =
      planned payer gasPrice (some start) payments := by
    have parts := first.takenRequests_append_planned (.fixed payer gasPrice waits start) gasPrice 0
      (nonceAt_toNat start).symm
    rw [first_left, ← submitted] at parts
    exact (congrArg (· ++ _) first_taken).trans parts
  rcases transfers_cases ledger payer gasPrice waits next others later with
    ⟨unasked, -, uncompleted, -⟩ | ⟨second, reported_again, asked, taken⟩
  · refine ⟨?_, fun completed => by rw [uncompleted] at completed; cases completed⟩
    simp only [again]
    rw [unasked, ← whole, List.append_nil]
    exact List.prefix_append _ _
  · constructor
    · rw [← whole, asked]
      exact (List.prefix_append_right_inj _).mpr (second.requests_prefix _ gasPrice)
    · intro completed
      rw [reported_again, Stretch.isCompleted_report] at completed
      obtain ⟨all, length⟩ := second.takenRequests_of_finished (.fixed payer gasPrice waits next) gasPrice 0 completed
      have covers : takenRequests calls ++ takenRequests again = planned payer gasPrice (some start) payments := by
        rw [← whole, taken]
        exact congrArg _ all
      refine ⟨covers, ?_⟩
      have fits := first.length_accepted_le (.fixed payer gasPrice waits start) gasPrice
      rw [List.length_append, first_taken, length_takenRequests, ← submitted, taken, length, List.length_drop]
      omega

end Batch

end TokenDesk
