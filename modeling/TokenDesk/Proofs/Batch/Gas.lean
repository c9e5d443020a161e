import Mathlib.Algebra.Ring.Nat
import TokenDesk.Proofs.Batch.Reconciliation

/-! What a run costs.

Each payment that went on is charged the gas that counts for it, and all others
nothing. The total of a report is the sum of these charges at the one gas price of
the run.
-/

set_option autoImplicit false

namespace TokenDesk.Batch

/-- The gas that an entry of a report is charged. A broadcast transfer is charged what it may burn at
most, as the ledger said when it took it; a mined one what it burnt, reverted or not. -/
inductive Charged (sent : List Submitted) (mined : List Confirmation) (index : Nat) :
    Bool → Outcome → Nat → Prop where
  | unreached {waits : Bool} : Charged sent mined index waits .pending 0
  | failed {waits : Bool} (nonce : UInt64) (tx : Option TxId) (cause : LedgerError) :
      Charged sent mined index waits (.failed nonce tx cause) 0
  | broadcast {submitted : Submitted} (nonce : UInt64) : sent[index]? = some submitted →
      Charged sent mined index false (.broadcast nonce submitted.tx) submitted.gasLimit.toNat
  | confirmed {submitted : Submitted} {confirmation : Confirmation} (nonce : UInt64) :
      sent[index]? = some submitted → mined[index]? = some confirmation →
      Charged sent mined index true (.confirmed nonce submitted.tx confirmation.gasUsed confirmation.success)
        confirmation.gasUsed.toNat

/-- The gas price of a run is the one of its order, or else the one that the ledger suggested. -/
def IsPriced (order : Order) (calls : List LedgerEvent) (gasPrice : Amount) : Prop :=
  order.gasPrice = some gasPrice ∨ order.gasPrice = none ∧ .suggestGasPrice (.ok gasPrice) ∈ calls

/-- What a report says of the cost of its run, given the charge of each payment of the plan. -/
structure Accounts (order : Order) (plan : Plan) (calls : List LedgerEvent) (report : Report)
    (charges : List Nat) : Prop where
  length_charges : charges.length = plan.payments.length
  length_outcomes : report.outcomes.length = plan.payments.length
  charged : ∀ (index : Nat) (outcome : Outcome), report.outcomes[index]? = some outcome →
    ∃ gas, charges[index]? = some gas ∧
      Charged (accepted calls) (confirmations calls) index order.waits outcome gas
  gasTotal : ∀ gasPrice, IsPriced order calls gasPrice → report.gasTotal = gasPrice * charges.sum
  gasTotal_of_unpriced : (¬ ∃ gasPrice, IsPriced order calls gasPrice) → report.gasTotal = 0
  of_completed : ∀ gasTotal txIds, report.ending = @Ending.completed gasTotal txIds →
    gasTotal = report.gasTotal ∧ report.result = .ok report.gasTotal
  of_abortedPreflight : ∀ cause, report.ending = .abortedPreflight cause → report.result = .error cause
  of_abortedAt : ∀ index cause, report.ending = .abortedAt index cause → report.result = .error cause

variable {waits : Bool} {next : Option UInt64} {payments : List Payment}

@[simp] theorem confirmations_append (calls more : List LedgerEvent) :
    confirmations (calls ++ more) = confirmations calls ++ confirmations more := by
  simp [confirmations]

theorem Charged.later {submitted : Submitted} {sent : List Submitted} {before mined : List Confirmation}
    {index : Nat} {outcome : Outcome} {gas : Nat} (charged : Charged sent mined index waits outcome gas)
    (aligned : waits = true → before.length = 1) :
    Charged (submitted :: sent) (before ++ mined) (index + 1) waits outcome gas := by
  cases charged with
  | unreached => exact .unreached
  | failed nonce tx cause => exact .failed nonce tx cause
  | broadcast nonce taken => exact .broadcast nonce taken
  | confirmed nonce taken burnt =>
    -- A run that waits has one confirmation for each payment, so both lists go one step further.
    refine .confirmed nonce taken ?_
    rw [List.getElem?_append_right (by rw [aligned rfl]; omega), aligned rfl]
    exact burnt

theorem eq_pending_of_unreached {rest : List Payment} {index : Nat} {outcome : Outcome}
    (here : (rest.map fun _ => Outcome.pending)[index]? = some outcome) : outcome = .pending ∧ index < rest.length := by
  rw [List.getElem?_map] at here
  obtain ⟨payment, among, rfl⟩ := Option.map_eq_some_iff.mp here
  exact ⟨rfl, (List.getElem?_eq_some_iff.mp among).1⟩

namespace Course

def charges {next : Option UInt64} {payments : List Payment} : Course waits next payments → List Nat
  | finished => []
  | exhausted => List.replicate payments.length 0
  | halted _ => List.replicate payments.length 0
  | settled first others => first.gas.toNat :: others.charges

theorem length_charges (taken : Course waits next payments) : taken.charges.length = payments.length := by
  induction taken with
  | finished => rfl
  | exhausted => exact List.length_replicate
  | halted halt => exact List.length_replicate
  | settled first others ih => rw [charges, List.length_cons, ih, List.length_cons]

theorem stretch_gasTotal (gasPrice : Amount) (index : Nat) (taken : Course waits next payments) :
    (taken.stretch gasPrice index).gasTotal = gasPrice * taken.charges.sum := by
  induction taken generalizing index with
  | finished => rfl
  | exhausted => simp [stretch, Stretch.stopped, charges]
  | halted halt => simp [stretch, Stretch.stopped, charges]
  | settled first others ih =>
    rw [charges, List.sum_cons, Nat.mul_add, ← ih (index + 1)]
    rfl

theorem charged (order : Order) (gasPrice : Amount) (first : Nat) (taken : Course waits next payments)
    {index : Nat} {outcome : Outcome} (here : (taken.stretch gasPrice first).outcomes[index]? = some outcome) :
    ∃ gas, taken.charges[index]? = some gas ∧
      Charged (accepted (taken.calls order gasPrice)) (confirmations (taken.calls order gasPrice)) index waits
        outcome gas := by
  -- An entry is charged by its own payment, and later ones are charged by the rest of the course.
  induction taken generalizing first index with
  | finished => cases here
  | exhausted =>
    obtain ⟨rfl, reached⟩ := eq_pending_of_unreached here
    exact ⟨0, List.getElem?_replicate_of_lt reached, .unreached⟩
  | @halted nonce payment rest halt =>
    cases index with
    | zero => cases halt <;> cases here <;> exact ⟨0, rfl, .failed _ _ _⟩
    | succ index =>
      obtain ⟨rfl, reached⟩ := eq_pending_of_unreached here
      exact ⟨0, List.getElem?_replicate_of_lt (Nat.succ_lt_succ reached), .unreached⟩
  | settled settlement others ih =>
    cases index with
    | zero =>
      cases settlement with
      | broadcast sent =>
        cases here
        exact ⟨sent.gasLimit.toNat, rfl, .broadcast _ rfl⟩
      | confirmed sent confirmation =>
        cases here
        exact ⟨confirmation.gasUsed.toNat, rfl, .confirmed _ rfl rfl⟩
    | succ index =>
      obtain ⟨gas, listed, charged⟩ := ih (first + 1) here
      refine ⟨gas, listed, ?_⟩
      rw [calls, accepted_append, confirmations_append, Settlement.accepted_calls]
      refine charged.later ?_
      rintro rfl
      cases settlement
      rfl

end Course

variable {order : Order} {plan : Plan}

theorem result_of_completed {report : Report} {gasTotal : Amount} {txIds : List TxId}
    (completed : report.ending = @Ending.completed gasTotal txIds) : report.result = .ok gasTotal := by
  rw [Report.result, completed]

theorem result_of_aborted {report : Report} {cause : Failure}
    (aborted : report.ending = .abortedPreflight cause ∨ ∃ index, report.ending = .abortedAt index cause) :
    report.result = .error cause := by
  rcases aborted with preflight | ⟨index, later⟩
  · rw [Report.result, preflight]
  · rw [Report.result, later]

theorem accounts_withoutPayments {calls : List LedgerEvent} (cause : Failure) :
    Accounts order plan calls (.withoutPayments plan cause) (List.replicate plan.payments.length 0) where
  length_charges := List.length_replicate
  length_outcomes := by simp [Report.withoutPayments]
  charged index outcome here := by
    obtain ⟨rfl, reached⟩ := eq_pending_of_unreached here
    exact ⟨0, List.getElem?_replicate_of_lt reached, .unreached⟩
  gasTotal gasPrice _ := by simp [Report.withoutPayments]
  gasTotal_of_unpriced _ := rfl
  of_completed _ _ completed := by cases completed
  of_abortedPreflight _ aborted := by cases aborted; rfl
  of_abortedAt _ _ aborted := by cases aborted

theorem accounts_sequenced {balance : Amount} (covered : plan.total ≤ balance) (price : Term order.gasPrice)
    (first : Term order.startNonce) (taken : Course order.waits (some first.value) plan.payments) :
    Accounts order plan (Run.sequenced balance covered price first taken).calls
      (Run.sequenced balance covered price first taken).report taken.charges := by
  have known := (sequenced_iff covered price first taken _ _).mpr ⟨rfl, rfl⟩
  have reconciles := reconciles_sequenced covered price first taken
  exact {
    length_charges := taken.length_charges
    length_outcomes := reconciles.length_outcomes
    charged index outcome here := by
      have sent : accepted (Run.sequenced balance covered price first taken).calls =
          accepted (taken.calls order price.value) :=
        Run.filterMap_calls _ (fun _ => rfl) (fun _ => rfl) (fun _ => rfl) covered price first taken
      have mined : confirmations (Run.sequenced balance covered price first taken).calls =
          confirmations (taken.calls order price.value) :=
        Run.filterMap_calls _ (fun _ => rfl) (fun _ => rfl) (fun _ => rfl) covered price first taken
      rw [sent, mined]
      exact taken.charged order price.value 0 here
    gasTotal gasPrice priced := by
      obtain ⟨rfl, -⟩ := (sequenced_iff covered price first taken gasPrice _).mp ⟨known.covered, priced, known.nonce⟩
      exact taken.stretch_gasTotal price.value 0
    gasTotal_of_unpriced unpriced := absurd ⟨price.value, known.price⟩ unpriced
    of_completed gasTotal txIds completed := by
      obtain ⟨same, -⟩ := reconciles.of_completed gasTotal txIds completed
      exact ⟨same, same ▸ result_of_completed completed⟩
    of_abortedPreflight cause aborted := result_of_aborted (.inl aborted)
    of_abortedAt index cause aborted := result_of_aborted (.inr ⟨index, aborted⟩) }

variable {σ : Type}

/-- Whatever the ledger answers, the gas total of a report is the sum of the charges of its entries at the
gas price of the run, and the result of a completed run is that total. -/
theorem execute_accounts (ledger : Ledger (StateM σ)) (order : Order) (plan : Plan) (state : σ) :
    ∃ charges, Accounts order plan (callsOf ledger order plan state) (reportOf ledger order plan state) charges := by
  obtain ⟨made, report, calls⟩ := exists_run ledger order plan state
  rw [report, calls]
  cases made with
  | unknownFunds cause => exact ⟨_, accounts_withoutPayments _⟩
  | shortFunds balance short => exact ⟨_, accounts_withoutPayments _⟩
  | unpriced balance covered price => exact ⟨_, accounts_withoutPayments _⟩
  | unnumbered balance covered price start => exact ⟨_, accounts_withoutPayments _⟩
  | sequenced balance covered price start taken => exact ⟨_, accounts_sequenced covered price start taken⟩

end TokenDesk.Batch
