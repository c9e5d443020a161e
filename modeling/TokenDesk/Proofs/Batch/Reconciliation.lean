import TokenDesk.Proofs.Batch.Entries

/-! A report against the calls of its run.

How a run ended and which nonce is next say the same as the entries of its
report, and the entries say what the ledger answered.
-/

set_option autoImplicit false

namespace TokenDesk.Batch

structure Sequenced (order : Order) (plan : Plan) (calls : List LedgerEvent) (gasPrice : Amount)
    (start : UInt64) : Prop where
  covered : ∃ balance, .balanceOf order.payer (.ok balance) ∈ calls ∧ plan.total ≤ balance
  price : order.gasPrice = some gasPrice ∨ order.gasPrice = none ∧ .suggestGasPrice (.ok gasPrice) ∈ calls
  nonce : order.startNonce = some start ∨
    order.startNonce = none ∧ .pendingNonce order.payer (.ok start) ∈ calls

/-- What a report says of its run, of which `settled` payments went on and `failed` are the entries of
the one that did not. -/
structure Reconciles (order : Order) (plan : Plan) (calls : List LedgerEvent) (report : Report)
    (settled failed : List Outcome) : Prop where
  length_outcomes : report.outcomes.length = plan.payments.length
  txIds : report.txIds = (accepted calls).map Submitted.tx
  submitted : report.submitted = (accepted calls).length
  layout : report.outcomes = settled ++ failed ++
    List.replicate (plan.payments.length - settled.length - failed.length) .pending
  settledBy : ∀ index outcome, settled[index]? = some outcome → IsSettledBy order.waits calls index outcome
  failed_le_one : failed.length ≤ 1 ∧ ∀ outcome ∈ failed, outcome.isFailed
  preflight_iff : (∃ cause, report.ending = .abortedPreflight cause) ↔
    ¬ ∃ gasPrice start, Sequenced order plan calls gasPrice start
  nothing_of_preflight : (∃ cause, report.ending = .abortedPreflight cause) →
    settled = [] ∧ failed = [] ∧ report.nextNonce = none ∧ report.gasPrice = none
  gasPrice : ∀ gasPrice start, Sequenced order plan calls gasPrice start → report.gasPrice = some gasPrice
  nonces : ∀ gasPrice start, Sequenced order plan calls gasPrice start →
    ∀ (index : Nat) (outcome : Outcome), report.outcomes[index]? = some outcome → outcome ≠ .pending →
      ∃ nonce, outcome.nonce? = some nonce ∧ nonce.toNat = start.toNat + index
  nextNonce : ∀ gasPrice start, Sequenced order plan calls gasPrice start →
    report.nextNonce = nonceAt (start.toNat + (accepted calls).length)
  completed_iff : report.isCompleted ↔
    (∃ gasPrice start, Sequenced order plan calls gasPrice start) ∧ settled.length = plan.payments.length
  of_completed : ∀ gasTotal txIds, report.ending = @Ending.completed gasTotal txIds →
    gasTotal = report.gasTotal ∧ txIds = report.txIds
  submissionFailed_iff : ∀ index cause, report.ending = .abortedAt index (.submissionFailed index cause) ↔
    ∃ nonce, report.outcomes[index]? = some (.failed nonce none cause)
  confirmationFailed_iff : ∀ index tx cause,
    report.ending = .abortedAt index (.confirmationFailed index tx cause) ↔
      ∃ nonce, report.outcomes[index]? = some (.failed nonce (some tx) cause)
  nonceOverflow_iff : ∀ index, report.ending = .abortedAt index (.nonceOverflow index) ↔
    (∃ gasPrice start, Sequenced order plan calls gasPrice start) ∧
      settled.length = index ∧ index < plan.payments.length ∧ failed = []
  of_nonceOverflow : ∀ index, report.ending = .abortedAt index (.nonceOverflow index) →
    ∀ gasPrice start, Sequenced order plan calls gasPrice start → start.toNat + index = UInt64.size
  abortedAt_cases : ∀ index cause, report.ending = .abortedAt index cause →
    (∃ reason, cause = .submissionFailed index reason) ∨
      (∃ tx reason, cause = .confirmationFailed index tx reason) ∨ cause = .nonceOverflow index

variable {order : Order} {plan : Plan}

theorem sequenced_iff {balance : Amount} (covered : plan.total ≤ balance) (price : Term order.gasPrice)
    (first : Term order.startNonce) (taken : Course order.waits (some first.value) plan.payments)
    (gasPrice : Amount) (start : UInt64) :
    Sequenced order plan (Run.sequenced balance covered price first taken).calls gasPrice start ↔
      gasPrice = price.value ∧ start = first.value := by
  have no_price : .suggestGasPrice (.ok gasPrice) ∉ taken.calls order price.value := by
    intro made
    rcases taken.mem_calls order _ made with ⟨_, _, same⟩ | ⟨_, _, same⟩ <;> cases same
  have no_nonce : .pendingNonce order.payer (.ok start) ∉ taken.calls order price.value := by
    intro made
    rcases taken.mem_calls order _ made with ⟨_, _, same⟩ | ⟨_, _, same⟩ <;> cases same
  obtain ⟨payer, fixedPrice, fixedNonce, waits⟩ := order
  constructor
  · rintro ⟨-, priced, numbered⟩
    constructor
    · cases price <;> cases first <;> simp_all [Run.calls, Term.calls, Term.value]
    · cases price <;> cases first <;> simp_all [Run.calls, Term.calls, Term.value]
  · rintro ⟨rfl, rfl⟩
    refine ⟨⟨balance, by simp [Run.calls], covered⟩, ?_, ?_⟩
    · cases price <;> simp [Run.calls, Term.calls, Term.value]
    · cases first <;> simp [Run.calls, Term.calls, Term.value]

theorem reconciles_withoutPayments {calls : List LedgerEvent} (cause : Failure) (untaken : accepted calls = [])
    (unsequenced : ¬ ∃ gasPrice start, Sequenced order plan calls gasPrice start) :
    Reconciles order plan calls (.withoutPayments plan cause) [] [] where
  length_outcomes := by simp [Report.withoutPayments]
  txIds := by simp [Report.withoutPayments, Report.txIds, untaken, Outcome.tx?, List.map_const']
  submitted := by simp [Report.withoutPayments, Report.submitted, untaken, Outcome.tx?]
  layout := by simp [Report.withoutPayments, List.map_const']
  settledBy _ _ here := by cases here
  failed_le_one := ⟨Nat.zero_le 1, fun _ listed => by cases listed⟩
  preflight_iff := ⟨fun _ => unsequenced, fun _ => ⟨cause, rfl⟩⟩
  nothing_of_preflight _ := ⟨rfl, rfl, rfl, rfl⟩
  gasPrice gasPrice start sequenced := absurd ⟨gasPrice, start, sequenced⟩ unsequenced
  nonces gasPrice start sequenced := absurd ⟨gasPrice, start, sequenced⟩ unsequenced
  nextNonce gasPrice start sequenced := absurd ⟨gasPrice, start, sequenced⟩ unsequenced
  completed_iff := ⟨fun completed => (by cases completed),
    fun ⟨sequenced, _⟩ => absurd sequenced unsequenced⟩
  of_completed _ _ completed := by cases completed
  submissionFailed_iff index reason := ⟨fun aborted => (by cases aborted),
    fun ⟨nonce, listed⟩ => absurd listed (unreached_ne_failed _ index nonce none reason)⟩
  confirmationFailed_iff index tx reason := ⟨fun aborted => (by cases aborted),
    fun ⟨nonce, listed⟩ => absurd listed (unreached_ne_failed _ index nonce (some tx) reason)⟩
  nonceOverflow_iff _ := ⟨fun overflowed => (by cases overflowed),
    fun ⟨sequenced, _⟩ => absurd sequenced unsequenced⟩
  of_nonceOverflow _ overflowed := by cases overflowed
  abortedAt_cases _ _ aborted := by cases aborted

theorem reconciles_sequenced {balance : Amount} (covered : plan.total ≤ balance) (price : Term order.gasPrice)
    (first : Term order.startNonce) (taken : Course order.waits (some first.value) plan.payments) :
    Reconciles order plan (Run.sequenced balance covered price first taken).calls
      (Run.sequenced balance covered price first taken).report taken.settledOutcomes taken.failedOutcomes := by
  have numbered : some first.value = nonceAt first.value.toNat := (nonceAt_toNat first.value).symm
  have sequenced : ∃ gasPrice start,
      Sequenced order plan (Run.sequenced balance covered price first taken).calls gasPrice start :=
    ⟨price.value, first.value, (sequenced_iff covered price first taken _ _).mpr ⟨rfl, rfl⟩⟩
  have fits := taken.length_parts_le
  -- The questions before the payments are no transfers and no confirmations.
  have taken_transfers : accepted (Run.sequenced balance covered price first taken).calls =
      accepted (taken.calls order price.value) :=
    Run.filterMap_calls _ (fun _ => rfl) (fun _ => rfl) (fun _ => rfl) covered price first taken
  have confirmed_transfers : confirmations (Run.sequenced balance covered price first taken).calls =
      confirmations (taken.calls order price.value) :=
    Run.filterMap_calls _ (fun _ => rfl) (fun _ => rfl) (fun _ => rfl) covered price first taken
  exact {
    length_outcomes := by
      rw [Run.report, taken.stretch_outcomes]
      simp only [List.length_append, List.length_replicate]
      omega
    txIds := by
      rw [taken_transfers]
      exact taken.stretch_txIds order price.value 0
    submitted := by
      rw [taken_transfers]
      exact taken.report_submitted order price.value
    layout := taken.stretch_outcomes price.value 0
    settledBy index outcome here := by
      unfold IsSettledBy
      rw [taken_transfers, confirmed_transfers]
      exact taken.settledBy order price.value here
    failed_le_one := ⟨taken.length_failedOutcomes_le, fun _ => taken.isFailed_failedOutcomes⟩
    preflight_iff := ⟨fun ⟨_, preflight⟩ => absurd preflight (Stretch.ending_ne_abortedPreflight _ _),
      fun unsequenced => absurd sequenced unsequenced⟩
    nothing_of_preflight := fun ⟨_, preflight⟩ =>
      absurd preflight (Stretch.ending_ne_abortedPreflight _ _)
    gasPrice gasPrice start sequenced := by
      obtain ⟨rfl, -⟩ := (sequenced_iff covered price first taken _ _).mp sequenced
      rfl
    nonces gasPrice start sequenced index outcome here reached := by
      obtain ⟨-, rfl⟩ := (sequenced_iff covered price first taken _ _).mp sequenced
      obtain ⟨nonce, number⟩ := outcome.exists_nonce reached
      exact ⟨nonce, number, taken.stretch_nonces price.value 0 numbered here number⟩
    nextNonce gasPrice start sequenced := by
      obtain ⟨-, rfl⟩ := (sequenced_iff covered price first taken _ _).mp sequenced
      rw [taken_transfers]
      exact taken.stretch_nextNonce order price.value 0 numbered
    completed_iff := by
      rw [and_iff_right sequenced]
      exact Run.isCompleted_iff covered price first taken
    of_completed gasTotal txIds completed :=
      ((Stretch.ending_eq_completed _ _ _).mp completed).2
    submissionFailed_iff index cause :=
      (Stretch.ending_eq_abortedAt _ _ _).trans (taken.failure_eq_iff price.value index none cause)
    confirmationFailed_iff index tx cause :=
      (Stretch.ending_eq_abortedAt _ _ _).trans (taken.failure_eq_iff price.value index (some tx) cause)
    nonceOverflow_iff index := by
      rw [and_iff_right sequenced]
      exact (Stretch.ending_eq_abortedAt _ _ _).trans (taken.nonceOverflow_iff price.value index)
    of_nonceOverflow index overflowed gasPrice start sequenced := by
      obtain ⟨-, rfl⟩ := (sequenced_iff covered price first taken _ _).mp sequenced
      have failed := (Stretch.ending_eq_abortedAt _ _ _).mp overflowed
      obtain ⟨rfl, short, unhalted⟩ := (taken.nonceOverflow_iff price.value index).mp failed
      exact taken.size_of_short numbered (Nat.le_of_lt first.value.toNat_lt_size)
        (taken.halt_eq_none_iff.mpr unhalted) short
    abortedAt_cases index cause aborted :=
      taken.failure_cases price.value ((Stretch.ending_eq_abortedAt _ _ _).mp aborted) }

variable {σ : Type}

/-- Whatever the ledger answers, the report of a run reconciles with the calls that it made. -/
theorem execute_reconciles (ledger : Ledger (StateM σ)) (order : Order) (plan : Plan) (state : σ) :
    ∃ settled failed, Reconciles order plan (callsOf ledger order plan state)
      (reportOf ledger order plan state) settled failed := by
  obtain ⟨made, report, calls⟩ := exists_run ledger order plan state
  rw [report, calls]
  -- A run that ends before the payments lacks the call that its ending names.
  cases made with
  | unknownFunds cause =>
    refine ⟨[], [], reconciles_withoutPayments _ rfl ?_⟩
    rintro ⟨gasPrice, start, ⟨balance, funds, -⟩, -, -⟩
    simp [Run.calls] at funds
  | shortFunds balance short =>
    refine ⟨[], [], reconciles_withoutPayments _ rfl ?_⟩
    rintro ⟨gasPrice, start, ⟨funds, asked, covered⟩, -, -⟩
    simp only [Run.calls, List.mem_singleton, LedgerEvent.balanceOf.injEq, Except.ok.injEq, true_and] at asked
    exact absurd (asked ▸ covered) (Nat.not_le_of_lt short)
  | unpriced balance covered price =>
    refine ⟨[], [], reconciles_withoutPayments _ (by rw [Run.calls, price.calls_eq]; rfl) ?_⟩
    rintro ⟨gasPrice, start, -, priced, -⟩
    simp [Run.calls, price.calls_eq, price.eq_none] at priced
  | unnumbered balance covered price start =>
    refine ⟨[], [], reconciles_withoutPayments _ ?_ ?_⟩
    · rw [Run.calls, start.calls_eq, accepted, List.filterMap_cons_none rfl, List.filterMap_append,
        price.filterMap_calls _ _ fun _ => rfl]
      rfl
    · rintro ⟨gasPrice, nonce, -, -, numbered⟩
      simp [Run.calls, start.calls_eq, start.eq_none, price.calls_eq] at numbered
  | sequenced balance covered price start taken =>
    exact ⟨_, _, reconciles_sequenced covered price start taken⟩

end TokenDesk.Batch
