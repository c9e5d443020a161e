import TokenDesk.Proofs.Batch.Run

/-! The entries of a report.

The entries are those of the payments that went on, then at most one that failed,
then the ones never reached. Each says what the ledger answered, and carries the
nonce of its position.
-/

set_option autoImplicit false

namespace TokenDesk

def LedgerEvent.accepted? : LedgerEvent → Option Submitted
  | transfer _ (.ok sent) => some sent
  | _ => none

def LedgerEvent.confirmation? : LedgerEvent → Option Confirmation
  | waitConfirmed _ (.ok confirmation) => some confirmation
  | _ => none

namespace Batch

def accepted (calls : List LedgerEvent) : List Submitted :=
  calls.filterMap LedgerEvent.accepted?

def confirmations (calls : List LedgerEvent) : List Confirmation :=
  calls.filterMap LedgerEvent.confirmation?

def Outcome.isFailed : Outcome → Bool
  | failed _ _ _ => true
  | _ => false

theorem Outcome.exists_nonce (outcome : Outcome) (reached : outcome ≠ .pending) :
    ∃ nonce, outcome.nonce? = some nonce := by
  cases outcome with
  | pending => exact absurd rfl reached
  | broadcast nonce _ => exact ⟨nonce, rfl⟩
  | confirmed nonce _ _ _ => exact ⟨nonce, rfl⟩
  | failed nonce _ _ => exact ⟨nonce, rfl⟩

theorem unreached_ne_failed (rest : List Payment) (index : Nat) (nonce : UInt64) (tx : Option TxId)
    (cause : LedgerError) : (rest.map fun _ => Outcome.pending)[index]? ≠ some (.failed nonce tx cause) := by
  rw [List.getElem?_map]
  intro listed
  obtain ⟨-, -, same⟩ := Option.map_eq_some_iff.mp listed
  cases same

def failureAt (index : Nat) : Option TxId → LedgerError → Failure
  -- A payment that failed with a transaction was taken, so it is the confirmation that is missing.
  | none, cause => .submissionFailed index cause
  | some tx, cause => .confirmationFailed index tx cause

def IsSettledBy (waits : Bool) (calls : List LedgerEvent) (index : Nat) (outcome : Outcome) : Prop :=
  ∃ nonce sent, (accepted calls)[index]? = some sent ∧
    match waits with
    | false => outcome = .broadcast nonce sent.tx
    | true => ∃ confirmation, (confirmations calls)[index]? = some confirmation ∧
        outcome = .confirmed nonce sent.tx confirmation.gasUsed confirmation.success

variable {waits : Bool} {next : Option UInt64} {payments : List Payment}

namespace Course

def settledOutcomes {next : Option UInt64} {payments : List Payment} :
    Course waits next payments → List Outcome
  | finished => []
  | exhausted => []
  | halted _ => []
  | @settled _ nonce _ _ first others => first.outcome nonce :: others.settledOutcomes

def halt? {next : Option UInt64} {payments : List Payment} :
    Course waits next payments → Option (UInt64 × Halt waits)
  | finished => none
  | exhausted => none
  | @halted _ nonce _ _ halt => some (nonce, halt)
  | settled _ others => others.halt?

def failedOutcomes (taken : Course waits next payments) : List Outcome :=
  taken.halt?.toList.map fun (nonce, halt) => halt.outcome nonce

theorem length_failedOutcomes_le (taken : Course waits next payments) : taken.failedOutcomes.length ≤ 1 := by
  unfold failedOutcomes
  cases taken.halt? <;> simp

theorem isFailed_failedOutcomes (taken : Course waits next payments) {outcome : Outcome}
    (listed : outcome ∈ taken.failedOutcomes) : outcome.isFailed := by
  simp only [failedOutcomes, List.mem_map] at listed
  obtain ⟨⟨nonce, halt⟩, -, rfl⟩ := listed
  cases halt <;> rfl

theorem halt_eq_none_iff (taken : Course waits next payments) :
    taken.halt? = none ↔ taken.failedOutcomes = [] := by
  unfold failedOutcomes
  cases taken.halt? <;> simp

theorem stretch_outcomes (gasPrice : Amount) (index : Nat) (taken : Course waits next payments) :
    (taken.stretch gasPrice index).outcomes = taken.settledOutcomes ++ taken.failedOutcomes ++
      List.replicate (payments.length - taken.settledOutcomes.length - taken.failedOutcomes.length) .pending := by
  induction taken generalizing index with
  | finished => rfl
  | exhausted =>
    simp [stretch, Stretch.stopped, settledOutcomes, failedOutcomes, halt?, List.map_const', List.replicate_succ]
  | halted halt => simp [stretch, Stretch.stopped, settledOutcomes, failedOutcomes, halt?, List.map_const']
  | settled first others ih =>
    simp [stretch, Stretch.after, settledOutcomes, ih, failedOutcomes, halt?]

theorem stretch_failure (gasPrice : Amount) (index : Nat) (taken : Course waits next payments) :
    (taken.stretch gasPrice index).failure = match taken.halt? with
      | some (_, halt) => some (index + taken.settledOutcomes.length,
          halt.failure (index + taken.settledOutcomes.length))
      | none =>
        if taken.settledOutcomes.length < payments.length then
          some (index + taken.settledOutcomes.length, .nonceOverflow (index + taken.settledOutcomes.length))
        else none := by
  induction taken generalizing index with
  | finished => rfl
  | exhausted => rfl
  | halted halt => rfl
  | settled first others ih =>
    simp [stretch, Stretch.after, settledOutcomes, ih, halt?, Nat.add_assoc, Nat.add_comm 1]

theorem length_parts_le (taken : Course waits next payments) :
    taken.settledOutcomes.length + taken.failedOutcomes.length ≤ payments.length := by
  induction taken with
  | finished => exact Nat.le_refl 0
  | exhausted => simp [settledOutcomes, failedOutcomes, halt?]
  | halted halt => simp [settledOutcomes, failedOutcomes, halt?]
  | settled first others ih =>
    simp only [failedOutcomes, settledOutcomes, halt?, List.length_cons] at ih ⊢
    omega

theorem size_of_short (taken : Course waits next payments) {start : Nat} (numbered : next = nonceAt start)
    (bounded : start ≤ UInt64.size) (unhalted : taken.halt? = none)
    (short : taken.settledOutcomes.length < payments.length) :
    start + taken.settledOutcomes.length = UInt64.size := by
  induction taken generalizing start with
  | finished => cases short
  | exhausted => exact Nat.le_antisymm bounded (size_le_of_nonceAt numbered)
  | halted halt => cases unhalted
  | settled first others ih =>
    simp only [settledOutcomes, List.length_cons] at short ⊢
    have last := ih (nonceAfter_of_nonceAt numbered) (add_one_le_of_nonceAt numbered) unhalted (by omega)
    omega

end Course

@[simp] theorem accepted_append (calls more : List LedgerEvent) :
    accepted (calls ++ more) = accepted calls ++ accepted more := by
  simp [accepted]

@[simp] theorem Settlement.accepted_calls (request : Transfer) (first : Settlement waits) :
    accepted (first.calls request) = [first.sent] := by
  cases first <;> rfl

theorem Halt.nonce_of_outcome {halt : Halt waits} {number nonce : UInt64} {tx : Option TxId} {cause : LedgerError}
    (same : halt.outcome number = .failed nonce tx cause) : number = nonce := by
  cases halt <;> cases same <;> rfl

@[simp] theorem Halt.accepted_calls (request : Transfer) (halt : Halt waits) :
    accepted (halt.calls request) = halt.sent?.toList := by
  cases halt <;> rfl

namespace Course

theorem mem_calls (order : Order) (gasPrice : Amount) (taken : Course waits next payments)
    {call : LedgerEvent} (made : call ∈ taken.calls order gasPrice) :
    (∃ request answer, call = .transfer request answer) ∨ ∃ tx answer, call = .waitConfirmed tx answer := by
  induction taken with
  | finished => cases made
  | exhausted => cases made
  | halted halt =>
    cases halt <;> simp only [calls, Halt.calls, List.mem_cons, List.not_mem_nil, or_false] at made <;> grind
  | settled first others ih =>
    rw [calls, List.mem_append] at made
    rcases made with made | made
    · cases first <;> simp only [Settlement.calls, List.mem_cons, List.not_mem_nil, or_false] at made <;> grind
    · exact ih made

theorem stretch_txIds (order : Order) (gasPrice : Amount) (index : Nat) (taken : Course waits next payments) :
    (taken.stretch gasPrice index).outcomes.filterMap Outcome.tx? =
      (accepted (taken.calls order gasPrice)).map Submitted.tx := by
  induction taken generalizing index with
  | finished => rfl
  | exhausted => simp [stretch, Stretch.stopped, calls, accepted, Outcome.tx?, List.map_const']
  | halted halt =>
    cases halt <;>
      simp [stretch, Stretch.stopped, calls, Halt.outcome, Halt.sent?, Outcome.tx?, List.map_const']
  | settled first others ih =>
    cases first <;>
      simp [stretch, Stretch.after, calls, ih, Settlement.outcome, Settlement.sent, Outcome.tx?]

theorem report_submitted (order : Order) (gasPrice : Amount) (taken : Course waits next payments) :
    ((taken.stretch gasPrice 0).report gasPrice).submitted = (accepted (taken.calls order gasPrice)).length := by
  rw [Report.submitted_eq]
  exact (congrArg List.length (taken.stretch_txIds order gasPrice 0)).trans (List.length_map _)

theorem stretch_nextNonce (order : Order) (gasPrice : Amount) (index : Nat)
    (taken : Course waits next payments) {start : Nat} (numbered : next = nonceAt start) :
    (taken.stretch gasPrice index).nextNonce =
      nonceAt (start + (accepted (taken.calls order gasPrice)).length) := by
  induction taken generalizing index start with
  | finished => exact numbered
  | exhausted => exact numbered
  | halted halt =>
    cases halt with
    | refused cause => exact numbered
    | unconfirmed sent cause => exact nonceAfter_of_nonceAt numbered
  | settled first others ih =>
    simp only [stretch, Stretch.after, calls, accepted_append, Settlement.accepted_calls, List.length_append,
      List.length_singleton, ih (index + 1) (nonceAfter_of_nonceAt numbered), Nat.add_assoc]

theorem stretch_nonces (gasPrice : Amount) (first : Nat) (taken : Course waits next payments) {start : Nat}
    (numbered : next = nonceAt start) {index : Nat} {outcome : Outcome} {nonce : UInt64}
    (here : (taken.stretch gasPrice first).outcomes[index]? = some outcome)
    (number : outcome.nonce? = some nonce) : nonce.toNat = start + index := by
  -- Index and nonce count up together, so each payment passes the number of the next nonce on.
  induction taken generalizing first start index with
  | finished => cases here
  | exhausted =>
    simp only [stretch, Stretch.stopped, List.getElem?_map, Option.map_eq_some_iff] at here
    obtain ⟨-, -, rfl⟩ := here
    cases number
  | halted halt =>
    simp only [stretch, Stretch.stopped] at here
    cases index with
    | zero =>
      rw [eq_toNat_of_nonceAt numbered]
      cases halt <;> cases here <;> cases number <;> rfl
    | succ index =>
      simp only [List.getElem?_cons_succ, List.getElem?_map, Option.map_eq_some_iff] at here
      obtain ⟨-, -, rfl⟩ := here
      cases number
  | settled settlement others ih =>
    cases index with
    | zero =>
      rw [eq_toNat_of_nonceAt numbered]
      cases settlement <;> cases here <;> cases number <;> rfl
    | succ index =>
      have later := ih (first + 1) (nonceAfter_of_nonceAt numbered) here
      omega

theorem settledBy (order : Order) (gasPrice : Amount) (taken : Course waits next payments) {index : Nat}
    {outcome : Outcome} (here : taken.settledOutcomes[index]? = some outcome) :
    IsSettledBy waits (taken.calls order gasPrice) index outcome := by
  induction taken generalizing index with
  | finished => cases here
  | exhausted => cases here
  | halted halt => cases here
  | @settled nonce payment rest first others ih =>
    cases index with
    | zero =>
      cases here
      cases first with
      | broadcast sent => exact ⟨nonce, sent, rfl, rfl⟩
      | confirmed sent confirmation => exact ⟨nonce, sent, rfl, confirmation, rfl, rfl⟩
    | succ index =>
      obtain ⟨number, sent, taken, said⟩ := ih here
      -- A confirmation stands among the calls only if the run waits; both sides compute to the same list.
      cases first with
      | broadcast _ => exact ⟨number, sent, taken, said⟩
      | confirmed _ _ => exact ⟨number, sent, taken, said⟩

theorem failed_at_iff (gasPrice : Amount) (first index : Nat) (taken : Course waits next payments) (nonce : UInt64)
    (tx : Option TxId) (cause : LedgerError) :
    (taken.stretch gasPrice first).outcomes[index]? = some (.failed nonce tx cause) ↔
      index = taken.settledOutcomes.length ∧
        ∃ halt, taken.halt? = some (nonce, halt) ∧ halt.outcome nonce = .failed nonce tx cause := by
  -- Entries before the halt are settled ones and those after it are pending, so only its own place is left.
  induction taken generalizing first index with
  | finished => simp [stretch, halt?]
  | @exhausted payment rest =>
    constructor
    · intro listed
      exact absurd listed (unreached_ne_failed (payment :: rest) index nonce tx cause)
    · rintro ⟨-, halt, met, -⟩
      cases met
  | @halted number payment rest halt =>
    cases index with
    | zero =>
      constructor
      · intro listed
        simp only [stretch, Stretch.stopped, List.getElem?_cons_zero, Option.some.injEq] at listed
        obtain rfl := Halt.nonce_of_outcome listed
        exact ⟨rfl, halt, rfl, listed⟩
      · rintro ⟨-, other, met, same⟩
        cases met
        exact congrArg some same
    | succ index =>
      constructor
      · intro listed
        exact absurd listed (unreached_ne_failed rest index nonce tx cause)
      · rintro ⟨beyond, -⟩
        cases beyond
  | settled settlement others ih =>
    cases index with
    | zero => cases settlement <;> simp [stretch, Stretch.after, settledOutcomes, Settlement.outcome]
    | succ index => simp [stretch, Stretch.after, settledOutcomes, halt?, ih]

theorem failure_eq_iff (gasPrice : Amount) (index : Nat) (tx : Option TxId) (cause : LedgerError)
    (taken : Course waits next payments) :
    (taken.stretch gasPrice 0).failure = some (index, failureAt index tx cause) ↔
      ∃ nonce, (taken.stretch gasPrice 0).outcomes[index]? = some (.failed nonce tx cause) := by
  simp only [stretch_failure, failed_at_iff, Nat.zero_add]
  cases taken.halt? with
  | none =>
    by_cases short : taken.settledOutcomes.length < payments.length <;> cases tx <;> simp [short, failureAt]
  | some met =>
    obtain ⟨nonce, halt⟩ := met
    cases halt <;> cases tx <;> simp [Halt.failure, Halt.outcome, failureAt] <;> grind

theorem nonceOverflow_iff (gasPrice : Amount) (index : Nat) (taken : Course waits next payments) :
    (taken.stretch gasPrice 0).failure = some (index, .nonceOverflow index) ↔
      taken.settledOutcomes.length = index ∧ index < payments.length ∧ taken.failedOutcomes = [] := by
  simp only [stretch_failure, failedOutcomes, Nat.zero_add]
  cases taken.halt? with
  | none =>
    by_cases short : taken.settledOutcomes.length < payments.length
    · simp [short]
      omega
    · simp [short]
      omega
  | some met =>
    obtain ⟨nonce, halt⟩ := met
    cases halt <;> simp [Halt.failure]

theorem failure_eq_none_iff (gasPrice : Amount) (taken : Course waits next payments) :
    (taken.stretch gasPrice 0).failure = none ↔ taken.settledOutcomes.length = payments.length := by
  have fits := taken.length_parts_le
  rw [stretch_failure]
  simp only [failedOutcomes] at fits
  cases halted : taken.halt? with
  | none =>
    simp only [halted, Option.toList_none, List.map_nil, List.length_nil] at fits
    simp
    omega
  | some met =>
    simp only [halted, Option.toList_some, List.map_cons, List.map_nil, List.length_singleton] at fits
    simp
    omega

theorem failure_cases (gasPrice : Amount) (taken : Course waits next payments) {index : Nat} {cause : Failure}
    (failed : (taken.stretch gasPrice 0).failure = some (index, cause)) :
    (∃ reason, cause = .submissionFailed index reason) ∨
      (∃ tx reason, cause = .confirmationFailed index tx reason) ∨ cause = .nonceOverflow index := by
  rw [stretch_failure] at failed
  split at failed
  next halt _ =>
    cases halt <;> cases failed
    · exact .inl ⟨_, rfl⟩
    · exact .inr (.inl ⟨_, _, rfl⟩)
  · split at failed <;> cases failed
    exact .inr (.inr rfl)

end Course

variable {order : Order} {plan : Plan}

theorem Run.isCompleted_iff {balance : Amount} (covered : plan.total ≤ balance) (price : Term order.gasPrice)
    (start : Term order.startNonce) (taken : Course order.waits (some start.value) plan.payments) :
    (sequenced balance covered price start taken).report.isCompleted ↔
      taken.settledOutcomes.length = plan.payments.length := by
  rw [Report.isCompleted_iff, ← taken.failure_eq_none_iff price.value]
  simp [report, Stretch.ending_eq_completed]

theorem Run.ending_of_refused {balance : Amount} (covered : plan.total ≤ balance) (price : Term order.gasPrice)
    (start : Term order.startNonce) (taken : Course order.waits (some start.value) plan.payments)
    {nonce : UInt64} {cause : LedgerError} (refused : taken.halt? = some (nonce, .refused cause)) :
    (sequenced balance covered price start taken).report.ending =
      .abortedAt taken.settledOutcomes.length (.submissionFailed taken.settledOutcomes.length cause) := by
  refine (Stretch.ending_eq_abortedAt _ _ _).mpr ?_
  rw [taken.stretch_failure, refused]
  simp [Halt.failure]

end Batch

end TokenDesk
