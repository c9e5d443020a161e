import TokenDesk.Proofs.Batch.Course

/-! The runs that a plan can have.

A run is everything that a ledger answers from the question for the balance on.
Its report and its journal are functions of it, so a law of all runs is a law of
every ledger, whatever its answers depend on.
-/

set_option autoImplicit false

namespace TokenDesk.Batch

/-- A term of the run, fixed by the order or answered by the ledger. -/
inductive Term {α : Type} : Option α → Type where
  | fixed (value : α) : Term (some value)
  | answered (value : α) : Term none

inductive Unanswered {α : Type} : Option α → Type where
  | unanswered (cause : LedgerError) : Unanswered none

variable {α : Type} {fixed : Option α}

def Term.value : Term fixed → α
  | .fixed value => value
  | .answered value => value

def Term.calls (event : Except LedgerError α → LedgerEvent) : Term fixed → List LedgerEvent
  | .fixed _ => []
  | .answered value => [event (.ok value)]

def Unanswered.cause : Unanswered fixed → LedgerError
  | .unanswered cause => cause

def Unanswered.calls (event : Except LedgerError α → LedgerEvent) : Unanswered fixed → List LedgerEvent
  | .unanswered cause => [event (.error cause)]

theorem Term.calls_eq (event : Except LedgerError α → LedgerEvent) (had : Term fixed) :
    had.calls event = if fixed.isNone then [event (.ok had.value)] else [] := by
  cases had <;> rfl

theorem Term.filterMap_calls {β : Type} (read : LedgerEvent → Option β) (event : Except LedgerError α → LedgerEvent)
    (blind : ∀ value, read (event (.ok value)) = none) (had : Term fixed) :
    (had.calls event).filterMap read = [] := by
  cases had with
  | fixed value => rfl
  | answered value => simp [calls, blind]

theorem Term.value_of_fixed {value : α} (had : Term fixed) (same : fixed = some value) : had.value = value := by
  cases had with
  | fixed other => exact Option.some.inj same
  | answered other => cases same

theorem Unanswered.eq_none (missing : Unanswered fixed) : fixed = none := by
  cases missing
  rfl

theorem Unanswered.calls_eq (event : Except LedgerError α → LedgerEvent) (missing : Unanswered fixed) :
    missing.calls event = [event (.error missing.cause)] := by
  cases missing
  rfl

inductive Run (order : Order) (plan : Plan) : Type where
  | unknownFunds (cause : LedgerError)
  | shortFunds (balance : Amount) (short : balance < plan.total)
  | unpriced (balance : Amount) (covered : plan.total ≤ balance) (price : Unanswered order.gasPrice)
  | unnumbered (balance : Amount) (covered : plan.total ≤ balance) (price : Term order.gasPrice)
      (start : Unanswered order.startNonce)
  | sequenced (balance : Amount) (covered : plan.total ≤ balance) (price : Term order.gasPrice)
      (start : Term order.startNonce) (taken : Course order.waits (some start.value) plan.payments)

def Report.withoutPayments (plan : Plan) (cause : Failure) : Report :=
  { ending := .abortedPreflight cause, nextNonce := none, gasPrice := none, gasTotal := 0,
    outcomes := plan.payments.map fun _ => .pending }

def Stretch.report (gasPrice : Amount) (stretch : Stretch) : Report where
  ending := stretch.ending
  nextNonce := stretch.nextNonce
  gasPrice := some gasPrice
  gasTotal := stretch.gasTotal
  outcomes := stretch.outcomes

namespace Run

variable {order : Order} {plan : Plan}

def report : Run order plan → Report
  | unknownFunds cause => .withoutPayments plan (.preflight cause)
  | shortFunds balance _ => .withoutPayments plan (.insufficientFunds balance plan.total)
  | unpriced _ _ price => .withoutPayments plan (.preflight price.cause)
  | unnumbered _ _ _ start => .withoutPayments plan (.preflight start.cause)
  | sequenced _ _ price _ taken =>
    let stretch := taken.stretch price.value 0
    { ending := stretch.ending, nextNonce := stretch.nextNonce, gasPrice := some price.value,
      gasTotal := stretch.gasTotal, outcomes := stretch.outcomes }

def calls : Run order plan → List LedgerEvent
  | unknownFunds cause => [.balanceOf order.payer (.error cause)]
  | shortFunds balance _ => [.balanceOf order.payer (.ok balance)]
  | unpriced balance _ price =>
    .balanceOf order.payer (.ok balance) :: price.calls .suggestGasPrice
  | unnumbered balance _ price start =>
    .balanceOf order.payer (.ok balance) ::
      (price.calls .suggestGasPrice ++ start.calls (.pendingNonce order.payer))
  | sequenced balance _ price start taken =>
    .balanceOf order.payer (.ok balance) ::
      (price.calls .suggestGasPrice ++ start.calls (.pendingNonce order.payer) ++
        taken.calls order price.value)

theorem filterMap_calls {β : Type} (read : LedgerEvent → Option β)
    (blind_funds : ∀ answer, read (.balanceOf order.payer answer) = none)
    (blind_price : ∀ answer, read (.suggestGasPrice answer) = none)
    (blind_nonce : ∀ answer, read (.pendingNonce order.payer answer) = none)
    {balance : Amount} (covered : plan.total ≤ balance) (price : Term order.gasPrice)
    (start : Term order.startNonce) (taken : Course order.waits (some start.value) plan.payments) :
    (sequenced balance covered price start taken).calls.filterMap read =
      (taken.calls order price.value).filterMap read := by
  rw [calls, List.filterMap_cons_none (blind_funds _), List.filterMap_append, List.filterMap_append,
    price.filterMap_calls read _ fun _ => blind_price _, start.filterMap_calls read _ fun _ => blind_nonce _]
  rfl

end Run

section
variable {m : Type → Type} [Monad m]

def term (ask : ExceptT LedgerError m α) : (fixed : Option α) → ExceptT (Unanswered fixed) m (Term fixed)
  | some value => pure (.fixed value)
  | none => .answered <$> ask.adapt .unanswered

def run (ledger : Ledger m) (order : Order) (plan : Plan) : m (Run order plan) := do
  match ← (ledger.balanceOf order.payer).run with
  | .error cause => return .unknownFunds cause
  | .ok balance =>
    if short : balance < plan.total then return .shortFunds balance short
    else
      have covered := Nat.le_of_not_lt short
      match ← (term ledger.suggestGasPrice order.gasPrice).run with
      | .error price => return .unpriced balance covered price
      | .ok price =>
        match ← (term (ledger.pendingNonce order.payer) order.startNonce).run with
        | .error start => return .unnumbered balance covered price start
        | .ok start =>
          return .sequenced balance covered price start
            (← course ledger order price.value (some start.value) plan.payments)

variable [LawfulMonad m]

theorem adapt_term_fixed {ε : Type} (ask : ExceptT LedgerError m α) (value : α) (f : LedgerError → ε) :
    (term ask (some value)).adapt (fun missing => f missing.cause) = pure (.fixed value) := by
  apply ExceptT.ext
  simp [term]

theorem adapt_term_open {ε : Type} (ask : ExceptT LedgerError m α) (f : LedgerError → ε) :
    (term ask none).adapt (fun missing => f missing.cause) = .answered <$> ask.adapt f := by
  apply ExceptT.ext
  simp only [term, ExceptT.run_adapt, ExceptT.run_map, Functor.map_map]
  congr 1
  funext answer
  cases answer <;> rfl

theorem preflight_eq (ledger : Ledger m) (order : Order) (plan : Plan) :
    preflight ledger order plan = do
      let balance ← (ledger.balanceOf order.payer).adapt Failure.preflight
      if balance < plan.total then throw (.insufficientFunds balance plan.total)
      let price ← (term ledger.suggestGasPrice order.gasPrice).adapt fun missing => .preflight missing.cause
      let start ← (term (ledger.pendingNonce order.payer) order.startNonce).adapt fun missing =>
        .preflight missing.cause
      return (price.value, start.value) := by
  obtain ⟨payer, fixedPrice, fixedNonce, waits⟩ := order
  -- A fixed term asks nothing, so there is one program for each choice of what is fixed.
  cases fixedPrice <;> cases fixedNonce <;>
    simp [preflight, adapt_term_fixed, adapt_term_open, Term.value]

theorem execute_eq_run (ledger : Ledger m) (order : Order) (plan : Plan) :
    execute ledger order plan = Run.report <$> run ledger order plan := by
  simp only [execute, preflight_eq, run, ExceptT.run_bind, ExceptT.run_adapt, bind_assoc, bind_map_left, map_bind]
  -- From here on, one answer of the ledger after another: balance, price, nonce.
  congr 1
  funext funds
  cases funds with
  | error cause => simp [Run.report, Report.withoutPayments]
  | ok balance =>
    by_cases short : balance < plan.total
    · simp [short, Run.report, Report.withoutPayments]
    · simp only [mapError_ok, short, if_false, dif_neg, not_false_eq_true, ExceptT.run_bind,
        ExceptT.run_adapt, bind_assoc, bind_map_left, map_bind]
      congr 1
      funext price
      cases price with
      | error price => simp [Run.report, Report.withoutPayments]
      | ok price =>
        simp only [mapError_ok, bind_assoc, map_bind]
        congr 1
        funext start
        cases start with
        | error start => simp [Run.report, Report.withoutPayments]
        | ok start =>
          simp only [mapError_ok, ExceptT.run_pure, pure_bind, payFrom_eq_course, bind_pure_comp, Functor.map_map]
          rfl

def termCalls (event : Except LedgerError α → LedgerEvent) :
    Except (Unanswered fixed) (Term fixed) → List LedgerEvent
  | .error missing => missing.calls event
  | .ok had => had.calls event

theorem term_recorded (event : Except LedgerError α → LedgerEvent) (ask : ExceptT LedgerError m α)
    (fixed : Option α) (journal : List LedgerEvent) :
    (term (Ledger.noted event ask) fixed).run.run journal =
      (fun answer => (answer, journal ++ termCalls event answer)) <$> (term ask fixed).run := by
  cases fixed with
  | some value => simp [term, termCalls, Term.calls]
  | none =>
    simp only [term, ExceptT.run_adapt, ExceptT.run_map, StateT.run_map, Ledger.run_noted, Functor.map_map]
    congr 1
    funext answer
    cases answer <;> rfl

theorem run_recorded (ledger : Ledger m) (order : Order) (plan : Plan) (journal : List LedgerEvent) :
    (run ledger.recorded order plan).run journal =
      (fun made => (made, journal ++ made.calls)) <$> run ledger order plan := by
  simp only [run, Ledger.recorded, StateT.run_bind, Ledger.run_noted, bind_map_left, map_bind]
  -- Both sides ask the same questions and are compared answer by answer.
  congr 1
  funext funds
  cases funds with
  | error cause => simp [Run.calls]
  | ok balance =>
    by_cases short : balance < plan.total
    · simp [short, Run.calls]
    · simp only [short, dif_neg, not_false_eq_true, StateT.run_bind, term_recorded, bind_map_left, map_bind]
      congr 1
      funext price
      cases price with
      | error price => simp [Run.calls, termCalls]
      | ok price =>
        simp only [StateT.run_bind, term_recorded, bind_map_left, map_bind]
        congr 1
        funext start
        cases start with
        | error start => simp [Run.calls, termCalls]
        | ok start =>
          have taken := course_recorded ledger order price.value (some start.value) plan.payments
          simp only [Ledger.recorded] at taken
          simp [taken, Run.calls, termCalls]

end

/-! What is seen of a run on a ledger with a state. Any ledger is one of these: the state can hold all
earlier calls, and the answers are any functions of it. -/

variable {σ : Type}

theorem run_bind_of {α β : Type} {first : StateM σ α} {answer : α} {state next : σ}
    (ran : first.run state = (answer, next)) (others : α → StateM σ β) :
    (first >>= others).run state = (others answer).run next := by
  rw [StateT.run_bind, ran]
  rfl

theorem run_map_of {α β : Type} {first : StateM σ α} {answer : α} {state next : σ}
    (ran : first.run state = (answer, next)) (f : α → β) : (f <$> first).run state = (f answer, next) := by
  rw [StateT.run_map, ran]
  rfl

section
variable {ledger : Ledger (StateM σ)} {order : Order} {gasPrice : Amount}

theorem course_settled {nonce : UInt64} {payment : Payment} {rest : List Payment} {state middle after : σ}
    {first : Settlement order.waits} {others : Course order.waits (nonceAfter nonce) rest}
    (answer : (attempt ledger (order.request gasPrice nonce payment) order.waits).run.run state = (.ok first, middle))
    (ran : (course ledger order gasPrice (nonceAfter nonce) rest).run middle = (others, after)) :
    (course ledger order gasPrice (some nonce) (payment :: rest)).run state = (.settled first others, after) := by
  rw [course, run_bind_of answer, run_bind_of ran]
  rfl

theorem course_halted {nonce : UInt64} {payment : Payment} {state middle : σ} {halt : Halt order.waits}
    (rest : List Payment)
    (answer : (attempt ledger (order.request gasPrice nonce payment) order.waits).run.run state =
      (.error halt, middle)) :
    (course ledger order gasPrice (some nonce) (payment :: rest)).run state = (.halted halt, middle) := by
  rw [course, run_bind_of answer]
  rfl

theorem course_cons_cases {nonce : UInt64} {payment : Payment} {rest : List Payment} {state after : σ}
    {taken : Course order.waits (some nonce) (payment :: rest)}
    (ran : (course ledger order gasPrice (some nonce) (payment :: rest)).run state = (taken, after)) :
    (∃ halt, taken = .halted halt ∧
      (attempt ledger (order.request gasPrice nonce payment) order.waits).run.run state = (.error halt, after)) ∨
    ∃ first others middle, taken = .settled first others ∧
      (attempt ledger (order.request gasPrice nonce payment) order.waits).run.run state = (.ok first, middle) ∧
      (course ledger order gasPrice (nonceAfter nonce) rest).run middle = (others, after) := by
  obtain ⟨⟨answer, middle⟩, answered⟩ : ∃ answer,
      (attempt ledger (order.request gasPrice nonce payment) order.waits).run.run state = answer := ⟨_, rfl⟩
  cases answer with
  | error halt =>
    rw [course_halted rest answered] at ran
    cases ran
    exact .inl ⟨halt, rfl, answered⟩
  | ok first =>
    obtain ⟨⟨others, last⟩, went⟩ : ∃ others,
        (course ledger order gasPrice (nonceAfter nonce) rest).run middle = others := ⟨_, rfl⟩
    rw [course_settled answered went] at ran
    cases ran
    exact .inr ⟨first, others, middle, rfl, answered, went⟩

end

def reportOf (ledger : Ledger (StateM σ)) (order : Order) (plan : Plan) (state : σ) : Report :=
  ((execute ledger order plan).run state).1

def callsOf (ledger : Ledger (StateM σ)) (order : Order) (plan : Plan) (state : σ) : List LedgerEvent :=
  (((execute ledger.recorded order plan).run []).run state).1.2

def stateAfter (ledger : Ledger (StateM σ)) (order : Order) (plan : Plan) (state : σ) : σ :=
  ((execute ledger order plan).run state).2

theorem execute_of_run {ledger : Ledger (StateM σ)} {order : Order} {plan : Plan} {state after : σ}
    {made : Run order plan} (makes : (run ledger order plan).run state = (made, after)) :
    reportOf ledger order plan state = made.report ∧ stateAfter ledger order plan state = after := by
  unfold reportOf stateAfter
  rw [execute_eq_run, StateT.run_map, makes]
  exact ⟨rfl, rfl⟩

theorem calls_of_run {ledger : Ledger (StateM σ)} {order : Order} {plan : Plan} {state after : σ}
    {made : Run order plan} (makes : (run ledger order plan).run state = (made, after)) :
    callsOf ledger order plan state = made.calls := by
  simp only [callsOf, execute_eq_run, StateT.run_map, run_recorded, Functor.map_map, makes]
  rfl

/-- Report and calls are those of one run, which recording leaves as it is. -/
theorem exists_run (ledger : Ledger (StateM σ)) (order : Order) (plan : Plan) (state : σ) :
    ∃ made : Run order plan,
      reportOf ledger order plan state = made.report ∧ callsOf ledger order plan state = made.calls := by
  refine ⟨((run ledger order plan).run state).1, ?_, ?_⟩
  · simp only [reportOf, execute_eq_run, StateT.run_map]
    rfl
  · simp only [callsOf, execute_eq_run, StateT.run_map, run_recorded, Functor.map_map]
    rfl

end TokenDesk.Batch
