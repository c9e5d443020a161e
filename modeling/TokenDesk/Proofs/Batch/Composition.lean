import TokenDesk.Proofs.Batch.Payout
import TokenDesk.Proofs.Batch.Resumption

/-! Runs in a row.

On a ledger whose answers to payments rest on payments alone, one run over two
lists of payments is a run over the first and then, if that completes, a run over
the second from the nonce that it left.
-/

set_option autoImplicit false

namespace TokenDesk

def LedgerEvent.isPayment : LedgerEvent → Bool
  | transfer _ _ => true
  | waitConfirmed _ _ => true
  | _ => false

variable {σ τ : Type}

/-- Answers to transfers and waits rest on a view of the state that no question for a balance changes.
Where they rest on earlier transfers and waits, these are such a view. -/
structure Ledger.IsSteady (ledger : Ledger (StateM σ)) (view : σ → τ) : Prop where
  view_balanceOf : ∀ owner state, view ((ledger.balanceOf owner).run.run state).2 = view state
  transfer_congr : ∀ request state other, view state = view other →
    ((ledger.transfer request).run.run state).1 = ((ledger.transfer request).run.run other).1 ∧
      view ((ledger.transfer request).run.run state).2 = view ((ledger.transfer request).run.run other).2
  waitConfirmed_congr : ∀ tx state other, view state = view other →
    ((ledger.waitConfirmed tx).run.run state).1 = ((ledger.waitConfirmed tx).run.run other).1 ∧
      view ((ledger.waitConfirmed tx).run.run state).2 = view ((ledger.waitConfirmed tx).run.run other).2

def Ledger.Covers (ledger : Ledger (StateM σ)) (payer : Address) (total : Amount) (state : σ) : Prop :=
  ∃ balance after, (ledger.balanceOf payer).run.run state = (.ok balance, after) ∧ total ≤ balance

namespace Batch

def paymentCalls (calls : List LedgerEvent) : List LedgerEvent :=
  calls.filter LedgerEvent.isPayment

/-! Reports of payments that come behind others. -/

def Failure.later (before : Nat) : Failure → Failure
  | insufficientFunds balance required => .insufficientFunds balance required
  | preflight cause => .preflight cause
  | submissionFailed index cause => .submissionFailed (before + index) cause
  | confirmationFailed index tx cause => .confirmationFailed (before + index) tx cause
  | nonceOverflow index => .nonceOverflow (before + index)

def Ending.later (before : Nat) (gasBefore : Amount) (txIdsBefore : List TxId) : Ending → Ending
  | @completed gasTotal txIds => @completed (gasBefore + gasTotal) (txIdsBefore ++ txIds)
  | abortedPreflight cause => .abortedPreflight (cause.later before)
  | abortedAt index cause => .abortedAt (before + index) (cause.later before)

namespace Stretch

def later (before : Nat) (stretch : Stretch) : Stretch :=
  { stretch with failure := stretch.failure.map fun (index, cause) => (before + index, cause.later before) }

def unreached (more : Nat) (stretch : Stretch) : Stretch :=
  { stretch with outcomes := stretch.outcomes ++ List.replicate more .pending }

def followedBy (first second : Stretch) : Stretch :=
  { second with
    gasTotal := first.gasTotal + second.gasTotal
    outcomes := first.outcomes ++ second.outcomes }

end Stretch

namespace Report

/-- The report with entries for more payments, none of which was reached. -/
def unreached (more : Nat) (report : Report) : Report :=
  { report with outcomes := report.outcomes ++ List.replicate more .pending }

/-- The report of one run instead of two, the second of which came behind as many payments. -/
def followedBy (before : Nat) (first second : Report) : Report where
  ending := second.ending.later before first.gasTotal first.txIds
  nextNonce := second.nextNonce
  gasPrice := second.gasPrice
  gasTotal := first.gasTotal + second.gasTotal
  outcomes := first.outcomes ++ second.outcomes

theorem txIds_followedBy (before : Nat) (first second : Report) :
    (first.followedBy before second).txIds = first.txIds ++ second.txIds :=
  List.filterMap_append

end Report

variable {waits : Bool} {next : Option UInt64} {payments more : List Payment}

namespace Course

theorem stretch_later (gasPrice : Amount) (before index : Nat) (taken : Course waits next payments) :
    taken.stretch gasPrice (before + index) = (taken.stretch gasPrice index).later before := by
  induction taken generalizing index with
  | finished => rfl
  | exhausted => rfl
  | halted halt => cases halt <;> rfl
  | settled first others ih =>
    rw [stretch, Nat.add_assoc, ih]
    rfl

end Course

namespace Stretch

theorem report_followedBy (gasPrice : Amount) (first second : Stretch) (before : Nat) :
    (first.followedBy (second.later before)).report gasPrice =
      (first.report gasPrice).followedBy before (second.report gasPrice) := by
  obtain ⟨failure, nextNonce, gasTotal, outcomes⟩ := second
  cases failure <;> simp [report, ending, followedBy, later, Report.followedBy, Report.txIds, Ending.later]

theorem report_unreached (gasPrice : Amount) {stretch : Stretch} (stopped : stretch.failure ≠ none) (more : Nat) :
    (stretch.unreached more).report gasPrice = (stretch.report gasPrice).unreached more := by
  obtain ⟨failure, nextNonce, gasTotal, outcomes⟩ := stretch
  cases failure with
  | none => exact absurd rfl stopped
  | some met => rfl

theorem report_followedBy_stopped (gasPrice : Amount) {first : Stretch} {nextNonce : Option UInt64}
    (left : first.nextNonce = nextNonce) (index more : Nat) (cause : Failure) :
    (first.followedBy (.stopped (index, cause) nextNonce (List.replicate more .pending))).report gasPrice =
      { (first.report gasPrice).unreached more with ending := .abortedAt index cause } := by
  simp [report, followedBy, stopped, ending, Report.unreached, left]

end Stretch

/-! Courses over two lists of payments. -/

section
variable {ledger : Ledger (StateM σ)} {order : Order} {gasPrice : Amount}

theorem course_append_stopped {state middle : σ} {first : Course order.waits next payments} (more : List Payment)
    (index : Nat) (ran : (course ledger order gasPrice next payments).run state = (first, middle))
    (stopped : (first.stretch gasPrice index).failure ≠ none) :
    ∃ whole : Course order.waits next (payments ++ more),
      (course ledger order gasPrice next (payments ++ more)).run state = (whole, middle) ∧
        whole.calls order gasPrice = first.calls order gasPrice ∧
        whole.stretch gasPrice index = (first.stretch gasPrice index).unreached more.length := by
  -- The first list is never left, so the second is only ever appended to what is unreached.
  induction payments generalizing next state index with
  | nil => cases next <;> cases ran <;> exact absurd rfl stopped
  | cons payment rest ih =>
    cases next with
    | none =>
      cases ran
      refine ⟨.exhausted, rfl, rfl, ?_⟩
      simp [Course.stretch, Stretch.stopped, Stretch.unreached, List.map_const']
    | some nonce =>
      rcases course_cons_cases ran with ⟨halt, rfl, answer⟩ | ⟨settlement, others, attempted, rfl, answer, went⟩
      · refine ⟨.halted halt, course_halted _ answer, rfl, ?_⟩
        simp [Course.stretch, Stretch.stopped, Stretch.unreached, List.map_const']
      · obtain ⟨whole, runs, calls, same⟩ := ih (index + 1) went stopped
        refine ⟨.settled settlement whole, course_settled answer runs, ?_, ?_⟩
        · rw [Course.calls, calls, Course.calls]
        · rw [Course.stretch, same]
          rfl

theorem course_append_finished {state middle last : σ} {first : Course order.waits next payments} (index : Nat)
    {after : Option UInt64} {second : Course order.waits after more}
    (ran : (course ledger order gasPrice next payments).run state = (first, middle))
    (finished : (first.stretch gasPrice index).failure = none)
    (left : (first.stretch gasPrice index).nextNonce = after)
    (ran_more : (course ledger order gasPrice after more).run middle = (second, last)) :
    ∃ whole : Course order.waits next (payments ++ more),
      (course ledger order gasPrice next (payments ++ more)).run state = (whole, last) ∧
        whole.calls order gasPrice = first.calls order gasPrice ++ second.calls order gasPrice ∧
        whole.stretch gasPrice index =
          (first.stretch gasPrice index).followedBy (second.stretch gasPrice (index + payments.length)) := by
  -- By the recursion of the course: the second one begins where the first has no payments left.
  induction payments generalizing next state index with
  | nil =>
    have same : first = .finished ∧ middle = state := by cases next <;> cases ran <;> exact ⟨rfl, rfl⟩
    obtain ⟨rfl, rfl⟩ := same
    cases left
    refine ⟨second, ran_more, rfl, ?_⟩
    simp [Course.stretch, Stretch.followedBy]
  | cons payment rest ih =>
    cases next with
    | none =>
      cases ran
      cases finished
    | some nonce =>
      rcases course_cons_cases ran with ⟨halt, rfl, -⟩ | ⟨settlement, others, attempted, rfl, answer, went⟩
      · cases finished
      · obtain ⟨whole, runs, calls, same⟩ := ih (index + 1) went finished left
        refine ⟨.settled settlement whole, course_settled answer runs, ?_, ?_⟩
        · rw [Course.calls, calls, Course.calls, List.append_assoc]
        · rw [Course.stretch, same, List.length_cons, Nat.add_assoc, Nat.add_comm 1]
          simp [Course.stretch, Stretch.followedBy, Stretch.after, Nat.add_assoc]

/-! Courses in states that look alike. -/

variable {view : σ → τ}

theorem attempt_congr (steady : ledger.IsSteady view) (request : Transfer) (waits : Bool) {state other : σ}
    (alike : view state = view other) :
    ((attempt ledger request waits).run.run state).1 = ((attempt ledger request waits).run.run other).1 ∧
      view ((attempt ledger request waits).run.run state).2 =
        view ((attempt ledger request waits).run.run other).2 := by
  -- What the second call rests on is the view that the first one left, which is the same on both sides.
  obtain ⟨answers, views⟩ := steady.transfer_congr request state other alike
  obtain ⟨⟨answer, taken⟩, answered⟩ : ∃ answer, (ledger.transfer request).run.run state = answer := ⟨_, rfl⟩
  obtain ⟨⟨answer', taken'⟩, answered'⟩ : ∃ answer, (ledger.transfer request).run.run other = answer := ⟨_, rfl⟩
  rw [answered, answered'] at answers views
  cases answers
  cases waits with
  | false =>
    rw [attempt, ExceptT.run_bind, ExceptT.run_adapt, run_bind_of (run_map_of answered _),
      run_bind_of (run_map_of answered' _)]
    cases answer <;> exact ⟨rfl, views⟩
  | true =>
    rw [attempt, ExceptT.run_bind, ExceptT.run_adapt, run_bind_of (run_map_of answered _),
      run_bind_of (run_map_of answered' _)]
    cases answer with
    | error cause => exact ⟨rfl, views⟩
    | ok sent =>
      obtain ⟨waited, seen⟩ := steady.waitConfirmed_congr sent.tx taken taken' views
      obtain ⟨⟨receipt, mined⟩, ran⟩ : ∃ answer, (ledger.waitConfirmed sent.tx).run.run taken = answer := ⟨_, rfl⟩
      obtain ⟨⟨receipt', mined'⟩, ran'⟩ : ∃ answer, (ledger.waitConfirmed sent.tx).run.run taken' = answer := ⟨_, rfl⟩
      rw [ran, ran'] at waited seen
      cases waited
      simp only [mapError_ok]
      rw [ExceptT.run_bind, ExceptT.run_adapt, run_bind_of (run_map_of ran _), run_bind_of (run_map_of ran' _)]
      cases receipt <;> exact ⟨rfl, seen⟩

theorem course_congr (steady : ledger.IsSteady view) {state other after : σ} {taken : Course order.waits next payments}
    (alike : view state = view other)
    (ran : (course ledger order gasPrice next payments).run state = (taken, after)) :
    ∃ last, (course ledger order gasPrice next payments).run other = (taken, last) ∧ view last = view after := by
  -- Each attempt has the same answer in both states and leaves them alike for the next.
  induction payments generalizing next state other with
  | nil => cases next <;> cases ran <;> exact ⟨other, rfl, alike.symm⟩
  | cons payment rest ih =>
    cases next with
    | none =>
      cases ran
      exact ⟨other, rfl, alike.symm⟩
    | some nonce =>
      obtain ⟨answers, views⟩ := attempt_congr steady (order.request gasPrice nonce payment) order.waits alike
      obtain ⟨⟨answer', attempted'⟩, answered'⟩ : ∃ answer,
          (attempt ledger (order.request gasPrice nonce payment) order.waits).run.run other = answer := ⟨_, rfl⟩
      rcases course_cons_cases ran with ⟨halt, rfl, answer⟩ | ⟨settlement, others, attempted, rfl, answer, went⟩
      · rw [answer, answered'] at answers views
        cases answers
        exact ⟨attempted', course_halted rest answered', views.symm⟩
      · rw [answer, answered'] at answers views
        cases answers
        obtain ⟨last, runs, seen⟩ := ih views went
        exact ⟨last, course_settled answered' runs, seen⟩

end

/-! Runs that leave no term to the ledger. -/

section
variable {ledger : Ledger (StateM σ)} {payer : Address} {gasPrice : Amount}

theorem course_fixed (start other : UInt64) (next : Option UInt64) (payments : List Payment) :
    course ledger (.fixed payer gasPrice waits start) gasPrice next payments =
      course ledger (.fixed payer gasPrice waits other) gasPrice next payments := by
  induction payments generalizing next with
  | nil => cases next <;> rfl
  | cons payment rest ih =>
    cases next with
    | none => rfl
    | some nonce =>
      rw [course, course]
      refine congrArg _ (funext fun answer => ?_)
      cases answer with
      | error halt => rfl
      | ok first => exact congrArg (fun run => do return Course.settled first (← run)) (ih (nonceAfter nonce))

theorem Course.calls_fixed (start other : UInt64) (taken : Course waits next payments) :
    taken.calls (.fixed payer gasPrice waits start) gasPrice =
      taken.calls (.fixed payer gasPrice waits other) gasPrice := by
  induction taken with
  | finished => rfl
  | exhausted => rfl
  | halted halt => rfl
  | settled first others ih =>
    rw [calls, ih]
    rfl

theorem run_fixed {start : UInt64} (plan : Plan) {state middle after : σ} {balance : Amount}
    {taken : Course waits (some start) plan.payments}
    (answer : (ledger.balanceOf payer).run.run state = (.ok balance, middle)) (covered : plan.total ≤ balance)
    (ran : (course ledger (.fixed payer gasPrice waits start) gasPrice (some start) plan.payments).run middle =
      (taken, after)) :
    (run ledger (.fixed payer gasPrice waits start) plan).run state =
      (.sequenced balance covered (.fixed gasPrice) (.fixed start) taken, after) := by
  have answered : (ledger.balanceOf (Order.fixed payer gasPrice waits start).payer).run.run state =
      (.ok balance, middle) := answer
  have priced : (term ledger.suggestGasPrice (Order.fixed payer gasPrice waits start).gasPrice).run.run middle =
      (.ok (.fixed gasPrice), middle) := rfl
  have numbered : (term (ledger.pendingNonce (Order.fixed payer gasPrice waits start).payer)
      (Order.fixed payer gasPrice waits start).startNonce).run.run middle = (.ok (.fixed start), middle) := rfl
  rw [run, run_bind_of answered]
  simp only [Nat.not_lt.mpr covered, dite_false]
  rw [run_bind_of priced, run_bind_of numbered]
  exact run_bind_of ran _

theorem paymentCalls_sequenced {start : UInt64} (plan : Plan) {balance : Amount} (covered : plan.total ≤ balance)
    (taken : Course waits (some start) plan.payments) :
    paymentCalls (@Run.sequenced (.fixed payer gasPrice waits start) plan balance covered (.fixed gasPrice)
      (.fixed start) taken).calls = taken.calls (.fixed payer gasPrice waits start) gasPrice := by
  change (taken.calls (.fixed payer gasPrice waits start) gasPrice).filter LedgerEvent.isPayment = _
  refine List.filter_eq_self.mpr fun call made => ?_
  rcases taken.mem_calls _ _ made with ⟨request, answer, rfl⟩ | ⟨tx, answer, rfl⟩ <;> rfl

/-! Two runs in a row. -/

structure IsSeen (ledger : Ledger (StateM σ)) (payer : Address) (gasPrice : Amount) (waits : Bool) (start : UInt64)
    (payments : List Payment) (state : σ) (taken : Course waits (some start) payments) (after : σ) : Prop where
  report : reportOf ledger (.fixed payer gasPrice waits start) (.ofPayments payments) state =
    (taken.stretch gasPrice 0).report gasPrice
  calls : paymentCalls (callsOf ledger (.fixed payer gasPrice waits start) (.ofPayments payments) state) =
    taken.calls (.fixed payer gasPrice waits start) gasPrice
  left : stateAfter ledger (.fixed payer gasPrice waits start) (.ofPayments payments) state = after

theorem isSeen_of_course {start : UInt64} {payments : List Payment} {balance : Amount} {state asked after : σ}
    {taken : Course waits (some start) payments}
    (answer : (ledger.balanceOf payer).run.run state = (.ok balance, asked))
    (covered : Payment.total payments ≤ balance)
    (ran : (course ledger (.fixed payer gasPrice waits start) gasPrice (some start) payments).run asked =
      (taken, after)) : IsSeen ledger payer gasPrice waits start payments state taken after := by
  have makes := run_fixed (.ofPayments payments) answer covered ran
  obtain ⟨report, left⟩ := execute_of_run makes
  refine ⟨report, ?_, left⟩
  rw [calls_of_run makes]
  exact paymentCalls_sequenced (.ofPayments payments) _ taken

theorem exists_courses {start : UInt64} {payments : List Payment} {state : σ} (more : List Payment)
    (covered : ledger.Covers payer (Payment.total (payments ++ more)) state) :
    ∃ (asked middle last : σ) (first : Course waits (some start) payments)
      (whole : Course waits (some start) (payments ++ more)),
      (course ledger (.fixed payer gasPrice waits start) gasPrice (some start) payments).run asked = (first, middle) ∧
      (course ledger (.fixed payer gasPrice waits start) gasPrice (some start) (payments ++ more)).run asked =
        (whole, last) ∧
      IsSeen ledger payer gasPrice waits start payments state first middle ∧
      IsSeen ledger payer gasPrice waits start (payments ++ more) state whole last := by
  obtain ⟨balance, asked, answer, enough⟩ := covered
  have fits : Payment.total payments ≤ balance := by
    rw [Payment.total_append] at enough
    exact Nat.le_of_add_right_le enough
  obtain ⟨⟨first, middle⟩, ran⟩ : ∃ result,
      (course ledger (.fixed payer gasPrice waits start) gasPrice (some start) payments).run asked = result := ⟨_, rfl⟩
  obtain ⟨⟨whole, last⟩, runs⟩ : ∃ result,
      (course ledger (.fixed payer gasPrice waits start) gasPrice (some start) (payments ++ more)).run asked = result :=
    ⟨_, rfl⟩
  exact ⟨asked, middle, last, first, whole, ran, runs, isSeen_of_course answer fits ran,
    isSeen_of_course answer enough runs⟩

theorem execute_append_stopped {start : UInt64} {p : List Payment} (q : List Payment) {state : σ}
    (covered : ledger.Covers payer (Payment.total (p ++ q)) state)
    (stopped : ¬ (reportOf ledger (.fixed payer gasPrice waits start) (.ofPayments p) state).isCompleted) :
    reportOf ledger (.fixed payer gasPrice waits start) (.ofPayments (p ++ q)) state =
        (reportOf ledger (.fixed payer gasPrice waits start) (.ofPayments p) state).unreached q.length ∧
      paymentCalls (callsOf ledger (.fixed payer gasPrice waits start) (.ofPayments (p ++ q)) state) =
        paymentCalls (callsOf ledger (.fixed payer gasPrice waits start) (.ofPayments p) state) ∧
      stateAfter ledger (.fixed payer gasPrice waits start) (.ofPayments (p ++ q)) state =
        stateAfter ledger (.fixed payer gasPrice waits start) (.ofPayments p) state := by
  obtain ⟨asked, middle, last, first, whole, ran, runs, seen, seen_whole⟩ := exists_courses q covered
  rw [seen.report, Stretch.isCompleted_report] at stopped
  obtain ⟨same, ran_whole, calls, stretch⟩ := course_append_stopped q 0 ran stopped
  rw [runs] at ran_whole
  cases ran_whole
  rw [seen.report, seen_whole.report, seen.calls, seen_whole.calls, seen.left, seen_whole.left]
  exact ⟨(congrArg _ stretch).trans (Stretch.report_unreached gasPrice stopped q.length), calls, rfl⟩

theorem execute_append_exhausted {start : UInt64} {p q : List Payment} {state : σ}
    (covered : ledger.Covers payer (Payment.total (p ++ q)) state)
    (completed : (reportOf ledger (.fixed payer gasPrice waits start) (.ofPayments p) state).isCompleted)
    (used : (reportOf ledger (.fixed payer gasPrice waits start) (.ofPayments p) state).nextNonce = none)
    (more : q ≠ []) :
    let first := reportOf ledger (.fixed payer gasPrice waits start) (.ofPayments p) state
    reportOf ledger (.fixed payer gasPrice waits start) (.ofPayments (p ++ q)) state =
        { first.unreached q.length with ending := .abortedAt p.length (.nonceOverflow p.length) } ∧
      paymentCalls (callsOf ledger (.fixed payer gasPrice waits start) (.ofPayments (p ++ q)) state) =
        paymentCalls (callsOf ledger (.fixed payer gasPrice waits start) (.ofPayments p) state) ∧
      stateAfter ledger (.fixed payer gasPrice waits start) (.ofPayments (p ++ q)) state =
        stateAfter ledger (.fixed payer gasPrice waits start) (.ofPayments p) state := by
  intro report
  obtain ⟨asked, middle, last, first, whole, ran, runs, seen, seen_whole⟩ := exists_courses q covered
  rw [seen.report, Stretch.isCompleted_report] at completed
  rw [seen.report] at used
  -- The payments behind are a course of their own, which has no nonce to begin with.
  obtain ⟨payment, rest, rfl⟩ := List.exists_cons_of_ne_nil more
  obtain ⟨same, ran_whole, calls, stretch⟩ := course_append_finished 0 ran completed used
    (rfl : (course ledger (.fixed payer gasPrice waits start) gasPrice none (payment :: rest)).run middle = _)
  rw [runs] at ran_whole
  cases ran_whole
  have without : whole.calls (.fixed payer gasPrice waits start) gasPrice =
      first.calls (.fixed payer gasPrice waits start) gasPrice := calls.trans (List.append_nil _)
  simp only [report]
  rw [seen.report, seen_whole.report, seen.calls, seen_whole.calls, seen.left, seen_whole.left]
  refine ⟨(congrArg _ stretch).trans ?_, without, rfl⟩
  rw [Course.stretch, List.map_const', Nat.zero_add]
  exact Stretch.report_followedBy_stopped gasPrice used _ _ _

theorem execute_append_completed {view : σ → τ} (steady : ledger.IsSteady view) {start next : UInt64}
    {p q : List Payment} {state : σ} (covered : ledger.Covers payer (Payment.total (p ++ q)) state)
    (completed : (reportOf ledger (.fixed payer gasPrice waits start) (.ofPayments p) state).isCompleted)
    (left : (reportOf ledger (.fixed payer gasPrice waits start) (.ofPayments p) state).nextNonce = some next)
    (covered_later : ledger.Covers payer (Payment.total q)
      (stateAfter ledger (.fixed payer gasPrice waits start) (.ofPayments p) state)) :
    let middle := stateAfter ledger (.fixed payer gasPrice waits start) (.ofPayments p) state
    reportOf ledger (.fixed payer gasPrice waits start) (.ofPayments (p ++ q)) state =
        (reportOf ledger (.fixed payer gasPrice waits start) (.ofPayments p) state).followedBy p.length
          (reportOf ledger (.fixed payer gasPrice waits next) (.ofPayments q) middle) ∧
      paymentCalls (callsOf ledger (.fixed payer gasPrice waits start) (.ofPayments (p ++ q)) state) =
        paymentCalls (callsOf ledger (.fixed payer gasPrice waits start) (.ofPayments p) state) ++
          paymentCalls (callsOf ledger (.fixed payer gasPrice waits next) (.ofPayments q) middle) ∧
      view (stateAfter ledger (.fixed payer gasPrice waits start) (.ofPayments (p ++ q)) state) =
        view (stateAfter ledger (.fixed payer gasPrice waits next) (.ofPayments q) middle) := by
  intro middle_state
  obtain ⟨asked, middle, last, first, whole, ran, runs, seen, seen_whole⟩ := exists_courses q covered
  have same_middle : middle_state = middle := seen.left
  rw [seen.report, Stretch.isCompleted_report] at completed
  rw [seen.report] at left
  rw [seen.left] at covered_later
  obtain ⟨balance, asked_later, answer, enough⟩ := covered_later
  obtain ⟨⟨second, last_second⟩, ran_second⟩ : ∃ result : Course waits (some next) q × σ,
      (course ledger (.fixed payer gasPrice waits next) gasPrice (some next) q).run asked_later = result := ⟨_, rfl⟩
  have seen_second := isSeen_of_course answer enough ran_second
  -- The second run asks for the balance before it pays; the one run goes on without.
  have alike : view asked_later = view middle := by
    have unmoved := steady.view_balanceOf payer middle
    rwa [answer] at unmoved
  rw [course_fixed next start] at ran_second
  obtain ⟨last', went, same_view⟩ := course_congr steady alike ran_second
  obtain ⟨same, ran_whole, calls, stretch⟩ := course_append_finished 0 ran completed left went
  rw [runs] at ran_whole
  cases ran_whole
  rw [same_middle, seen.report, seen_whole.report, seen_second.report, seen.calls, seen_whole.calls, seen_second.calls,
    seen_whole.left, seen_second.left, second.calls_fixed next start]
  refine ⟨(congrArg _ stretch).trans ?_, calls, same_view⟩
  rw [Nat.add_comm]
  exact (congrArg _ (congrArg _ (second.stretch_later gasPrice p.length 0))).trans
    (Stretch.report_followedBy gasPrice _ _ _)

/-- One run over two lists of payments is a run over the first, with more payments that are not reached if
that run stops or has used the last nonce, and otherwise with a run over the second behind it. A run that
left a nonce can be taken up from there. -/
theorem execute_append {view : σ → τ} (steady : ledger.IsSteady view) (payer : Address) (gasPrice : Amount)
    (waits : Bool) (start : UInt64) (p q : List Payment) (state : σ)
    (covered : ledger.Covers payer (Payment.total (p ++ q)) state)
    (covered_later : (reportOf ledger (.fixed payer gasPrice waits start) (.ofPayments p) state).isCompleted →
      ledger.Covers payer (Payment.total q)
        (stateAfter ledger (.fixed payer gasPrice waits start) (.ofPayments p) state)) :
    let order := Order.fixed payer gasPrice waits
    let first := reportOf ledger (order start) (.ofPayments p) state
    let firstCalls := callsOf ledger (order start) (.ofPayments p) state
    let middle := stateAfter ledger (order start) (.ofPayments p) state
    let whole := reportOf ledger (order start) (.ofPayments (p ++ q)) state
    let wholeCalls := callsOf ledger (order start) (.ofPayments (p ++ q)) state
    let last := stateAfter ledger (order start) (.ofPayments (p ++ q)) state
    (first.isCompleted = false →
      whole = first.unreached q.length ∧ paymentCalls wholeCalls = paymentCalls firstCalls ∧ last = middle) ∧
    (first.isCompleted → ∀ next, first.nextNonce = some next →
      let second := reportOf ledger (order next) (.ofPayments q) middle
      let secondCalls := callsOf ledger (order next) (.ofPayments q) middle
      whole = first.followedBy p.length second ∧ whole.txIds = first.txIds ++ second.txIds ∧
        paymentCalls wholeCalls = paymentCalls firstCalls ++ paymentCalls secondCalls ∧
        view last = view (stateAfter ledger (order next) (.ofPayments q) middle)) ∧
    (first.isCompleted → first.nextNonce = none → q ≠ [] →
      whole = { first.unreached q.length with ending := .abortedAt p.length (.nonceOverflow p.length) } ∧
        paymentCalls wholeCalls = paymentCalls firstCalls ∧ last = middle) ∧
    ∀ next, first.nextNonce = some next → ∀ later,
      let others := p.drop first.submitted
      let again := callsOf ledger (order next) (.ofPayments others) later
      takenRequests firstCalls ++ requests again <+: planned payer gasPrice (some start) p ∧
        ((reportOf ledger (order next) (.ofPayments others) later).isCompleted →
          takenRequests firstCalls ++ takenRequests again = planned payer gasPrice (some start) p ∧
            (takenRequests firstCalls ++ takenRequests again).length = p.length) := by
  intro order first firstCalls middle whole wholeCalls last
  refine ⟨?_, ?_, ?_, ?_⟩
  · intro stopped
    exact execute_append_stopped q covered (by simpa [first, order] using stopped)
  · intro completed next left second secondCalls
    obtain ⟨report, calls, views⟩ := execute_append_completed steady covered completed left (covered_later completed)
    refine ⟨report, ?_, calls, views⟩
    exact (congrArg Report.txIds report).trans (Report.txIds_followedBy _ _ _)
  · exact fun completed used more => execute_append_exhausted covered completed used more
  · exact fun next left later => execute_resumed ledger payer gasPrice waits start p state later left

end

theorem isSteady_memory (blocked : List Address) : (Memory.ledger blocked).IsSteady id where
  view_balanceOf _ _ := rfl
  transfer_congr _ _ _ alike := by
    cases alike
    exact ⟨rfl, rfl⟩
  waitConfirmed_congr _ _ _ alike := by
    cases alike
    exact ⟨rfl, rfl⟩

/-- Of ten tokens in memory, three and then seven are paid in two runs as in one. -/
theorem execute_append_in_memory :
    reportOf (Memory.ledger []) (.fixed .zero 1 true 4)
        (.ofPayments ([⟨⟨List.replicate 20 1, rfl⟩, 3, 1⟩] ++ [⟨.zero, 7, 2⟩])) (.endowed .zero 10 4) =
      (reportOf (Memory.ledger []) (.fixed .zero 1 true 4)
        (.ofPayments [⟨⟨List.replicate 20 1, rfl⟩, 3, 1⟩]) (.endowed .zero 10 4)).followedBy 1
        (reportOf (Memory.ledger []) (.fixed .zero 1 true 5) (.ofPayments [⟨.zero, 7, 2⟩])
          (stateAfter (Memory.ledger []) (.fixed .zero 1 true 4)
            (.ofPayments [⟨⟨List.replicate 20 1, rfl⟩, 3, 1⟩]) (.endowed .zero 10 4))) := by
  obtain ⟨-, goes_on, -⟩ := execute_append (isSteady_memory []) .zero 1 true 4 [⟨⟨List.replicate 20 1, rfl⟩, 3, 1⟩]
    [⟨.zero, 7, 2⟩] (.endowed .zero 10 4) ⟨10, _, rfl, by decide⟩ fun _ => ⟨7, _, rfl, by decide⟩
  obtain ⟨report, -⟩ := goes_on (by decide) 5 (by decide)
  exact report

end Batch

end TokenDesk
