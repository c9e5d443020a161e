import TokenDesk.Proofs.Batch.Entries
import TokenDesk.Proofs.Ledger.Tokens

/-! What a plan comes to on a ledger of tokens.

A balance that covers the total never runs dry on the way: what is left of it
covers what is left of the plan. So a run stops at the first destination that
refuses, and the holdings are then those after the payments before it.
-/

set_option autoImplicit false

namespace TokenDesk

def Payment.receivedBy (account : Address) (payments : List Payment) : Amount :=
  Payment.total (payments.filter fun payment => payment.destination = account)

theorem Payment.receivedBy_cons (account : Address) (payment : Payment) (rest : List Payment) :
    Payment.receivedBy account (payment :: rest) =
      (if account = payment.destination then payment.amount else 0) + Payment.receivedBy account rest := by
  unfold receivedBy
  by_cases paid : account = payment.destination
  · simp [paid]
  · simp [paid, Ne.symm paid]

structure Holdings.Pays (payer : Address) (payments : List Payment) (before after : Holdings) : Prop where
  balance : ∀ account,
    after.balance account + (if account = payer then Payment.total payments else 0) =
      before.balance account + Payment.receivedBy account payments
  count_payer : after.count payer = before.count payer + payments.length
  count_other : ∀ account, account ≠ payer → after.count account = before.count account

namespace Holdings

theorem pays_nil (payer : Address) (holdings : Holdings) : holdings.Pays payer [] holdings where
  balance account := by simp [Payment.receivedBy]
  count_payer := rfl
  count_other _ _ := rfl

theorem Pays.cons {request : Transfer} {payment : Payment} {rest : List Payment} {before after : Holdings}
    (covered : request.amount ≤ before.balance request.payer)
    (amount : request.amount = payment.amount) (destination : request.destination = payment.destination)
    (others : (before.after request).Pays request.payer rest after) :
    before.Pays request.payer (payment :: rest) after where
  balance account := by
    have first := balance_after covered account
    have later := others.balance account
    rw [amount, destination] at first
    rw [Payment.receivedBy_cons, Payment.total_cons]
    unfold Amount at *
    -- The payer may be the destination too; `omega` sees the receipt as one number either way.
    by_cases paying : account = request.payer
    · rw [if_pos paying] at first later ⊢
      omega
    · rw [if_neg paying] at first later ⊢
      omega
  count_payer := by
    rw [others.count_payer, count_after_payer, List.length_cons]
    omega
  count_other account other := by
    rw [others.count_other account other, count_after_of_ne _ _ other]

/-- What is left of a covering balance covers what is left of the payments. -/
theorem covered_after (request : Transfer) {rest : Amount} {holdings : Holdings}
    (covered : request.amount + rest ≤ holdings.balance request.payer) :
    rest ≤ (holdings.after request).balance request.payer := by
  have moved := balance_after (Nat.le_of_add_right_le covered) request.payer
  rw [if_pos rfl] at moved
  unfold Amount at *
  omega

end Holdings

namespace Batch

variable {σ : Type}

theorem attempt_taken (tokens : TokenLedger σ) (waits : Bool) {request : Transfer} {state : σ}
    (accepts : (tokens.holdings state).Accepts tokens.refuses request) :
    ∃ (first : Settlement waits) (after : σ),
      (attempt tokens.ledger request waits).run.run state = (.ok first, after) ∧
        tokens.holdings after = (tokens.holdings state).after request := by
  obtain ⟨sent, middle, taken, moved, confirmation, last, receipt, -, kept⟩ :=
    tokens.transfer_run request state accepts
  cases waits with
  | false =>
    refine ⟨.broadcast sent, middle, ?_, moved⟩
    rw [attempt, ExceptT.run_bind, ExceptT.run_adapt, run_bind_of (run_map_of taken _)]
    rfl
  | true =>
    refine ⟨.confirmed sent confirmation, last, ?_, kept.trans moved⟩
    rw [attempt, ExceptT.run_bind, ExceptT.run_adapt, run_bind_of (run_map_of taken _)]
    simp only [mapError_ok]
    rw [ExceptT.run_bind, ExceptT.run_adapt, run_bind_of (run_map_of receipt _)]
    rfl

theorem attempt_refused (tokens : TokenLedger σ) (waits : Bool) {request : Transfer} {state : σ}
    (refused : ¬ (tokens.holdings state).Accepts tokens.refuses request) :
    ∃ (cause : LedgerError) (after : σ),
      (attempt tokens.ledger request waits).run.run state = (.error (.refused cause), after) ∧
        tokens.holdings after = tokens.holdings state := by
  obtain ⟨cause, after, answer, kept⟩ := tokens.transfer_run_refused request state refused
  refine ⟨cause, after, ?_, kept⟩
  cases waits with
  | false =>
    rw [attempt, ExceptT.run_bind, ExceptT.run_adapt, run_bind_of (run_map_of answer _)]
    rfl
  | true =>
    rw [attempt, ExceptT.run_bind, ExceptT.run_adapt, run_bind_of (run_map_of answer _)]
    rfl

theorem course_refused (tokens : TokenLedger σ) (order : Order) (gasPrice : Amount) {nonce : UInt64}
    {payment : Payment} (rest : List Payment) {state : σ}
    (refused : ¬ (tokens.holdings state).Accepts tokens.refuses (order.request gasPrice nonce payment)) :
    ∃ (cause : LedgerError) (after : σ),
      (course tokens.ledger order gasPrice (some nonce) (payment :: rest)).run state =
        (.halted (.refused cause), after) ∧ tokens.holdings after = tokens.holdings state := by
  obtain ⟨cause, after, answer, kept⟩ := attempt_refused tokens order.waits refused
  refine ⟨cause, after, ?_, kept⟩
  rw [course, run_bind_of answer]
  rfl

theorem course_stops (tokens : TokenLedger σ) (order : Order) (gasPrice : Amount) {rest : List Payment}
    (stops : ∀ payment others, rest = payment :: others → tokens.refuses payment.destination)
    {next : Option UInt64} {state : σ} (numbered : next = nonceAt ((tokens.holdings state).count order.payer))
    (fits : (tokens.holdings state).count order.payer + rest.length ≤ UInt64.size) :
    ∃ (taken : Course order.waits next rest) (after : σ),
      (course tokens.ledger order gasPrice next rest).run state = (taken, after) ∧
        tokens.holdings after = tokens.holdings state ∧ taken.settledOutcomes = [] ∧
        (rest = [] ∨ ∃ nonce cause, taken.halt? = some (nonce, .refused cause)) := by
  cases rest with
  | nil =>
    refine ⟨.finished, state, ?_, rfl, rfl, .inl rfl⟩
    cases next <;> rfl
  | cons payment others =>
    cases next with
    | none =>
      have used := size_le_of_nonceAt numbered
      rw [List.length_cons] at fits
      omega
    | some nonce =>
      have refused : ¬ (tokens.holdings state).Accepts tokens.refuses (order.request gasPrice nonce payment) :=
        fun accepts => accepts.welcome (stops payment others rfl)
      obtain ⟨cause, after, ran, kept⟩ := course_refused tokens order gasPrice others refused
      exact ⟨_, after, ran, kept, rfl, .inr ⟨nonce, cause, rfl⟩⟩

theorem course_pays (tokens : TokenLedger σ) (order : Order) (gasPrice : Amount) {paid rest : List Payment}
    (welcome : ∀ payment ∈ paid, ¬ tokens.refuses payment.destination)
    (stops : ∀ payment others, rest = payment :: others → tokens.refuses payment.destination)
    {next : Option UInt64} {state : σ} (numbered : next = nonceAt ((tokens.holdings state).count order.payer))
    (fits : (tokens.holdings state).count order.payer + (paid ++ rest).length ≤ UInt64.size)
    (covered : Payment.total paid ≤ (tokens.holdings state).balance order.payer) :
    ∃ (taken : Course order.waits next (paid ++ rest)) (after : σ),
      (course tokens.ledger order gasPrice next (paid ++ rest)).run state = (taken, after) ∧
        (tokens.holdings state).Pays order.payer paid (tokens.holdings after) ∧
        taken.settledOutcomes.length = paid.length ∧
        (rest = [] ∨ ∃ nonce cause, taken.halt? = some (nonce, .refused cause)) := by
  -- The state moves along with the payments: the balance left covers what is left of them, and the count
  -- is the nonce of the next.
  induction paid generalizing next state with
  | nil =>
    obtain ⟨taken, after, ran, kept, unsettled, ending⟩ := course_stops tokens order gasPrice stops numbered fits
    exact ⟨taken, after, ran, kept ▸ Holdings.pays_nil _ _, congrArg List.length unsettled, ending⟩
  | cons payment others ih =>
    cases next with
    | none =>
      have used := size_le_of_nonceAt numbered
      simp only [List.cons_append, List.length_cons] at fits
      omega
    | some nonce =>
      rw [Payment.total_cons] at covered
      have accepts : (tokens.holdings state).Accepts tokens.refuses (order.request gasPrice nonce payment) :=
        ⟨(eq_toNat_of_nonceAt numbered).symm, welcome payment List.mem_cons_self, Nat.le_of_add_right_le covered⟩
      obtain ⟨first, middle, answer, moved⟩ := attempt_taken tokens order.waits accepts
      have counted : (tokens.holdings middle).count order.payer = (tokens.holdings state).count order.payer + 1 := by
        rw [moved]
        exact Holdings.count_after_payer _ (order.request gasPrice nonce payment)
      have fits_after : (tokens.holdings middle).count order.payer + (others ++ rest).length ≤ UInt64.size := by
        rw [counted]
        simp only [List.cons_append, List.length_cons] at fits
        omega
      have left : Payment.total others ≤ (tokens.holdings middle).balance order.payer := by
        rw [moved]
        exact Holdings.covered_after (order.request gasPrice nonce payment) covered
      obtain ⟨taken, after, ran, pays, settled, ending⟩ :=
        ih (fun later listed => welcome later (List.mem_cons_of_mem _ listed))
          (counted ▸ nonceAfter_of_nonceAt numbered) fits_after left
      refine ⟨.settled first taken, after, course_settled answer ran, ?_, ?_, ending⟩
      · rw [moved] at pays
        exact Holdings.Pays.cons accepts.covered rfl rfl pays
      · rw [Course.settledOutcomes, List.length_cons, List.length_cons, settled]

/-! The questions before the payments. -/

theorem price_run (tokens : TokenLedger σ) (fixed : Option Amount) (state : σ) :
    ∃ (price : Term fixed) (after : σ),
      (term tokens.ledger.suggestGasPrice fixed).run.run state = (.ok price, after) ∧
        tokens.holdings after = tokens.holdings state := by
  cases fixed with
  | some value => exact ⟨.fixed value, state, rfl, rfl⟩
  | none =>
    obtain ⟨price, after, answer, kept⟩ := tokens.suggestGasPrice_run state
    refine ⟨.answered price, after, ?_, kept⟩
    rw [term, ExceptT.run_map, ExceptT.run_adapt, run_map_of (run_map_of answer _)]
    rfl

theorem nonce_run (tokens : TokenLedger σ) (account : Address) (fixed : Option UInt64) (state : σ)
    (fits : fixed = none → (tokens.holdings state).count account < UInt64.size) :
    ∃ (start : Term fixed) (after : σ),
      (term (tokens.ledger.pendingNonce account) fixed).run.run state = (.ok start, after) ∧
        tokens.holdings after = tokens.holdings state ∧
        ((∀ nonce, fixed = some nonce → nonce.toNat = (tokens.holdings state).count account) →
          start.value.toNat = (tokens.holdings state).count account) := by
  cases fixed with
  | some value => exact ⟨.fixed value, state, rfl, rfl, fun counted => counted value rfl⟩
  | none =>
    have counted : (UInt64.ofNat ((tokens.holdings state).count account)).toNat =
        (tokens.holdings state).count account := UInt64.toNat_ofNat_of_lt' (fits rfl)
    obtain ⟨after, answer, kept⟩ := tokens.pendingNonce_run account state _ counted
    refine ⟨.answered (.ofNat ((tokens.holdings state).count account)), after, ?_, kept, fun _ => counted⟩
    rw [term, ExceptT.run_map, ExceptT.run_adapt, run_map_of (run_map_of answer _)]
    rfl

theorem run_short (tokens : TokenLedger σ) (order : Order) (plan : Plan) (state : σ)
    (short : (tokens.holdings state).balance order.payer < plan.total) :
    ∃ after : σ, (run tokens.ledger order plan).run state = (.shortFunds _ short, after) ∧
      tokens.holdings after = tokens.holdings state := by
  obtain ⟨after, answer, kept⟩ := tokens.balanceOf_run order.payer state
  refine ⟨after, ?_, kept⟩
  rw [run, run_bind_of answer]
  simp only [short, dite_true]
  rfl

theorem run_covered (tokens : TokenLedger σ) (order : Order) (plan : Plan) (state : σ)
    (covered : plan.total ≤ (tokens.holdings state).balance order.payer)
    (fits : order.startNonce = none → (tokens.holdings state).count order.payer < UInt64.size) :
    ∃ (price : Term order.gasPrice) (start : Term order.startNonce) (middle : σ),
      tokens.holdings middle = tokens.holdings state ∧
        ((∀ nonce, order.startNonce = some nonce → nonce.toNat = (tokens.holdings state).count order.payer) →
          start.value.toNat = (tokens.holdings state).count order.payer) ∧
        ∀ (taken : Course order.waits (some start.value) plan.payments) (after : σ),
          (course tokens.ledger order price.value (some start.value) plan.payments).run middle = (taken, after) →
            (run tokens.ledger order plan).run state = (.sequenced _ covered price start taken, after) := by
  -- The questions move nothing, so the payments meet the holdings that the run met.
  obtain ⟨funded, balance, kept_balance⟩ := tokens.balanceOf_run order.payer state
  obtain ⟨price, priced, asked_price, kept_price⟩ := price_run tokens order.gasPrice funded
  have fits_priced : order.startNonce = none → (tokens.holdings priced).count order.payer < UInt64.size := by
    rw [kept_price, kept_balance]
    exact fits
  obtain ⟨start, middle, asked_nonce, kept_nonce, counted⟩ :=
    nonce_run tokens order.payer order.startNonce priced fits_priced
  rw [kept_price, kept_balance] at kept_nonce counted
  refine ⟨price, start, middle, kept_nonce, counted, ?_⟩
  intro taken after ran
  rw [run, run_bind_of balance]
  simp only [Nat.not_lt.mpr covered, dite_false]
  rw [run_bind_of asked_price, run_bind_of asked_nonce, run_bind_of ran]
  rfl

theorem execute_short (tokens : TokenLedger σ) (order : Order) (plan : Plan) (state : σ)
    (short : (tokens.holdings state).balance order.payer < plan.total) :
    tokens.holdings (stateAfter tokens.ledger order plan state) = tokens.holdings state ∧
      (reportOf tokens.ledger order plan state).ending = .abortedPreflight
        (.insufficientFunds ((tokens.holdings state).balance order.payer) plan.total) := by
  obtain ⟨after, makes, kept⟩ := run_short tokens order plan state short
  obtain ⟨report, left⟩ := execute_of_run makes
  rw [report, left]
  exact ⟨kept, rfl⟩

theorem execute_covered (tokens : TokenLedger σ) (order : Order) {plan : Plan} (state : σ)
    {paid rest : List Payment} (parts : plan.payments = paid ++ rest)
    (welcome : ∀ payment ∈ paid, ¬ tokens.refuses payment.destination)
    (stops : ∀ payment others, rest = payment :: others → tokens.refuses payment.destination)
    (covered : plan.total ≤ (tokens.holdings state).balance order.payer)
    (numbered : ∀ nonce, order.startNonce = some nonce → nonce.toNat = (tokens.holdings state).count order.payer)
    (fits : (tokens.holdings state).count order.payer + plan.payments.length < UInt64.size) :
    (tokens.holdings state).Pays order.payer paid
        (tokens.holdings (stateAfter tokens.ledger order plan state)) ∧
      (rest = [] → (reportOf tokens.ledger order plan state).isCompleted) ∧
      (rest ≠ [] → ∃ cause, (reportOf tokens.ledger order plan state).ending =
        .abortedAt paid.length (.submissionFailed paid.length cause)) := by
  obtain ⟨payments, warnings⟩ := plan
  cases parts
  obtain ⟨price, start, middle, kept, counted, goes_on⟩ := run_covered tokens order _ state covered
    fun _ => Nat.lt_of_le_of_lt (Nat.le_add_right _ _) fits
  -- Questions move nothing, so what holds of the holdings at first holds when the payments start.
  have start_counted : start.value.toNat = (tokens.holdings middle).count order.payer := by
    rw [kept]
    exact counted numbered
  have covered_paid : Payment.total paid ≤ (tokens.holdings middle).balance order.payer := by
    rw [kept]
    refine Nat.le_trans ?_ covered
    simp [Plan.total]
  have fits_middle : (tokens.holdings middle).count order.payer + (paid ++ rest).length ≤ UInt64.size := by
    rw [kept]
    exact Nat.le_of_lt fits
  have first_nonce : some start.value = nonceAt ((tokens.holdings middle).count order.payer) := by
    rw [← start_counted, nonceAt_toNat]
  obtain ⟨taken, after, ran, pays, settled, ending⟩ :=
    course_pays tokens order price.value welcome stops first_nonce fits_middle covered_paid
  obtain ⟨report, left⟩ := execute_of_run (goes_on taken after ran)
  rw [report, left, ← settled]
  refine ⟨kept ▸ pays, ?_, ?_⟩
  · rintro rfl
    rw [Run.isCompleted_iff, settled]
    simp
  · intro stopped
    obtain ⟨nonce, cause, refused⟩ := ending.resolve_left stopped
    exact ⟨cause, Run.ending_of_refused covered price start taken refused⟩

theorem execute_misnumbered (tokens : TokenLedger σ) (order : Order) (plan : Plan) (state : σ) {nonce : UInt64}
    (fixed : order.startNonce = some nonce) (wrong : nonce.toNat ≠ (tokens.holdings state).count order.payer)
    (covered : plan.total ≤ (tokens.holdings state).balance order.payer) :
    tokens.holdings (stateAfter tokens.ledger order plan state) = tokens.holdings state ∧
      (plan.payments ≠ [] → ∃ cause, (reportOf tokens.ledger order plan state).ending =
        .abortedAt 0 (.submissionFailed 0 cause)) := by
  obtain ⟨price, start, middle, kept, -, goes_on⟩ := run_covered tokens order plan state covered
    fun unfixed => by cases fixed.symm.trans unfixed
  obtain ⟨payments, warnings⟩ := plan
  cases payments with
  | nil =>
    obtain ⟨report, left⟩ := execute_of_run (goes_on .finished middle rfl)
    rw [left]
    exact ⟨kept, fun nonempty => absurd rfl nonempty⟩
  | cons payment rest =>
    -- A fixed nonce is taken as it is, so already the first transfer is refused.
    have refused : ¬ (tokens.holdings middle).Accepts tokens.refuses
        (order.request price.value start.value payment) := by
      intro accepts
      apply wrong
      rw [← start.value_of_fixed fixed, ← kept]
      exact accepts.numbered
    obtain ⟨cause, after, ran, unmoved⟩ := course_refused tokens order price.value rest refused
    obtain ⟨report, left⟩ := execute_of_run (goes_on _ after ran)
    rw [report, left]
    exact ⟨unmoved.trans kept, fun _ => ⟨cause, Run.ending_of_refused covered price start _ rfl⟩⟩

/-- What executing a plan comes to on a ledger of tokens: nothing without funds or with a wrong nonce,
and the payments before the first refusing destination otherwise. -/
theorem execute_pays (tokens : TokenLedger σ) (order : Order) (plan : Plan) (state : σ) :
    let before := tokens.holdings state
    let after := tokens.holdings (stateAfter tokens.ledger order plan state)
    let report := reportOf tokens.ledger order plan state
    (before.balance order.payer < plan.total →
      after = before ∧
        report.ending = .abortedPreflight (.insufficientFunds (before.balance order.payer) plan.total)) ∧
    (plan.total ≤ before.balance order.payer →
      (∀ nonce, order.startNonce = some nonce → nonce.toNat = before.count order.payer) →
      before.count order.payer + plan.payments.length < UInt64.size →
        ((∀ payment ∈ plan.payments, ¬ tokens.refuses payment.destination) →
          report.isCompleted ∧ before.Pays order.payer plan.payments after) ∧
        ∀ index payment, plan.payments[index]? = some payment → tokens.refuses payment.destination →
          (∀ earlier ∈ plan.payments.take index, ¬ tokens.refuses earlier.destination) →
            (∃ cause, report.ending = .abortedAt index (.submissionFailed index cause)) ∧
              before.Pays order.payer (plan.payments.take index) after) ∧
    ∀ nonce, order.startNonce = some nonce → nonce.toNat ≠ before.count order.payer →
      after = before ∧
        (plan.total ≤ before.balance order.payer → plan.payments ≠ [] →
          ∃ cause, report.ending = .abortedAt 0 (.submissionFailed 0 cause)) := by
  intro before after report
  refine ⟨execute_short tokens order plan state, ?_, ?_⟩
  · intro covered numbered fits
    constructor
    · intro welcome
      obtain ⟨pays, completed, -⟩ := execute_covered tokens order state (List.append_nil _).symm welcome
        (fun _ _ more => by cases more) covered numbered fits
      exact ⟨completed rfl, pays⟩
    -- The payments before the refused one are welcome, and it is the first of the others.
    · intro index payment here refusing welcome
      obtain ⟨bounded, rfl⟩ := List.getElem?_eq_some_iff.mp here
      have length_paid : (plan.payments.take index).length = index := by
        rw [List.length_take]
        omega
      have stops : ∀ later others, plan.payments.drop index = later :: others → tokens.refuses later.destination := by
        intro later others first
        rw [List.drop_eq_getElem_cons bounded] at first
        cases first
        exact refusing
      obtain ⟨pays, -, stopped⟩ := execute_covered tokens order state (List.take_append_drop index _).symm welcome
        stops covered numbered fits
      rw [length_paid] at stopped
      refine ⟨stopped ?_, pays⟩
      rw [List.drop_eq_getElem_cons bounded]
      exact List.cons_ne_nil _ _
  -- Without funds the run ends before it comes to the nonce.
  · intro nonce fixed wrong
    by_cases covered : plan.total ≤ before.balance order.payer
    · obtain ⟨unmoved, stopped⟩ := execute_misnumbered tokens order plan state fixed wrong covered
      exact ⟨unmoved, fun _ => stopped⟩
    · obtain ⟨unmoved, -⟩ := execute_short tokens order plan state (Nat.lt_of_not_le covered)
      exact ⟨unmoved, fun sufficient => absurd sufficient covered⟩

theorem execute_pays_in_memory :
    (reportOf (Memory.tokens []).ledger ⟨.zero, none, none, true⟩
        (.ofPayments [⟨⟨List.replicate 20 1, rfl⟩, 3, 1⟩, ⟨.zero, 7, 2⟩]) (.endowed .zero 10 4)).isCompleted ∧
      (stateAfter (Memory.tokens []).ledger ⟨.zero, none, none, true⟩
        (.ofPayments [⟨⟨List.replicate 20 1, rfl⟩, 3, 1⟩, ⟨.zero, 7, 2⟩]) (.endowed .zero 10 4)).holdings.balance
          .zero = 7 := by
  obtain ⟨-, funded, -⟩ := execute_pays (Memory.tokens []) ⟨.zero, none, none, true⟩
    (.ofPayments [⟨⟨List.replicate 20 1, rfl⟩, 3, 1⟩, ⟨.zero, 7, 2⟩]) (.endowed .zero 10 4)
  obtain ⟨paying, -⟩ := funded (by decide) (by intro nonce fixed; cases fixed) (by decide)
  obtain ⟨completed, pays⟩ := paying (by intro payment _; exact List.not_mem_nil)
  refine ⟨completed, ?_⟩
  have received : Payment.receivedBy .zero [⟨⟨List.replicate 20 1, rfl⟩, 3, 1⟩, ⟨.zero, 7, 2⟩] = 7 := by decide
  have payer_balance := pays.balance .zero
  rw [Plan.ofPayments, received, if_pos rfl] at payer_balance
  exact Nat.add_right_cancel payer_balance

end Batch

end TokenDesk
