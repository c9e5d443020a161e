import TokenDesk.Proofs.Batch.Run
import TokenDesk.Proofs.Trace

/-! Runs of a batch on a ledger behind which something is heard. -/

set_option autoImplicit false

namespace TokenDesk

variable {m : Type → Type} [Monad m]

/-- Each operation of the ledger is heard as the event of that operation, and nothing else is. -/
structure Ledger.IsHeard (trace : Trace m LedgerEvent) (ledger : Ledger m) : Prop where
  balanceOf : ∀ owner, trace.Emits (ledger.balanceOf owner).run fun events answer =>
    events = [.balanceOf owner answer]
  pendingNonce : ∀ account, trace.Emits (ledger.pendingNonce account).run fun events answer =>
    events = [.pendingNonce account answer]
  chainId : trace.Emits ledger.chainId.run fun events answer => events = [.chainId answer]
  suggestGasPrice : trace.Emits ledger.suggestGasPrice.run fun events answer => events = [.suggestGasPrice answer]
  transfer : ∀ request, trace.Emits (ledger.transfer request).run fun events answer =>
    events = [.transfer request answer]
  waitConfirmed : ∀ tx, trace.Emits (ledger.waitConfirmed tx).run fun events answer =>
    events = [.waitConfirmed tx answer]

namespace Batch

variable [LawfulMonad m] {trace : Trace m LedgerEvent} {ledger : Ledger m}

theorem attempt_heard (heard : ledger.IsHeard trace) (request : Transfer) (waits : Bool) :
    trace.Emits (attempt ledger request waits).run fun events answer => events = answerCalls request answer := by
  cases waits with
  | false =>
    refine trace.emits_bind_adapt_run (heard.transfer request) ?_ ?_
    · rintro _ cause rfl
      rfl
    · rintro _ sent rfl
      exact trace.emits_pure_run rfl
  | true =>
    refine trace.emits_bind_adapt_run (heard.transfer request) ?_ ?_
    · rintro _ cause rfl
      rfl
    · rintro _ sent rfl
      refine trace.emits_bind_adapt_run (heard.waitConfirmed sent.tx) ?_ ?_
      · rintro _ cause rfl
        rfl
      · rintro _ confirmation rfl
        exact trace.emits_pure_run rfl

theorem course_heard (heard : ledger.IsHeard trace) (order : Order) (gasPrice : Amount) (next : Option UInt64)
    (payments : List Payment) :
    trace.Emits (course ledger order gasPrice next payments) fun events taken =>
      events = taken.calls order gasPrice := by
  induction payments generalizing next with
  | nil => cases next <;> exact trace.emits_pure rfl
  | cons payment rest ih =>
    cases next with
    | none => exact trace.emits_pure rfl
    | some nonce =>
      refine trace.emits_bind (attempt_heard heard _ _) ?_
      rintro _ (halt | first) rfl
      · exact trace.emits_pure (List.append_nil _)
      · refine trace.emits_bind (ih (nonceAfter nonce)) ?_
        rintro _ others rfl
        exact trace.emits_pure (congrArg _ (List.append_nil _))

theorem term_heard {α : Type} {event : Except LedgerError α → LedgerEvent} {ask : ExceptT LedgerError m α}
    (heard : trace.Emits ask.run fun events answer => events = [event answer]) (fixed : Option α) :
    trace.Emits (term ask fixed).run fun events answer => events = termCalls event answer := by
  cases fixed with
  | some value => exact trace.emits_pure_run rfl
  | none =>
    rw [term, ExceptT.run_map]
    refine trace.emits_map (trace.emits_adapt_run (trace.emits_mono heard ?_))
    rintro _ (cause | value) rfl <;> rfl

theorem run_heard (heard : ledger.IsHeard trace) (order : Order) (plan : Plan) :
    trace.Emits (run ledger order plan) fun events made => events = made.calls := by
  refine trace.emits_bind (heard.balanceOf order.payer) ?_
  rintro _ (cause | balance) rfl
  · exact trace.emits_pure rfl
  dsimp only
  split
  · exact trace.emits_pure rfl
  refine trace.emits_bind (term_heard heard.suggestGasPrice order.gasPrice) ?_
  rintro _ (price | price) rfl
  · exact trace.emits_pure (congrArg _ (List.append_nil _))
  refine trace.emits_bind (term_heard (heard.pendingNonce order.payer) order.startNonce) ?_
  rintro _ (start | start) rfl
  · exact trace.emits_pure (by simp [Run.calls, termCalls])
  refine trace.emits_bind (course_heard heard order price.value (some start.value) plan.payments) ?_
  rintro _ taken rfl
  exact trace.emits_pure (by simp [Run.calls, termCalls])

/-- What is heard of a run are its calls, so that the ledger layer of a run is the same whatever is below it. -/
theorem execute_heard (heard : ledger.IsHeard trace) (order : Order) (plan : Plan) :
    trace.Emits (execute ledger order plan) fun events report =>
      ∃ made : Run order plan, report = made.report ∧ events = made.calls := by
  rw [execute_eq_run]
  exact trace.emits_map (trace.emits_mono (run_heard heard order plan) fun _ made same => ⟨made, rfl, same⟩)

end Batch

end TokenDesk
