import TokenDesk.Proofs.Command.BatchLines
import TokenDesk.Proofs.Command.BatchSheet
import TokenDesk.Proofs.Command.Outline
import TokenDesk.Proofs.Desk.Sending

/-! What is told of a batch, and what the node was asked for.

Nothing is asked for and nothing is told if a batch cannot be read. What is told of
the payments of one that can agrees with the replies of the node.
-/

set_option autoImplicit false

namespace TokenDesk

open Rpc (IsSilent Session)
open Batch (Broadcast)

def BatchPayRequest.order (request : BatchPayRequest) (payer : Address) : Batch.Order where
  payer := payer
  gasPrice := request.gasPrice.map UInt64.toNat
  startNonce := request.nonce
  waits := request.waits

namespace Desk

variable {m : Type → Type} [Monad m]

def paySheet (desk : Desk m) (request : BatchPayRequest) (sheet : BatchSheet) : Action m Unit := do
  desk.sayAll (planLines sheet.plan sheet.decimals sheet.symbol)
  desk.unlock sheet.payer
  let report ← (Batch.execute (Erc20.ledger ⟨desk.contractAt sheet.contract⟩) (request.order sheet.payer) sheet.plan :
    Rpc.Requests m Batch.Report)
  desk.sayAll (reportLines sheet.payer sheet.decimals sheet.symbol sheet.plan report desk.units)
  let _ ← (liftM (report.result.mapError Failure.batch) : Action m Amount)

theorem readTerms_bind [LawfulMonad m] (desk : Desk m) (request : BatchPayRequest) (contract payer : Address) :
    (do
      let source ← Action.ofHost <| (desk.host.files.readText request.path).adapt fun fault =>
        .during (.readBatchFile request.path) (.file fault)
      let decimals ← Action.ofContract .readDecimals (Erc20.mk (desk.contractAt contract)).decimals
      let symbol ← Action.ofContract .readSymbol (desk.contractAt contract).symbol
      let chain ← batchChain desk
      let plan ← liftM <| (Plan.ofSource (.on desk.settings.blockchain decimals chain) source).mapError
        fun cause => Failure.during (.parseBatchFile request.path) (.plan cause)
      desk.sayAll (planLines plan decimals symbol)
      desk.unlock payer
      let report ← (Batch.execute (Erc20.ledger ⟨desk.contractAt contract⟩) (request.order payer) plan :
        Rpc.Requests m Batch.Report)
      desk.sayAll (reportLines payer decimals symbol plan report desk.units)
      let _ ← (liftM (report.result.mapError Failure.batch) : Action m Amount)) =
    desk.readTerms request.path contract payer >>= desk.paySheet request := by
  simp only [readTerms, paySheet, bind_assoc, pure_bind]

end Desk

/-- What is left behind when a batch that was read is paid. Nothing is submitted while the payer's account is
locked. -/
inductive Pays (url : String) (units : UnitNames) (request : BatchPayRequest) (sheet : BatchSheet) :
    List HostEvent → Except Failure Unit → Prop where
  | locked {unlocking : List HostEvent} {cause : Failure} : IsAttempting unlockAttempts unlocking →
      ¬ IsUnlocked sheet.payer unlocking →
        Pays url units request sheet
          ((Desk.planLines sheet.plan sheet.decimals sheet.symbol).map .said ++ unlocking) (.error cause)
  | executed {unlocking executing : List HostEvent} {events : List TransportEvent}
      (made : Batch.Run (request.order sheet.payer) sheet.plan) : IsAttempting unlockAttempts unlocking →
      IsUnlocked sheet.payer unlocking → Told (Erc20.Relays sheet.contract) made.calls events →
      Told (Rpc.Wire url) events executing →
        Pays url units request sheet
          ((Desk.planLines sheet.plan sheet.decimals sheet.symbol).map .said ++ (unlocking ++ (executing ++
            (Desk.reportLines sheet.payer sheet.decimals sheet.symbol sheet.plan made.report units).map .said)))
          ((made.report.result.mapError Failure.batch).map fun _ => ())

namespace Desk

variable {m : Type → Type} [Monad m] [LawfulMonad m] {trace : Trace m HostEvent} {desk : Desk m}
  (seen : desk.host.IsSeen trace)
include seen

theorem paySheet_seen (request : BatchPayRequest) (sheet : BatchSheet) :
    (trace.beside Session).Emits (desk.paySheet request sheet).run
      (Pays desk.settings.rpcUrl desk.units request sheet) := by
  refine (trace.beside Session).emits_bind_run (desk.sayAll_seen seen _) ?_ ?_
  · rintro _ cause ⟨-, ⟨⟩⟩
  rintro _ _ ⟨rfl, -⟩
  -- Telling cannot fail, so only a locked account keeps the payments from being submitted.
  refine (trace.beside Session).emits_bind_run (desk.unlock_seen seen sheet.payer) ?_ ?_
  · rintro unlocking cause ⟨attempting, unlocked⟩
    exact .locked attempting (unlocked.not.mp nofun)
  rintro unlocking _ ⟨attempting, unlocked⟩
  refine (trace.beside Session).emits_bind_lift_run (desk.execute_seen seen sheet.contract _ sheet.plan) ?_
  rintro executing _ ⟨made, events, rfl, relayed, wired⟩
  refine (trace.beside Session).emits_bind_run (desk.sayAll_seen seen _) ?_ ?_
  · rintro _ cause ⟨-, ⟨⟩⟩
  rintro _ _ ⟨rfl, -⟩
  have paid : Pays desk.settings.rpcUrl desk.units request sheet _ _ :=
    .executed made attempting (unlocked.mp rfl) relayed wired
  rw [← List.append_nil (List.map _ (reportLines _ _ _ _ _ _))] at paid
  refine (trace.beside Session).emits_bind_liftM_run ?_ ?_
  · intro cause failed
    rw [failed] at paid
    exact paid
  · intro total given
    rw [given] at paid
    exact (trace.beside Session).emits_pure_run paid

theorem batchPay_seen (request : BatchPayRequest) :
    (trace.beside Session).Emits (desk.batchPay request).run
      (Chained (ReadsSheet desk.settings request.path) (Pays desk.settings.rpcUrl desk.units request)) := by
  -- The contract, its kind and the payer are looked up in the settings; nothing is read while one is missing.
  refine (trace.beside Session).emits_bind_liftM_run ?_ ?_
  · intro cause failed
    refine .stopped (.stopped (NamesParties.of_failed cause ?_))
    rintro contract payer ⟨known, -, -⟩
    cases failed.symm.trans (token_eq_ok_iff.mpr ⟨contract, known, rfl⟩)
  intro token named
  obtain ⟨contract, known, rfl⟩ := token_eq_ok_iff.mp named
  refine (trace.beside Session).emits_bind_liftM_run ?_ ?_
  · intro cause failed
    refine .stopped (.stopped (NamesParties.of_failed cause ?_))
    rintro _ payer ⟨-, fungible, -⟩
    simp [Token.asFungible, fungible] at failed
  intro erc20 same
  obtain ⟨fungible, rfl⟩ := Token.asFungible_eq_ok (mapError_eq_ok_iff.mp same)
  refine (trace.beside Session).emits_bind_liftM_run ?_ ?_
  · intro cause failed
    refine .stopped (.stopped (NamesParties.of_failed cause ?_))
    rintro _ payer ⟨-, -, configured⟩
    cases failed.symm.trans (Settings.payer_eq_ok_iff.mpr configured)
  intro payer configured
  have kind : desk.settings.kind = .fungible := fungible
  have names : NamesParties desk.settings [] (.ok (contract, payer)) :=
    ⟨rfl, by simp [known, kind, Settings.payer_eq_ok_iff.mp configured]⟩
  suffices (trace.beside Session).Emits (desk.readTerms request.path contract payer >>= desk.paySheet request).run
      (Chained (ReadsSheet desk.settings request.path) (Pays desk.settings.rpcUrl desk.units request)) by
    rw [← readTerms_bind] at this
    exact this
  refine (trace.beside Session).emits_mono ((trace.beside Session).emits_chained
    (desk.readTerms_seen seen request.path contract payer) fun sheet => desk.paySheet_seen seen request sheet) ?_
  rintro log result (terms | ⟨terms, pays⟩)
  · exact .stopped (.continued names terms)
  · exact .continued (.continued names terms) pays

end Desk

section
open Desk

/-- What was told of a batch whose payments were submitted agrees with what the node replied. The broadcasts are
the payments that it took. -/
structure Tallies (request : BatchPayRequest) (sheet : BatchSheet) (log : List HostEvent)
    (result : Except Failure Unit) (broadcasts : List Broadcast) : Prop where
  payments_eq : broadcasts.map Broadcast.payment = sheet.plan.payments.take broadcasts.length
  taken : ∀ broadcast ∈ broadcasts, broadcast.IsTaken request.waits
  calls_eq : ∃ gasPrice before others, Rpc.calls log = before ++
      (broadcasts.flatMap (Broadcast.calls sheet.contract (request.order sheet.payer) gasPrice) ++ others) ∧
    ∀ call ∈ before ++ others, call.txId? = none
  txIds : (Rpc.calls log).filterMap Rpc.Call.txId? = broadcasts.map Broadcast.tx
  lines_eq : ∃ untaken summary,
    printed log = batchLines sheet.payer sheet.decimals sheet.symbol sheet.plan broadcasts untaken summary ∧
      ∀ line ∈ untaken, begins failureMark line
  broadcast_lines : (printed log).filter (begins broadcastMark) =
    broadcasts.map (broadcastLine sheet.payer sheet.decimals sheet.symbol)
  unawaited : request.waits = false → ∀ broadcast ∈ broadcasts, waitLines broadcast = []
  mined_iff : request.waits = true → ∀ broadcast ∈ broadcasts, minedLine broadcast.tx ∈ waitLines broadcast ↔
    ∃ receipt, Rpc.Obtains broadcast.tx broadcast.polls receipt ∧ Rpc.SaysMined receipt
  minedButFailed_iff : request.waits = true → ∀ broadcast ∈ broadcasts,
    minedButFailedLine broadcast.tx ∈ waitLines broadcast ↔
      ∃ receipt, Rpc.Obtains broadcast.tx broadcast.polls receipt ∧ Rpc.SaysFailed receipt
  success_iff : result = .ok () ↔ broadcasts.length = sheet.plan.payments.length ∧
    (request.waits = true → ∀ broadcast ∈ broadcasts, ∃ receipt, Rpc.Obtains broadcast.tx broadcast.polls receipt)
  total_iff : (∃ line ∈ printed log, begins totalMark line) ↔ result = .ok ()
  completed : result = .ok () → ∃ cost, (printed log).getLast? = some (totalMark ++ cost)
  stopped : result ≠ .ok () →
    (printed log).getLast? = some (submittedLine broadcasts.length sheet.plan.payments.length)

variable {request : BatchPayRequest} {sheet : BatchSheet} {log : List HostEvent} {result : Except Failure Unit}
  {broadcasts : List Broadcast} {gasPrice : Amount} {before paid : List Rpc.Call} {report : Batch.Report}
  {units : UnitNames}

theorem tallies_of_shows (calls_eq : Rpc.calls log = before ++ paid) (unsent : ∀ call ∈ before, call.txId? = none)
    (printed_eq : printed log = planLines sheet.plan sheet.decimals sheet.symbol ++
      reportLines sheet.payer sheet.decimals sheet.symbol sheet.plan report units)
    (shown : Batch.Shows sheet.contract (request.order sheet.payer) gasPrice request.waits sheet.plan.payments
      report.outcomes paid broadcasts)
    (completed : report.isCompleted ↔ Batch.IsWhole sheet.plan.payments broadcasts)
    (length_outcomes : report.outcomes.length = sheet.plan.payments.length)
    (succeeds : result = .ok () ↔ report.isCompleted) : Tallies request sheet log result broadcasts := by
  obtain ⟨untaken, lines_eq, failures⟩ := reportLines_eq sheet.payer sheet.decimals sheet.symbol units shown
  have all_lines : printed log = batchLines sheet.payer sheet.decimals sheet.symbol sheet.plan broadcasts untaken
      (reportLine report units) := by
    rw [printed_eq, lines_eq]
    rfl
  exact {
    payments_eq := shown.payments_eq
    taken := shown.taken
    calls_eq := by
      obtain ⟨others, rfl, silent⟩ := shown.calls_eq
      refine ⟨gasPrice, before, others, calls_eq, fun call listed => ?_⟩
      exact (List.mem_append.mp listed).elim (unsent call) (silent call)
    txIds := by
      rw [calls_eq, List.filterMap_append, List.filterMap_eq_nil_iff.mpr unsent, shown.txIds]
      rfl
    lines_eq := ⟨untaken, _, all_lines, failures⟩
    broadcast_lines := by rw [all_lines, filter_batchLines failures]
    unawaited no broadcast listed := waitLines_of_unawaited (no ▸ shown.taken broadcast listed)
    mined_iff yes broadcast listed := mined_mem_iff_says (yes ▸ shown.taken broadcast listed)
    minedButFailed_iff yes broadcast listed := minedButFailed_mem_iff_says (yes ▸ shown.taken broadcast listed)
    success_iff := by
      rw [succeeds, completed]
      refine and_congr_right fun _ => ⟨fun settled yes broadcast listed => ?_, fun obtained broadcast listed => ?_⟩
      · exact (shown.taken broadcast listed).isSettled_iff.mp (settled broadcast listed) yes
      · exact (shown.taken broadcast listed).isSettled_iff.mpr fun yes => obtained yes broadcast listed
    total_iff := by rw [all_lines, total_mem_batchLines_iff failures, succeeds]
    completed done := by
      rw [all_lines, getLast?_batchLines, reportLine_of_completed (succeeds.mp done)]
      exact ⟨_, rfl⟩
    stopped failed := by
      rw [all_lines, getLast?_batchLines, reportLine_of_stopped (succeeds.not.mp failed), length_outcomes,
        Batch.Report.submitted, shown.countP_outcomes] }

theorem result_eq_ok_iff (report : Batch.Report) :
    (report.result.mapError Failure.batch).map (fun _ => ()) = .ok () ↔ report.isCompleted := by
  unfold Batch.Report.result Batch.Report.isCompleted
  cases report.ending <;> simp [Except.mapError, Except.map]

theorem tallies_of_run (made : Batch.Run (request.order sheet.payer) sheet.plan)
    {read unlocking executing : List HostEvent} {events : List TransportEvent} {url : String}
    (nonempty : sheet.plan.payments ≠ []) (silent : IsSilent read) (attempting : IsAttempting unlockAttempts unlocking)
    (relayed : Told (Erc20.Relays sheet.contract) made.calls events) (wired : Told (Rpc.Wire url) events executing)
    (log_eq : log = read ++ ((planLines sheet.plan sheet.decimals sheet.symbol).map .said ++ (unlocking ++ (executing ++
      (reportLines sheet.payer sheet.decimals sheet.symbol sheet.plan made.report units).map .said)))) :
    ∃ broadcasts, Tallies request sheet log
      ((made.report.result.mapError Failure.batch).map fun _ => ()) broadcasts := by
  obtain ⟨gasPrice, asked, paid, broadcasts, calls_eq, unsent, shown, completed⟩ := made.shows nonempty relayed wired
  -- Before the payments the node is only asked for, and between the plan and the report nothing is printed.
  have all_calls : Rpc.calls log = (Rpc.calls read ++ (Rpc.calls unlocking ++ asked)) ++ paid := by
    simp [log_eq, calls_eq]
  have all_lines : printed log = planLines sheet.plan sheet.decimals sheet.symbol ++
      reportLines sheet.payer sheet.decimals sheet.symbol sheet.plan made.report units := by
    simp [log_eq, silent.prints_nothing, attempting.prints_nothing, Rpc.printed_of_told wired]
  refine ⟨broadcasts, tallies_of_shows all_calls (fun call listed => ?_) all_lines shown completed
    made.length_outcomes (result_eq_ok_iff made.report)⟩
  simp only [List.mem_append] at listed
  rcases listed with early | attempt | question
  · exact Batch.txId?_of_quiet silent.quiet call early
  · simp [Rpc.Call.txId?, attempting.sends_nothing call attempt]
  · exact unsent call question

end

def ReadsBatch (path : String) (flags : Flags) (batch : String) : List HostEvent → Except Failure BatchSheet → Prop :=
  Chained (LoadsSettings path flags) fun settings => ReadsSheet settings batch

/-- How a run goes that is to pay a batch. -/
inductive PaysBatch (path : String) (flags : Flags) (request : BatchPayRequest) (log : List HostEvent) :
    Except Failure Unit → Prop where
  | unread {cause : Failure} : ReadsBatch path flags request.path log (.error cause) → IsSilent log →
      PaysBatch path flags request log (.error cause)
  | locked {read rest : List HostEvent} {sheet : BatchSheet} {cause : Failure} : log = read ++ rest →
      ReadsBatch path flags request.path read (.ok sheet) → IsSilent read →
      printed log = Desk.planLines sheet.plan sheet.decimals sheet.symbol →
      (∀ call ∈ Rpc.calls log, call.isSend = false) → ¬ IsUnlocked sheet.payer log →
        PaysBatch path flags request log (.error cause)
  | executed {read rest : List HostEvent} {sheet : BatchSheet} {result : Except Failure Unit}
      {broadcasts : List Broadcast} : log = read ++ rest → ReadsBatch path flags request.path read (.ok sheet) →
      IsSilent read → IsUnlocked sheet.payer log → Tallies request sheet log result broadcasts →
        PaysBatch path flags request log result

theorem ReadsBatch.isSilent {path batch : String} {flags : Flags} {log : List HostEvent}
    {result : Except Failure BatchSheet} (reads : ReadsBatch path flags batch log result) : IsSilent log :=
  Chained.closed reads .append LoadsSettings.isSilent ReadsSheet.isSilent

theorem paysBatch_of_pays {path : String} {flags : Flags} {request : BatchPayRequest} {read rest : List HostEvent}
    {url : String} {units : UnitNames} {sheet : BatchSheet} {result : Except Failure Unit}
    (reads : ReadsBatch path flags request.path read (.ok sheet)) (nonempty : sheet.plan.payments ≠ [])
    (pays : Pays url units request sheet rest result) : PaysBatch path flags request (read ++ rest) result := by
  have silent := reads.isSilent
  cases pays with
  | locked attempting locked =>
    refine .locked rfl reads silent ?_ (fun call listed => ?_) ?_
    · simp [silent.prints_nothing, attempting.prints_nothing]
    · simp only [Rpc.calls_append, Rpc.calls_said, List.nil_append, List.mem_append] at listed
      exact listed.elim (fun early => (silent.quiet call early).1) (attempting.sends_nothing call)
    · have lines_quiet : Rpc.Quiet ((Desk.planLines sheet.plan sheet.decimals sheet.symbol).map .said) :=
        Rpc.quiet_of_calls_eq_nil (Rpc.calls_said _)
      simp [isUnlocked_append_iff, not_isUnlocked_of_quiet silent.quiet, not_isUnlocked_of_quiet lines_quiet, locked]
  | executed made attempting unlocked relayed wired =>
    obtain ⟨broadcasts, tallies⟩ := tallies_of_run made nonempty silent attempting relayed wired rfl
    refine .executed rfl reads silent ?_ tallies
    simp [isUnlocked_append_iff, unlocked]

theorem Command.batchPay_seen {m : Type → Type} [Monad m] [LawfulMonad m] {trace : Trace m HostEvent} {host : Host m}
    (seen : host.IsSeen trace) (flags : Flags) (path : String) (request : BatchPayRequest) :
    trace.Emits ((Command.batchPay request).run host flags path).run fun log result =>
      PaysBatch path flags request log result := by
  have ran : trace.Emits (Command.atDesk host flags path fun _ desk => desk.batchPay request).run
      (Chained (LoadsSettings path flags) fun settings => Chained (ReadsSheet settings request.path)
        (Pays settings.rpcUrl settings.blockchain.units request)) :=
    Command.atDesk_seen seen fun _ _ => Desk.batchPay_seen seen request
  rw [run]
  refine trace.emits_mono ran ?_
  rintro log result (unloaded | ⟨loads, unread | ⟨reads, pays⟩⟩)
  · have failed : ReadsBatch path flags request.path _ _ := .stopped unloaded
    exact .unread failed failed.isSilent
  · have failed : ReadsBatch path flags request.path _ _ := .continued loads unread
    exact .unread failed failed.isSilent
  · rw [← List.append_assoc]
    exact paysBatch_of_pays (.continued loads reads) reads.payments_ne_nil pays

variable {σ : Type}

/-- Whatever node, terminal and files there are, what is told of a batch agrees with what the node was asked for and
replied. -/
theorem Command.batchPay_tallies (host : Host (StateM σ)) (flags : Flags) (path : String) (request : BatchPayRequest)
    (state : σ) : ∃ result log after,
      (((Command.batchPay request).run host.recorded flags path).run.run []).run state = ((result, log), after) ∧
        PaysBatch path flags request log result := by
  obtain ⟨log, result, after, ran, pays⟩ := Command.batchPay_seen host.recorded_seen flags path request [] state
  exact ⟨result, log, after, ran, pays⟩

end TokenDesk
