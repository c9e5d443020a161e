import TokenDesk.Command.BatchPay
import TokenDesk.Proofs.Batch.Broadcast

/-! The lines that tell of a batch.

Of every payment that the node took there is one line, and only of these. What
was found out of its transaction follows at once.
-/

set_option autoImplicit false

namespace TokenDesk.Desk

open Batch (Broadcast Shows)

def begins (words line : String) : Bool :=
  words.toList.isPrefixOf line.toList

def broadcastMark : String := "Succeed broadcast "

def failureMark : String := "Failed to "

def totalMark : String := "Total Gas is: "

/-- Neither begins with the other, and so it stays whatever follows. -/
def IsApart (words line : String) : Prop :=
  ¬ words.toList <+: line.toList ∧ ¬ line.toList <+: words.toList

/-- The line has another subject than a payment that was taken, or the cost of the batch. -/
def IsPlain (line : String) : Prop :=
  IsApart broadcastMark line ∧ IsApart totalMark line

instance (words line : String) : Decidable (IsApart words line) :=
  inferInstanceAs (Decidable (_ ∧ _))

instance (line : String) : Decidable (IsPlain line) :=
  inferInstanceAs (Decidable (_ ∧ _))

def minedLine (tx : TxId) : String :=
  "Succeed mined txID " ++ tx.hex

def minedButFailedLine (tx : TxId) : String :=
  "Transaction " ++ tx.hex ++ " was mined but failed"

def broadcastLine (payer : Address) (decimals : Decimals) (symbol : String) (broadcast : Broadcast) : String :=
  broadcastMark ++ ("pay " ++ Amount.render decimals broadcast.payment.amount ++ " " ++ symbol ++ " from "
    ++ payer.checksummed ++ " to " ++ broadcast.payment.destination.checksummed)
    ++ " with nonce " ++ toString broadcast.nonce.toNat ++ ", TxID " ++ broadcast.tx.hex

def submittedLine (submitted all : Nat) : String :=
  "Submitted " ++ toString submitted ++ " of " ++ toString all ++ " transactions"

def waitLines (broadcast : Broadcast) : List String :=
  match broadcast.receipt with
  | none => []
  | some (.ok receipt) => [if receipt.success then minedLine broadcast.tx else minedButFailedLine broadcast.tx]
  | some (.error cause) => ["Error waiting for " ++ broadcast.tx.hex ++ ": " ++ cause.toLedger.message]

variable {payer : Address} {decimals : Decimals} {symbol : String} {broadcast : Broadcast}

theorem outcomeLines_outcome :
    outcomeLines payer decimals symbol broadcast.payment broadcast.outcome =
      broadcastLine payer decimals symbol broadcast :: waitLines broadcast := by
  obtain ⟨payment, nonce, gasLimit, estimateReply, reply, tx, polls, receipt⟩ := broadcast
  rcases receipt with _ | cause | ⟨_, gasUsed, _ | _, contract⟩ <;> rfl

theorem IsApart.append {words line : String} (apart : IsApart words line) (rest : String) :
    IsApart words (line ++ rest) := by
  rw [IsApart, String.toList_append]
  refine ⟨fun starts => ?_, fun starts => ?_⟩
  · -- Of two prefixes of one text the one is a prefix of the other.
    exact (List.prefix_or_prefix_of_prefix starts (List.prefix_append _ _)).elim apart.1 apart.2
  · exact apart.2 ((List.prefix_append _ _).trans starts)

theorem IsApart.begins_eq_false {words line : String} (apart : IsApart words line) : begins words line = false := by
  rw [begins, Bool.eq_false_iff]
  exact fun starts => apart.1 (List.isPrefixOf_iff_prefix.mp starts)

theorem IsApart.of_begins {words mark line : String} (starts : begins mark line) (apart : IsApart words mark) :
    IsApart words line := by
  obtain ⟨rest, same⟩ := List.isPrefixOf_iff_prefix.mp starts
  have whole : line = mark ++ String.ofList rest := String.toList_injective (by simp [← same])
  rw [whole]
  exact apart.append _

theorem isPlain_of_failure {line : String} (starts : begins failureMark line) : IsPlain line :=
  ⟨.of_begins starts (by decide), .of_begins starts (by decide)⟩

theorem IsPlain.append {line : String} (plain : IsPlain line) (rest : String) : IsPlain (line ++ rest) :=
  ⟨plain.1.append rest, plain.2.append rest⟩

theorem begins_append {words line : String} (starts : begins words line) (rest : String) :
    begins words (line ++ rest) := by
  rw [begins, List.isPrefixOf_iff_prefix] at starts ⊢
  rw [String.toList_append]
  exact starts.trans (List.prefix_append _ _)

theorem begins_broadcastLine : begins broadcastMark (broadcastLine payer decimals symbol broadcast) := by
  unfold broadcastLine
  iterate 5 refine begins_append ?_ _
  decide

theorem isApart_broadcastLine : IsApart totalMark (broadcastLine payer decimals symbol broadcast) := by
  unfold broadcastLine
  iterate 5 refine .append ?_ _
  decide

theorem isPlain_minedLine (tx : TxId) : IsPlain (minedLine tx) :=
  .append (by decide) _

theorem isPlain_minedButFailedLine (tx : TxId) : IsPlain (minedButFailedLine tx) :=
  .append (.append (by decide) _) _

theorem isPlain_waitLines {line : String} (listed : line ∈ waitLines broadcast) : IsPlain line := by
  obtain ⟨payment, nonce, gasLimit, estimateReply, reply, tx, polls, receipt⟩ := broadcast
  rcases receipt with _ | cause | ⟨_, gasUsed, _ | _, contract⟩
  · cases listed
  · simp only [waitLines, List.mem_singleton] at listed
    rw [listed]
    exact .append (.append (.append (by decide) _) _) _
  · simp only [waitLines, List.mem_singleton] at listed
    rw [listed]
    exact isPlain_minedButFailedLine tx
  · simp only [waitLines, List.mem_singleton] at listed
    rw [listed]
    exact isPlain_minedLine tx

theorem begins_untaken {payment : Payment} {outcome : Batch.Outcome} (untaken : outcome.tx? = none) {line : String}
    (listed : line ∈ outcomeLines payer decimals symbol payment outcome) : begins failureMark line := by
  cases outcome with
  | pending => cases listed
  | broadcast nonce tx => cases untaken
  | confirmed nonce tx gasUsed success => cases untaken
  | failed nonce tx cause =>
    cases tx with
    | some tx => cases untaken
    | none =>
      simp only [outcomeLines, List.mem_singleton] at listed
      rw [listed]
      iterate 5 refine begins_append ?_ _
      decide

theorem exists_checksummed (address : Address) : ∃ digits, address.checksummed = "0x" ++ String.ofList digits := by
  -- The checksum is in the case of the digits only.
  refine ⟨Address.raiseByHash address.digits (Text.Hex.encode (Hash.Keccak.hash (Text.Utf8.encode address.digits))), ?_⟩
  refine String.toList_injective ?_
  simp only [Address.checksummed, String.toList_ofList, String.toList_append]
  rfl

theorem isPlain_planLines {plan : Plan} {line : String} (listed : line ∈ planLines plan decimals symbol) :
    IsPlain line := by
  simp only [planLines, List.mem_append, List.mem_map, List.mem_cons, List.not_mem_nil, or_false] at listed
  rcases listed with ((⟨warning, -, rfl⟩ | rfl) | ⟨payment, -, rfl⟩) | rfl | rfl
  · exact .append (.append (by decide) _) _
  · decide
  · obtain ⟨digits, same⟩ := exists_checksummed payment.destination
    rw [paymentLine, same]
    exact .append (.append (.append (by decide) _) _) _
  · exact .append (by decide) _
  · exact .append (.append (.append (by decide) _) _) _

/-! Telling the two outcomes of a wait apart. -/

theorem ne_of_isApart (words : String) {line other : String} (starts : begins words line)
    (apart : IsApart words other) : line ≠ other := by
  rintro rfl
  rw [apart.begins_eq_false] at starts
  cases starts

theorem mined_ne_minedButFailed (tx : TxId) : minedLine tx ≠ minedButFailedLine tx :=
  ne_of_isApart "Succeed" (begins_append (by decide) _) (.append (.append (by decide) _) _)

theorem mined_mem_iff : minedLine broadcast.tx ∈ waitLines broadcast ↔
    ∃ receipt, broadcast.receipt = some (.ok receipt) ∧ receipt.success = true := by
  obtain ⟨payment, nonce, gasLimit, estimateReply, reply, tx, polls, receipt⟩ := broadcast
  rcases receipt with _ | cause | ⟨_, gasUsed, _ | _, contract⟩
  · simp [waitLines]
  · have differs : minedLine tx ≠ "Error waiting for " ++ tx.hex ++ ": " ++ cause.toLedger.message :=
      ne_of_isApart "Succeed" (begins_append (by decide) _) (.append (.append (.append (by decide) _) _) _)
    simp [waitLines, differs]
  · simp [waitLines, mined_ne_minedButFailed]
  · simp [waitLines]

theorem minedButFailed_mem_iff : minedButFailedLine broadcast.tx ∈ waitLines broadcast ↔
    ∃ receipt, broadcast.receipt = some (.ok receipt) ∧ receipt.success = false := by
  obtain ⟨payment, nonce, gasLimit, estimateReply, reply, tx, polls, receipt⟩ := broadcast
  rcases receipt with _ | cause | ⟨_, gasUsed, _ | _, contract⟩
  · simp [waitLines]
  · have differs : minedButFailedLine tx ≠ "Error waiting for " ++ tx.hex ++ ": " ++ cause.toLedger.message :=
      ne_of_isApart "Transaction" (begins_append (begins_append (by decide) _) _)
        (.append (.append (.append (by decide) _) _) _)
    simp [waitLines, differs]
  · simp [waitLines]
  · simp [waitLines, (mined_ne_minedButFailed tx).symm]

theorem mined_mem_iff_says (taken : broadcast.IsTaken true) : minedLine broadcast.tx ∈ waitLines broadcast ↔
    ∃ receipt, Rpc.Obtains broadcast.tx broadcast.polls receipt ∧ Rpc.SaysMined receipt := by
  obtain ⟨answer, known, awaits⟩ := taken.awaited rfl
  rw [mined_mem_iff, ← awaits.verdict.success_iff, known]
  simp

theorem minedButFailed_mem_iff_says (taken : broadcast.IsTaken true) :
    minedButFailedLine broadcast.tx ∈ waitLines broadcast ↔
      ∃ receipt, Rpc.Obtains broadcast.tx broadcast.polls receipt ∧ Rpc.SaysFailed receipt := by
  obtain ⟨answer, known, awaits⟩ := taken.awaited rfl
  rw [minedButFailed_mem_iff, ← awaits.verdict.failure_iff, known]
  simp

theorem waitLines_of_unawaited (taken : broadcast.IsTaken false) : waitLines broadcast = [] := by
  rw [waitLines, (taken.unawaited rfl).2]

/-- The lines of the payments that were taken, each with what came of waiting. -/
def takenLines (payer : Address) (decimals : Decimals) (symbol : String) (broadcasts : List Broadcast) : List String :=
  broadcasts.flatMap fun broadcast => broadcastLine payer decimals symbol broadcast :: waitLines broadcast

theorem zip_taken {payments : List Payment} {broadcasts : List Broadcast} {others : List Batch.Outcome}
    (same : broadcasts.map Broadcast.payment = payments.take broadcasts.length) :
    payments.zip (broadcasts.map Broadcast.outcome ++ others) =
      broadcasts.map (fun broadcast => (broadcast.payment, broadcast.outcome)) ++
        (payments.drop broadcasts.length).zip others := by
  conv_lhs => rw [← List.take_append_drop broadcasts.length payments, ← same]
  rw [List.zip_append (by simp), List.zip_map']

variable {contract : Address} {order : Batch.Order} {gasPrice : Amount} {waits : Bool} {plan : Plan}
  {report : Batch.Report} {calls : List Rpc.Call} {broadcasts : List Broadcast}

theorem reportLines_eq (payer : Address) (decimals : Decimals) (symbol : String) (units : UnitNames)
    (shown : Shows contract order gasPrice waits plan.payments report.outcomes calls broadcasts) :
    ∃ untaken, reportLines payer decimals symbol plan report units =
        takenLines payer decimals symbol broadcasts ++ untaken ++ [reportLine report units] ∧
      ∀ line ∈ untaken, begins failureMark line := by
  obtain ⟨others, outcomes_eq, untaken⟩ := shown.outcomes_eq
  refine ⟨((plan.payments.drop broadcasts.length).zip others).flatMap fun paid =>
    outcomeLines payer decimals symbol paid.1 paid.2, ?_, ?_⟩
  · -- The taken payments are the first ones, so the outcomes split where the payments do.
    rw [reportLines, outcomes_eq, zip_taken shown.payments_eq, List.flatMap_append, List.flatMap_map]
    simp only [outcomeLines_outcome]
    rfl
  · intro line listed
    obtain ⟨⟨payment, outcome⟩, paired, told⟩ := List.mem_flatMap.mp listed
    exact begins_untaken (untaken outcome (List.of_mem_zip paired).2) told

theorem filter_takenLines :
    (takenLines payer decimals symbol broadcasts).filter (begins broadcastMark) =
      broadcasts.map (broadcastLine payer decimals symbol) := by
  induction broadcasts with
  | nil => rfl
  | cons first rest ih =>
    have plain : (waitLines first).filter (begins broadcastMark) = [] :=
      List.filter_eq_nil_iff.mpr fun line listed => by simp [(isPlain_waitLines listed).1.begins_eq_false]
    rw [takenLines, List.flatMap_cons, List.filter_append, List.filter_cons_of_pos begins_broadcastLine, plain]
    exact congrArg (List.cons _) ih

theorem filter_plain {lines : List String} (plain : ∀ line ∈ lines, IsPlain line) :
    lines.filter (begins broadcastMark) = [] :=
  List.filter_eq_nil_iff.mpr fun line listed => by simp [(plain line listed).1.begins_eq_false]

theorem isApart_takenLines {line : String} (listed : line ∈ takenLines payer decimals symbol broadcasts) :
    IsApart totalMark line := by
  obtain ⟨broadcast, -, told⟩ := List.mem_flatMap.mp listed
  rcases List.mem_cons.mp told with rfl | later
  · exact isApart_broadcastLine
  · exact (isPlain_waitLines later).2

variable {units : UnitNames}

theorem isApart_reportLine : IsApart broadcastMark (reportLine report units) := by
  unfold reportLine
  split
  · exact .append (by decide) _
  · exact .append (.append (.append (.append (by decide) _) _) _) _

theorem begins_reportLine_iff (units : UnitNames) :
    begins totalMark (reportLine report units) ↔ report.isCompleted := by
  unfold reportLine
  split_ifs with completed
  · exact iff_of_true (begins_append (by decide) _) completed
  · have apart : IsApart totalMark (submittedLine report.submitted report.outcomes.length) :=
      .append (.append (.append (.append (by decide) _) _) _) _
    exact iff_of_false (by rw [← submittedLine, apart.begins_eq_false]; decide) completed

theorem reportLine_of_completed (completed : report.isCompleted) :
    reportLine report units = totalMark ++ NativeUnit.major.renderNamed units report.gasTotal :=
  if_pos completed

theorem reportLine_of_stopped (stopped : ¬ report.isCompleted) :
    reportLine report units = submittedLine report.submitted report.outcomes.length :=
  if_neg stopped

def batchLines (payer : Address) (decimals : Decimals) (symbol : String) (plan : Plan) (broadcasts : List Broadcast)
    (untaken : List String) (summary : String) : List String :=
  planLines plan decimals symbol ++ (takenLines payer decimals symbol broadcasts ++ untaken ++ [summary])

section
variable {untaken : List String} (failures : ∀ line ∈ untaken, begins failureMark line)
include failures

theorem filter_batchLines :
    (batchLines payer decimals symbol plan broadcasts untaken (reportLine report units)).filter (begins broadcastMark) =
      broadcasts.map (broadcastLine payer decimals symbol) := by
  have no_summary : [reportLine report units].filter (begins broadcastMark) = [] := by
    rw [List.filter_cons_of_neg (by simp [isApart_reportLine.begins_eq_false]), List.filter_nil]
  rw [batchLines, List.filter_append, List.filter_append, List.filter_append, filter_plain fun _ => isPlain_planLines,
    filter_takenLines, filter_plain fun line listed => isPlain_of_failure (failures line listed), no_summary]
  simp

theorem total_mem_batchLines_iff :
    (∃ line ∈ batchLines payer decimals symbol plan broadcasts untaken (reportLine report units),
      begins totalMark line) ↔ report.isCompleted := by
  rw [← begins_reportLine_iff units]
  constructor
  · rintro ⟨line, listed, starts⟩
    simp only [batchLines, List.mem_append, List.mem_singleton] at listed
    rcases listed with planned | (taken | failed) | rfl
    · rw [(isPlain_planLines planned).2.begins_eq_false] at starts
      cases starts
    · rw [(isApart_takenLines taken).begins_eq_false] at starts
      cases starts
    · rw [(isPlain_of_failure (failures line failed)).2.begins_eq_false] at starts
      cases starts
    · exact starts
  · exact fun starts => ⟨_, by simp [batchLines], starts⟩

end

theorem getLast?_batchLines {untaken : List String} {summary : String} :
    (batchLines payer decimals symbol plan broadcasts untaken summary).getLast? = some summary := by
  rw [batchLines, ← List.append_assoc, List.getLast?_concat]

end TokenDesk.Desk
