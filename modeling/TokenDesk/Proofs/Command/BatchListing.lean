import TokenDesk.Proofs.Address.Hex
import TokenDesk.Proofs.Amount.Rendering
import TokenDesk.Proofs.Batch.Source
import TokenDesk.Proofs.Command.BatchLines

/-! The plan of a batch as it is printed.

Between the question and the counts stands the batch itself. Written to a file, these
lines are a batch again, and it pays the same.
-/

set_option autoImplicit false

namespace TokenDesk

def Payment.order (payment : Payment) : Address × Amount :=
  (payment.destination, payment.amount)

theorem Payment.total_eq_of_orders {payments others : List Payment}
    (same : payments.map order = others.map order) : total payments = total others := by
  have amounts (list : List Payment) : list.map amount = (list.map order).map Prod.snd := by
    rw [List.map_map]
    rfl
  rw [total_eq_sum, total_eq_sum, amounts, amounts, same]

namespace Desk

open Plan (IsPair IsPaymentOf Asks numbered withoutReturn)

def warningMark : String := "Warning: "

def question : String := "Please confirm the transactions below:"

def listed (lines : List String) : List String :=
  ((lines.dropWhile (· ≠ question)).drop 1).dropLast.dropLast

def fileOf (lines : List String) : String :=
  String.ofList (Text.joinWith '\n' (lines.map String.toList))

def renumbered (first : Nat) : List Payment → List Payment
  | [] => []
  | payment :: rest => { payment with line := first } :: renumbered (first + 1) rest

variable {rules : PlanRules} {decimals : Decimals} {plan : Plan} {payments : List Payment} {symbol : String}

theorem toList_paymentLine (decimals : Decimals) (payment : Payment) : (paymentLine decimals payment).toList =
    payment.destination.checksummed.toList ++ ',' :: (Amount.render decimals payment.amount).toList := by
  rw [paymentLine, String.toList_append, String.toList_append, List.append_assoc]
  rfl

theorem not_mem_checksummed (address : Address) {c : Char} (sign : c.isAlphanum = false) :
    c ∉ address.checksummed.toList := by
  intro listed
  rw [Address.isAlphanum_of_parseHex address.parseHex_checksummed c listed] at sign
  cases sign

theorem not_mem_render (amount : Amount) {c : Char} (sign : c.isDigit = false) (pointless : c ≠ '.') :
    c ∉ (Amount.render decimals amount).toList :=
  Amount.not_mem_of_parse (Amount.parse_render decimals amount) sign pointless

theorem not_mem_paymentLine (payment : Payment) {c : Char} (sign : c.isAlphanum = false) (digitless : c.isDigit = false)
    (pointless : c ≠ '.') (apart : c ≠ ',') : c ∉ (paymentLine decimals payment).toList := by
  rw [toList_paymentLine, List.mem_append, List.mem_cons]
  rintro (address | comma | amount)
  · exact not_mem_checksummed _ sign address
  · exact apart comma
  · exact not_mem_render _ digitless pointless amount

theorem asks_paymentLine (rules : PlanRules) (payment : Payment) :
    Asks rules (paymentLine rules.decimals payment).toList payment.destination payment.amount := by
  refine ⟨_, _, ⟨toList_paymentLine _ _, ?_, ?_⟩, ?_, ?_⟩
  · exact not_mem_checksummed _ (by decide)
  · exact not_mem_render _ (by decide) (by decide)
  · rw [String.ofList_toList]
    exact Address.parseDestination_eq_ok_iff.mpr (.inl payment.destination.parseHex_checksummed)
  · rw [String.ofList_toList]
    exact Amount.parse_render _ _

theorem withoutReturn_paymentLine (payment : Payment) :
    withoutReturn (paymentLine decimals payment).toList = (paymentLine decimals payment).toList := by
  have returnless : '\r' ∉ (paymentLine decimals payment).toList :=
    not_mem_paymentLine payment (by decide) (by decide) (by decide) (by decide)
  exact if_neg fun last => returnless (List.mem_of_getLast? last)

theorem isPaymentOf_renumbered (rules : PlanRules) (first : Nat) (payments : List Payment) :
    List.Forall₂ (IsPaymentOf rules)
      (numbered first (payments.map fun payment => (paymentLine rules.decimals payment).toList))
      (renumbered first payments) := by
  induction payments generalizing first with
  | nil => exact .nil
  | cons payment rest ih =>
    -- No line is empty, so none is skipped and the next one has the next number.
    rw [List.map_cons, Plan.numbered_cons, withoutReturn_paymentLine, if_neg (by simp [toList_paymentLine])]
    exact .cons ⟨rfl, asks_paymentLine rules payment⟩ (ih _)

theorem map_order_renumbered (first : Nat) (payments : List Payment) :
    (renumbered first payments).map Payment.order = payments.map Payment.order := by
  induction payments generalizing first with
  | nil => rfl
  | cons payment rest ih => exact congrArg (List.cons _) (ih _)

theorem ofSource_fileOf (moves : Payment.total payments ≠ 0) :
    Plan.ofSource rules (fileOf (payments.map (paymentLine rules.decimals))) =
      .ok ⟨renumbered 1 payments, Plan.warningsOf (renumbered 1 payments)⟩ := by
  have nonempty : payments ≠ [] := by
    rintro rfl
    exact moves rfl
  -- There is no line break in a line, so the file has the lines of the listing and no others.
  have lines : Text.pieces '\n' (fileOf (payments.map (paymentLine rules.decimals))).toList =
      payments.map fun payment => (paymentLine rules.decimals payment).toList := by
    rw [fileOf, String.toList_ofList, List.map_map]
    refine Text.pieces_joinWith (by simpa using nonempty) ?_
    intro line among
    obtain ⟨payment, -, rfl⟩ := List.mem_map.mp among
    exact not_mem_paymentLine payment (by decide) (by decide) (by decide) (by decide)
  have read := Plan.parseLines_eq_ok_iff.mpr (isPaymentOf_renumbered rules 1 payments)
  rw [Plan.ofSource, lines, Plan.ofLines_eq, read]
  refine if_neg ?_
  rwa [Payment.total_eq_of_orders (map_order_renumbered 1 payments)]

theorem begins_message (warning : ZeroAddressWarning) : begins warningMark warning.message :=
  begins_append (begins_append (by decide) _) _

theorem planLines_eq (plan : Plan) (decimals : Decimals) (symbol : String) :
    planLines plan decimals symbol = plan.warnings.map ZeroAddressWarning.message ++
      question :: (plan.payments.map (paymentLine decimals) ++
        ["Number of transactions: " ++ toString plan.payments.length,
          "Total pay amount: " ++ Amount.render decimals plan.total ++ " " ++ symbol]) := by
  simp [planLines, question]

theorem listed_planLines (plan : Plan) (decimals : Decimals) (symbol : String) :
    listed (planLines plan decimals symbol) = plan.payments.map (paymentLine decimals) := by
  have warned : ∀ line ∈ plan.warnings.map ZeroAddressWarning.message, decide (line ≠ question) = true := by
    intro line among
    obtain ⟨warning, -, rfl⟩ := List.mem_map.mp among
    exact decide_eq_true (ne_of_isApart warningMark (begins_message warning) (by decide))
  rw [listed, planLines_eq, List.dropWhile_append_of_pos warned, List.dropWhile_cons_of_neg (by decide),
    List.drop_succ_cons, List.drop_zero, List.append_cons, List.dropLast_concat, List.dropLast_concat]

theorem isApart_of_mem {line : String} (among : line ∈ question :: (payments.map (paymentLine decimals) ++
    ["Number of transactions: " ++ toString payments.length,
      "Total pay amount: " ++ Amount.render decimals (Payment.total payments) ++ " " ++ symbol])) :
    IsApart warningMark line := by
  simp only [List.mem_cons, List.mem_append, List.mem_map, List.not_mem_nil, or_false] at among
  rcases among with rfl | ⟨payment, -, rfl⟩ | rfl | rfl
  · decide
  · obtain ⟨digits, same⟩ := exists_checksummed payment.destination
    rw [paymentLine, same]
    exact .append (.append (.append (by decide) _) _) _
  · exact .append (by decide) _
  · exact .append (.append (.append (by decide) _) _) _

theorem countP_warnings (plan : Plan) (decimals : Decimals) (symbol : String) :
    (planLines plan decimals symbol).countP (begins warningMark) = plan.warnings.length := by
  rw [planLines_eq, List.countP_append, List.countP_map, List.countP_eq_length.mpr, List.countP_eq_zero.mpr]
  · exact Nat.add_zero _
  · intro line among
    rw [(isApart_of_mem among).begins_eq_false]
    decide
  · exact fun warning _ => begins_message warning

theorem getLast?_planLines (plan : Plan) (decimals : Decimals) (symbol : String) :
    (planLines plan decimals symbol).getLast? =
      some ("Total pay amount: " ++ Amount.render decimals plan.total ++ " " ++ symbol) := by
  rw [planLines, List.append_cons, List.getLast?_concat]

theorem length_warnings {lines : List (List Char)} (read : Plan.ofLines rules lines = .ok plan) :
    plan.warnings.length = plan.payments.countP fun payment => payment.destination.isZero := by
  rw [Plan.ofLines_eq] at read
  obtain ⟨payments, -, checked⟩ := bind_eq_ok_iff.mp read
  split_ifs at checked
  cases checked
  rw [Plan.warningsOf, List.length_map, List.countP_eq_length_filter]

/-- What is printed of a plan holds the batch itself, which can be read again from there, and its total. -/
theorem planLines_readable (rules : PlanRules) (symbol : String) (plan : Plan) (moves : plan.total ≠ 0) :
    listed (planLines plan rules.decimals symbol) = plan.payments.map (paymentLine rules.decimals) ∧
    (∃ again, Plan.ofSource rules (fileOf (listed (planLines plan rules.decimals symbol))) = .ok again ∧
      again.payments.map Payment.order = plan.payments.map Payment.order ∧ again.total = plan.total) ∧
    (∃ number,
      (planLines plan rules.decimals symbol).getLast? = some ("Total pay amount: " ++ number ++ " " ++ symbol) ∧
      ' ' ∉ number.toList ∧ Amount.parse rules.decimals number = .ok plan.total) ∧
    ∀ (planner : PlanRules) (lines : List (List Char)), Plan.ofLines planner lines = .ok plan →
      (planLines plan rules.decimals symbol).countP (begins warningMark) =
        plan.payments.countP fun payment => payment.destination.isZero := by
  have listing := listed_planLines plan rules.decimals symbol
  refine ⟨listing, ?_, ?_, ?_⟩
  · have same := map_order_renumbered 1 plan.payments
    exact ⟨_, listing ▸ ofSource_fileOf moves, same, Payment.total_eq_of_orders same⟩
  · exact ⟨_, getLast?_planLines plan rules.decimals symbol, not_mem_render _ (by decide) (by decide),
      Amount.parse_render _ _⟩
  · intro planner lines read
    rw [countP_warnings, length_warnings read]

theorem planLines_readable_zero :
    ∃ (rules : PlanRules) (source : String) (plan : Plan), Plan.ofSource rules source = .ok plan ∧ plan.total = 155 ∧
      (∃ again, Plan.ofSource rules (fileOf (listed (planLines plan rules.decimals "NEW"))) = .ok again ∧
        again.payments.map Payment.order = plan.payments.map Payment.order ∧ again.total = plan.total) ∧
      (planLines plan rules.decimals "NEW").countP (begins warningMark) = 1 := by
  let last : Address := ⟨List.replicate 20 255, List.length_replicate ..⟩
  let rules : PlanRules := { decimals := { places := 2 }, taggedChain := some (.ofNat 1007) }
  let source := "0x0000000000000000000000000000000000000000,1.5\n\n0Xffffffffffffffffffffffffffffffffffffffff,0.05\r"
  let plan : Plan := ⟨[⟨.zero, 150, 1⟩, ⟨last, 5, 3⟩], [⟨1⟩]⟩
  have read : Plan.ofSource rules source = .ok plan := by decide +kernel
  obtain ⟨-, again, -, warned⟩ := planLines_readable rules "NEW" plan (by decide)
  exact ⟨rules, source, plan, read, rfl, again, warned rules _ read⟩

end Desk

end TokenDesk
