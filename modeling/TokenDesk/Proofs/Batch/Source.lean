import Mathlib.Data.List.Sort
import TokenDesk.Batch.Plan
import TokenDesk.Proofs.Address.Tagged
import TokenDesk.Proofs.Results

/-! What a batch file asks for.

The lines that count are those with something on them, each under its number in the
file. If all of them are payments, the file is the plan of these payments in their
order; otherwise the first that is not one says why there is no plan.
-/

set_option autoImplicit false

namespace TokenDesk

structure Text.IsCut (separator : Char) (text : List Char) (parts : List (List Char)) : Prop where
  nonempty : parts ≠ []
  joined : Text.joinWith separator parts = text
  apart : ∀ part ∈ parts, separator ∉ part

theorem Text.pieces_eq_iff {separator : Char} {text : List Char} {parts : List (List Char)} :
    Text.pieces separator text = parts ↔ Text.IsCut separator text parts := by
  constructor
  · rintro rfl
    exact ⟨pieces_ne_nil separator text, joinWith_pieces separator text, fun _ => not_mem_of_mem_pieces⟩
  · rintro ⟨nonempty, rfl, apart⟩
    exact pieces_joinWith nonempty apart

theorem Payment.total_eq_sum (payments : List Payment) :
    Payment.total payments = (payments.map Payment.amount).sum := by
  induction payments with
  | nil => rfl
  | cons payment rest ih => rw [total_cons, ih, List.map_cons, List.sum_cons]

namespace Plan

/-- The lines with something on them once a carriage return at the end is gone, each with its number. -/
def numbered (first : Nat) (lines : List (List Char)) : List (List Char × Nat) :=
  ((lines.map withoutReturn).zipIdx first).filter fun line => !line.1.isEmpty

def IsPair (text addressField amountField : List Char) : Prop :=
  text = addressField ++ ',' :: amountField ∧ ',' ∉ addressField ∧ ',' ∉ amountField

/-- The line asks for a payment of this amount to this destination. -/
def Asks (rules : PlanRules) (text : List Char) (destination : Address) (amount : Amount) : Prop :=
  ∃ addressField amountField, IsPair text addressField amountField ∧
    Address.parseDestination rules.taggedChain (String.ofList addressField) = .ok destination ∧
    Amount.parse rules.decimals (String.ofList amountField) = .ok amount

/-- The payment is the one that the line asks for, under the number of the line. -/
def IsPaymentOf (rules : PlanRules) (line : List Char × Nat) (payment : Payment) : Prop :=
  payment.line = line.2 ∧ Asks rules line.1 payment.destination payment.amount

/-- What is wrong with a line. An amount is looked at only behind a good address. -/
inductive LineFault (rules : PlanRules) (text : List Char) (number : Nat) : PlanError → Prop where
  | malformed : (¬ ∃ addressField amountField, IsPair text addressField amountField) →
      LineFault rules text number (.malformedLine number (String.ofList text))
  | address {addressField amountField : List Char} {cause : AddressError} :
      IsPair text addressField amountField →
      Address.parseDestination rules.taggedChain (String.ofList addressField) = .error cause →
      LineFault rules text number (.invalidAddress number (String.ofList text) cause)
  | amount {addressField amountField : List Char} {destination : Address} {cause : AmountError} :
      IsPair text addressField amountField →
      Address.parseDestination rules.taggedChain (String.ofList addressField) = .ok destination →
      Amount.parse rules.decimals (String.ofList amountField) = .error cause →
      LineFault rules text number (.invalidAmount number (String.ofList text) cause)

/-- The plan holds what the lines ask for and warns of the payments to the zero address. -/
structure IsPlanOf (rules : PlanRules) (lines : List (List Char × Nat)) (plan : Plan) : Prop where
  payments : List.Forall₂ (IsPaymentOf rules) lines plan.payments
  total : plan.total = (plan.payments.map Payment.amount).sum
  total_ne_zero : plan.total ≠ 0
  warned : ∀ number, number ∈ plan.warnings.map ZeroAddressWarning.line ↔
    ∃ text amount, (text, number) ∈ lines ∧ Asks rules text .zero amount
  warned_in_order : (plan.warnings.map ZeroAddressWarning.line).Pairwise (· < ·)

/-- Why the lines are no plan. Only the first bad line is told of. -/
inductive IsFaultOf (rules : PlanRules) (lines : List (List Char × Nat)) : PlanError → Prop where
  | line {before after : List (List Char × Nat)} {text : List Char} {number : Nat} {error : PlanError} :
      lines = before ++ (text, number) :: after →
      (∀ line ∈ before, ∃ destination amount, Asks rules line.1 destination amount) →
      LineFault rules text number error → IsFaultOf rules lines error
  | nothing {payments : List Payment} : List.Forall₂ (IsPaymentOf rules) lines payments →
      (payments.map Payment.amount).sum = 0 → IsFaultOf rules lines .emptyOrZero

variable {rules : PlanRules} {text : List Char} {number : Nat} {lines : List (List Char × Nat)}

theorem pieces_eq_pair_iff {addressField amountField : List Char} :
    Text.pieces ',' text = [addressField, amountField] ↔ IsPair text addressField amountField := by
  rw [Text.pieces_eq_iff]
  constructor
  · rintro ⟨-, rfl, apart⟩
    exact ⟨rfl, apart _ (by simp), apart _ (by simp)⟩
  · rintro ⟨rfl, address, amount⟩
    exact ⟨by simp, rfl, by simp [address, amount]⟩

theorem pair_unique {addressField amountField addressField' amountField' : List Char}
    (pair : IsPair text addressField amountField) (pair' : IsPair text addressField' amountField') :
    addressField = addressField' ∧ amountField = amountField' := by
  have same := pieces_eq_pair_iff.mpr pair
  rw [pieces_eq_pair_iff.mpr pair'] at same
  cases same
  exact ⟨rfl, rfl⟩

theorem parseLine_of_isPair {addressField amountField : List Char} (pair : IsPair text addressField amountField) :
    parseLine rules number text = (do
      let destination ← (Address.parseDestination rules.taggedChain (String.ofList addressField)).mapError
        (.invalidAddress number (String.ofList text))
      let amount ← (Amount.parse rules.decimals (String.ofList amountField)).mapError
        (.invalidAmount number (String.ofList text))
      return { destination, amount, line := number }) := by
  rw [parseLine, pieces_eq_pair_iff.mpr pair]

theorem parseLine_of_not_isPair (unpaired : ¬ ∃ addressField amountField, IsPair text addressField amountField) :
    parseLine rules number text = .error (.malformedLine number (String.ofList text)) := by
  unfold parseLine
  split
  next addressField amountField pieces =>
    exact absurd ⟨addressField, amountField, pieces_eq_pair_iff.mp pieces⟩ unpaired
  · rfl

theorem parseLine_eq_ok_iff {payment : Payment} :
    parseLine rules number text = .ok payment ↔ IsPaymentOf rules (text, number) payment := by
  by_cases paired : ∃ addressField amountField, IsPair text addressField amountField
  · obtain ⟨addressField, amountField, pair⟩ := paired
    rw [parseLine_of_isPair pair, bind_eq_ok_iff]
    constructor
    · rintro ⟨destination, addressed, rest⟩
      obtain ⟨amount, counted, ⟨rfl⟩⟩ := bind_eq_ok_iff.mp rest
      exact ⟨rfl, addressField, amountField, pair, mapError_eq_ok_iff.mp addressed, mapError_eq_ok_iff.mp counted⟩
    · rintro ⟨rfl, addressField', amountField', pair', addressed, counted⟩
      obtain ⟨rfl, rfl⟩ := pair_unique pair pair'
      exact ⟨payment.destination, mapError_eq_ok_iff.mpr addressed,
        bind_eq_ok_iff.mpr ⟨payment.amount, mapError_eq_ok_iff.mpr counted, rfl⟩⟩
  · rw [parseLine_of_not_isPair paired]
    constructor
    · intro impossible
      cases impossible
    · rintro ⟨-, addressField, amountField, pair, -⟩
      exact absurd ⟨addressField, amountField, pair⟩ paired

theorem parseLine_eq_error_iff {error : PlanError} :
    parseLine rules number text = .error error ↔ LineFault rules text number error := by
  constructor
  · intro failed
    by_cases paired : ∃ addressField amountField, IsPair text addressField amountField
    -- The address is read first, so an amount is faulty only behind an address that is not.
    · obtain ⟨addressField, amountField, pair⟩ := paired
      rw [parseLine_of_isPair pair, bind_eq_error_iff] at failed
      rcases failed with unaddressed | ⟨destination, addressed, rest⟩
      · obtain ⟨cause, refused, rfl⟩ := mapError_eq_error_iff.mp unaddressed
        exact .address pair refused
      · rcases bind_eq_error_iff.mp rest with uncounted | ⟨amount, counted, impossible⟩
        · obtain ⟨cause, refused, rfl⟩ := mapError_eq_error_iff.mp uncounted
          exact .amount pair (mapError_eq_ok_iff.mp addressed) refused
        · cases impossible
    · rw [parseLine_of_not_isPair paired] at failed
      cases failed
      exact .malformed paired
  · intro fault
    cases fault with
    | malformed unpaired => exact parseLine_of_not_isPair unpaired
    | address pair refused =>
      rw [parseLine_of_isPair pair, bind_eq_error_iff]
      exact .inl (mapError_eq_error_iff.mpr ⟨_, refused, rfl⟩)
    | amount pair addressed refused =>
      rw [parseLine_of_isPair pair, bind_eq_error_iff]
      refine .inr ⟨_, mapError_eq_ok_iff.mpr addressed, bind_eq_error_iff.mpr (.inl ?_)⟩
      exact mapError_eq_error_iff.mpr ⟨_, refused, rfl⟩

theorem asks_iff : (∃ destination amount, Asks rules text destination amount) ↔
    ∃ payment, parseLine rules number text = .ok payment := by
  simp only [parseLine_eq_ok_iff]
  constructor
  · rintro ⟨destination, amount, asks⟩
    exact ⟨⟨destination, amount, number⟩, rfl, asks⟩
  · rintro ⟨payment, -, asks⟩
    exact ⟨_, _, asks⟩

theorem Asks.unique {destination destination' : Address} {amount amount' : Amount}
    (asks : Asks rules text destination amount) (asks' : Asks rules text destination' amount') :
    destination = destination' ∧ amount = amount' := by
  have read : parseLine rules 0 text = .ok ⟨destination, amount, 0⟩ := parseLine_eq_ok_iff.mpr ⟨rfl, asks⟩
  have read' : parseLine rules 0 text = .ok ⟨destination', amount', 0⟩ := parseLine_eq_ok_iff.mpr ⟨rfl, asks'⟩
  cases read.symm.trans read'
  exact ⟨rfl, rfl⟩

/-! All lines. -/

theorem numbered_cons (first : Nat) (line : List Char) (rest : List (List Char)) :
    numbered first (line :: rest) =
      if withoutReturn line = [] then numbered (first + 1) rest
      else (withoutReturn line, first) :: numbered (first + 1) rest := by
  rw [numbered, List.map_cons, List.zipIdx_cons, List.filter_cons]
  by_cases empty : withoutReturn line = []
  · simp [empty, numbered]
  · simp [empty, numbered]

theorem parseLines_eq_mapM (rules : PlanRules) (first : Nat) (lines : List (List Char)) :
    parseLines rules first lines = (numbered first lines).mapM fun line => parseLine rules line.2 line.1 := by
  induction lines generalizing first with
  | nil => rfl
  | cons line rest ih =>
    rw [parseLines, numbered_cons]
    cases withoutReturn line with
    | nil =>
      rw [if_pos rfl]
      exact ih (first + 1)
    | cons c more =>
      rw [if_neg (List.cons_ne_nil c more), List.mapM_cons, ih]

theorem parseLines_eq_ok_iff {first : Nat} {lines : List (List Char)} {payments : List Payment} :
    parseLines rules first lines = .ok payments ↔
      List.Forall₂ (IsPaymentOf rules) (numbered first lines) payments := by
  rw [parseLines_eq_mapM, mapM_eq_ok_iff]
  simp only [parseLine_eq_ok_iff, Prod.mk.eta]

theorem pairwise_numbered (first : Nat) (lines : List (List Char)) :
    ((numbered first lines).map Prod.snd).Pairwise (· < ·) := by
  have all : (((lines.map withoutReturn).zipIdx first).map Prod.snd).Pairwise (· < ·) := by
    rw [List.zipIdx_map_snd]
    exact List.pairwise_lt_range'
  exact all.sublist (List.filter_sublist.map Prod.snd)

theorem lines_of_payments {payments : List Payment} (asked : List.Forall₂ (IsPaymentOf rules) lines payments) :
    payments.map Payment.line = lines.map Prod.snd := by
  induction asked with
  | nil => rfl
  | cons here _ ih => rw [List.map_cons, List.map_cons, here.1, ih]

theorem asks_of_payments {payments : List Payment} (asked : List.Forall₂ (IsPaymentOf rules) lines payments)
    {line : List Char × Nat} (listed : line ∈ lines) : ∃ destination amount, Asks rules line.1 destination amount := by
  obtain ⟨payment, -, -, asks⟩ := exists_of_forall₂ asked listed
  exact ⟨_, _, asks⟩

theorem warningsOf_cons (payment : Payment) (rest : List Payment) :
    (warningsOf (payment :: rest)).map ZeroAddressWarning.line =
      if payment.destination = .zero then payment.line :: (warningsOf rest).map ZeroAddressWarning.line
      else (warningsOf rest).map ZeroAddressWarning.line := by
  by_cases zero : payment.destination = .zero
  · simp [warningsOf, Address.isZero, zero]
  · simp [warningsOf, Address.isZero, zero]

theorem mem_warningsOf_iff {payments : List Payment} (asked : List.Forall₂ (IsPaymentOf rules) lines payments) :
    number ∈ (warningsOf payments).map ZeroAddressWarning.line ↔
      ∃ text amount, (text, number) ∈ lines ∧ Asks rules text .zero amount := by
  induction asked with
  | nil => simp [warningsOf]
  | @cons line payment rest others here _ ih =>
    obtain ⟨numbering, asks⟩ := here
    rw [warningsOf_cons]
    constructor
    · intro listed
      by_cases zero : payment.destination = .zero
      · rw [if_pos zero] at listed
        rcases List.mem_cons.mp listed with first | later
        · exact ⟨line.1, payment.amount, by simp [first, numbering], zero ▸ asks⟩
        · obtain ⟨text, amount, among, asks⟩ := ih.mp later
          exact ⟨text, amount, List.mem_cons_of_mem _ among, asks⟩
      · rw [if_neg zero] at listed
        obtain ⟨text, amount, among, asks⟩ := ih.mp listed
        exact ⟨text, amount, List.mem_cons_of_mem _ among, asks⟩
    · rintro ⟨text, amount, among, asks_zero⟩
      rcases List.mem_cons.mp among with rfl | later
      -- A line asks for one payment, so this one goes to the zero address.
      · obtain ⟨zero, -⟩ := asks.unique asks_zero
        rw [if_pos zero, numbering]
        exact List.mem_cons_self
      · have listed := ih.mpr ⟨text, amount, later, asks_zero⟩
        split
        · exact List.mem_cons_of_mem _ listed
        · exact listed

theorem pairwise_warningsOf {first : Nat} {source : List (List Char)} {payments : List Payment}
    (asked : List.Forall₂ (IsPaymentOf rules) (numbered first source) payments) :
    ((warningsOf payments).map ZeroAddressWarning.line).Pairwise (· < ·) := by
  have increasing : (payments.map Payment.line).Pairwise (· < ·) := by
    rw [lines_of_payments asked]
    exact pairwise_numbered first source
  have some_lines : (warningsOf payments).map ZeroAddressWarning.line =
      (payments.filter fun payment => payment.destination.isZero).map Payment.line := by
    rw [warningsOf, List.map_map]
    rfl
  rw [some_lines]
  exact increasing.sublist (List.filter_sublist.map Payment.line)

theorem ofLines_eq (rules : PlanRules) (source : List (List Char)) :
    ofLines rules source = parseLines rules 1 source >>= fun payments =>
      if Payment.total payments = 0 then .error .emptyOrZero else .ok ⟨payments, warningsOf payments⟩ := by
  rfl

theorem ofLines_eq_ok_iff {source : List (List Char)} {plan : Plan} :
    ofLines rules source = .ok plan ↔ IsPlanOf rules (numbered 1 source) plan := by
  rw [ofLines_eq, bind_eq_ok_iff]
  constructor
  · rintro ⟨payments, read, checked⟩
    have asked := parseLines_eq_ok_iff.mp read
    by_cases nothing : Payment.total payments = 0
    · rw [if_pos nothing] at checked
      cases checked
    · rw [if_neg nothing] at checked
      cases checked
      exact ⟨asked, Payment.total_eq_sum payments, nothing, fun number => mem_warningsOf_iff asked,
        pairwise_warningsOf asked⟩
  · rintro ⟨asked, -, moves, warned, warned_in_order⟩
    obtain ⟨payments, warnings⟩ := plan
    refine ⟨payments, parseLines_eq_ok_iff.mpr asked, ?_⟩
    -- Lists in increasing order with the same members are the same list.
    have same_lines : (warningsOf payments).map ZeroAddressWarning.line = warnings.map ZeroAddressWarning.line :=
      (pairwise_warningsOf asked).eq_of_mem_iff warned_in_order fun number =>
        (mem_warningsOf_iff asked).trans (warned number).symm
    have same : warningsOf payments = warnings := by
      refine List.map_injective_iff.mpr ?_ same_lines
      rintro ⟨line⟩ ⟨other⟩ rfl
      rfl
    have total_ne_zero : Payment.total payments ≠ 0 := moves
    rw [if_neg total_ne_zero, same]

theorem ofLines_eq_error_iff {source : List (List Char)} {error : PlanError} :
    ofLines rules source = .error error ↔ IsFaultOf rules (numbered 1 source) error := by
  rw [ofLines_eq, bind_eq_error_iff]
  constructor
  · rintro (failed | ⟨payments, read, checked⟩)
    · rw [parseLines_eq_mapM, mapM_eq_error_iff] at failed
      obtain ⟨before, line, after, split, earlier, failed⟩ := failed
      exact .line split (fun good listed => asks_iff.mpr (earlier good listed)) (parseLine_eq_error_iff.mp failed)
    · by_cases nothing : Payment.total payments = 0
      · rw [if_pos nothing] at checked
        cases checked
        exact .nothing (parseLines_eq_ok_iff.mp read) (by rw [← Payment.total_eq_sum, nothing])
      · rw [if_neg nothing] at checked
        cases checked
  · rintro (⟨split, earlier, fault⟩ | ⟨asked, nothing⟩)
    · rw [parseLines_eq_mapM, mapM_eq_error_iff]
      exact .inl ⟨_, _, _, split, fun good listed => asks_iff.mp (earlier good listed),
        parseLine_eq_error_iff.mpr fault⟩
    · refine .inr ⟨_, parseLines_eq_ok_iff.mpr asked, ?_⟩
      rw [if_pos (by rw [Payment.total_eq_sum, nothing])]

theorem exists_plan_iff {source : List (List Char)} :
    (∃ plan, ofLines rules source = .ok plan) ↔
      (∀ line ∈ numbered 1 source, ∃ destination amount, Asks rules line.1 destination amount) ∧
        ∀ payments, List.Forall₂ (IsPaymentOf rules) (numbered 1 source) payments →
          (payments.map Payment.amount).sum ≠ 0 := by
  constructor
  · rintro ⟨plan, read⟩
    obtain ⟨asked, total, moves, -, -⟩ := ofLines_eq_ok_iff.mp read
    refine ⟨fun line listed => asks_of_payments asked listed, fun payments asked' => ?_⟩
    have same := parseLines_eq_ok_iff.mpr asked'
    rw [parseLines_eq_ok_iff.mpr asked] at same
    rwa [← Except.ok.inj same, ← total]
  · rintro ⟨good, moves⟩
    cases read : ofLines rules source with
    | ok plan => exact ⟨plan, rfl⟩
    | error error =>
      cases ofLines_eq_error_iff.mp read with
      | @line before after text number _ split _ fault =>
        have listed : (text, number) ∈ numbered 1 source := by simp [split]
        obtain ⟨payment, parsed⟩ := asks_iff.mp (good _ listed)
        cases parsed.symm.trans (parseLine_eq_error_iff.mpr fault)
      | nothing asked zero => exact absurd zero (moves _ asked)

/-- A file is a plan exactly if each line with something on it asks for a payment and the amounts do not
add up to zero. The plan is then what the lines ask for; if there is none, the first bad line or else the
missing amount is why. -/
theorem ofSource_exact (rules : PlanRules) (source : String) :
    ∃ lines, Text.IsCut '\n' source.toList lines ∧
      ((∃ plan, ofSource rules source = .ok plan) ↔
        (∀ line ∈ numbered 1 lines, ∃ destination amount, Asks rules line.1 destination amount) ∧
          ∀ payments, List.Forall₂ (IsPaymentOf rules) (numbered 1 lines) payments →
            (payments.map Payment.amount).sum ≠ 0) ∧
      (∀ plan, ofSource rules source = .ok plan ↔ IsPlanOf rules (numbered 1 lines) plan) ∧
      (∀ error, ofSource rules source = .error error ↔ IsFaultOf rules (numbered 1 lines) error) ∧
      ∀ text address, Address.parseDestination rules.taggedChain text = .ok address ↔
        Address.parseHex text = .ok address ∨
          ∃ chain, rules.taggedChain = some chain ∧ text = address.tagged chain :=
  ⟨Text.pieces '\n' source.toList, Text.pieces_eq_iff.mp rfl, exists_plan_iff, fun _ => ofLines_eq_ok_iff,
    fun _ => ofLines_eq_error_iff, fun _ _ => Address.parseDestination_eq_ok_iff⟩

end Plan

end TokenDesk
