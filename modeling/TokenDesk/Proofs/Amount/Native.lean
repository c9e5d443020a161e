import TokenDesk.Command.Accounts
import TokenDesk.Proofs.Amount.Rendering

/-! Reading back what is shown of a chain's own currency.

A shown amount is a number, one space and the name of a unit. The name tells the unit, and
under the decimals of this unit the number is exactly the amount. So nothing is lost, neither
where the unit is chosen by the amount nor where amounts shown in several units are summed up.
-/

set_option autoImplicit false

namespace TokenDesk

open NativeUnit (forSummary renderIn)

namespace UnitNames

/-- Names that are told from each other and end at no space. -/
structure AreApart (names : UnitNames) : Prop where
  differ : names.major ≠ names.minor
  unspaced : ∀ unit, ' ' ∉ (names.name unit).toList

/-- The decimals under which a number before the name is read: all eighteen in the major unit, none in the minor one. -/
def decimalsOf? (names : UnitNames) (name : String) : Option Decimals :=
  if name = names.major then some .widest
  else if name = names.minor then some .zero
  else none

/-- The amount that a text shows, which has one space. -/
def read? (names : UnitNames) (text : String) : Option Amount :=
  match Text.pieces ' ' text.toList with
  | [number, name] => do
    let decimals ← names.decimalsOf? (String.ofList name)
    (Amount.parse decimals (String.ofList number)).toOption
  | _ => none

/-- The only space of the text is that between a number and the name of the unit, and the number is the amount. -/
structure Shows (names : UnitNames) (text : String) (unit : NativeUnit) (amount : Amount) : Prop where
  spaces : text.toList.count ' ' = 1
  parts : ∃ number decimals, text = number ++ " " ++ names.name unit ∧
    names.decimalsOf? (names.name unit) = some decimals ∧ Amount.parse decimals number = .ok amount

variable {names : UnitNames} {text : String} {unit : NativeUnit} {amount : Amount}

theorem decimalsOf?_name (apart : names.AreApart) (unit : NativeUnit) :
    names.decimalsOf? (names.name unit) = some unit.decimals := by
  cases unit with
  | major => exact if_pos rfl
  | minor =>
    rw [decimalsOf?, if_neg]
    · exact if_pos rfl
    · exact apart.differ.symm

theorem Shows.read?_eq (shows : names.Shows text unit amount) : names.read? text = some amount := by
  obtain ⟨number, decimals, rfl, named, read⟩ := shows.parts
  have spaces := shows.spaces
  have unspaced : ' ' ∉ number.toList ∧ ' ' ∉ (names.name unit).toList := by
    -- The space between the two is the one that there is.
    rw [← List.count_eq_zero, ← List.count_eq_zero]
    simp at spaces
    omega
  have cut : Text.pieces ' ' (number ++ " " ++ names.name unit).toList =
      [number.toList, (names.name unit).toList] := by
    simp [Text.pieces_append unspaced.1, Text.pieces_of_not_mem unspaced.2]
  rw [read?, cut]
  simp [named, read, Except.toOption]

theorem shows_renderNamed (apart : names.AreApart) (unit : NativeUnit) (amount : Amount) :
    names.Shows (unit.renderNamed names amount) unit amount where
  spaces := by
    have read := Amount.parse_render unit.decimals amount
    have number : ' ' ∉ (unit.render amount).toList := Amount.not_mem_of_parse read (by decide) (by decide)
    simp [NativeUnit.renderNamed, List.count_eq_zero.mpr number, List.count_eq_zero.mpr (apart.unspaced unit)]
  parts := ⟨unit.render amount, unit.decimals, rfl, decimalsOf?_name apart unit,
    Amount.parse_render unit.decimals amount⟩

end UnitNames

namespace NativeUnit

variable {names : UnitNames} {amount : Amount}

theorem forSummary_eq_minor_iff : forSummary amount = .minor ↔ amount < 10 ^ 18 := by
  rw [forSummary, Amount.digitCount, ← Amount.length_digits_le_iff (by decide)]
  split <;> simp_all

theorem renderIn_eq (names : UnitNames) (amount : Amount) (unit? : Option NativeUnit) :
    renderIn names amount unit? = (unit?.getD (forSummary amount)).renderNamed names amount := by
  cases unit? <;> rfl

theorem read?_renderIn (apart : names.AreApart) (amount : Amount) (unit? : Option NativeUnit) :
    names.read? (renderIn names amount unit?) = some amount := by
  rw [renderIn_eq]
  exact (UnitNames.shows_renderNamed apart _ amount).read?_eq

theorem mapM_read?_renderIn (apart : names.AreApart) (shown : List (Amount × Option NativeUnit)) :
    (shown.map fun balance => renderIn names balance.1 balance.2).mapM names.read? = some (shown.map Prod.fst) := by
  induction shown with
  | nil => rfl
  | cons balance rest ih => simp [List.mapM_cons, read?_renderIn apart, ih]

end NativeUnit

theorem Blockchain.areApart_units (chain : Blockchain) : chain.units.AreApart := by
  cases chain with
  | ethereum => exact ⟨by decide, fun unit => by cases unit <;> decide⟩
  | newChain => exact ⟨by decide, fun unit => by cases unit <;> decide⟩

/-- Whatever amount is shown, in the unit that is chosen for it or in a fixed one, its text is read as this amount. So
different amounts have different texts, and a total shows what the single texts show together, in whatever units. -/
theorem UnitNames.renderIn_lossless (names : UnitNames) (apart : names.AreApart) :
    (∀ amount unit?, ∃ unit, names.Shows (renderIn names amount unit?) unit amount ∧
      (∀ fixed, unit? = some fixed → unit = fixed) ∧ (unit? = none → (unit = .minor ↔ amount < 10 ^ 18))) ∧
    (∀ amount unit?, names.read? (renderIn names amount unit?) = some amount) ∧
    (∀ amount amount' unit? unit?', renderIn names amount unit? = renderIn names amount' unit?' → amount = amount') ∧
    ∀ (shown : List (Amount × Option NativeUnit)) (unit? : Option NativeUnit), ∃ count total,
      Desk.totalLines names unit? (shown.map Prod.fst) = [count, "Total Balance: " ++ total] ∧
      names.read? total = some (shown.map Prod.fst).sum ∧
      ((shown.map fun balance => renderIn names balance.1 balance.2).mapM names.read?).map List.sum =
        names.read? total := by
  refine ⟨?_, NativeUnit.read?_renderIn apart, ?_, ?_⟩
  · intro amount unit?
    refine ⟨unit?.getD (forSummary amount), ?_, ?_, ?_⟩
    · rw [NativeUnit.renderIn_eq]
      exact shows_renderNamed apart _ amount
    · rintro fixed rfl
      rfl
    · rintro rfl
      exact NativeUnit.forSummary_eq_minor_iff
  -- Both amounts are what the one text is read as.
  · intro amount amount' unit? unit?' same
    have read := NativeUnit.read?_renderIn apart amount unit?
    rw [same, NativeUnit.read?_renderIn apart] at read
    exact (Option.some.inj read).symm
  · intro shown unit?
    have summed : (shown.map Prod.fst).foldl (· + ·) 0 = (shown.map Prod.fst).sum := List.sum_eq_foldl.symm
    have read := NativeUnit.read?_renderIn apart (shown.map Prod.fst).sum unit?
    refine ⟨_, _, rfl, ?_, ?_⟩
    · rw [summed]
      exact read
    · rw [summed, read, NativeUnit.mapM_read?_renderIn apart]
      rfl

/-- On both sides of eighteen digits: two balances in the minor unit, whose sum is shown in the major one. -/
theorem UnitNames.renderIn_lossless_boundary :
    Blockchain.ethereum.units.AreApart ∧
    renderIn Blockchain.ethereum.units (10 ^ 18 - 1) none = "999999999999999999 WEI" ∧
    renderIn Blockchain.ethereum.units (10 ^ 18) none = "1 ETH" ∧
    Blockchain.ethereum.units.read? "999999999999999999 WEI" = some (10 ^ 18 - 1) ∧
    Blockchain.ethereum.units.read? "1 ETH" = some (10 ^ 18) ∧
    ∃ count total,
      Desk.totalLines Blockchain.ethereum.units none [10 ^ 18 - 1, 1] = [count, "Total Balance: " ++ total] ∧
      Blockchain.ethereum.units.read? total = some (10 ^ 18) := by
  have apart := Blockchain.areApart_units .ethereum
  have minor : renderIn Blockchain.ethereum.units (10 ^ 18 - 1) none = "999999999999999999 WEI" := by decide
  have major : renderIn Blockchain.ethereum.units (10 ^ 18) none = "1 ETH" := by decide
  obtain ⟨-, read, -, summed⟩ := renderIn_lossless Blockchain.ethereum.units apart
  obtain ⟨count, total, lines, shown, -⟩ := summed [(10 ^ 18 - 1, none), (1, none)] none
  exact ⟨apart, minor, major, minor ▸ read (10 ^ 18 - 1) none, major ▸ read (10 ^ 18) none, count, total, lines, shown⟩

end TokenDesk
