import RemoteDom.Selector.Locator
import RemoteDom.Wire.Fields

/-! The written form of locators. -/

namespace RemoteDom.Locator

def toJson (locator : Locator) : Json :=
  .object [("strategy", .string locator.strategy.wireName), ("value", .string locator.value)]

def ofJson? : Json → Option Locator := Wire.record do
  let strategy ← Wire.requiredChoice "strategy" Strategy.ofWireName?
  let value ← Wire.required "value" Wire.string
  return ⟨strategy, value⟩

theorem ofJson?_toJson (locator : Locator) : ofJson? locator.toJson = some locator := by
  obtain ⟨strategy, value⟩ := locator
  cases strategy <;> rfl

end RemoteDom.Locator
