import Dunning.Rule.Basic

/-!
# Rule/Standard — the rules that apply where no others are given

Thirteen tiers of balance and arrears. Within a tier of balance the longer arrears come first, and
the last rule holds of every account.
-/

namespace Dunning.RuleSet

/-- A balance above this. -/
def balanceOver (value : Float) : Threshold := ⟨.greaterThan, .balance, value⟩

/-- More days in arrears than this. -/
def daysOver (value : Float) : Threshold := ⟨.greaterThan, .daysInArrears, value⟩

/-- A balance of at most this. -/
def balanceUpTo (value : Float) : Threshold := ⟨.atMost, .balance, value⟩

/-- The standard rules. -/
def standard : RuleSet := ⟨[
  ⟨"rule_001", "High Value Critical", [balanceOver 500000, daysOver 60], 1,
    "Urgent Legal Review"⟩,
  ⟨"rule_002", "High Value Severe", [balanceOver 500000, daysOver 30], 1,
    "Senior Collector Call"⟩,
  ⟨"rule_003", "High Value Early", [balanceOver 500000], 1, "Priority Phone Call"⟩,
  ⟨"rule_004", "Medium Value Critical", [balanceOver 100000, daysOver 90], 1, "Legal Review"⟩,
  ⟨"rule_005", "Medium Value Severe", [balanceOver 100000, daysOver 60], 2,
    "Urgent Phone Call"⟩,
  ⟨"rule_006", "Medium Value Moderate", [balanceOver 100000, daysOver 30], 2,
    "Phone Call - High Priority"⟩,
  ⟨"rule_007", "Medium Value Early", [balanceOver 100000], 3, "Phone Call"⟩,
  ⟨"rule_008", "Low Value Critical", [balanceOver 10000, daysOver 120], 2,
    "Final Notice Letter"⟩,
  ⟨"rule_009", "Low Value Severe", [balanceOver 10000, daysOver 90], 3, "Phone Call"⟩,
  ⟨"rule_010", "Low Value Moderate", [balanceOver 10000, daysOver 60], 3, "Email Follow-up"⟩,
  ⟨"rule_011", "Low Value Early", [balanceOver 10000, daysOver 30], 4, "Email Reminder"⟩,
  ⟨"rule_012", "Very Low Value", [balanceUpTo 10000, daysOver 90], 4, "SMS Reminder"⟩,
  ⟨"rule_013", "Default Action", [], 5, "Review Required"⟩]⟩

end Dunning.RuleSet
