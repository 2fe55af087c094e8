import Dunning.Rule.Standard

/-!
# Proofs/Rule/Totality — rules that leave no account to the default

Of an account with no figures no threshold holds, so it comes to a rule just if that rule has no
thresholds, and such a rule takes every other account as well:

    rules      r₁  ⋯  rₖ  ⋯  rₙ
    blank           ▲               rₖ without thresholds: total, wherever it stands

Hence rules are total just if one of them is a catch-all (`RuleSet.total_iff`).  `hasCatchAll` asks
this of the last rule alone.  What it affirms is so, but it misses a catch-all with rules behind it
that have thresholds (`RuleSet.hasCatchAll_iff_total_iff`).
-/

namespace Dunning

variable {rs : RuleSet} {r : Rule} {a : Account}

/-! ## One rule -/

/-- No threshold holds of an account of which nothing is known. -/
theorem Threshold.holds_blank (t : Threshold) : t.holds .blank = false := by
  cases hm : t.metric <;> simp only [holds, hm, Metric.read, Account.blank]

namespace Rule

/-- A rule without thresholds holds of every account. -/
theorem holds_of_isCatchAll (h : r.isCatchAll = true) (a : Account) : r.holds a = true := by
  rw [isCatchAll, List.isEmpty_iff] at h
  rw [holds, h]
  rfl

/-- A blank account tells the rules without thresholds from the others. -/
theorem holds_blank (r : Rule) : r.holds .blank = r.isCatchAll := by
  rw [holds, isCatchAll]
  cases r.conditions with
  | nil => rfl
  | cons t ts => rw [List.all_cons, t.holds_blank, Bool.false_and, List.isEmpty_cons]

end Rule

/-! ## All rules -/

namespace RuleSet

/-- Some rule holds of every account. -/
def Total (rs : RuleSet) : Prop :=
  ∀ a : Account, ∃ r ∈ rs.rules, r.holds a = true

/-- An account is left to the default just if no rule holds of it. -/
theorem ruleId_ne_none_iff :
    (rs.classify a).ruleId ≠ none ↔ ∃ r ∈ rs.rules, r.holds a = true := by
  rw [classify, ← List.find?_isSome, ← firstMatch?]
  cases rs.firstMatch? a <;> simp

theorem total_iff_ruleId : rs.Total ↔ ∀ a, (rs.classify a).ruleId ≠ none :=
  forall_congr' fun _ => ruleId_ne_none_iff.symm

/-- **Rules are total just if one of them is a catch-all**, wherever it stands. -/
theorem total_iff : rs.Total ↔ ∃ r ∈ rs.rules, r.isCatchAll = true := by
  constructor
  · intro h
    obtain ⟨r, hr, hblank⟩ := h .blank
    exact ⟨r, hr, r.holds_blank ▸ hblank⟩
  · rintro ⟨r, hr, hcatch⟩ a
    exact ⟨r, hr, Rule.holds_of_isCatchAll hcatch a⟩

/-- The check looks at the last rule. -/
theorem hasCatchAll_iff :
    rs.hasCatchAll = true ↔ ∃ r, rs.rules.getLast? = some r ∧ r.isCatchAll = true := by
  rw [hasCatchAll]
  cases rs.rules.getLast? <;> simp

/-- A catch-all is the last rule or stands before it. -/
theorem exists_isCatchAll_iff :
    (∃ r ∈ rs.rules, r.isCatchAll = true) ↔
      rs.hasCatchAll = true ∨ ∃ r ∈ rs.rules.dropLast, r.isCatchAll = true := by
  rw [hasCatchAll_iff]
  rcases List.eq_nil_or_concat rs.rules with hnil | ⟨before, last, hlast⟩
  · simp [hnil]
  · simp [hlast, or_and_right, exists_or, or_comm]

/-- **The check tells totality except where a catch-all has other rules behind it.**  Rules that
pass it leave no account to the default.  Rules are total just if one of them is a catch-all, and so
the check is wrong just if one stands before the last rule and the last rule is not one. -/
theorem hasCatchAll_iff_total_iff (rs : RuleSet) :
    ((∀ a, (rs.classify a).ruleId ≠ none) ↔ ∃ r ∈ rs.rules, r.isCatchAll = true) ∧
      (rs.hasCatchAll = true → ∀ a, (rs.classify a).ruleId ≠ none) ∧
      (¬ (rs.hasCatchAll = true ↔ ∀ a, (rs.classify a).ruleId ≠ none) ↔
        rs.hasCatchAll = false ∧ ∃ r ∈ rs.rules.dropLast, r.isCatchAll = true) := by
  have htotal : (∀ a, (rs.classify a).ruleId ≠ none) ↔
      rs.hasCatchAll = true ∨ ∃ r ∈ rs.rules.dropLast, r.isCatchAll = true := by
    rw [← total_iff_ruleId, total_iff, exists_isCatchAll_iff]
  refine ⟨total_iff_ruleId.symm.trans total_iff, fun h => htotal.mpr (.inl h), ?_⟩
  rw [htotal]
  cases rs.hasCatchAll <;> simp

/-- The standard rules end with a catch-all, and no account is left to the default. -/
theorem hasCatchAll_iff_total_iff_standard :
    standard.hasCatchAll = true ∧ ∀ a, (standard.classify a).ruleId ≠ none :=
  have hlast : standard.hasCatchAll = true := by decide +kernel
  ⟨hlast, (hasCatchAll_iff_total_iff standard).2.1 hlast⟩

/-- A rule for every account, and behind it one for late accounts. -/
def catchAllFirst : RuleSet := ⟨[
  ⟨"rest", "Everything", [], 5, "Wait"⟩,
  ⟨"late", "Late", [daysOver 30], 1, "Call"⟩]⟩

/-- **A catch-all that comes first is overlooked**, although it takes every account. -/
theorem catchAllFirst_overlooked :
    ¬ (catchAllFirst.hasCatchAll = true ↔ ∀ a, (catchAllFirst.classify a).ruleId ≠ none) := by
  have htotal : catchAllFirst.Total :=
    total_iff.mpr ⟨⟨"rest", "Everything", [], 5, "Wait"⟩, List.mem_cons_self, rfl⟩
  have hcheck : catchAllFirst.hasCatchAll = false := rfl
  rw [← total_iff_ruleId, hcheck]
  exact fun h => Bool.false_ne_true (h.mpr htotal)

end RuleSet

end Dunning
