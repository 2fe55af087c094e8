import Dunning.Proofs.Graph.Branch
import Dunning.Proofs.Graph.Shadow
import Dunning.Proofs.Graph.WellFormed

/-!
# Proofs/Graph/Clean — walks through a graph without issues

What the report looks for leaves a walk two ends (`Graph.clean_graph_outcome`):

    no entry, several entries      there is one entry, and it starts a walk
    ids used twice, circles        the search sees the walk, so it runs in no circle
    unknown types                  a node where it ends is of a known type
    dangling, branch count         a condition where it strands has its labels to blame

The last is what the report does not look for: labels that leave out a branch.
-/

open Relation

namespace Dunning

namespace Graph

variable {g : Graph} {a : Account} {e n : Node} {visited : List String} {w : Walk}
  {before after : List Node}

theorem ids_nodup_of_clean (hclean : g.issues = []) : g.ids.Nodup :=
  List.nodup_iff_forall_not_duplicate.2 fun i hi => by
    simpa [hclean] using duplicateId_mem_issues_iff.2 hi

/-- A graph without issues has no nodes or one entry. -/
theorem exists_entry_of_clean (hne : g.nodes ≠ []) (hclean : g.issues = []) :
    ∃ e, g.entries = [e] := by
  rw [issues, List.append_eq_nil_iff] at hclean
  obtain hnil | ⟨e, he, -⟩ := entryIssues_eq_nil_iff.1 hclean.2
  · exact absurd hnil hne
  · exact ⟨e, he⟩

/-- Connections lead from the first node of a walk to every other. -/
theorem Course.connects (h : Course g a visited n w) (hn : n ∈ g.nodes) {m : Node}
    (ht : w.trail = before ++ m :: after) : ReflTransGen g.Connects n.id m.id := by
  refine h.reaches ht fun k hk l hl => ?_
  have hmem : k ∈ w.trail := ht ▸ List.mem_append_left _ hk
  exact ⟨k, h.trail_subset hn hmem, rfl, exists_connection_of_onward? hl⟩

/-- **The two ends of a walk through a graph without issues.** -/
theorem Course.ends_of_clean (hclean : g.issues = []) (he : g.IsEntry e) (h : Course g a [] e w) :
    (∃ n ∈ g.nodes, n.payload.Concludes ∧ ReflTransGen g.Connects e.id n.id ∧
      w.arrival = .terminal n) ∨
    ∃ before n c, w.trail = before ++ [n] ∧ n.condition? = some c ∧ n.Lacks (c.holds a) ∧
      w.arrival = .stranded n := by
  have hno : ∀ x, x ∉ g.issues := List.eq_nil_iff_forall_not_mem.1 hclean
  have hnodes : w.trail ⊆ g.nodes := h.trail_subset he.mem
  rcases h.ends with ⟨before, n, ht, hc, ha⟩ | ⟨before, n, c, ht, hc, hnext, ha⟩ | ⟨n, ha⟩
  · have hn : n ∈ g.nodes := hnodes (by simp [ht])
    have hconcludes : n.payload.Concludes := by
      refine (n.concludes_or_unknown hc).resolve_right fun ⟨type, data, hp⟩ => ?_
      exact hno _ (unknownType_mem_issues_iff.2 ⟨n, hn, rfl, data, hp⟩)
    exact .inl ⟨n, hn, hconcludes, h.connects he.mem ht, ha⟩
  · have hn : n ∈ g.nodes := hnodes (by simp [ht])
    have hbranches := (next?_isSome_iff_of_accepted hn hc (fun _ => hno _) fun _ => hno _).2
    have hlacks : n.Lacks (c.holds a) := by simpa [hnext] using hbranches (c.holds a)
    exact .inr ⟨before, n, c, ht, hc, hlacks, ha⟩
  · obtain ⟨i, hi⟩ := h.exists_cycle_issue he ha fun k hk =>
      not_shadowed_of_nodup (ids_nodup_of_clean hclean) (hnodes hk)
    exact absurd hi (hno _)

/-- **What a graph without issues recommends.**  It is never one of three fallbacks; and the fourth
is given only at a condition whose labels leave out the branch that the account takes.  Else the
walk ends at a node of a known type, to which connections lead from the one entry. -/
theorem clean_graph_outcome (hne : g.nodes ≠ []) (hclean : g.issues = []) (a : Account) :
    (g.outcome a).action ∉ ["No strategy defined", "Cycle detected", "Unknown action"] ∧
      ∃ e, g.entries = [e] ∧
        (((g.outcome a).action = "No next action" ∧
            ∃ before n c, g.trail a = before ++ [n] ∧ n.condition? = some c ∧
              n.Lacks (c.holds a)) ∨
          ((g.outcome a).action ≠ "No next action" ∧
            ∃ n ∈ g.nodes, n.payload.Concludes ∧ ReflTransGen g.Connects e.id n.id ∧
              g.outcome a = .ofPayload n.payload)) := by
  obtain ⟨e, hentries⟩ := exists_entry_of_clean hne hclean
  have he : g.IsEntry e := by
    rw [← entry?_eq_some_iff, entry?, hentries, List.head?_cons]
  obtain ⟨w, hw, hcourse⟩ := course_of_entry he a
  rw [outcome_of_walk? hw, trail_of_walk? hw]
  rcases hcourse.ends_of_clean hclean he with
    ⟨n, hn, hconcludes, hbelow, ha⟩ | ⟨before, n, c, ht, hc, hlacks, ha⟩
  · obtain ⟨hunknown, hstart, hnext, hcycle⟩ :
        (Outcome.ofPayload n.payload).action ≠ "Unknown action" ∧
        (Outcome.ofPayload n.payload).action ≠ "No strategy defined" ∧
        (Outcome.ofPayload n.payload).action ≠ "No next action" ∧
        (Outcome.ofPayload n.payload).action ≠ "Cycle detected" := by
      simpa [ownTexts, Outcome.unknown, Outcome.noStrategy, Outcome.noNext, Outcome.cycle,
        Outcome.fallback] using ofPayload_notMem_of_concludes hconcludes
    rw [ha]
    refine ⟨?_, e, hentries, .inr ⟨hnext, n, hn, hconcludes, hbelow, rfl⟩⟩
    simpa using ⟨hstart, hcycle, hunknown⟩
  · have hfallback : Outcome.noNext.action ∉
        ["No strategy defined", "Cycle detected", "Unknown action"] := by decide
    rw [ha]
    exact ⟨hfallback, e, hentries, .inl ⟨rfl, before, n, c, ht, hc, hlacks⟩⟩

/-- The graph in which the labels leave out a branch, which is the one that the account takes. -/
theorem clean_graph_outcome_insistent : ∃ before n c,
    insistent.trail .blank = before ++ [n] ∧ n.condition? = some c ∧ n.Lacks (c.holds .blank) := by
  have hclean : insistent.issues = [] := by decide
  have htext : (insistent.outcome .blank).action = "No next action" := by decide +kernel
  obtain ⟨-, e, -, ⟨-, h⟩ | ⟨hne, -⟩⟩ :=
    clean_graph_outcome (List.cons_ne_nil _ _) hclean .blank
  · exact h
  · exact absurd htext hne

end Graph

end Dunning
