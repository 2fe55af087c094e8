import Dunning.Proofs.Graph.Report
import Dunning.Proofs.Graph.Search
import Dunning.Proofs.Graph.Trail

/-!
# Proofs/Graph/Shadow — the walk and the search on one graph

Where several nodes share an id, a walk goes to the first of them and the search to the last:

    walk      e ─▸ n₁ ─▸ n₂ ─▸ n₃
    search    e ─▸ n₁ ─▸ n₂'               n₂' comes after n₂ and has its id

From a node that is *shadowed* in this way the two part.  Up to there the search sees all that the
walk visits, and a circle of the walk if no node of it is shadowed (`Graph.trail_within_report`).

The entry is never shadowed: the search starts at it, and no connection points at its id.  So the
search sees the graph in which the id of the entry stands for the entry alone (`Graph.pin`).
-/

open Relation

namespace Dunning

namespace Graph

variable {g : Graph} {a : Account} {e m n : Node} {i id : String} {w : Walk}
  {before after : List Node}

/-! ## What the search sees -/

/-- The node itself, unless it has the id of `e`: then `e`. -/
def pinned (e n : Node) : Node := if n.id = e.id then e else n

@[simp] theorem pinned_id (e n : Node) : (pinned e n).id = n.id := by
  rw [pinned]
  split_ifs with h
  · exact h.symm
  · rfl

/-- The graph in which the id of `e` stands for `e` alone. -/
def pin (g : Graph) (e : Node) : Graph := ⟨g.nodes.map (pinned e)⟩

theorem lastNode?_pin (g : Graph) (e : Node) (id : String) :
    (g.pin e).lastNode? id = (g.lastNode? id).map (pinned e) := by
  rw [lastNode?, pin, ← List.map_reverse, List.find?_map, lastNode?]
  congr 2
  funext n
  rw [Function.comp_apply, pinned_id]

theorem lastNode?_pin_self (he : e ∈ g.nodes) : (g.pin e).lastNode? e.id = some e := by
  obtain ⟨n, hn⟩ := exists_lastNode? (id_mem_ids he)
  rw [lastNode?_pin, hn, Option.map_some, pinned, if_pos (id_of_lastNode? hn)]

theorem lastNode?_pin_of_ne (hne : id ≠ e.id) : (g.pin e).lastNode? id = g.lastNode? id := by
  rw [lastNode?_pin]
  cases hn : g.lastNode? id with
  | none => rfl
  | some n =>
    have hid : n.id ≠ e.id := id_of_lastNode? hn ▸ hne
    rw [Option.map_some, pinned, if_neg hid]

/-- Below the entry the search never comes to the id of the entry again. -/
theorem explore_pin (he : ¬ g.Targeted e.id) (hn : n ∈ g.nodes) (fuel : Nat) (path : List String)
    (found : Search) : (g.pin e).explore fuel path n found = g.explore fuel path n found := by
  induction fuel generalizing n path found with
  | zero => rfl
  | succ fuel ih =>
    rw [explore_succ, explore_succ]
    refine List.foldl_ext _ _ _ fun found conn hconn => ?_
    have hne : conn.target ≠ e.id := fun hid => he ⟨n, hn, conn, hconn, hid⟩
    rw [visit, visit, lastNode?_pin_of_ne hne]
    cases hm : g.lastNode? conn.target with
    | none => rfl
    | some m => simp only [ih (mem_of_lastNode? hm)]

theorem search_pin (he : g.IsEntry e) : (g.pin e).search e = g.search e := by
  have hlength : (g.pin e).nodes.length = g.nodes.length := List.length_map _
  rw [search, search, hlength, explore_pin he.1 he.mem]

/-- **The search visits what lies below the entry**, every other id standing for its last node. -/
theorem mem_visited_iff_pin (he : g.IsEntry e) :
    i ∈ (g.search e).visited ↔ ReflTransGen (g.pin e).Leads e.id i := by
  rw [← search_pin he]
  exact mem_visited_iff (lastNode?_pin_self he.mem)

/-! ## Where the walk and the search part -/

/-- The node is not the entry, and a later one has its id. -/
def Shadowed (g : Graph) (n : Node) : Prop :=
  g.entry? ≠ some n ∧ g.lastNode? n.id ≠ some n

theorem not_shadowed_of_nodup (hnodup : g.ids.Nodup) (hn : n ∈ g.nodes) : ¬ g.Shadowed n :=
  fun h => h.2 (lastNode?_of_nodup hnodup hn)

/-- An id of two different nodes occurs twice. -/
theorem duplicate_of_ne (hn : n ∈ g.nodes) (hm : m ∈ g.nodes) (hne : m ≠ n) (hid : m.id = n.id) :
    g.ids.Duplicate n.id := by
  obtain ⟨before, after, hsplit⟩ := List.append_of_mem hn
  rw [List.duplicate_iff_sublist, ids, hsplit, List.map_append, List.map_cons]
  have hside : m ∈ before ∨ m ∈ after := by simpa [hsplit, hne] using hm
  rcases hside with hb | ha
  · have hone : [n.id].Sublist (before.map Node.id) :=
      List.singleton_sublist.2 (hid ▸ List.mem_map_of_mem hb)
    exact hone.append ((List.nil_sublist _).cons_cons _)
  · have hone : [n.id].Sublist (after.map Node.id) :=
      List.singleton_sublist.2 (hid ▸ List.mem_map_of_mem ha)
    exact (List.nil_sublist (before.map Node.id)).append (hone.cons_cons _)

theorem Shadowed.duplicate (h : g.Shadowed n) (hn : n ∈ g.nodes) :
    Issue.duplicateId n.id ∈ g.issues := by
  obtain ⟨m, hm⟩ := exists_lastNode? (id_mem_ids hn)
  have hne : m ≠ n := fun heq => h.2 (heq ▸ hm)
  exact duplicateId_mem_issues_iff.2
    (duplicate_of_ne hn (mem_of_lastNode? hm) hne (id_of_lastNode? hm))

/-- **The search goes along with the walk from a node that is not shadowed.** -/
theorem leads_of_onward? (he : g.IsEntry e) (hn : g.node? n.id = some n) (hs : ¬ g.Shadowed n)
    (h : g.onward? a n = some m) : (g.pin e).Leads n.id m.id := by
  have hlast : (g.pin e).lastNode? n.id = some n := by
    by_cases hid : n.id = e.id
    · obtain rfl : n = e := Option.some.inj (hn.symm.trans (hid ▸ he.node?))
      exact lastNode?_pin_self he.mem
    · have hentry : g.entry? ≠ some n := fun hentry => by
        rw [entry?_eq_some_iff.2 he] at hentry
        exact hid (congrArg Node.id (Option.some.inj hentry)).symm
      rw [lastNode?_pin_of_ne hid]
      by_contra hlast
      exact hs ⟨hentry, hlast⟩
  have hids : (g.pin e).ids = g.ids := by
    simp [ids, pin]
  refine (leads_iff hlast).2 ⟨exists_connection_of_onward? h, hids ▸ ?_⟩
  exact id_mem_ids (mem_of_node? (node?_of_onward? h))

/-! ## The report on a walk -/

/-- A walk that runs in a circle without a shadowed node has its circle reported. -/
theorem Course.exists_cycle_issue (he : g.IsEntry e) (h : Course g a [] e w)
    (hc : w.arrival = .cycle m) (hs : ∀ n ∈ w.trail, ¬ g.Shadowed n) :
    ∃ i, Issue.cycle i ∈ g.issues := by
  obtain ⟨i, hreach, hcircle⟩ := h.circle (r := (g.pin e).Leads) hc (by simp) fun k hk _ hl =>
    leads_of_onward? he (h.node?_of_mem he.node? k hk) (hs k hk) hl
  by_contra hno
  have hnil : ((g.pin e).search e).cycles = [] := by
    rw [search_pin he]
    exact List.eq_nil_iff_forall_not_mem.2 fun j hj =>
      hno ⟨j, cycle_mem_issues_iff.2 ⟨e, he, hj⟩⟩
  exact no_circle_of_cycles_eq_nil (lastNode?_pin_self he.mem) hnil hreach hcircle

/-- A node that a walk comes to without a shadowed node before it is not reported. -/
theorem Course.unreachable_notMem_issues (he : g.IsEntry e) (h : Course g a [] e w)
    (ht : w.trail = before ++ n :: after) (hs : ∀ m ∈ before, ¬ g.Shadowed m) :
    Issue.unreachable n.id ∉ g.issues := by
  have hmem : ∀ k ∈ before, k ∈ w.trail := fun k hk => by
    rw [ht]
    exact List.mem_append_left _ hk
  have hreach := h.reaches (r := (g.pin e).Leads) ht fun k hk _ hl =>
    leads_of_onward? he (h.node?_of_mem he.node? k (hmem k hk)) (hs k hk) hl
  rw [unreachable_mem_issues_iff]
  rintro ⟨-, e', he', hunseen⟩
  obtain rfl := he.unique he'
  exact hunseen ((mem_visited_iff_pin he).2 hreach)

/-- **The report and the walk part at a shadowed node, and only there.**  Where the walk runs in a
circle without one, a circle is reported; up to the first of them no node of the trail is reported
as out of reach; and the report tells that the id of a shadowed node is used more than once. -/
theorem trail_within_report (g : Graph) (a : Account) :
    ((∀ n ∈ g.trail a, ¬ g.Shadowed n) → (g.outcome a).action = "Cycle detected" →
        ∃ i, Issue.cycle i ∈ g.issues) ∧
      (∀ before n after, g.trail a = before ++ n :: after → (∀ m ∈ before, ¬ g.Shadowed m) →
        Issue.unreachable n.id ∉ g.issues) ∧
      ∀ n ∈ g.trail a, g.Shadowed n → Issue.duplicateId n.id ∈ g.issues := by
  cases hentry : g.entry? with
  | none =>
    have htrail : g.trail a = [] := trail_of_no_entry hentry
    have hout : g.outcome a = .noStrategy := outcome_of_no_entry (entry?_eq_none_iff.1 hentry)
    simp [htrail, hout, Outcome.noStrategy, Outcome.fallback]
  | some e =>
    have he := entry?_eq_some_iff.1 hentry
    obtain ⟨w, hw, hcourse⟩ := course_of_entry he a
    rw [trail_of_walk? hw, outcome_of_walk? hw]
    refine ⟨fun hs ht => ?_, fun before n after => hcourse.unreachable_notMem_issues he, ?_⟩
    · obtain ⟨m, hm⟩ := hcourse.cycle_of_action ht
      exact hcourse.exists_cycle_issue he hm hs
    · exact fun n hn hs => hs.duplicate (hcourse.trail_subset he.mem hn)

/-- A circle below an entry whose id is used again. -/
def doubled : Graph :=
  let question := Payload.condition ⟨"", .band, .equals, .text "late"⟩
  let ways := [⟨"again", none⟩, ⟨"again", none⟩]
  ⟨[⟨"start", none, question, ways⟩, ⟨"again", none, question, ways⟩,
    ⟨"start", none, .ending ⟨"", "closed", ""⟩, []⟩]⟩

/-- The entry of `doubled` is not shadowed, so what lies below it is reported as it is. -/
theorem trail_within_report_doubled :
    (∃ i, Issue.cycle i ∈ doubled.issues) ∧ Issue.unreachable "again" ∉ doubled.issues := by
  have htrail : doubled.trail .blank = [doubled.nodes[0], doubled.nodes[1]] := by decide
  have hplain : ∀ n ∈ doubled.trail .blank, ¬ doubled.Shadowed n := by
    rw [htrail]
    unfold Shadowed
    decide
  obtain ⟨hcycle, hreach, -⟩ := trail_within_report doubled .blank
  refine ⟨hcycle hplain (by decide), hreach [doubled.nodes[0]] doubled.nodes[1] [] htrail ?_⟩
  exact fun m hm => hplain m (htrail ▸ List.mem_append_left [doubled.nodes[1]] hm)

/-- A circle and an exit, which an ending that has the id of the circle hides from the search. -/
def overlapping : Graph :=
  let question := Payload.condition ⟨"", .band, .equals, .text "late"⟩
  ⟨[⟨"start", none, question, [⟨"again", none⟩, ⟨"again", none⟩]⟩,
    ⟨"again", none, question, [⟨"again", none⟩, ⟨"exit", none⟩]⟩,
    ⟨"exit", none, .ending ⟨"", "closed", ""⟩, []⟩,
    ⟨"again", none, .ending ⟨"", "closed", ""⟩, []⟩]⟩

/-- **A shadowed node may hide a circle from the report, and a node that is visited.** -/
theorem overlapping_hides : ∃ (g : Graph) (late other : Account),
    (g.outcome late).action = "Cycle detected" ∧ (∀ i, Issue.cycle i ∉ g.issues) ∧
      ∃ n ∈ g.trail other, Issue.unreachable n.id ∈ g.issues := by
  have hissues : overlapping.issues = [.duplicateId "again", .unreachable "exit"] := by decide
  refine ⟨overlapping, { Account.blank with band := some "late" }, .blank, by decide, ?_, ?_⟩
  · simp [hissues]
  · refine ⟨overlapping.nodes[2], by decide, ?_⟩
    rw [hissues]
    decide

end Graph

end Dunning
