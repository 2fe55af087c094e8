import Dunning.Proofs.Graph.Shadow
import Dunning.Proofs.Graph.WellFormed

/-!
# Proofs/Graph/Extent — what a report says of reach and circles

With distinct ids the search and `Graph.Connects` speak of the same ways.  A way along connections
passes through nodes alone, since every id on it but the last is the source of a connection; so a
way to a node is a way of the search, and so is a circle (`Graph.leads_reach_iff`,
`Graph.leads_circle_iff`).  The report is then exact: it names each node that no way from the entry
leads to, once; each circle it names is there, below the entry; and a circle below the entry is
never passed over.

The ids visited are a log of the search: it adds one whenever it enters a node.  That no id is in
the log twice is why the search comes to an end (`Graph.explore_eq_search`).
-/

open Relation

namespace Dunning

namespace Graph

variable {g : Graph} {e : Node} {i j : String}

/-! ## Ways of the search -/

theorem transGen_leads (hnodup : g.ids.Nodup) (h : TransGen g.Connects i j) (hj : j ∈ g.ids) :
    TransGen g.Leads i j := by
  induction h with
  | single hij => exact .single ((leads_iff_connects hnodup).2 ⟨hij, hj⟩)
  | tail _ hkj ih => exact (ih hkj.source_mem).tail ((leads_iff_connects hnodup).2 ⟨hkj, hj⟩)

theorem leads_le_connects (hnodup : g.ids.Nodup) : g.Leads ≤ g.Connects :=
  fun _ _ h => ((leads_iff_connects hnodup).1 h).1

/-- **A way to a node is a way of the search.** -/
theorem leads_reach_iff (hnodup : g.ids.Nodup) (hj : j ∈ g.ids) :
    ReflTransGen g.Leads i j ↔ ReflTransGen g.Connects i j := by
  constructor
  · exact fun h => ReflTransGen.mono (leads_le_connects hnodup) _ _ h
  · intro h
    rcases reflTransGen_iff_eq_or_transGen.1 h with rfl | hway
    · exact .refl
    · exact (transGen_leads hnodup hway hj).to_reflTransGen

/-- **A circle is a circle of the search.** -/
theorem leads_circle_iff (hnodup : g.ids.Nodup) :
    TransGen g.Leads i i ↔ TransGen g.Connects i i := by
  constructor
  · exact fun h => TransGen.mono (leads_le_connects hnodup) _ _ h
  · intro h
    obtain ⟨_, hstep, -⟩ := TransGen.head'_iff.1 h
    exact transGen_leads hnodup h hstep.source_mem

/-! ## The log of a search -/

/-- The search from the entry enters no id twice, and only ids of the graph. -/
theorem visited_of_entry (he : g.IsEntry e) :
    (g.search e).visited.Nodup ∧ (g.search e).visited ⊆ g.ids := by
  have h := (search_explored (lastNode?_pin_self he.mem)).1
  have hids : (g.pin e).ids = g.ids := by simp [ids, pin]
  rw [search_pin he] at h
  exact ⟨h.visited_nodup, hids ▸ h.known⟩

/-- No limit beyond the number of nodes changes the search from the entry. -/
theorem explore_of_entry (he : g.IsEntry e) {fuel : Nat} (hfuel : g.nodes.length ≤ fuel) :
    g.explore fuel [] e ⟨[], []⟩ = g.search e := by
  have hlength : (g.pin e).nodes.length = g.nodes.length := List.length_map _
  rw [← explore_pin he.1 he.mem, ← search_pin he]
  exact explore_eq_search (lastNode?_pin_self he.mem) (hlength ▸ hfuel)

/-! ## The report -/

theorem mem_visited_iff_reach (he : g.IsEntry e) (hnodup : g.ids.Nodup) (hi : i ∈ g.ids) :
    i ∈ (g.search e).visited ↔ ReflTransGen g.Connects e.id i := by
  rw [mem_visited_iff (lastNode?_of_nodup hnodup he.mem), leads_reach_iff hnodup hi]

/-- A node is reported as out of reach if and only if no way leads to it from the entry. -/
theorem unreachable_mem_issues_iff_reach (he : g.IsEntry e) (hnodup : g.ids.Nodup) :
    Issue.unreachable i ∈ g.issues ↔ i ∈ g.ids ∧ ¬ ReflTransGen g.Connects e.id i := by
  rw [unreachable_mem_issues_iff]
  refine and_congr_right fun hi => ?_
  rw [← mem_visited_iff_reach he hnodup hi]
  constructor
  · rintro ⟨e', he', hunseen⟩
    exact he'.unique he ▸ hunseen
  · exact fun hunseen => ⟨e, he, hunseen⟩

/-- The nodes out of reach are reported one by one. -/
theorem count_unreachable_searchIssues_le (hnodup : g.ids.Nodup) :
    (g.searchIssues e).count (.unreachable i) ≤ 1 := by
  have hcycles : Issue.unreachable i ∉ (g.search e).cycles.reverse.map Issue.cycle := by simp
  have hids : ((g.nodes.filter fun n => !(g.search e).visited.contains n.id).map Node.id).Nodup :=
    hnodup.sublist (List.filter_sublist.map Node.id)
  have hnames := hids.map fun _ _ h => (Issue.unreachable.inj h : _ = _)
  rw [searchIssues, List.count_append, List.count_eq_zero.2 hcycles, Nat.zero_add]
  rw [List.map_map] at hnames
  exact List.nodup_iff_count_le_one.1 hnames _

/-- **No id is reported as out of reach more than once.** -/
theorem count_unreachable_le (hnodup : g.ids.Nodup) (i : String) :
    g.issues.count (.unreachable i) ≤ 1 := by
  have hids : Issue.unreachable i ∉ duplicateIssues [] g.nodes := by simp [mem_duplicateIssues_iff]
  have hnodes : Issue.unreachable i ∉
      g.nodes.flatMap fun n => danglingIssues g.ids n ++ payloadIssues n := by
    simp [mem_danglingIssues_iff, mem_payloadIssues_iff]
  rw [issues, List.count_append, List.count_append, List.count_eq_zero.2 hids,
    List.count_eq_zero.2 hnodes, Nat.zero_add, entryIssues]
  cases g.entries with
  | nil => by_cases hn : g.nodes = [] <;> simp [hn]
  | cons entry others =>
    have hseveral : Issue.unreachable i ∉
        if others.isEmpty then [] else [.severalEntries ((entry :: others).map Node.id)] := by
      split <;> simp
    dsimp only
    rw [List.count_append, List.count_eq_zero.2 hseveral, Nat.zero_add]
    exact count_unreachable_searchIssues_le hnodup

/-- **The search is exact.**  It enters no id twice and ends without a limit.  Where ids are
distinct, the nodes that no way leads to from the entry are reported as out of reach, each once and
no others; a reported circle is one, below the entry; and where there is a circle below the entry
one is reported. -/
theorem search_is_exact (he : g.IsEntry e) :
    ((g.search e).visited.Nodup ∧ (g.search e).visited ⊆ g.ids ∧
        ∀ fuel, g.nodes.length ≤ fuel → g.explore fuel [] e ⟨[], []⟩ = g.search e) ∧
      (g.ids.Nodup →
        (∀ i, Issue.unreachable i ∈ g.issues ↔ i ∈ g.ids ∧ ¬ ReflTransGen g.Connects e.id i) ∧
        (∀ i, g.issues.count (.unreachable i) ≤ 1) ∧
        (∀ i, Issue.cycle i ∈ g.issues →
          ReflTransGen g.Connects e.id i ∧ TransGen g.Connects i i) ∧
        ((∃ i, ReflTransGen g.Connects e.id i ∧ TransGen g.Connects i i) →
          ∃ i, Issue.cycle i ∈ g.issues)) := by
  obtain ⟨honce, hknown⟩ := visited_of_entry he
  refine ⟨⟨honce, hknown, fun _ => explore_of_entry he⟩, fun hnodup => ?_⟩
  have hlast := lastNode?_of_nodup hnodup he.mem
  refine ⟨fun i => unreachable_mem_issues_iff_reach he hnodup, count_unreachable_le hnodup,
    fun i hi => ?_, ?_⟩
  · obtain ⟨e', he', hcycle⟩ := cycle_mem_issues_iff.1 hi
    obtain rfl := he'.unique he
    obtain ⟨hreach, hcircle⟩ := circle_of_mem_cycles hlast hcycle
    have hmem : i ∈ g.ids := hknown ((mem_visited_iff hlast).2 hreach)
    exact ⟨(leads_reach_iff hnodup hmem).1 hreach, (leads_circle_iff hnodup).1 hcircle⟩
  · rintro ⟨i, hreach, hcircle⟩
    obtain ⟨_, hstep, -⟩ := TransGen.head'_iff.1 hcircle
    by_contra hno
    have hnil : (g.search e).cycles = [] := List.eq_nil_iff_forall_not_mem.2 fun j hj =>
      hno ⟨j, cycle_mem_issues_iff.2 ⟨e, he, hj⟩⟩
    exact no_circle_of_cycles_eq_nil hlast hnil
      ((leads_reach_iff hnodup hstep.source_mem).2 hreach) ((leads_circle_iff hnodup).2 hcircle)

/-- A circle below the entry, a connection into the void, and a circle that nothing leads to. -/
def straying : Graph :=
  let question := Payload.condition ⟨"", .band, .equals, .text "late"⟩
  ⟨[⟨"start", none, question, [⟨"again", none⟩, ⟨"lost", none⟩]⟩,
    ⟨"again", none, question, [⟨"start over", none⟩, ⟨"again", none⟩]⟩,
    ⟨"start over", none, question, [⟨"again", none⟩]⟩,
    ⟨"island", none, question, [⟨"islet", none⟩]⟩,
    ⟨"islet", none, question, [⟨"island", none⟩]⟩]⟩

/-- The circle away from the entry is reported as out of reach, and the other as a circle. -/
theorem search_is_exact_straying :
    ¬ ReflTransGen straying.Connects "start" "island" ∧ (∃ i, Issue.cycle i ∈ straying.issues) := by
  have hentry : straying.entry? = some straying.nodes[0] := by decide
  have he := entry?_eq_some_iff.1 hentry
  obtain ⟨hreach, -, -, hcircle⟩ := (search_is_exact he).2 (by decide)
  have hself : straying.Connects "again" "again" :=
    ⟨straying.nodes[1], by decide, rfl, ⟨"again", none⟩, by decide, rfl⟩
  have hdown : straying.Connects "start" "again" :=
    ⟨straying.nodes[0], by decide, rfl, ⟨"again", none⟩, by decide, rfl⟩
  exact ⟨((hreach "island").1 (by decide)).2, hcircle ⟨"again", .single hdown, .single hself⟩⟩

end Graph

end Dunning
