import Mathlib.Data.List.Duplicate
import Dunning.Graph.Validation
import Dunning.Proofs.Graph.Entry

/-!
# Proofs/Graph/Report — which issues a graph has

Each kind of issue is found in one place of the report:

    duplicateIssues    duplicateId
    danglingIssues     danglingConnection
    payloadIssues      branchCount, unknownType
    searchIssues       cycle, unreachable
    entryIssues        noEntry, severalEntries, and those of the search

so a graph has an issue of some kind if and only if that place finds it.
-/

namespace Dunning

namespace Graph

variable {g : Graph} {n e : Node} {nodes : List Node} {x : Issue} {i j type : String} {k : Nat}
  {seen idList : List String}

/-! ## The parts of a report -/

/-- The ids reported are those of nodes that come after another of the same id. -/
theorem mem_duplicateIssues_iff : x ∈ duplicateIssues seen nodes ↔ ∃ i, x = .duplicateId i ∧
    ((i ∈ seen ∧ i ∈ nodes.map Node.id) ∨ (nodes.map Node.id).Duplicate i) := by
  induction nodes generalizing seen with
  | nil => simp [duplicateIssues]
  | cons n nodes ih =>
    rw [List.map_cons, duplicateIssues]
    simp only [List.duplicate_cons_iff, List.mem_cons]
    by_cases h : n.id ∈ seen
    · rw [if_pos (List.contains_iff_mem.2 h), List.mem_cons, ih]
      constructor
      · rintro (rfl | ⟨i, rfl, ⟨hs, hi⟩ | hd⟩)
        · exact ⟨n.id, rfl, .inl ⟨h, .inl rfl⟩⟩
        · exact ⟨i, rfl, .inl ⟨hs, .inr hi⟩⟩
        · exact ⟨i, rfl, .inr (.inr hd)⟩
      · rintro ⟨i, rfl, ⟨hs, rfl | hi⟩ | ⟨rfl, -⟩ | hd⟩
        · exact .inl rfl
        · exact .inr ⟨i, rfl, .inl ⟨hs, hi⟩⟩
        · exact .inl rfl
        · exact .inr ⟨i, rfl, .inr hd⟩
    · rw [if_neg (mt List.contains_iff_mem.1 h), ih]
      refine exists_congr fun i => and_congr_right fun _ => ?_
      rw [List.mem_cons]
      constructor
      · rintro (⟨rfl | hs, hi⟩ | hd)
        · exact .inr (.inl ⟨rfl, hi⟩)
        · exact .inl ⟨hs, .inr hi⟩
        · exact .inr (.inr hd)
      · rintro (⟨hs, rfl | hi⟩ | ⟨rfl, hi⟩ | hd)
        · exact absurd hs h
        · exact .inl ⟨.inr hs, hi⟩
        · exact .inl ⟨.inl rfl, hi⟩
        · exact .inr hd

theorem mem_danglingIssues_iff : x ∈ danglingIssues idList n ↔
    ∃ c ∈ n.connections, c.target ∉ idList ∧ x = .danglingConnection n.id c.target := by
  simp [danglingIssues, and_assoc, eq_comm (a := x)]

theorem mem_payloadIssues_iff : x ∈ payloadIssues n ↔
    (∃ c, n.payload = .condition c ∧ n.connections.length ≠ 2 ∧
      x = .branchCount n.id n.connections.length) ∨
    ∃ type data, n.payload = .unknown type data ∧ x = .unknownType n.id type := by
  cases hp : n.payload with
  | condition c => by_cases h : n.connections.length = 2 <;> simp [payloadIssues, hp, h]
  | _ => simp [payloadIssues, hp]

theorem mem_searchIssues_iff : x ∈ g.searchIssues e ↔
    (∃ i ∈ (g.search e).cycles, x = .cycle i) ∨
    ∃ n ∈ g.nodes, n.id ∉ (g.search e).visited ∧ x = .unreachable n.id := by
  simp [searchIssues, and_assoc, eq_comm (a := x)]

theorem mem_entryIssues_iff : x ∈ g.entryIssues ↔
    (g.entries = [] ∧ g.nodes ≠ [] ∧ x = .noEntry) ∨
    (2 ≤ g.entries.length ∧ x = .severalEntries (g.entries.map Node.id)) ∨
    ∃ e, g.IsEntry e ∧ x ∈ g.searchIssues e := by
  simp only [← entry?_eq_some_iff]
  rw [entryIssues, entry?]
  cases g.entries with
  | nil => by_cases hn : g.nodes = [] <;> simp [hn]
  | cons entry others => cases others <;> simp

/-- **All that a report can say.** -/
theorem mem_issues_iff : x ∈ g.issues ↔
    (∃ i, x = .duplicateId i ∧ g.ids.Duplicate i) ∨
    (∃ n ∈ g.nodes, ∃ c ∈ n.connections, c.target ∉ g.ids ∧
      x = .danglingConnection n.id c.target) ∨
    (∃ n ∈ g.nodes, ∃ c, n.payload = .condition c ∧ n.connections.length ≠ 2 ∧
      x = .branchCount n.id n.connections.length) ∨
    (∃ n ∈ g.nodes, ∃ type data, n.payload = .unknown type data ∧ x = .unknownType n.id type) ∨
    (g.entries = [] ∧ g.nodes ≠ [] ∧ x = .noEntry) ∨
    (2 ≤ g.entries.length ∧ x = .severalEntries (g.entries.map Node.id)) ∨
    ∃ e, g.IsEntry e ∧ ((∃ i ∈ (g.search e).cycles, x = .cycle i) ∨
      ∃ n ∈ g.nodes, n.id ∉ (g.search e).visited ∧ x = .unreachable n.id) := by
  simp only [issues, List.mem_append, List.mem_flatMap, mem_duplicateIssues_iff,
    mem_danglingIssues_iff, mem_payloadIssues_iff, mem_entryIssues_iff, mem_searchIssues_iff,
    List.not_mem_nil, false_and, false_or, and_or_left, exists_or, or_assoc, ids]

/-! ## One kind of issue -/

/-- **An id is reported as a duplicate if and only if two nodes have it.** -/
theorem duplicateId_mem_issues_iff : Issue.duplicateId i ∈ g.issues ↔ g.ids.Duplicate i := by
  simp [mem_issues_iff]

/-- **A connection is reported if and only if it points at no node.** -/
theorem danglingConnection_mem_issues_iff : Issue.danglingConnection i j ∈ g.issues ↔
    ∃ n ∈ g.nodes, n.id = i ∧ (∃ c ∈ n.connections, c.target = j) ∧ j ∉ g.ids := by
  grind [mem_issues_iff]

/-- **A condition is reported if and only if it has other than two connections.** -/
theorem branchCount_mem_issues_iff : Issue.branchCount i k ∈ g.issues ↔
    ∃ n ∈ g.nodes, n.id = i ∧ (∃ c, n.payload = .condition c) ∧ n.connections.length = k ∧
      k ≠ 2 := by
  grind [mem_issues_iff]

theorem unknownType_mem_issues_iff : Issue.unknownType i type ∈ g.issues ↔
    ∃ n ∈ g.nodes, n.id = i ∧ ∃ data, n.payload = .unknown type data := by
  grind [mem_issues_iff]

theorem cycle_mem_issues_iff : Issue.cycle i ∈ g.issues ↔
    ∃ e, g.IsEntry e ∧ i ∈ (g.search e).cycles := by
  simp [mem_issues_iff]

theorem unreachable_mem_issues_iff : Issue.unreachable i ∈ g.issues ↔
    i ∈ g.ids ∧ ∃ e, g.IsEntry e ∧ i ∉ (g.search e).visited := by
  grind [mem_issues_iff, ids]

end Graph

end Dunning
