import Dunning.Proofs.Graph.Course
import Dunning.Proofs.Graph.Report

/-!
# Proofs/Graph/Branch — where the two branches of a condition lead

A branch goes along the first connection labelled with it, else along the connection at its
position, unless a label gives that one away to the other branch.  So a condition *lacks* a branch
in one case only (`Node.Lacks`), and of two connections, by what their labels name,

    first second     lacks            first second     lacks
      no    no        yes               –     yes        no
      no    –         yes              yes    yes        no

and neither branch in all other cases.  The report counts connections and reads no label, so it
accepts these four too; but it leaves a condition one branch at least.
-/

namespace Dunning

/-- No connection of a node is labelled with a branch, and the one at its position is labelled with
the other. -/
def Node.Lacks (n : Node) (branch : Bool) : Prop :=
  (∀ conn ∈ n.connections, conn.branch? ≠ some branch) ∧
    ∃ conn, n.connections[Graph.branchIndex branch]? = some conn ∧ conn.branch? = some !branch

namespace Graph

variable {g : Graph} {n : Node} {c : Condition} {first second : Connection} {branch : Bool}

theorem next?_eq_bind (g : Graph) (n : Node) (branch : Bool) :
    g.next? n branch =
      ((connectionFor n.connections branch).map Connection.target).bind g.node? := by
  rw [next?, Option.bind_map]
  rfl

/-- **When a branch has no connection.** -/
theorem connectionFor_eq_none_iff {connections : List Connection} :
    connectionFor connections branch = none ↔
      (∀ conn ∈ connections, conn.branch? ≠ some branch) ∧
      ∀ conn, connections[branchIndex branch]? = some conn → conn.branch? = some !branch := by
  rw [connectionFor]
  split
  · next conn hf =>
    have hmem := List.mem_of_find?_eq_some hf
    have hbranch : conn.branch? = some branch := by simpa using List.find?_some hf
    exact iff_of_false (by simp) fun h => h.1 conn hmem hbranch
  · next hf =>
    have hno : ∀ conn ∈ connections, conn.branch? ≠ some branch := by simpa using hf
    rw [Option.filter_eq_none_iff, iff_true_intro hno, true_and]
    refine forall₂_congr fun conn hconn => ?_
    -- a label that does not name the branch names the other one, or none
    have hother := hno conn (List.mem_of_getElem? hconn)
    cases hb : conn.branch? with
    | none => simp
    | some b =>
      rw [hb] at hother
      cases b <;> cases branch <;> simp_all

/-- Where no label names a branch, every connection stands for one by its position. -/
theorem connectionFor_of_unlabelled {connections : List Connection}
    (hnone : ∀ conn ∈ connections, conn.branch? = none) :
    connectionFor connections branch = connections[branchIndex branch]? := by
  have hfind : connections.find? (fun c => c.branch? == some branch) = none := by
    refine List.find?_eq_none.2 fun conn hconn => ?_
    simp [hnone conn hconn]
  rw [connectionFor, hfind]
  cases hconn : connections[branchIndex branch]? with
  | none => rfl
  | some conn => simp [Option.filter_some, hnone conn (List.mem_of_getElem? hconn)]

/-- Where every label names a branch, no connection stands for one by its position. -/
theorem connectionFor_of_labelled {connections : List Connection}
    (hlabel : ∀ conn ∈ connections, conn.branch? ≠ none) :
    connectionFor connections branch = connections.find? fun c => c.branch? == some branch := by
  have hnone : connections[branchIndex branch]?.filter (fun c => c.branch? == none) = none := by
    refine Option.filter_eq_none_iff.2 fun conn hconn => ?_
    simpa using hlabel conn (List.mem_of_getElem? hconn)
  rw [connectionFor, hnone]
  cases connections.find? fun conn => conn.branch? == some branch <;> rfl

/-- **Of two connections to nodes, a branch finds none just when the labels leave it out.** -/
theorem next?_eq_none_iff (htwo : n.connections.length = 2)
    (htargets : ∀ conn ∈ n.connections, conn.target ∈ g.ids) :
    g.next? n branch = none ↔ n.Lacks branch := by
  have hindex : branchIndex branch < n.connections.length := by
    rw [htwo]
    cases branch <;> decide
  have hnext : g.next? n branch = none ↔ connectionFor n.connections branch = none := by
    refine ⟨fun h => ?_, fun h => by rw [next?, h, Option.bind_none]⟩
    by_contra hne
    obtain ⟨conn, hconn⟩ := Option.ne_none_iff_exists'.1 hne
    have hnode := node?_isSome_of_mem (htargets conn (mem_of_connectionFor hconn))
    rw [next?, hconn, Option.bind_some] at h
    rw [h] at hnode
    cases hnode
  rw [hnext, connectionFor_eq_none_iff, Node.Lacks]
  refine and_congr_right fun _ => ?_
  simp [List.getElem?_eq_getElem hindex]

/-- The four cases in which a branch is lacking. -/
theorem lacks_pair_iff (hn : n.connections = [first, second]) :
    (n.Lacks true ↔ first.branch? = some false ∧ second.branch? ≠ some true) ∧
      (n.Lacks false ↔ second.branch? = some true ∧ first.branch? ≠ some false) := by
  rw [Node.Lacks, Node.Lacks, hn]
  constructor <;> grind [branchIndex]

/-- What it takes of the report to know both branches of a condition. -/
theorem next?_isSome_iff_of_accepted (hn : n ∈ g.nodes) (hc : n.condition? = some c)
    (hcount : ∀ k, Issue.branchCount n.id k ∉ g.issues)
    (hdangling : ∀ target, Issue.danglingConnection n.id target ∉ g.issues) :
    n.connections.length = 2 ∧ ∀ branch, (g.next? n branch).isSome ↔ ¬ n.Lacks branch := by
  have htwo : n.connections.length = 2 := by
    by_contra hne
    have hpayload := Node.condition?_eq_some_iff.1 hc
    exact hcount _ (branchCount_mem_issues_iff.2 ⟨n, hn, rfl, ⟨c, hpayload⟩, rfl, hne⟩)
  have htargets : ∀ conn ∈ n.connections, conn.target ∈ g.ids := by
    intro conn hconn
    by_contra hno
    exact hdangling _ (danglingConnection_mem_issues_iff.2 ⟨n, hn, rfl, ⟨conn, hconn, rfl⟩, hno⟩)
  refine ⟨htwo, fun branch => ?_⟩
  rw [← next?_eq_none_iff htwo htargets, Option.isSome_iff_ne_none]

/-- **A condition that the report accepts** goes to a node on each branch that it does not lack.  It
lacks at most one, and none if its first connection is labelled with the second branch just when its
second is labelled with the first. -/
theorem accepted_condition_branches (hn : n ∈ g.nodes) (hc : n.condition? = some c)
    (hcount : ∀ k, Issue.branchCount n.id k ∉ g.issues)
    (hdangling : ∀ target, Issue.danglingConnection n.id target ∉ g.issues) :
    (∀ branch, (g.next? n branch).isSome ↔ ¬ n.Lacks branch) ∧
      (∃ branch, (g.next? n branch).isSome) ∧
      ∃ first second, n.connections = [first, second] ∧
        ((∀ branch, (g.next? n branch).isSome) ↔
          (first.branch? = some false ↔ second.branch? = some true)) := by
  obtain ⟨htwo, hnext⟩ := next?_isSome_iff_of_accepted hn hc hcount hdangling
  obtain ⟨first, second, hpair⟩ := List.length_eq_two.1 htwo
  obtain ⟨htrue, hfalse⟩ := lacks_pair_iff hpair
  refine ⟨hnext, ?_, first, second, hpair, ?_⟩
  · rw [Bool.exists_bool, hnext, hnext, htrue, hfalse]
    tauto
  · rw [Bool.forall_bool, hnext, hnext, htrue, hfalse]
    tauto

/-- A condition whose connections are labelled the other way round. -/
def crosswise : Graph :=
  ⟨[⟨"ask", none, .condition ⟨"", .band, .equals, .text "late"⟩,
      [⟨"wait", some "no"⟩, ⟨"call", some " YES"⟩]⟩,
    ⟨"wait", none, .ending ⟨"", "closed", ""⟩, []⟩,
    ⟨"call", none, .escalation ⟨"", "legal", 0, ""⟩, []⟩]⟩

/-- Each connection of the condition is labelled with the branch of the other's position. -/
theorem accepted_condition_branches_crosswise :
    (crosswise.next? crosswise.nodes[0] true).isSome ∧
      (crosswise.next? crosswise.nodes[0] false).isSome := by
  have hclean : crosswise.issues = [] := by decide
  obtain ⟨-, -, first, second, hpair, hboth⟩ :=
    accepted_condition_branches (g := crosswise) (n := crosswise.nodes[0]) List.mem_cons_self rfl
      (by simp [hclean]) (by simp [hclean])
  obtain ⟨rfl, rfl⟩ : ⟨"wait", some "no"⟩ = first ∧ ⟨"call", some " YES"⟩ = second := by
    simpa [crosswise] using hpair
  have hall := hboth.2 (by decide +kernel)
  exact ⟨hall true, hall false⟩

/-- A condition both connections of which are labelled with the first branch. -/
def insistent : Graph :=
  ⟨[⟨"ask", none, .condition ⟨"", .band, .equals, .text "late"⟩,
      [⟨"done", some "true"⟩, ⟨"done", some "yes"⟩]⟩,
    ⟨"done", none, .ending ⟨"", "closed", ""⟩, []⟩]⟩

/-- **A condition that the report accepts may lack a branch.** -/
theorem accepted_condition_strands : ∃ (g : Graph) (n : Node) (c : Condition),
    n ∈ g.nodes ∧ n.condition? = some c ∧ (∀ k, Issue.branchCount n.id k ∉ g.issues) ∧
      (∀ target, Issue.danglingConnection n.id target ∉ g.issues) ∧ g.next? n false = none := by
  have hclean : insistent.issues = [] := by decide
  exact ⟨insistent, insistent.nodes[0], _, List.mem_cons_self, rfl, by simp [hclean],
    by simp [hclean], by decide +kernel⟩

end Graph

end Dunning
