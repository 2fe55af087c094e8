import Dunning.Proofs.Graph.Branch
import Dunning.Proofs.Graph.Image

/-!
# Proofs/Graph/Agreement — graphs that agree node by node

An account sees of a node its id and payload, and where each branch leads; the choice of the entry
depends on which ids connections point at.  Graphs whose nodes agree in these (`Node.Agrees`), in
order, recommend the same to every account (`Graph.outcome_of_agrees`).

So it does not matter how a branch is told from the other:

    by position     [call, wait]
    by label        [call "true", wait "no"]      and in any order    [wait "no", call "true"]

provided that no label names a branch in the first case, and that every label names one of its own
in the last.
-/

namespace Dunning

open Dunning.Graph

/-- Nodes that send every account the same way. -/
structure Node.Agrees (n n' : Node) : Prop where
  id : n'.id = n.id
  payload : n'.payload = n.payload
  targets : ∀ id, (∃ conn ∈ n'.connections, conn.target = id) ↔
    ∃ conn ∈ n.connections, conn.target = id
  ways : ∀ branch, (connectionFor n'.connections branch).map Connection.target =
    (connectionFor n.connections branch).map Connection.target

theorem Node.Agrees.refl (n : Node) : n.Agrees n := ⟨rfl, rfl, fun _ => .rfl, fun _ => rfl⟩

theorem Node.Agrees.condition? {n n' : Node} (h : n.Agrees n') : n'.condition? = n.condition? := by
  rw [Node.condition?, Node.condition?, h.payload]

namespace Graph

variable {g g' : Graph} {a : Account} {n n' : Node} {branch : Bool}

/-! ## What agreeing graphs have in common -/

/-- Look-ups that ask the same of related elements find related elements. -/
theorem find?_forall₂ {α β : Type} {r : α → β → Prop} {p : α → Bool} {q : β → Bool} {l : List α}
    {l' : List β} (h : List.Forall₂ r l l') (hpq : ∀ x y, r x y → q y = p x) :
    Option.Rel r (l.find? p) (l'.find? q) := by
  induction h with
  | nil => exact .none
  | @cons x y l l' hxy _ ih =>
    rw [List.find?_cons, List.find?_cons, hpq x y hxy]
    cases p x with
    | true => exact .some hxy
    | false => exact ih

section Agreement

variable (h : List.Forall₂ Node.Agrees g.nodes g'.nodes)

include h

theorem node?_agrees (id : String) : Option.Rel Node.Agrees (g.node? id) (g'.node? id) :=
  find?_forall₂ h fun n n' hn => by rw [hn.id]

theorem targeted_agrees (id : String) : g'.Targeted id ↔ g.Targeted id := by
  rw [Targeted, Targeted]
  generalize g.nodes = nodes, g'.nodes = nodes' at h
  induction h with
  | nil => simp
  | cons hn _ ih => simp only [List.exists_mem_cons_iff, hn.targets, ih]

theorem entry?_agrees : Option.Rel Node.Agrees g.entry? g'.entry? := by
  rw [entry?_eq_find?, entry?_eq_find?]
  refine find?_forall₂ h fun n n' hn => congrArg not ?_
  rw [Bool.eq_iff_iff, List.contains_iff_mem, List.contains_iff_mem, mem_targets_iff,
    mem_targets_iff, hn.id]
  exact targeted_agrees h n.id

theorem onward?_agrees (a : Account) (hn : n.Agrees n') :
    Option.Rel Node.Agrees (g.onward? a n) (g'.onward? a n') := by
  refine onward?_related (node?_agrees h) ?_
  rw [Node.way?, Node.way?, hn.condition?]
  exact congrArg _ (funext fun c => hn.ways (c.holds a))

/-- **Graphs that agree node by node recommend the same to every account.** -/
theorem outcome_of_agrees (a : Account) : g'.outcome a = g.outcome a :=
  outcome_of_related
    (walk?_related (entry?_agrees h) (fun _ _ hm => hm.id) (fun _ _ _ hm => hm.condition?)
      fun _ _ _ hm => onward?_agrees h a hm)
    fun _ _ hm => hm.payload

end Agreement

/-! ## Labels in place of positions -/

/-- The first connection labelled for the first branch and the second for the second. -/
def labelled (yes no : String) : List Connection → List Connection
  | [] => []
  | [first] => [{ first with label := some yes }]
  | first :: second :: rest =>
    { first with label := some yes } :: { second with label := some no } :: rest

/-- A condition with its branches labelled, under any spellings, or a node that is no condition. -/
inductive Relabelled : Node → Node → Prop
  | condition {n : Node} {c : Condition} {yes no : String} (hc : n.condition? = some c)
      (hyes : Connection.branchOf yes = some true) (hno : Connection.branchOf no = some false) :
      Relabelled n { n with connections := labelled yes no n.connections }
  | other {n : Node} (hc : n.condition? = none) : Relabelled n n

theorem targets_labelled (yes no : String) (connections : List Connection) :
    (labelled yes no connections).map Connection.target = connections.map Connection.target := by
  rcases connections with _ | ⟨first, _ | ⟨second, rest⟩⟩ <;> rfl

/-- **A label leads where the position led**, if no label named a branch. -/
theorem connectionFor_labelled {yes no : String} {connections : List Connection}
    (hyes : Connection.branchOf yes = some true) (hno : Connection.branchOf no = some false)
    (hnone : ∀ conn ∈ connections, conn.branch? = none) (branch : Bool) :
    (connectionFor (labelled yes no connections) branch).map Connection.target =
      (connectionFor connections branch).map Connection.target := by
  rw [connectionFor_of_unlabelled hnone]
  rcases connections with _ | ⟨first, _ | ⟨second, rest⟩⟩
  · rfl
  · cases branch <;> simp [connectionFor, labelled, Connection.branch?, branchIndex, hyes]
  · cases branch <;> simp [connectionFor, labelled, Connection.branch?, branchIndex, hyes, hno]

theorem Relabelled.agrees (h : Relabelled n n')
    (hnone : n.condition?.isSome → ∀ conn ∈ n.connections, conn.branch? = none) :
    n.Agrees n' := by
  cases h with
  | other => exact .refl n
  | @condition c yes no hc hyes hno =>
    have hmem : ∀ id, id ∈ (labelled yes no n.connections).map Connection.target ↔
        id ∈ n.connections.map Connection.target := fun id => by rw [targets_labelled]
    exact ⟨rfl, rfl, by simpa using hmem,
      connectionFor_labelled hyes hno (hnone (by rw [hc]; rfl))⟩

/-! ## Labels in any order -/

theorem agrees_reordered {connections : List Connection}
    (hlabel : ∀ conn ∈ n.connections, conn.branch? ≠ none)
    (honce : (n.connections.map Connection.branch?).Nodup)
    (hperm : n.connections.Perm connections) :
    n.Agrees { n with connections := connections } := by
  have hlabel' : ∀ conn ∈ connections, conn.branch? ≠ none := fun conn hconn =>
    hlabel conn (hperm.mem_iff.2 hconn)
  refine ⟨rfl, rfl, fun id => ?_, fun branch => ?_⟩
  · simp only [hperm.mem_iff]
  · rw [connectionFor_of_labelled hlabel, connectionFor_of_labelled hlabel',
      find?_key_perm hperm honce]

/-- **How a branch is told does not matter**: where no label of a condition names a branch, the
connections at the two positions may be labelled; and where every label of a node names a branch of
its own, its connections may be reordered. -/
theorem branch_marks_interchangeable (g : Graph) :
    (∀ g' : Graph,
        (∀ n ∈ g.nodes, n.condition?.isSome → ∀ conn ∈ n.connections, conn.branch? = none) →
        List.Forall₂ Relabelled g.nodes g'.nodes → ∀ a, g'.outcome a = g.outcome a) ∧
      ∀ before n after connections, g.nodes = before ++ n :: after →
        (∀ conn ∈ n.connections, conn.branch? ≠ none) →
        (n.connections.map Connection.branch?).Nodup → n.connections.Perm connections →
        ∀ a, (Graph.mk (before ++ { n with connections := connections } :: after)).outcome a =
          g.outcome a := by
  constructor
  · intro g' hnone hlabels
    refine outcome_of_agrees ?_
    have hboth := (List.forall₂_and_left g.nodes g'.nodes).2 ⟨hnone, hlabels⟩
    exact hboth.imp fun n n' hn => hn.2.agrees hn.1
  · intro before n after connections hnodes hlabel honce hperm
    refine outcome_of_agrees ?_
    rw [hnodes]
    refine List.rel_append (List.forall₂_same.2 fun m _ => .refl m) (.cons ?_ ?_)
    · exact agrees_reordered hlabel honce hperm
    · exact List.forall₂_same.2 fun m _ => .refl m

/-- The condition of `crosswise`, with its connections at the positions of their branches. -/
def straight (first second : Option String) : Graph :=
  ⟨{ crosswise.nodes[0] with connections := [⟨"call", first⟩, ⟨"wait", second⟩] } ::
    crosswise.nodes.tail⟩

/-- Labelling the two positions and exchanging the connections leads to `crosswise`. -/
theorem branch_marks_interchangeable_crosswise :
    (straight none none).outcome { Account.blank with band := some "late" } =
        ⟨"Escalate to legal", 9⟩ ∧
      (straight none none).outcome .blank = ⟨"End: closed", 1⟩ := by
  have hyes : Connection.branchOf " YES" = some true := by decide +kernel
  have hno : Connection.branchOf "no" = some false := by decide +kernel
  have hlabels : ∀ a, (straight " YES" "no").outcome a = (straight none none).outcome a :=
    (branch_marks_interchangeable _).1 _ (by decide +kernel)
      (.cons (.condition rfl hyes hno) (.cons (.other rfl) (.cons (.other rfl) .nil)))
  have horder : ∀ a, crosswise.outcome a = (straight " YES" "no").outcome a :=
    (branch_marks_interchangeable (straight " YES" "no")).2 [] (straight " YES" "no").nodes[0]
      crosswise.nodes.tail crosswise.nodes[0].connections rfl (by decide +kernel)
      (by decide +kernel) (.swap _ _ [])
  rw [← hlabels, ← hlabels, ← horder, ← horder]
  exact ⟨by decide +kernel, by decide +kernel⟩

end Graph

end Dunning
