import Dunning.Proofs.Graph.Editing

/-!
# Proofs/Graph/Connect — the last word on a target

Connecting a node to a target puts the connection last, in place of any to the same target.  So a
run of calls leaves of the connections that the node had those whose target no call has named, and
of its own those that no later call to the same target has replaced:

    before    a          b "yes"    c
    calls     d "yes"    b          d
    after     a          c          b          d

The order counts, for where labels name no branch the connections stand for branches by their
positions.
-/

namespace Dunning

/-- Of connections to the same target the last one, in the order of these. -/
def Connection.latest : List Connection → List Connection
  | [] => []
  | c :: later =>
    if c.target ∈ later.map Connection.target then latest later else c :: latest later

example : Connection.latest [⟨"d", some "yes"⟩, ⟨"b", none⟩, ⟨"d", none⟩] =
    [⟨"b", none⟩, ⟨"d", none⟩] := by decide

/-- The node after connections have been made from it one by one. -/
def Node.connected (calls : List Connection) (n : Node) : Node :=
  { n with connections :=
      (n.connections.filter fun c => c.target ∉ calls.map Connection.target) ++
        Connection.latest calls }

theorem Node.connected_nil (n : Node) : n.connected [] = n := by
  simp [connected, Connection.latest]

theorem Node.connected_singleton (n : Node) (c : Connection) :
    n.connected [c] =
      { n with connections := (Graph.dropTarget c.target n).connections ++ [c] } := by
  have hold : (n.connections.filter fun d => d.target ∉ [c].map Connection.target) =
      (Graph.dropTarget c.target n).connections :=
    List.filter_congr fun d _ => by by_cases hd : d.target = c.target <;> simp [hd]
  rw [connected, hold]
  rfl

/-- **A connection that has been made is one that was there before** to those made later: it stays
unless one of them has its target. -/
theorem Node.connected_connected (n : Node) (c : Connection) (later : List Connection) :
    (n.connected [c]).connected later = n.connected (c :: later) := by
  have hold : ((Graph.dropTarget c.target n).connections.filter fun d =>
      d.target ∉ later.map Connection.target) =
        n.connections.filter fun d => d.target ∉ (c :: later).map Connection.target := by
    rw [Graph.dropTarget, List.filter_filter]
    refine List.filter_congr fun d _ => ?_
    by_cases hd : d.target = c.target <;> simp [hd]
  rw [connected_singleton, connected, connected, List.filter_append, hold, List.append_assoc,
    Connection.latest]
  by_cases hc : c.target ∈ later.map Connection.target
  · rw [if_pos hc, List.filter_cons_of_neg (by simpa using hc), List.filter_nil, List.nil_append]
  · rw [if_neg hc, List.filter_cons_of_pos (by simpa using hc), List.filter_nil,
      List.singleton_append]

namespace Graph

variable {g g' : Graph} {source : String} {n : Node} {c : Connection} {calls : List Connection}
  {before after : List Node}

/-- Makes connections from one node, one by one, unless one of them is refused. -/
def connectAll (g : Graph) (source : String) (calls : List Connection) : Except EditFault Graph :=
  calls.foldlM (fun g c => g.connect source c.target c.label) g

/-! ## One call -/

theorem connect_of_splits (h : g.Splits before n after) (hc : c.target ∈ g.ids) :
    g.connect n.id c.target c.label = .ok ⟨before ++ n.connected [c] :: after⟩ := by
  rw [connect_of_mem hc, modify_of_splits h, Node.connected_singleton]

theorem connect_of_source_notMem (h : source ∉ g.ids) :
    ∃ fault, g.connect source c.target c.label = .error fault := by
  by_cases hc : c.target ∈ g.ids
  · exact ⟨_, by rw [connect_of_mem hc, modify_eq_error_iff.2 ⟨h, rfl⟩]⟩
  · exact ⟨_, connect_of_notMem hc⟩

/-! ## A run of calls -/

/-- **What a run of calls makes of a graph that has its source.** -/
theorem connectAll_eq_ok_iff (h : g.Splits before n after) :
    g.connectAll n.id calls = .ok g' ↔
      (∀ c ∈ calls, c.target ∈ g.ids) ∧ g' = ⟨before ++ n.connected calls :: after⟩ := by
  induction calls generalizing g n with
  | nil =>
    have hg : g = ⟨before ++ n :: after⟩ := by rw [← h.nodes]
    rw [Node.connected_nil, ← hg]
    simp [connectAll, pure, Except.pure, eq_comm]
  | cons c later ih =>
    rw [connectAll, List.foldlM_cons, List.forall_mem_cons]
    by_cases hc : c.target ∈ g.ids
    · have hids : ids ⟨before ++ n.connected [c] :: after⟩ = g.ids := by
        simp [ids, h.nodes, Node.connected]
      have hsplit : Splits ⟨before ++ n.connected [c] :: after⟩ before (n.connected [c]) after :=
        ⟨rfl, h.first⟩
      have hrest := ih hsplit
      rw [hids, Node.connected_connected] at hrest
      rw [connect_of_splits h hc, and_iff_right hc]
      exact hrest
    · rw [connect_of_notMem hc]
      exact iff_of_false (by simp [bind, Except.bind]) fun hall => hc hall.1.1

/-- Without its source a run of calls fails at the first. -/
theorem connectAll_of_source_notMem (h : source ∉ g.ids) :
    g.connectAll source calls = .ok g' ↔ calls = [] ∧ g' = g := by
  cases calls with
  | nil => simp [connectAll, pure, Except.pure, eq_comm]
  | cons c later =>
    obtain ⟨fault, hfault⟩ := connect_of_source_notMem (c := c) h
    rw [connectAll, List.foldlM_cons, hfault]
    simp [bind, Except.bind]

/-- **Connecting keeps the last word per target.**  A run of calls is refused unless it finds its
source and every target.  Then the first node of the source has kept, in order, its connections
whose target no call named, and after them has one connection for each target named, that of the
last call for it, in the order of these last calls; and nothing else has changed. -/
theorem connect_keeps_last_word (g : Graph) (source : String) (calls : List Connection) :
    ((∃ g', g.connectAll source calls = .ok g') ↔
        ∀ c ∈ calls, source ∈ g.ids ∧ c.target ∈ g.ids) ∧
      ∀ g', g.connectAll source calls = .ok g' →
        g'.ids = g.ids ∧ (source ∉ g.ids → g' = g) ∧
          ∀ before n after, g.Splits before n after → n.id = source →
            g'.nodes = before ++
              { n with connections :=
                  (n.connections.filter fun c => c.target ∉ calls.map Connection.target) ++
                    Connection.latest calls } :: after := by
  by_cases hs : source ∈ g.ids
  · obtain ⟨before, n, after, hsplit, rfl⟩ := exists_splits hs
    refine ⟨?_, fun g' h => ⟨?_, fun hno => absurd hs hno, ?_⟩⟩
    · simp [connectAll_eq_ok_iff hsplit, hs]
    · obtain ⟨-, rfl⟩ := (connectAll_eq_ok_iff hsplit).1 h
      simp [ids, hsplit.nodes, Node.connected]
    · intro before' n' after' hsplit' hid
      rw [← hid] at h
      obtain ⟨-, rfl⟩ := (connectAll_eq_ok_iff hsplit').1 h
      rfl
  · refine ⟨?_, fun g' h => ?_⟩
    · simp [connectAll_of_source_notMem hs, hs, List.eq_nil_iff_forall_not_mem]
    · obtain ⟨-, rfl⟩ := (connectAll_of_source_notMem hs).1 h
      refine ⟨rfl, fun _ => rfl, fun before n after hsplit hid => absurd ?_ hs⟩
      rw [← hid]
      exact id_mem_ids (by simp [hsplit.nodes])

/-- A condition with three connections, the nodes that these and another may lead to, and a second
node under the id of the condition. -/
def junction : Graph :=
  ⟨⟨"ask", none, .initial .condition, [⟨"a", none⟩, ⟨"b", some "yes"⟩, ⟨"c", none⟩]⟩ ::
    ["a", "b", "c", "d", "ask"].map fun id => ⟨id, none, .initial .ending, []⟩⟩

/-- One target is named twice, and one that was connected before loses its place and its label. -/
theorem connect_keeps_last_word_junction :
    ∃ g', junction.connectAll "ask" [⟨"d", some "yes"⟩, ⟨"b", none⟩, ⟨"d", none⟩] = .ok g' ∧
      g'.ids = junction.ids ∧
      g'.nodes = { junction.nodes[0] with connections :=
        [⟨"a", none⟩, ⟨"c", none⟩, ⟨"b", none⟩, ⟨"d", none⟩] } :: junction.nodes.tail := by
  obtain ⟨hok, hafter⟩ :=
    connect_keeps_last_word junction "ask" [⟨"d", some "yes"⟩, ⟨"b", none⟩, ⟨"d", none⟩]
  obtain ⟨g', h⟩ := hok.2 (by decide)
  obtain ⟨hids, -, hnodes⟩ := hafter g' h
  have hfirst : junction.Splits [] junction.nodes[0] junction.nodes.tail := ⟨rfl, by simp⟩
  exact ⟨g', h, hids, hnodes _ _ _ hfirst rfl⟩

end Graph

end Dunning
