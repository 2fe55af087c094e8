import Dunning.Proofs.Graph.Settled

/-!
# Proofs/Graph/Reload — a graph that is kept comes back settled

A document is loaded before it is read as a graph, so all its members are then met in the order of
their keys (`tidy`):

    toJson       id, type, position, data, connections
    tidy         connections, data, id, position, type

Every part of a node is written with all its fields, so reading it finds every field that the
writer has put there and no other.  Numbers come back settled, all else as it is
(`Payload.ofData_toJson`).  From the payloads the law climbs to nodes and graphs: what is written
of an accepted graph is accepted, comes back as the settled graph, and is written the same again
(`Graph.kept_graph_settles`).
-/

namespace Dunning

open Json Decimal

/-! ## Parts of a node -/

theorem Position.read_toJson (p : Position) (source : Source) :
    record.read source p.toJson.tidy.toTree = .ok p.settled := by
  have htidy : p.toJson.tidy = .object [("x", .ofFloat p.x), ("y", .ofFloat p.y)] := by
    simp only [toJson, tidy, tidyMembers, tidy_ofFloat]
    rfl
  rw [htidy, Record.read_object]
  simp only [memberTrees]
  rw [Record.fromMembers_cons rfl rfl (Shape.lenientNumber_ofFloat p.x source),
    Record.fromMembers_cons rfl rfl (Shape.lenientNumber_ofFloat p.y source),
    Record.fromMembers_nil rfl]
  rfl

/-- A connection as it is loaded. -/
theorem Connection.tidy_toJson (c : Connection) : c.toJson.tidy =
    .object ((c.label.map fun label => ("label", .string label)).toList ++
      [("targetId", .string c.target)]) := by
  obtain ⟨target, _ | label⟩ := c
  all_goals
    simp only [toJson, tidy, tidyMembers]
    rfl

theorem Connection.read_toJson (c : Connection) (source : Source) :
    record.read source c.toJson.tidy.toTree = .ok c := by
  rw [c.tidy_toJson, Record.read_object]
  obtain ⟨target, _ | label⟩ := c
  · simp only [Option.map, Option.toList, List.nil_append, memberTrees, toTree]
    rw [Record.fromMembers_cons (a := target) rfl rfl rfl, Record.fromMembers_nil rfl]
    rfl
  · simp only [Option.map, Option.toList, List.cons_append, List.nil_append, memberTrees, toTree]
    rw [Record.fromMembers_cons (a := some label) rfl rfl rfl,
      Record.fromMembers_cons (a := target) rfl rfl rfl, Record.fromMembers_nil rfl]

theorem Connection.list_toJson (cs : List Connection) (source : Source) :
    Shape.list record.read source (Json.array (cs.map fun c => c.toJson.tidy)).toTree = .ok cs := by
  have h : Shape.list record.read source (Json.array (cs.map fun c => c.toJson.tidy)).toTree =
      .ok (cs.map id) := list_map fun c _ => c.read_toJson source
  rw [h, List.map_id]

/-! ## Payloads -/

section Payloads

open Record Shape

theorem Payload.readAs_object {σ : Type} (r : Record σ) (members : List (String × Json)) :
    readAs r (.object members) =
      r.fromMembers .value .closed [] r.blank (memberTrees members) := rfl

theorem Condition.readAs_toJson {c : Condition} (h : c.Sound) :
    Payload.readAs record c.toJson.tidy = .ok c := by
  have htidy : c.toJson.tidy = .object [("field", .string c.subject.text),
      ("operator", .string c.comparison.text), ("title", .string c.title),
      ("value", c.literal.toJson)] := by
    simp only [toJson, tidy, tidyMembers, h.literal.toJson_regular.tidy_eq_self]
    rfl
  rw [htidy, Payload.readAs_object]
  simp only [memberTrees, toTree]
  rw [fromMembers_cons rfl rfl (lenientText_string c.subject.text .value),
    fromMembers_cons rfl rfl (lenientText_string c.comparison.text .value),
    fromMembers_cons rfl rfl (lenientText_string c.title .value),
    fromMembers_cons rfl rfl (h.literal.shape_toJson .value), fromMembers_nil rfl]
  dsimp only
  rw [h.subject, h.comparison]

theorem Timer.readAs_toJson (t : Timer) : Payload.readAs record t.toJson.tidy = .ok t.settled := by
  have htidy : t.toJson.tidy = .object [("businessHoursOnly", .bool t.businessHoursOnly),
      ("duration", .ofFloat t.duration), ("title", .string t.title), ("unit", .string t.unit)] := by
    simp only [toJson, tidy, tidyMembers, tidy_ofFloat]
    rfl
  rw [htidy, Payload.readAs_object]
  simp only [memberTrees, toTree]
  rw [fromMembers_cons rfl rfl (lenientFlag_bool t.businessHoursOnly .value),
    fromMembers_cons rfl rfl (lenientNumber_ofFloat t.duration .value),
    fromMembers_cons rfl rfl (lenientText_string t.title .value),
    fromMembers_cons rfl rfl (lenientText_string t.unit .value), fromMembers_nil rfl]
  rfl

theorem Escalation.readAs_toJson (e : Escalation) :
    Payload.readAs record e.toJson.tidy = .ok e.settled := by
  have htidy : e.toJson.tidy = .object [("escalationType", .string e.receiver),
      ("reason", .string e.reason), ("threshold", .ofFloat e.threshold),
      ("title", .string e.title)] := by
    simp only [toJson, tidy, tidyMembers, tidy_ofFloat]
    rfl
  rw [htidy, Payload.readAs_object]
  simp only [memberTrees, toTree]
  rw [fromMembers_cons rfl rfl (lenientText_string e.receiver .value),
    fromMembers_cons rfl rfl (lenientText_string e.reason .value),
    fromMembers_cons rfl rfl (lenientNumber_ofFloat e.threshold .value),
    fromMembers_cons rfl rfl (lenientText_string e.title .value), fromMembers_nil rfl]
  rfl

theorem Ending.readAs_toJson (e : Ending) : Payload.readAs record e.toJson.tidy = .ok e := by
  have htidy : e.toJson.tidy = .object [("outcome", .string e.outcome),
      ("reason", .string e.reason), ("title", .string e.title)] := by
    simp only [toJson, tidy, tidyMembers]
    rfl
  rw [htidy, Payload.readAs_object]
  simp only [memberTrees, toTree]
  rw [fromMembers_cons rfl rfl (lenientText_string e.outcome .value),
    fromMembers_cons rfl rfl (lenientText_string e.reason .value),
    fromMembers_cons rfl rfl (lenientText_string e.title .value), fromMembers_nil rfl]

/-- A schedule as it is loaded. -/
theorem Scheduling.tidy_toJson (s : Scheduling) : s.toJson.tidy =
    .object [("businessHoursOnly", .bool s.businessHoursOnly), ("delay", .ofFloat s.delay),
      ("unit", .string s.unit)] := by
  simp only [toJson, tidy, tidyMembers, tidy_ofFloat]
  rfl

theorem Scheduling.optional_toJson (s : Scheduling) (source : Source) :
    optional record.read source s.toJson.tidy.toTree = .ok (some s.settled) := by
  rw [s.tidy_toJson]
  refine optional_eq nofun ?_
  rw [read_object]
  simp only [memberTrees, toTree]
  rw [fromMembers_cons rfl rfl (lenientFlag_bool s.businessHoursOnly source),
    fromMembers_cons rfl rfl (lenientNumber_ofFloat s.delay source),
    fromMembers_cons rfl rfl (lenientText_string s.unit source), fromMembers_nil rfl]
  rfl

theorem Urgency.ofText_text (u : Urgency) : ofText u.text = u := by
  have h : ∀ u ∈ [low, medium, high, unspecified], ofText u.text = u := by decide +kernel
  cases u <;> exact h _ (by decide)

/-- An action as it is loaded. -/
theorem Action.tidy_toJson (a : Action) : a.toJson.tidy =
    .object ([("actionType", .string a.channel), ("priority", .string a.urgency.text)] ++
      (a.scheduling.map fun s => ("scheduling", s.toJson.tidy)).toList ++
      (a.template.map fun template => ("template", .string template)).toList ++
      [("title", .string a.title)]) := by
  obtain ⟨title, channel, urgency, _ | template, _ | scheduling⟩ := a
  all_goals
    simp only [toJson, List.append_nil, List.cons_append, List.nil_append, tidy, tidyMembers]
    rfl

theorem Action.readAs_toJson (a : Action) :
    Payload.readAs record a.toJson.tidy = .ok a.settled := by
  rw [a.tidy_toJson, Payload.readAs_object]
  obtain ⟨title, channel, urgency, template, scheduling⟩ := a
  -- the members before the optional ones, and the title behind them
  have hfront : ∀ members, record.fromMembers .value .closed [] record.blank
      ((.name "actionType", .string channel) :: (.name "priority", .string urgency.text) ::
        members) = record.fromMembers .value .closed ["priority", "actionType"]
          ⟨"", channel, urgency, none, none⟩ members := fun members => by
    rw [fromMembers_cons rfl rfl (lenientText_string channel .value),
      fromMembers_cons rfl rfl (lenientText_string urgency.text .value), urgency.ofText_text]
    rfl
  cases scheduling with
  | none =>
    cases template with
    | none =>
      simp only [Option.map, Option.toList, List.append_nil, List.cons_append, List.nil_append,
        memberTrees, toTree]
      rw [hfront, fromMembers_cons rfl rfl (lenientText_string title .value), fromMembers_nil rfl]
      rfl
    | some template =>
      simp only [Option.map, Option.toList, List.append_nil, List.cons_append, List.nil_append,
        memberTrees, toTree]
      rw [hfront, fromMembers_cons (a := some template) rfl rfl rfl,
        fromMembers_cons rfl rfl (lenientText_string title .value), fromMembers_nil rfl]
      rfl
  | some s =>
    cases template with
    | none =>
      simp only [Option.map, Option.toList, List.append_nil, List.cons_append, List.nil_append,
        memberTrees, toTree]
      rw [hfront, fromMembers_cons rfl rfl (s.optional_toJson .value),
        fromMembers_cons rfl rfl (lenientText_string title .value), fromMembers_nil rfl]
      rfl
    | some template =>
      simp only [Option.map, Option.toList, List.cons_append, List.nil_append, memberTrees, toTree]
      rw [hfront, fromMembers_cons rfl rfl (s.optional_toJson .value),
        fromMembers_cons (a := some template) rfl rfl rfl,
        fromMembers_cons rfl rfl (lenientText_string title .value), fromMembers_nil rfl]
      rfl

/-- **A sound payload comes back settled.** -/
theorem Payload.ofData_toJson {p : Payload} (h : p.Sound) :
    ofData p.typeName p.toJson.tidy = .ok p.settled := by
  cases p with
  | condition c =>
    show (readAs Condition.record c.toJson.tidy).map Payload.condition = _
    rw [Condition.readAs_toJson h]
    rfl
  | action a =>
    show (readAs Action.record a.toJson.tidy).map Payload.action = _
    rw [a.readAs_toJson]
    rfl
  | timer t =>
    show (readAs Timer.record t.toJson.tidy).map Payload.timer = _
    rw [t.readAs_toJson]
    rfl
  | escalation e =>
    show (readAs Escalation.record e.toJson.tidy).map Payload.escalation = _
    rw [e.readAs_toJson]
    rfl
  | ending e =>
    show (readAs Ending.record e.toJson.tidy).map Payload.ending = _
    rw [e.readAs_toJson]
    rfl
  | unknown type data =>
    obtain ⟨hunknown, hdata⟩ := h
    show ofData type data.tidy = _
    rw [hdata.tidy_eq_self, ofData, hunknown]
    rfl

end Payloads

/-! ## Nodes and graphs -/

namespace Node

/-- A node as it is loaded. -/
theorem tidy_toJson (n : Node) : n.toJson.tidy =
    .object ([("connections", .array (n.connections.map fun c => c.toJson.tidy)),
        ("data", n.payload.toJson.tidy), ("id", .string n.id)] ++
      (n.position.map fun position => ("position", position.toJson.tidy)).toList ++
      [("type", .string n.payload.typeName)]) := by
  have hconnections : tidyItems (n.connections.map Connection.toJson) =
      n.connections.map fun c => c.toJson.tidy := by
    rw [tidyItems_eq_map, List.map_map]
    rfl
  obtain ⟨id, _ | position, payload, connections⟩ := n
  all_goals
    simp only [toJson, List.append_nil, List.cons_append, List.nil_append, tidy, tidyMembers,
      hconnections]
    rfl

/-- The shell of a node that was written. -/
theorem readShell_toJson (n : Node) (source : Source) :
    Shell.record.read source n.toJson.tidy.toTree =
      .ok ⟨n.id, n.payload.typeName, n.position.map Position.settled, n.payload.toJson.tidy,
        n.connections⟩ := by
  have hconnections := Connection.list_toJson n.connections source
  have hdata : Shape.any source n.payload.toJson.tidy.toTree = .ok n.payload.toJson.tidy := by
    rw [Shape.any_tidy, tidy_tidy]
  rw [n.tidy_toJson, Record.read_object]
  obtain ⟨id, position, payload, connections⟩ := n
  cases position with
  | none =>
    simp only [Option.map, Option.toList, List.append_nil, List.cons_append, List.nil_append,
      memberTrees]
    rw [Record.fromMembers_cons rfl rfl hconnections, Record.fromMembers_cons rfl rfl hdata,
      Record.fromMembers_cons (a := id) rfl rfl rfl,
      Record.fromMembers_cons (a := payload.typeName) rfl rfl rfl, Record.fromMembers_nil rfl]
    rfl
  | some position =>
    have hposition : Shape.optional Position.record.read source position.toJson.tidy.toTree =
        .ok (some position.settled) :=
      optional_eq nofun (position.read_toJson source)
    simp only [Option.map, Option.toList, List.cons_append, List.nil_append, memberTrees]
    rw [Record.fromMembers_cons rfl rfl hconnections, Record.fromMembers_cons rfl rfl hdata,
      Record.fromMembers_cons (a := id) rfl rfl rfl, Record.fromMembers_cons rfl rfl hposition,
      Record.fromMembers_cons (a := payload.typeName) rfl rfl rfl, Record.fromMembers_nil rfl]

/-- A node with a sound payload comes back settled. -/
theorem shape_toJson {n : Node} (h : n.payload.Sound) (source : Source) :
    shape source n.toJson.tidy.toTree = .ok n.settled := by
  rw [shape, n.readShell_toJson source]
  simp only [Bind.bind, Except.bind, ofShell, Payload.ofData_toJson h, Except.mapError]
  rfl

end Node

namespace Graph

/-- A graph as it is loaded. -/
theorem tidy_toJson (g : Graph) :
    g.toJson.tidy = .object [("nodes", .array (g.nodes.map fun n => n.toJson.tidy))] := by
  simp only [toJson, tidy, tidyMembers, tidyItems_eq_map, List.map_map]
  rfl

/-- A sound graph comes back settled. -/
theorem shape_toJson {g : Graph} (h : ∀ n ∈ g.nodes, n.payload.Sound) (source : Source) :
    shape source g.toJson.toTree = .ok g.settled := by
  rw [shape, Shape.any_tidy, g.tidy_toJson]
  show (Shape.list Node.shape .value
    (Json.array (g.nodes.map fun n => n.toJson.tidy)).toTree).map Graph.mk = _
  rw [list_map fun n hn => Node.shape_toJson (h n hn) .value]
  rfl

/-- **A graph that is kept comes back settled.**  The value that an accepted graph is written as is
read as the graph with NaN for every infinity, and what is written of that is the same value again.
Here no text is printed or parsed: the source only fixes how a fault would be worded.  Nodes of
unknown type keep type and data; a condition is written under one spelling of its attribute and of
its comparison, which names them again. -/
theorem kept_graph_settles {g : Graph} (h : g.Accepted) :
    (∀ source, shape source g.toJson.toTree = .ok g.settled) ∧ g.settled.toJson = g.toJson ∧
      (∀ n ∈ g.nodes, ∀ type data, n.payload = .unknown type data →
        n.settled.payload = .unknown type data) ∧
      ∀ n ∈ g.nodes, ∀ c, n.payload = .condition c →
        n.settled.payload = .condition c ∧ Attribute.ofText c.subject.text = c.subject ∧
          Comparison.ofText c.comparison.text = c.comparison := by
  refine ⟨shape_toJson h.sound, g.settled_toJson, fun n _ type data hp => ?_,
    fun n hn c hp => ?_⟩
  · show n.payload.settled = _
    rw [hp]
    rfl
  · have hc : c.Sound := by
      have := h.sound n hn
      rw [hp] at this
      exact this
    refine ⟨?_, hc.subject, hc.comparison⟩
    show n.payload.settled = _
    rw [hp]
    rfl

/-- A document with a wait that never ends, an attribute under another name, and a node of a type of
its own. -/
def everlastingDocument : Json :=
  .object [("blocks", .array [
    .object [("data", .object [("duration", .string "inf"), ("title", .integer 7),
        ("unit", .string "days")]),
      ("id", .string "wait"), ("position", .object [("x", .integer 3)]),
      ("type", .string "timer")],
    .object [("connections", .array [.object [("targetId", .string "hook")]]),
      ("data", .object [("field", .string " band "), ("operator", .string "in_list"),
        ("value", .array [.integer 1, .null])]),
      ("id", .string "late?"), ("type", .string "condition")],
    .object [("data", .object [("retries", .integer 3)]), ("id", .string "hook"),
      ("type", .string "webhook")]])]

/-- The graph of that document. -/
def everlasting : Graph :=
  ⟨[⟨"wait", some ⟨3, 0⟩, .timer ⟨"7", 1 / 0, "days", false⟩, []⟩,
    ⟨"late?", none, .condition ⟨"", .band, .inList, .list [.number 1, .empty]⟩, [⟨"hook", none⟩]⟩,
    ⟨"hook", none, .unknown "webhook" (.object [("retries", .integer 3)]), []⟩]⟩

/-- A result that is there. -/
theorem eq_ok_of_toOption {ε α : Type} {x : Except ε α} {a : α} (h : x.toOption = some a) :
    x = .ok a := by
  cases x with
  | error _ => cases h
  | ok _ => exact congrArg Except.ok (Option.some.inj h)

theorem everlasting_accepted : everlasting.Accepted :=
  .value (j := everlastingDocument)
    (by
      simp only [everlastingDocument, regular_object_iff, regular_array_iff, regular_integer_iff,
        regular_string, regular_null, List.forall_mem_cons, List.not_mem_nil, false_imp_iff,
        implies_true, Sorted, Fits]
      decide +kernel)
    (eq_ok_of_toOption (by decide +kernel))

/-- The wait that never ends comes back as one of no length. -/
theorem kept_graph_settles_everlasting :
    shape .value everlasting.toJson.toTree = .ok everlasting.settled ∧
      everlasting.settled.node? "wait" =
        some ⟨"wait", some ⟨3, 0⟩, .timer ⟨"7", nan, "days", false⟩, []⟩ :=
  ⟨(kept_graph_settles everlasting_accepted).1 .value, by decide +kernel⟩

end Graph

end Dunning
