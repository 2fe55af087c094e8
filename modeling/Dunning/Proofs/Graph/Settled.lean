import Dunning.Graph.Document
import Dunning.Proofs.Condition.Reading

/-!
# Proofs/Graph/Settled — what a graph comes back as

A strategy is kept as JSON, and JSON has no text for an infinity.  `Graph.settled` is what a graph
becomes when it is kept and read again: each infinite duration, threshold, delay and coordinate
becomes NaN, all else stays.

A graph is `Accepted` if it was read from a value or from a text.  Then it is `Sound`: its
conditions have settled on one spelling and on finite literals, and a node of unknown type has
regular data.

    document  ──ofJson──▸  g  ──toJson──▸  document'  ──ofJson──▸  g.settled
-/

namespace Dunning

open Json Decimal

/-! ## Settling -/

/-- A place as it comes back. -/
def Position.settled (p : Position) : Position :=
  ⟨settle p.x, settle p.y⟩

/-- A schedule as it comes back. -/
def Scheduling.settled (s : Scheduling) : Scheduling :=
  { s with delay := settle s.delay }

/-- An action as it comes back. -/
def Action.settled (a : Action) : Action :=
  { a with scheduling := a.scheduling.map Scheduling.settled }

/-- A timer as it comes back. -/
def Timer.settled (t : Timer) : Timer :=
  { t with duration := settle t.duration }

/-- An escalation as it comes back. -/
def Escalation.settled (e : Escalation) : Escalation :=
  { e with threshold := settle e.threshold }

/-- A payload as it comes back. -/
def Payload.settled : Payload → Payload
  | .condition c => .condition c
  | .action a => .action a.settled
  | .timer t => .timer t.settled
  | .escalation e => .escalation e.settled
  | .ending e => .ending e
  | .unknown type data => .unknown type data

/-- A node as it comes back. -/
def Node.settled (n : Node) : Node :=
  { n with position := n.position.map Position.settled, payload := n.payload.settled }

/-- A graph as it comes back. -/
def Graph.settled (g : Graph) : Graph :=
  ⟨g.nodes.map Node.settled⟩

/-- Settling leaves the type of a node alone. -/
@[simp] theorem Payload.settled_typeName (p : Payload) : p.settled.typeName = p.typeName := by
  cases p <;> rfl

/-! ## Settling changes nothing that is written -/

theorem Position.settled_toJson (p : Position) : p.settled.toJson = p.toJson := by
  simp only [toJson, settled, ofFloat_settle]

theorem Scheduling.settled_toJson (s : Scheduling) : s.settled.toJson = s.toJson := by
  simp only [toJson, settled, ofFloat_settle]

theorem Payload.settled_toJson (p : Payload) : p.settled.toJson = p.toJson := by
  cases p with
  | condition _ | ending _ | unknown _ _ => rfl
  | action a =>
    obtain ⟨title, channel, urgency, template, _ | scheduling⟩ := a
    · rfl
    · simp only [settled, toJson, Action.toJson, Action.settled, Option.map,
        Scheduling.settled_toJson]
  | timer t => simp only [settled, toJson, Timer.toJson, Timer.settled, ofFloat_settle]
  | escalation e =>
    simp only [settled, toJson, Escalation.toJson, Escalation.settled, ofFloat_settle]

theorem Node.settled_toJson (n : Node) : n.settled.toJson = n.toJson := by
  obtain ⟨id, _ | position, payload, connections⟩ := n
  · simp only [toJson, settled, Option.map, Payload.settled_toJson, Payload.settled_typeName]
  · simp only [toJson, settled, Option.map, Payload.settled_toJson, Payload.settled_typeName,
      Position.settled_toJson]

/-- **A graph and what it comes back as are written alike.** -/
theorem Graph.settled_toJson (g : Graph) : g.settled.toJson = g.toJson := by
  simp only [toJson, settled, List.map_map]
  have hnodes : g.nodes.map (Node.toJson ∘ Node.settled) = g.nodes.map Node.toJson :=
    List.map_congr_left fun n _ => n.settled_toJson
  rw [hnodes]

/-! ## What was read -/

/-- A graph that was read, from a value or from a text. -/
inductive Graph.Accepted (g : Graph) : Prop
  | value {j : Json} (hj : j.Regular) (h : Graph.ofJson j = .ok g)
  | text {bytes : List UInt8} (h : Graph.ofDocument bytes = .ok g)

/-- A condition is sound; a type is unknown only if it is no known one, and its data is regular. -/
def Payload.Sound : Payload → Prop
  | .condition c => c.Sound
  | .unknown type data => NodeType.choices.lookup type = none ∧ data.Regular
  | .action _ | .timer _ | .escalation _ | .ending _ => True

theorem Payload.blank_or_read {σ : Type} {r : Record σ} {data : Json} {s : σ}
    (h : readAs r data = .ok s) : s = r.blank ∨ r.read .value data.toTree = .ok s := by
  unfold readAs at h
  split at h
  · exact .inl (Except.ok.inj h).symm
  · exact .inr h

theorem Payload.sound_of_ofData {type : String} {data : Json} {p : Payload} (hdata : data.Regular)
    (h : ofData type data = .ok p) : p.Sound := by
  unfold ofData at h
  split at h
  · cases hc : readAs Condition.record data with
    | error _ => rw [hc] at h; cases h
    | ok c =>
      rw [hc] at h
      cases h
      rcases blank_or_read hc with rfl | hread
      · exact Condition.sound_blank
      · exact Condition.sound_of_read hdata.toTree hread
  · cases ha : readAs Action.record data <;> rw [ha] at h <;> cases h
    exact trivial
  · cases ht : readAs Timer.record data <;> rw [ht] at h <;> cases h
    exact trivial
  · cases he : readAs Escalation.record data <;> rw [he] at h <;> cases h
    exact trivial
  · cases he : readAs Ending.record data <;> rw [he] at h <;> cases h
    exact trivial
  · next hunknown =>
    cases h
    exact ⟨hunknown, hdata⟩

namespace Node

/-- The data of a shell that was read is regular. -/
theorem Shell.data_regular {source : Source} {t : Tree} {s : Shell} (ht : t.Regular)
    (h : Shell.record.read source t = .ok s) : s.data.Regular := by
  refine Record.read_keeps (p := fun s => s.data.Regular) .null ?_ ht h
  simp only [Shell.record, List.forall_mem_cons]
  refine ⟨?_, ?_, ?_, ?_, ?_, fun _ hf => absurd hf List.not_mem_nil⟩
  · exact Field.make_keeps fun _ _ _ _ _ _ hs => hs
  · exact Field.make_keeps fun _ _ _ _ _ _ hs => hs
  · exact Field.make_keeps fun _ _ _ _ _ _ hs => hs
  · exact Field.make_keeps fun _ _ _ _ ht hj _ => Shape.regular_of_any ht hj
  · exact Field.make_keeps fun _ _ _ _ _ _ hs => hs

theorem sound_of_shape {source : Source} {t : Tree} {n : Node} (ht : t.Regular)
    (h : shape source t = .ok n) : n.payload.Sound := by
  rw [shape] at h
  cases hs : Shell.record.read source t with
  | error _ => rw [hs] at h; cases h
  | ok s =>
    rw [hs] at h
    simp only [Bind.bind, Except.bind, ofShell] at h
    cases hp : Payload.ofData s.type s.data with
    | error _ => rw [hp] at h; cases h
    | ok p =>
      rw [hp] at h
      cases h
      exact Payload.sound_of_ofData (Shell.data_regular ht hs) hp

end Node

namespace Graph

theorem sound_of_ofNodes {j : Json} {g : Graph} (hj : j.Regular) (h : ofNodes j = .ok g) :
    ∀ n ∈ g.nodes, n.payload.Sound := by
  rw [ofNodes] at h
  cases hnodes : Shape.list Node.shape .value j.toTree with
  | error _ => rw [hnodes] at h; cases h
  | ok nodes =>
    rw [hnodes] at h
    cases h
    exact forall_mem_of_list hj.toTree (fun _ _ ht hn => Node.sound_of_shape ht hn) hnodes

theorem sound_of_ofJson {j : Json} {g : Graph} (hj : j.Regular) (h : ofJson j = .ok g) :
    ∀ n ∈ g.nodes, n.payload.Sound := by
  unfold ofJson at h
  split at h
  · exact sound_of_ofNodes hj h
  · split at h
    · next nodes hnodes => exact sound_of_ofNodes (hj.get? hnodes) h
    · split at h
      · next nodes hnodes => exact sound_of_ofNodes (hj.get? hnodes) h
      · cases h
  · cases h

/-- A text that is read as a graph holds a value that is read as the graph. -/
theorem exists_value_of_ofDocument {bytes : List UInt8} {g : Graph}
    (h : ofDocument bytes = .ok g) : ∃ j : Json, j.Regular ∧ ofJson j = .ok g := by
  have ht := parse_regular (Text.Utf8.glyphs bytes)
  simp only [ofDocument, shape] at h
  cases hj : Shape.any .text (Document.parse (Text.Utf8.glyphs bytes)).tree with
  | error _ => rw [hj] at h; cases h
  | ok j =>
    rw [hj] at h
    simp only [Bind.bind, Except.bind] at h
    cases hg : ofJson j with
    | error _ => rw [hg] at h; cases h
    | ok g' =>
      rw [hg] at h
      simp only [Document.finish] at h
      split at h
      · cases h
      · cases h
        exact ⟨j, Shape.regular_of_any ht hj, hg⟩

/-- **An accepted graph is sound.** -/
theorem Accepted.sound {g : Graph} (h : g.Accepted) : ∀ n ∈ g.nodes, n.payload.Sound := by
  cases h with
  | value hj h => exact sound_of_ofJson hj h
  | text h =>
    obtain ⟨j, hj, hg⟩ := exists_value_of_ofDocument h
    exact sound_of_ofJson hj hg

end Graph

end Dunning
