import Dunning.Failure
import Dunning.Proofs.Graph.Settled
import Dunning.Proofs.Json.Acceptance

/-!
# Proofs/Graph/Forms — which forms are accepted

The payload of a node comes from a form, and forms are kept half filled.  Most of a form is read
leniently; strict are only

    condition    value                   numbers, texts, nulls and lists of these
    action       template                a text, or nothing
                 scheduling              an object, or up to three items, or nothing

A form is accepted just if its strict parts fit (`Payload.accepted_iff`).  A list of nodes is read
shell by shell, and the first shell whose payload is refused gives the fault its id
(`Node.first_refused`); a graph is accepted just if all its forms are
(`Graph.forms_accepted_iff`).
-/

namespace Dunning

open Json

/-! ## Literals -/

/-- Built from numbers, texts and nulls by lists alone. -/
inductive Json.Plain : Json → Prop
  | null : Plain .null
  | integer (n : Int) : Plain (.integer n)
  | float (x : Float) : Plain (.float x)
  | string (s : String) : Plain (.string s)
  | array {items : List Json} (h : ∀ item ∈ items, Plain item) : Plain (.array items)

theorem Json.plain_array_iff {items : List Json} :
    (array items).Plain ↔ ∀ item ∈ items, item.Plain :=
  ⟨fun | .array h => h, .array⟩

namespace Literal

mutual

theorem ofJson?_isSome_iff : (j : Json) → ((ofJson? j).isSome ↔ j.Plain)
  | .null => iff_of_true rfl .null
  | .bool _ | .object _ => iff_of_false nofun nofun
  | .integer n => iff_of_true rfl (.integer n)
  | .float x => iff_of_true rfl (.float x)
  | .string s => iff_of_true rfl (.string s)
  | .array items => by
    rw [ofJson?, Option.isSome_map, plain_array_iff]
    exact ofItems?_isSome_iff items

theorem ofItems?_isSome_iff : (items : List Json) →
    ((ofItems? items).isSome ↔ ∀ item ∈ items, item.Plain)
  | [] => iff_of_true rfl fun _ h => absurd h List.not_mem_nil
  | item :: items => by
    rw [List.forall_mem_cons, ← ofJson?_isSome_iff item, ← ofItems?_isSome_iff items, ofItems?]
    cases ofJson? item <;> cases ofItems? items <;> simp

end

theorem shape_judges : shape.Judges := fun j => by
  rw [shape, Shape.any_tidy]
  simp only [Bind.bind, Except.bind]
  cases ofJson? j.tidy with
  | none => exact .mismatch _
  | some literal => exact .ok literal

theorem shape_accepts_iff {j : Json} (hj : j.Regular) : shape.Accepts j ↔ j.Plain := by
  rw [← ofJson?_isSome_iff, Shape.Accepts, shape, Shape.any_toTree hj]
  cases h : ofJson? j <;> simp [Bind.bind, Except.bind, h, Shape.mismatch]

end Literal

/-! ## The records of forms -/

theorem Scheduling.record_lenient : record.Lenient where
  fields := by simp [record]
  names := by decide

theorem Timer.record_lenient : record.Lenient where
  fields := by simp [record]
  names := by decide

theorem Escalation.record_lenient : record.Lenient where
  fields := by simp [record]
  names := by decide

theorem Ending.record_lenient : record.Lenient where
  fields := by simp [record]
  names := by decide

theorem Condition.record_form : record.Form where
  fields := by
    simp [record, Field.text_lenient.inForm, Field.defaulted_inForm Literal.shape_judges]
  names := by decide

theorem Action.record_form : record.Form where
  fields := by
    simp [record, Field.text_lenient.inForm,
      Field.defaulted_inForm (Shape.optional_judges Shape.string_judges),
      Field.defaulted_inForm (Shape.optional_judges Scheduling.record_lenient.form.judges)]
  names := by decide

theorem Node.Shell.record_plain : record.Plain where
  fields := by simp [record, Field.needed, Field.defaulted]
  names := by decide

/-! ## Payloads -/

theorem NodeType.lookup_eq_some_iff {type : String} {t : NodeType} :
    choices.lookup type = some t ↔ type = t.label := by
  constructor
  · intro h
    obtain ⟨before, after, heq, -⟩ := List.lookup_eq_some_iff.mp h
    have hmem : (type, t) ∈ choices := heq ▸ by simp
    obtain ⟨t', -, hpair⟩ := List.mem_map.mp hmem
    obtain ⟨rfl, rfl⟩ := Prod.mk.inj hpair
    rfl
  · rintro rfl
    cases t <;> decide

namespace Payload

/-- What a form leaves: an object, or nothing. -/
def IsForm (data : Json) : Prop :=
  data = .null ∨ ∃ members, data = .object members

/-- The strict parts of a form fit: the value of a condition, and the template and the schedule of
an action. -/
def StrictPartsFit (type : String) (data : Json) : Prop :=
  (type = "condition" → ∀ value, data.get? "value" = some value → value.Plain) ∧
    (type = "action" →
      (∀ template, data.get? "template" = some template →
        template = .null ∨ ∃ s, template = .string s) ∧
      ∀ scheduling, data.get? "scheduling" = some scheduling →
        scheduling = .null ∨ (∃ members, scheduling = .object members) ∨
          ∃ items, scheduling = .array items ∧ items.length ≤ 3)

section Records

variable {σ : Type} {r : Record σ} {data : Json}

theorem readAs_judged (hr : r.Form) (data : Json) : Judged (readAs r data) := by
  unfold readAs
  split
  · exact .ok r.blank
  · exact hr.judges data

theorem readAs_iff (hr : r.Form) (hdata : data.Regular) (hform : IsForm data) :
    (∃ s, readAs r data = .ok s) ↔
      ∀ f ∈ r.fields, ∀ item, data.get? f.name = some item → f.Accepts item := by
  obtain rfl | ⟨members, rfl⟩ := hform
  · exact iff_of_true ⟨r.blank, rfl⟩ fun _ _ _ => nofun
  · exact hr.read_object_iff (regular_object_iff.mp hdata).1

theorem readAs_lenient (hr : r.Lenient) (hdata : data.Regular) (hform : IsForm data) :
    ∃ s, readAs r data = .ok s :=
  (readAs_iff hr.form hdata hform).mpr fun f hf item _ => (hr.fields f hf).accepts_all item

end Records

/-- A payload is read, or something in it does not fit. -/
theorem ofData_judged (type : String) (data : Json) : Judged (ofData type data) := by
  unfold ofData
  split
  · exact (readAs_judged Condition.record_form data).map _
  · exact (readAs_judged Action.record_form data).map _
  · exact (readAs_judged Timer.record_lenient.form data).map _
  · exact (readAs_judged Escalation.record_lenient.form data).map _
  · exact (readAs_judged Ending.record_lenient.form data).map _
  · exact .ok _

theorem ofData_unknown {type : String} (h : ∀ t : NodeType, type ≠ t.label) (data : Json) :
    ofData type data = .ok (.unknown type data) := by
  have hnone : NodeType.choices.lookup type = none :=
    Option.eq_none_iff_forall_ne_some.mpr fun t ht => h t (NodeType.lookup_eq_some_iff.mp ht)
  rw [ofData, hnone]

theorem condition_iff {data : Json} (hdata : data.Regular) (hform : IsForm data) :
    (∃ c, readAs Condition.record data = .ok c) ↔
      ∀ value, data.get? "value" = some value → value.Plain := by
  rw [readAs_iff Condition.record_form hdata hform]
  simp only [Condition.record, List.forall_mem_cons, Field.text_lenient.accepts_all,
    Field.defaulted_name, implies_true, true_and, List.not_mem_nil, false_implies, and_true]
  refine forall₂_congr fun value hvalue => ?_
  exact (Field.make_accepts_iff Condition.blank).trans
    (Literal.shape_accepts_iff (hdata.get? hvalue))

theorem action_iff {data : Json} (hdata : data.Regular) (hform : IsForm data) :
    (∃ a, readAs Action.record data = .ok a) ↔
      (∀ template, data.get? "template" = some template →
        template = .null ∨ ∃ s, template = .string s) ∧
      ∀ scheduling, data.get? "scheduling" = some scheduling →
        scheduling = .null ∨ (∃ members, scheduling = .object members) ∨
          ∃ items, scheduling = .array items ∧ items.length ≤ 3 := by
  rw [readAs_iff Action.record_form hdata hform]
  simp only [Action.record, List.forall_mem_cons, Field.text_lenient.accepts_all,
    Field.defaulted_name, implies_true, true_and, List.not_mem_nil, false_implies, and_true]
  refine and_congr (forall₂_congr fun template _ => ?_)
    (forall₂_congr fun scheduling hscheduling => ?_)
  · exact (Field.make_accepts_iff Action.record.blank).trans
      (Shape.optional_accepts_iff.trans (or_congr_right Shape.string_accepts_iff))
  · have haccepts := Scheduling.record_lenient.accepts_iff (hdata.get? hscheduling)
    exact (Field.make_accepts_iff Action.record.blank).trans
      (Shape.optional_accepts_iff.trans (or_congr_right haccepts))

theorem strictPartsFit_of_ne {type : String} {data : Json} (hcondition : type ≠ "condition")
    (haction : type ≠ "action") : StrictPartsFit type data :=
  ⟨fun h => absurd h hcondition, fun h => absurd h haction⟩

/-- **A form is accepted just if its strict parts fit.** -/
theorem accepted_iff {type : String} {data : Json} (hdata : data.Regular) (hform : IsForm data) :
    (∃ p, ofData type data = .ok p) ↔ StrictPartsFit type data := by
  cases htype : NodeType.choices.lookup type with
  | none =>
    have hne : ∀ t : NodeType, type ≠ t.label := fun t ht => by
      rw [NodeType.lookup_eq_some_iff.mpr ht] at htype
      cases htype
    rw [ofData_unknown hne]
    exact iff_of_true ⟨_, rfl⟩ (strictPartsFit_of_ne (hne .condition) (hne .action))
  | some t =>
    rw [ofData, htype]
    obtain rfl := NodeType.lookup_eq_some_iff.mp htype
    cases t with
    | condition =>
      refine exists_map_eq_ok.trans ((condition_iff hdata hform).trans ?_)
      exact ⟨fun h => ⟨fun _ => h, fun h => absurd h (by decide)⟩, fun h => h.1 rfl⟩
    | action =>
      refine exists_map_eq_ok.trans ((action_iff hdata hform).trans ?_)
      exact ⟨fun h => ⟨fun h => absurd h (by decide), fun _ => h⟩, fun h => h.2 rfl⟩
    | timer =>
      exact iff_of_true (exists_map_eq_ok.mpr (readAs_lenient Timer.record_lenient hdata hform))
        (strictPartsFit_of_ne (by decide) (by decide))
    | escalation =>
      exact iff_of_true
        (exists_map_eq_ok.mpr (readAs_lenient Escalation.record_lenient hdata hform))
        (strictPartsFit_of_ne (by decide) (by decide))
    | ending =>
      exact iff_of_true (exists_map_eq_ok.mpr (readAs_lenient Ending.record_lenient hdata hform))
        (strictPartsFit_of_ne (by decide) (by decide))

end Payload

/-! ## Shells -/

namespace Node

/-- An object describes a shell: `id` and `type` are strings, `position` and `connections` can be
read or are left out, and `data` may be anything. -/
structure Shell.Describes (item : Json) (s : Shell) : Prop where
  id : item.get? "id" = some (.string s.id)
  type : item.get? "type" = some (.string s.type)
  position : (Shape.optional Position.record.read).memberOf item "position" none = .ok s.position
  data : (item.get? "data").getD .null = s.data
  connections :
    (Shape.list Connection.record.read).memberOf item "connections" [] = .ok s.connections

/-- Each part of a shell is what its own field puts there. -/
theorem Shell.record_shows :
    record.Shows "id" Shape.string Shell.id ∧ record.Shows "type" Shape.string Shell.type ∧
      record.Shows "position" (Shape.optional Position.record.read) Shell.position ∧
      record.Shows "data" Shape.any Shell.data ∧
      record.Shows "connections" (Shape.list Connection.record.read) Shell.connections := by
  refine ⟨⟨?_, ?_⟩, ⟨?_, ?_⟩, ⟨?_, ?_⟩, ⟨?_, ?_⟩, ⟨?_, ?_⟩⟩ <;>
    simp [record, Field.needed, Field.defaulted]

namespace Shell

variable {members : List (String × Json)} {item : Json} {s s' : Shell}

theorem describes_of_read (h : (Json.object members).Regular)
    (hread : record.read .value (Json.object members).toTree = .ok s) :
    Describes (.object members) s := by
  have hsorted := (regular_object_iff.mp h).1
  have hthere := (record_plain.read_object_iff hsorted).mp ⟨s, hread⟩
  simp only [record, List.forall_mem_cons] at hthere
  obtain ⟨⟨-, hidThere⟩, ⟨-, htypeThere⟩, -⟩ := hthere
  obtain ⟨hid, htype, hposition, hdata, hconnections⟩ := record_shows
  refine ⟨?_, ?_, hposition.memberOf_eq_ok record_plain hsorted hread, ?_,
    hconnections.memberOf_eq_ok record_plain hsorted hread⟩
  · refine Shape.memberOf_string (fun hnone => ?_) (hid.memberOf_eq_ok record_plain hsorted hread)
    cases hidThere hnone
  · refine Shape.memberOf_string (fun hnone => ?_)
      (htype.memberOf_eq_ok record_plain hsorted hread)
    cases htypeThere hnone
  · have hany := hdata.memberOf_eq_ok record_plain hsorted hread
    exact Except.ok.inj ((Shape.memberOf_any h "data").symm.trans hany)

theorem accepts_of_describes (h : (Json.object members).Regular)
    (hd : Describes (.object members) s) : record.read.Accepts (.object members) := by
  refine (record_plain.read_object_iff (regular_object_iff.mp h).1).mpr ?_
  simp only [record, List.forall_mem_cons]
  refine ⟨?_, ?_, ?_, ?_, ?_, fun _ hf => absurd hf List.not_mem_nil⟩
  · refine ⟨fun item hitem => Field.make_accepts ⟨s.id, ?_⟩, fun hnone => ?_⟩
    · exact Shape.string_eq_ok_iff.mpr (Option.some.inj (hitem.symm.trans hd.id))
    · exact absurd (hd.id.symm.trans hnone) (Option.some_ne_none _)
  · refine ⟨fun item hitem => Field.make_accepts ⟨s.type, ?_⟩, fun hnone => ?_⟩
    · exact Shape.string_eq_ok_iff.mpr (Option.some.inj (hitem.symm.trans hd.type))
    · exact absurd (hd.type.symm.trans hnone) (Option.some_ne_none _)
  · exact ⟨fun item hitem => Field.make_accepts (Shape.accepts_of_memberOf hd.position hitem),
      fun _ => rfl⟩
  · exact ⟨fun item _ => Field.make_accepts ⟨_, Shape.any_tidy item .value⟩, fun _ => rfl⟩
  · exact ⟨fun item hitem => Field.make_accepts (Shape.accepts_of_memberOf hd.connections hitem),
      fun _ => rfl⟩

theorem Describes.unique (h : Describes item s) (h' : Describes item s') : s = s' := by
  obtain ⟨id, type, position, data, connections⟩ := s
  obtain ⟨id', type', position', data', connections'⟩ := s'
  obtain rfl : id = id' := Json.string.inj (Option.some.inj (h.id.symm.trans h'.id))
  obtain rfl : type = type' := Json.string.inj (Option.some.inj (h.type.symm.trans h'.type))
  obtain rfl : position = position' := Except.ok.inj (h.position.symm.trans h'.position)
  obtain rfl : data = data' := h.data.symm.trans h'.data
  obtain rfl : connections = connections' :=
    Except.ok.inj (h.connections.symm.trans h'.connections)
  rfl

/-- **An object is read as a shell just if it describes it.** -/
theorem read_object_iff (h : (Json.object members).Regular) :
    record.read .value (Json.object members).toTree = .ok s ↔ Describes (.object members) s := by
  refine ⟨describes_of_read h, fun hd => ?_⟩
  obtain ⟨s', hread⟩ := accepts_of_describes h hd
  rw [hread, hd.unique (describes_of_read h hread)]

end Shell

/-! ## Nodes -/

/-- The payload of a shell is accepted. -/
def Shell.Accepted (s : Shell) : Prop :=
  ∃ p, Payload.ofData s.type s.data = .ok p

/-- A node keeps its shell and has the payload that the data of the shell reads as. -/
structure FromShell (s : Shell) (n : Node) : Prop where
  id : n.id = s.id
  position : n.position = s.position
  payload : Payload.ofData s.type s.data = .ok n.payload
  connections : n.connections = s.connections

theorem ofShell_eq_ok_iff {s : Shell} {n : Node} : ofShell s = .ok n ↔ FromShell s n := by
  rw [ofShell]
  constructor
  · intro h
    cases hp : Payload.ofData s.type s.data with
    | error _ => rw [hp] at h; cases h
    | ok p =>
      rw [hp] at h
      cases h
      exact ⟨rfl, rfl, hp, rfl⟩
  · rintro ⟨hid, hposition, hpayload, hconnections⟩
    obtain ⟨id, position, payload, connections⟩ := n
    cases hid
    cases hposition
    cases hconnections
    rw [hpayload]
    rfl

/-- Items are read as shells one by one. -/
abbrev ReadAsShells (items : List Json) (shells : List Shell) : Prop :=
  List.Forall₂ (fun item s => Shell.record.read .value item.toTree = .ok s) items shells

variable {items : List Json} {shells : List Shell}

theorem itemsOf_shells (h : ReadAsShells items shells) :
    Shape.itemsOf shape .value (itemTrees items) = shells.mapM ofShell := by
  induction h with
  | nil => rfl
  | cons hitem _ ih =>
    rw [itemTrees, Shape.itemsOf, ih, List.mapM_cons, shape, hitem]
    rfl

theorem mapM_ofShell_eq_ok {nodes : List Node} (h : shells.mapM ofShell = .ok nodes) :
    List.Forall₂ FromShell shells nodes :=
  (forall₂_of_mapM h).imp fun _ _ => ofShell_eq_ok_iff.mp

/-- **The first shell whose payload is refused gives the fault its id.** -/
theorem first_refused {e : JsonFault} (h : shells.mapM ofShell = .error e) :
    ∃ before s after cause, shells = before ++ s :: after ∧ (∀ b ∈ before, b.Accepted) ∧
      Payload.ofData s.type s.data = .error (.mismatch cause) ∧
      e = .mismatch (.inNode s.id cause) := by
  -- Either the head is the first to be refused, or it is accepted and the first is in the rest.
  induction shells with
  | nil => cases h
  | cons s rest ih =>
    rw [List.mapM_cons, ofShell] at h
    have hjudged := Payload.ofData_judged s.type s.data
    cases hp : Payload.ofData s.type s.data with
    | error fault =>
      rw [hp] at h hjudged
      cases hjudged with
      | mismatch cause =>
        cases h
        exact ⟨[], s, rest, cause, rfl, fun b hb => absurd hb List.not_mem_nil, hp, rfl⟩
    | ok p =>
      cases hrest : rest.mapM ofShell with
      | ok _ => rw [hp, hrest] at h; cases h
      | error _ =>
        rw [hp, hrest] at h
        cases h
        obtain ⟨before, s', after, cause, rfl, hbefore, hrefused⟩ := ih hrest
        exact ⟨s :: before, s', after, cause, rfl,
          List.forall_mem_cons.mpr ⟨⟨p, hp⟩, hbefore⟩, hrefused⟩

theorem exists_mapM_ofShell_iff :
    (∃ nodes, shells.mapM ofShell = .ok nodes) ↔ ∀ s ∈ shells, s.Accepted := by
  constructor
  · rintro ⟨nodes, h⟩
    have hfrom := mapM_ofShell_eq_ok h
    clear h
    induction hfrom with
    | nil => exact fun s hs => absurd hs List.not_mem_nil
    | cons hs _ ih => exact List.forall_mem_cons.mpr ⟨⟨_, hs.payload⟩, ih⟩
  · intro h
    cases hnodes : shells.mapM ofShell with
    | ok nodes => exact ⟨nodes, rfl⟩
    | error e =>
      obtain ⟨before, s, after, cause, rfl, -, hrefused, -⟩ := first_refused hnodes
      obtain ⟨p, hp⟩ := h s (by simp)
      rw [hrefused] at hp
      cases hp

end Node

/-! ## Graphs -/

namespace Graph

/-- A value lists items: it is their array, or an object that holds it. -/
inductive Lists (items : List Json) : Json → Prop
  | array : Lists items (.array items)
  | nodes {members : List (String × Json)}
      (h : (Json.object members).get? "nodes" = some (.array items)) : Lists items (.object members)
  | blocks {members : List (String × Json)} (hnodes : (Json.object members).get? "nodes" = none)
      (h : (Json.object members).get? "blocks" = some (.array items)) :
      Lists items (.object members)

variable {j : Json} {items : List Json} {shells : List Node.Shell}

theorem ofJson_of_lists (hj : Lists items j) (h : Node.ReadAsShells items shells) :
    ofJson j = (shells.mapM Node.ofShell).map Graph.mk := by
  have hnodes : ofNodes (.array items) = (shells.mapM Node.ofShell).map Graph.mk := by
    rw [ofNodes, toTree, Shape.list, Node.itemsOf_shells h]
    cases shells.mapM Node.ofShell <;> rfl
  cases hj with
  | array => exact hnodes
  | nodes hmember => rw [ofJson, hmember]; exact hnodes
  | blocks hnone hmember => rw [ofJson, hnone, hmember]; exact hnodes

/-- A text is read as the value that stands in it. -/
theorem ofDocument_of_load {bytes : List UInt8}
    (h : (Document.parse (Text.Utf8.glyphs bytes)).load = .ok j) : ofDocument bytes = ofJson j := by
  rw [Document.load] at h
  cases hload : load (Document.parse (Text.Utf8.glyphs bytes)).tree with
  | error _ => rw [hload] at h; cases h
  | ok j' =>
    rw [hload] at h
    simp only [Bind.bind, Except.bind] at h
    split at h
    · cases h
    · next htrailing =>
      cases h
      simp only [ofDocument, shape, Shape.any, hload, Shape.lift, Bind.bind, Except.bind]
      cases ofJson j with
      | error _ => rfl
      | ok g => exact if_neg htrailing

/-- **Forms are accepted just if their strict parts fit, and a graph just if all its forms are.**
What stands under an unknown type is kept as it is.  A graph that is read has the nodes of its list
in their order; of one that is refused the fault names the first node whose payload is, and a text
that holds it gives the same fault. -/
theorem forms_accepted_iff :
    (∀ (type : String) (data : Json), data.Regular → Payload.IsForm data →
      ((∃ p, Payload.ofData type data = .ok p) ↔ Payload.StrictPartsFit type data)) ∧
    (∀ (type : String) (data : Json), (∀ t : NodeType, type ≠ t.label) →
      Payload.ofData type data = .ok (.unknown type data)) ∧
    (∀ (members : List (String × Json)) (s : Node.Shell), (Json.object members).Regular →
      (Node.Shell.record.read .value (Json.object members).toTree = .ok s ↔
        s.Describes (.object members))) ∧
    ∀ (j : Json) (items : List Json) (shells : List Node.Shell), Lists items j →
      Node.ReadAsShells items shells →
        ((∃ g, ofJson j = .ok g) ↔ ∀ s ∈ shells, s.Accepted) ∧
        (∀ g, ofJson j = .ok g → List.Forall₂ Node.FromShell shells g.nodes) ∧
        ∀ e, ofJson j = .error e →
          (∃ before s after fault, shells = before ++ s :: after ∧ (∀ b ∈ before, b.Accepted) ∧
            Payload.ofData s.type s.data = .error fault ∧
            e.message = "node " ++ s.id ++ ": " ++ fault.message) ∧
          (LoadFault.json e).message = "invalid strategy document: " ++ e.message ∧
          ∀ bytes, (Document.parse (Text.Utf8.glyphs bytes)).load = .ok j →
            ofDocument bytes = .error e := by
  refine ⟨fun type data => Payload.accepted_iff, fun type data h => Payload.ofData_unknown h data,
    fun members s => Node.Shell.read_object_iff, fun j items shells hj hshells => ?_⟩
  have hread := ofJson_of_lists hj hshells
  refine ⟨?_, fun g hg => ?_, fun e he => ⟨?_, rfl, fun bytes hbytes => ?_⟩⟩
  · rw [hread]
    exact exists_map_eq_ok.trans Node.exists_mapM_ofShell_iff
  · rw [hread] at hg
    cases hnodes : shells.mapM Node.ofShell with
    | error _ => rw [hnodes] at hg; cases hg
    | ok nodes =>
      rw [hnodes] at hg
      cases hg
      exact Node.mapM_ofShell_eq_ok hnodes
  · rw [hread] at he
    cases hnodes : shells.mapM Node.ofShell with
    | ok _ => rw [hnodes] at he; cases he
    | error fault =>
      rw [hnodes] at he
      cases he
      obtain ⟨before, s, after, cause, hsplit, hbefore, hrefused, rfl⟩ := Node.first_refused hnodes
      exact ⟨before, s, after, _, hsplit, hbefore, hrefused, rfl⟩
  · rw [ofDocument_of_load hbytes, he]

/-- The data of an action whose schedule is an array. -/
def planned : Json :=
  .object [("scheduling", .array [.string "2", .null, .bool true]), ("template", .null)]

/-- The data of an action whose schedule is a number. -/
def misplanned : Json :=
  .object [("scheduling", .integer 5)]

/-- A node without connections. -/
def draft (id type : String) (data : Json) : Json :=
  .object [("data", data), ("id", .string id), ("type", .string type)]

/-- An array is a schedule and a number is none, and of two nodes with the number the fault names
the first. -/
theorem forms_accepted_drafts :
    let nodes : Json := .array [draft "wait" "timer" .null, draft "call" "action" planned,
      draft "write" "action" misplanned, draft "visit" "action" misplanned]
    (∃ p, Payload.ofData "action" planned = .ok p) ∧
      (¬ ∃ p, Payload.ofData "action" misplanned = .ok p) ∧
      Payload.ofData "poll" planned = .ok (.unknown "poll" planned) ∧
      (⟨"call", "action", none, planned, []⟩ : Node.Shell).Describes
        (draft "call" "action" planned) ∧
      ∃ e : JsonFault, ofJson nodes = .error e ∧
        e.message = "node write: invalid type: integer `5`, expected struct ActionScheduling" ∧
        ∃ (before after : List Node.Shell) (s : Node.Shell) (fault : JsonFault),
          (before ++ s :: after).map Node.Shell.id = ["wait", "call", "write", "visit"] ∧
          (∀ b ∈ before, b.Accepted) ∧ e.message = "node " ++ s.id ++ ": " ++ fault.message := by
  intro nodes
  have hplanned : planned.Regular := by
    refine regular_object_iff.mpr ⟨List.pairwise_pair.mpr (by decide +kernel), ?_⟩
    simp [Regular.bool]
  have hmisplanned : misplanned.Regular := by
    refine regular_object_iff.mpr ⟨List.pairwise_singleton _ _, ?_⟩
    simp only [List.forall_mem_singleton, regular_integer_iff]
    exact ⟨by decide, by decide⟩
  have hdraft : (draft "call" "action" planned).Regular := by
    refine regular_object_iff.mpr ⟨?_, by simp [hplanned]⟩
    rw [Sorted]
    decide +kernel
  have hshells : Node.ReadAsShells [draft "wait" "timer" .null, draft "call" "action" planned,
      draft "write" "action" misplanned, draft "visit" "action" misplanned]
      [⟨"wait", "timer", none, .null, []⟩, ⟨"call", "action", none, planned, []⟩,
        ⟨"write", "action", none, misplanned, []⟩, ⟨"visit", "action", none, misplanned, []⟩] := by
    refine .cons ?_ (.cons ?_ (.cons ?_ (.cons ?_ .nil))) <;> decide +kernel
  have hrefused : ofJson nodes =
      .error (.mismatch (.inNode "write" (.wrongType (.integer 5) "struct ActionScheduling"))) := by
    decide +kernel
  obtain ⟨hforms, hunknown, hdescribed, hgraphs⟩ := forms_accepted_iff
  obtain ⟨before, s, after, fault, hsplit, hbefore, -, hmessage⟩ :=
    ((hgraphs nodes _ _ .array hshells).2.2 _ hrefused).1
  refine ⟨(hforms "action" planned hplanned (.inr ⟨_, rfl⟩)).mpr ?_, fun h => ?_,
    hunknown "poll" planned fun t => by cases t <;> decide,
    (hdescribed _ _ hdraft).mp (by decide +kernel), _, hrefused, by decide +kernel, before, after,
    s, fault, by rw [← hsplit]; rfl, hbefore, hmessage⟩
  · refine ⟨fun h => absurd h (by decide), fun _ => ⟨fun template h => ?_, fun scheduling h => ?_⟩⟩
    · exact .inl (Option.some.inj (h.symm.trans (by decide +kernel)))
    · exact .inr (.inr ⟨_, Option.some.inj (h.symm.trans (by rfl)), by decide⟩)
  · have hfit := (hforms "action" misplanned hmisplanned (.inr ⟨_, rfl⟩)).mp h
    obtain h | ⟨_, h⟩ | ⟨_, h, -⟩ := (hfit.2 rfl).2 (.integer 5) (by rfl) <;> cases h

end Graph

end Dunning
