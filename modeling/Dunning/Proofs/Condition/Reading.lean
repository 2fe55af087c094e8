import Dunning.Condition.Basic
import Dunning.Proofs.Json.Reading

/-!
# Proofs/Condition/Reading — conditions that were read

An attribute and a comparison have several spellings, but one text: a name that was read is read as
the same again from its text (`Attribute.ofText_text`, `Comparison.ofText_text`).  A literal that
was read has finite numbers, and its text in JSON reads as the literal itself
(`Literal.Finite.ofJson?`).  `Condition.Sound` gathers the three; every condition that is read is
sound (`Condition.sound_of_read`).
-/

namespace Dunning

open Json

/-! ## Names -/

/-- What a look-up finds is in the list. -/
theorem mem_of_lookup {α : Type} {name : String} {a : α} {choices : List (String × α)}
    (h : choices.lookup name = some a) : a ∈ choices.map Prod.snd := by
  obtain ⟨before, after, heq, -⟩ := List.lookup_eq_some_iff.mp h
  rw [heq]
  simp

/-- **An attribute that was read has one spelling**, which reads as the same attribute. -/
theorem Attribute.ofText_text (s : String) : ofText (ofText s).text = ofText s := by
  have hnamed : ∀ a ∈ spellings.map Prod.snd, ofText a.text = a := by decide +kernel
  cases h : spellings.lookup (Text.trim s) with
  | none =>
    have hs : ofText s = .other s := by rw [ofText, h]; rfl
    rw [hs]
    exact hs
  | some a =>
    have hs : ofText s = a := by rw [ofText, h]; rfl
    rw [hs]
    exact hnamed a (mem_of_lookup h)

/-- **A comparison that was read has one spelling**, which reads as the same comparison. -/
theorem Comparison.ofText_text (s : String) : ofText (ofText s).text = ofText s := by
  have hnamed : ∀ c ∈ spellings.map Prod.snd, ofText c.text = c := by decide +kernel
  cases h : spellings.lookup (Text.trim s) with
  | none =>
    have hs : ofText s = .other s := by rw [ofText, h]; rfl
    rw [hs]
    exact hs
  | some c =>
    have hs : ofText s = c := by rw [ofText, h]; rfl
    rw [hs]
    exact hnamed c (mem_of_lookup h)

/-! ## Literals -/

/-- Every number in a literal is finite. -/
inductive Literal.Finite : Literal → Prop
  | number {x : Float} (h : x.isFinite = true) : Finite (.number x)
  | text (s : String) : Finite (.text s)
  | list {items : List Literal} (h : ∀ item ∈ items, Finite item) : Finite (.list items)
  | empty : Finite .empty

namespace Literal

/-- The literals of a list, item by item. -/
theorem forall_mem_of_ofItems? {p : Literal → Prop} {items : List Json} {literals : List Literal}
    (hitems : ∀ item ∈ items, ∀ literal, ofJson? item = some literal → p literal)
    (h : ofItems? items = some literals) : ∀ literal ∈ literals, p literal := by
  induction items generalizing literals with
  | nil =>
    cases h
    exact fun literal hmem => absurd hmem List.not_mem_nil
  | cons item items ih =>
    obtain ⟨hitem, hitems⟩ := List.forall_mem_cons.mp hitems
    rw [ofItems?] at h
    cases hl : ofJson? item with
    | none => rw [hl] at h; cases h
    | some literal =>
      cases hls : ofItems? items with
      | none => rw [hl, hls] at h; cases h
      | some literals =>
        rw [hl, hls] at h
        cases h
        exact List.forall_mem_cons.mpr ⟨hitem literal hl, ih hitems hls⟩

/-- A literal read from a regular value is finite. -/
theorem finite_of_ofJson? {j : Json} {literal : Literal} (hj : j.Regular)
    (h : ofJson? j = some literal) : literal.Finite := by
  induction hj generalizing literal with
  | null => cases h; exact .empty
  | bool _ => cases h
  | integer hn => cases h; exact .number hn.isFinite
  | float hx => cases h; exact .number hx
  | string s => cases h; exact .text s
  | @array items _ ih =>
    rw [ofJson?] at h
    cases hitems : ofItems? items with
    | none => rw [hitems] at h; cases h
    | some literals =>
      rw [hitems] at h
      cases h
      exact .list (forall_mem_of_ofItems? (fun item hitem literal => ih item hitem) hitems)
  | object _ _ _ => cases h

theorem itemsJson_eq_map : ∀ items : List Literal, itemsJson items = items.map toJson
  | [] => rfl
  | item :: items => by rw [itemsJson, itemsJson_eq_map items, List.map_cons]

theorem Finite.toJson_regular {literal : Literal} (h : literal.Finite) :
    literal.toJson.Regular := by
  induction h with
  | number _ => exact ofFloat_regular _
  | text s => exact .string s
  | list _ ih =>
    rw [Literal.toJson, itemsJson_eq_map]
    refine .array fun j hj => ?_
    obtain ⟨item, hitem, rfl⟩ := List.mem_map.mp hj
    exact ih item hitem
  | empty => exact .null

theorem ofItems?_itemsJson {items : List Literal}
    (h : ∀ item ∈ items, ofJson? item.toJson = some item) :
    ofItems? (itemsJson items) = some items := by
  induction items with
  | nil => rfl
  | cons item items ih =>
    obtain ⟨hitem, hitems⟩ := List.forall_mem_cons.mp h
    rw [itemsJson, ofItems?, hitem, ih hitems]

/-- **A literal with finite numbers reads as itself from its text.** -/
theorem Finite.ofJson?_toJson {literal : Literal} (h : literal.Finite) :
    ofJson? literal.toJson = some literal := by
  induction h with
  | number hx =>
    rw [Literal.toJson, ofFloat_of_isFinite hx]
    rfl
  | text _ => rfl
  | list _ ih =>
    rw [Literal.toJson, ofJson?, ofItems?_itemsJson ih]
    rfl
  | empty => rfl

theorem Finite.shape_toJson {literal : Literal} (h : literal.Finite) (source : Source) :
    shape source literal.toJson.toTree = .ok literal := by
  simp only [shape, Shape.any_toTree h.toJson_regular, Bind.bind, Except.bind, h.ofJson?_toJson]

theorem finite_of_shape {source : Source} {t : Tree} {literal : Literal} (ht : t.Regular)
    (h : shape source t = .ok literal) : literal.Finite := by
  rw [shape] at h
  cases hj : Shape.any source t with
  | error _ => rw [hj] at h; cases h
  | ok j =>
    rw [hj] at h
    simp only [Bind.bind, Except.bind] at h
    split at h
    · next hliteral =>
      cases h
      exact finite_of_ofJson? (Shape.regular_of_any ht hj) hliteral
    · cases h

end Literal

/-! ## Conditions -/

namespace Condition

/-- What a condition says is what its text says. -/
structure Sound (c : Condition) : Prop where
  subject : Attribute.ofText c.subject.text = c.subject
  comparison : Comparison.ofText c.comparison.text = c.comparison
  literal : c.literal.Finite

theorem sound_blank : blank.Sound :=
  ⟨by decide +kernel, by decide +kernel, .text _⟩

/-- **A condition that was read is sound.** -/
theorem sound_of_read {source : Source} {t : Tree} {c : Condition} (ht : t.Regular)
    (h : record.read source t = .ok c) : c.Sound := by
  refine Record.read_keeps sound_blank ?_ ht h
  simp only [record, List.forall_mem_cons]
  refine ⟨?_, ?_, ?_, ?_, fun _ hf => absurd hf List.not_mem_nil⟩
  · exact Field.make_keeps fun _ _ _ _ _ _ hs => ⟨hs.subject, hs.comparison, hs.literal⟩
  · exact Field.make_keeps fun _ _ v _ _ _ hs =>
      ⟨Attribute.ofText_text v, hs.comparison, hs.literal⟩
  · exact Field.make_keeps fun _ _ v _ _ _ hs =>
      ⟨hs.subject, Comparison.ofText_text v, hs.literal⟩
  · exact Field.make_keeps fun _ _ _ _ ht hv hs =>
      ⟨hs.subject, hs.comparison, Literal.finite_of_shape ht hv⟩

end Condition

end Dunning
