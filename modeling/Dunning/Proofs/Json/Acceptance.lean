import Dunning.Proofs.Json.Reading

/-!
# Proofs/Json/Acceptance — which values are read

A value has no faults of text, so to read it is to judge whether it fits: the outcome is what was
read or what does not fit (`Judged`).  Of an object each field of a record looks at its own member
only:

    {"title": null, "note": [1], "delay": "3"}
         │             │            │
       title       passed over    delay         unit: as in the blank record

So an object is read just if every field accepts its member, and has a default where there is none
(`Record.Plain.read_object_iff`).  What the record then holds under a name is what the member reads
as (`Record.Shows.memberOf_eq_ok`).  Where every field is lenient, every object is read, and every
array that is not too long (`Record.Lenient.accepts_iff`).
-/

namespace Dunning

open Json

variable {σ α β : Type}

/-! ## Outcomes -/

/-- What reading a value comes to: it is read, or something does not fit. -/
inductive Judged : Except JsonFault α → Prop
  | ok (a : α) : Judged (.ok a)
  | mismatch (cause : Mismatch) : Judged (.error (.mismatch cause))

namespace Judged

variable {x : Except JsonFault α}

theorem bind {f : α → Except JsonFault β} (hx : Judged x) (hf : ∀ a, Judged (f a)) :
    Judged (x >>= f) := by
  cases hx with
  | ok a => exact hf a
  | mismatch cause => exact .mismatch cause

theorem map (hx : Judged x) (f : α → β) : Judged (x.map f) := by
  cases hx with
  | ok a => exact .ok (f a)
  | mismatch cause => exact .mismatch cause

end Judged

/-- What is made of a value is there just if the value is. -/
theorem exists_map_eq_ok {x : Except JsonFault α} {f : α → β} :
    (∃ b, x.map f = .ok b) ↔ ∃ a, x = .ok a := by
  cases x <;> simp [Except.map]

/-! ## Shapes -/

namespace Shape

/-- A shape reads a value. -/
def Accepts (shape : Shape α) (j : Json) : Prop :=
  ∃ a, shape .value j.toTree = .ok a

/-- A shape judges every value. -/
def Judges (shape : Shape α) : Prop :=
  ∀ j : Json, Judged (shape .value j.toTree)

theorem string_judges : string.Judges := by
  intro j
  cases j with
  | string s => exact .ok s
  | null | bool _ | integer _ | float _ | array _ | object _ => exact .mismatch _

theorem optional_judges {shape : Shape α} (h : shape.Judges) : (optional shape).Judges := by
  intro j
  cases j with
  | null => exact .ok none
  | bool _ | integer _ | float _ | string _ | array _ | object _ => exact (h _).map some

/-! ### Which values they read -/

theorem string_eq_ok_iff {j : Json} {s : String} :
    string .value j.toTree = .ok s ↔ j = .string s := by
  cases j with
  | string s' =>
    exact ⟨fun h => congrArg _ (Except.ok.inj h), fun h => congrArg _ (Json.string.inj h)⟩
  | null | bool _ | integer _ | float _ | array _ | object _ => exact ⟨nofun, nofun⟩

theorem string_accepts_iff {j : Json} : string.Accepts j ↔ ∃ s, j = .string s :=
  exists_congr fun _ => string_eq_ok_iff

theorem optional_accepts_iff {shape : Shape α} {j : Json} :
    (optional shape).Accepts j ↔ j = .null ∨ shape.Accepts j := by
  cases j with
  | null => exact ⟨fun _ => .inl rfl, fun _ => ⟨none, rfl⟩⟩
  | bool _ | integer _ | float _ | string _ | array _ | object _ =>
    exact exists_map_eq_ok.trans ⟨.inr, fun h => h.resolve_left nofun⟩

/-- Reads the member of an object; without one the value is as given. -/
def memberOf (shape : Shape α) (whole : Json) (name : String) (unset : α) : Except JsonFault α :=
  match whole.get? name with
  | some item => shape .value item.toTree
  | none => .ok unset

variable {whole item : Json} {name : String}

theorem memberOf_any (h : whole.Regular) (name : String) :
    any.memberOf whole name .null = .ok ((whole.get? name).getD .null) := by
  rw [memberOf]
  cases hitem : whole.get? name with
  | none => rfl
  | some item => exact any_toTree (h.get? hitem) .value

theorem memberOf_string {s unset : String} (hmem : whole.get? name ≠ none)
    (h : string.memberOf whole name unset = .ok s) : whole.get? name = some (.string s) := by
  rw [memberOf] at h
  cases hitem : whole.get? name with
  | none => exact absurd hitem hmem
  | some item =>
    rw [hitem] at h
    rw [string_eq_ok_iff.mp h]

theorem accepts_of_memberOf {shape : Shape α} {unset a : α}
    (h : shape.memberOf whole name unset = .ok a) (hitem : whole.get? name = some item) :
    shape.Accepts item := by
  rw [memberOf, hitem] at h
  exact ⟨a, h⟩

end Shape

/-! ## Fields -/

namespace Field

/-- A field accepts a value, whatever the record holds. -/
def Accepts (f : Field σ) (j : Json) : Prop :=
  ∀ s, ∃ s', f.put .value j.toTree s = .ok s'

/-- A field goes by one name, and to put a value into it depends on the value alone. -/
structure Plain (f : Field σ) : Prop where
  aliases : f.aliases = []
  accepts : ∀ {j : Json} {s s' : σ}, f.put .value j.toTree s = .ok s' → f.Accepts j

/-- A field judges every value. -/
def Judges (f : Field σ) : Prop :=
  ∀ (j : Json) (s : σ), Judged (f.put .value j.toTree s)

variable {name : String} {aliases : List String} {required : Bool} {shape : Shape α}
  {set : α → σ → σ}

@[simp] theorem make_name : (make name aliases required shape set).name = name := rfl

@[simp] theorem defaulted_name : (defaulted name shape set).name = name := rfl

theorem make_put_eq_ok_iff {source : Source} {t : Tree} {s s' : σ} :
    (make name aliases required shape set).put source t s = .ok s' ↔
      ∃ a, shape source t = .ok a ∧ set a s = s' := by
  simp only [make]
  cases shape source t <;> simp [Except.map]

theorem make_accepts {j : Json} (h : shape.Accepts j) :
    (make name aliases required shape set).Accepts j := fun s =>
  let ⟨a, ha⟩ := h
  ⟨set a s, make_put_eq_ok_iff.mpr ⟨a, ha, rfl⟩⟩

theorem make_accepts_iff (s : σ) {j : Json} :
    (make name aliases required shape set).Accepts j ↔ shape.Accepts j := by
  refine ⟨fun h => ?_, make_accepts⟩
  obtain ⟨s', hs'⟩ := h s
  obtain ⟨a, ha, -⟩ := make_put_eq_ok_iff.mp hs'
  exact ⟨a, ha⟩

@[simp] theorem make_plain : (make name [] required shape set).Plain where
  aliases := rfl
  accepts h :=
    let ⟨a, ha, _⟩ := make_put_eq_ok_iff.mp h
    make_accepts ⟨a, ha⟩

/-- A field of a form has a default and judges every value. -/
structure InForm (f : Field σ) : Prop extends f.Plain where
  optional : f.required = false
  judges : f.Judges

theorem defaulted_inForm (h : shape.Judges) : (defaulted name shape set).InForm where
  toPlain := make_plain
  optional := rfl
  judges j s := (h j).map fun a => set a s

/-- A lenient field has a default and accepts every value. -/
structure Lenient (f : Field σ) : Prop extends f.Plain where
  optional : f.required = false
  accepts_all : ∀ j, f.Accepts j

theorem defaulted_lenient (h : ∀ j, shape.Accepts j) : (defaulted name shape set).Lenient where
  toPlain := make_plain
  optional := rfl
  accepts_all j := make_accepts (h j)

/-! The parts of a form are read leniently whatever they set. -/

@[simp] theorem text_lenient {set : String → σ → σ} :
    (defaulted name Shape.lenientText set).Lenient :=
  defaulted_lenient fun j => ⟨_, by rw [Shape.lenientText, Shape.any_tidy]; rfl⟩

@[simp] theorem number_lenient {set : Float → σ → σ} :
    (defaulted name Shape.lenientNumber set).Lenient :=
  defaulted_lenient fun j => ⟨_, by rw [Shape.lenientNumber, Shape.any_tidy]; rfl⟩

@[simp] theorem flag_lenient {set : Bool → σ → σ} :
    (defaulted name Shape.lenientFlag set).Lenient :=
  defaulted_lenient fun j => ⟨_, by rw [Shape.lenientFlag, Shape.any_tidy]; rfl⟩

theorem Lenient.inForm {f : Field σ} (h : f.Lenient) : f.InForm where
  toPlain := h.toPlain
  optional := h.optional
  judges j s :=
    let ⟨s', hs'⟩ := h.accepts_all j s
    hs' ▸ .ok s'

/-- Through `get` a record shows what a field of the name puts there, and no other field. -/
structure Shown (f : Field σ) (name : String) (shape : Shape α) (get : σ → α) : Prop where
  own : f.name = name → ∀ {t : Tree} {s s' : σ},
    f.put .value t s = .ok s' → shape .value t = .ok (get s')
  other : f.name ≠ name → ∀ {t : Tree} {s s' : σ}, f.put .value t s = .ok s' → get s' = get s

@[simp] theorem make_shown {get : σ → α} (h : ∀ a s, get (set a s) = a) :
    (make name aliases required shape set).Shown name shape get where
  own _ {t s s'} hput := by
    obtain ⟨a, ha, rfl⟩ := make_put_eq_ok_iff.mp hput
    rw [ha, h]
  other hne := absurd rfl hne

@[simp] theorem make_shown_of_ne {other : String} {shape' : Shape β} {get : σ → β}
    (hne : name ≠ other) (h : ∀ a s, get (set a s) = get s) :
    (make name aliases required shape set).Shown other shape' get where
  own heq := absurd heq hne
  other _ {t s s'} hput := by
    obtain ⟨a, -, rfl⟩ := make_put_eq_ok_iff.mp hput
    exact h a s

end Field

/-! ## Values are passed over -/

theorem firstFault_none (fault : Option Malformed) : firstFault none fault = fault := rfl

mutual

/-- A value is passed over without a fault. -/
theorem skipFault_toTree : (j : Json) → skipFault j.toTree = none
  | .null | .bool _ | .integer _ | .float _ | .string _ => rfl
  | .array items => by rw [toTree, skipFault, skipItems_itemTrees items]
  | .object members => by rw [toTree, skipFault, skipMembers_memberTrees members]

theorem skipItems_itemTrees : (items : List Json) →
    skipItems Stop.closed.skipFault (itemTrees items) = none
  | [] => rfl
  | item :: items => by
    rw [itemTrees, skipItems, skipFault_toTree item, firstFault_none, skipItems_itemTrees items]

theorem skipMembers_memberTrees : (members : List (String × Json)) →
    skipMembers Stop.closed.skipFault (memberTrees members) = none
  | [] => rfl
  | (key, value) :: members => by
    rw [memberTrees, skipMembers, skipFault_toTree value, firstFault_none,
      skipMembers_memberTrees members]

end

namespace Json

theorem get?_object_cons (key name : String) (value : Json) (members : List (String × Json)) :
    (object ((key, value) :: members)).get? name =
      if key = name then some value else (object members).get? name := by
  by_cases h : key = name <;> simp [get?, h]

/-- A key stands in order before all others. -/
theorem Sorted.get?_tail {key : String} {value : Json} {members : List (String × Json)}
    (h : Sorted ((key, value) :: members)) : (object members).get? key = none := by
  rw [get?, Option.map_eq_none_iff, List.find?_eq_none]
  rintro m hm hkey
  have hlt := (List.pairwise_cons.mp h).1 m hm
  rw [beq_iff_eq.mp hkey] at hlt
  exact String.lt_irrefl key hlt

end Json

/-! ## Records -/

namespace Record

variable {r : Record σ} {source : Source} {s s' : σ} {seen : List String}
  {members : List (String × Json)}

/-! ### Every value is judged -/

theorem fromMembers_judged (hfields : ∀ f ∈ r.fields, f.Judges) (seen : List String) (s : σ)
    (members : List (String × Json)) :
    Judged (r.fromMembers .value .closed seen s (memberTrees members)) := by
  induction members generalizing seen s with
  | nil =>
    rw [memberTrees, fromMembers, finish]
    cases missing? r.fields seen with
    | none => exact .ok s
    | some name => exact .mismatch _
  | cons first rest ih =>
    obtain ⟨key, item⟩ := first
    rw [memberTrees, fromMembers]
    cases hf : r.fields.find? (Field.answersTo key) with
    | none =>
      rw [skipFault_toTree]
      exact ih seen s
    | some f =>
      dsimp only
      split
      · exact .mismatch _
      · exact (hfields f (List.mem_of_find?_eq_some hf) item s).bind fun s' => ih _ s'

theorem fromItems_judged {fields : List (Field σ)} (hfields : ∀ f ∈ fields, f.Judges)
    (length : Nat) (s : σ) (items : List Json) :
    Judged (r.fromItems .value .closed length s fields (itemTrees items)) := by
  induction fields generalizing length items s with
  | nil =>
    cases items with
    | nil => exact .ok s
    | cons item items => exact .mismatch _
  | cons f fields ih =>
    obtain ⟨hf, hfields⟩ := List.forall_mem_cons.mp hfields
    cases items with
    | nil =>
      rw [itemTrees, fromItems]
      refine Judged.bind (.ok ()) fun _ => ?_
      split
      · exact .mismatch _
      · exact ih hfields (length + 1) s []
    | cons item items =>
      rw [itemTrees, fromItems]
      exact (hf item s).bind fun s' => ih hfields (length + 1) s' items

/-- **A record judges every value** if its fields do. -/
theorem read_judges (hfields : ∀ f ∈ r.fields, f.Judges) : r.read.Judges := by
  intro j
  cases j with
  | object members => exact fromMembers_judged hfields [] r.blank members
  | array items => exact fromItems_judged hfields 0 r.blank items
  | null | bool _ | integer _ | float _ | string _ => exact .mismatch _

/-! ### Which objects are read -/

/-- Every field is plain, and no two have one name. -/
structure Plain (r : Record σ) : Prop where
  fields : ∀ f ∈ r.fields, f.Plain
  names : (r.fields.map Field.name).Nodup

namespace Plain

variable (hr : r.Plain)

include hr

theorem find?_eq_none (key : String) :
    r.fields.find? (Field.answersTo key) = none ↔ ∀ f ∈ r.fields, f.name ≠ key := by
  rw [List.find?_eq_none]
  refine forall₂_congr fun f hf => ?_
  rw [Field.answersTo, (hr.fields f hf).aliases, List.contains_nil, Bool.or_false, beq_iff_eq]
  exact not_congr eq_comm

theorem find?_eq_some {key : String} {f : Field σ}
    (h : r.fields.find? (Field.answersTo key) = some f) : f ∈ r.fields ∧ f.name = key := by
  have hf := List.mem_of_find?_eq_some h
  have hkey := List.find?_some h
  simp only [Field.answersTo, (hr.fields f hf).aliases, List.contains_nil, Bool.or_false,
    beq_iff_eq] at hkey
  exact ⟨hf, hkey.symm⟩

theorem eq_of_name {f g : Field σ} (hf : f ∈ r.fields) (hg : g ∈ r.fields)
    (h : f.name = g.name) : f = g :=
  List.inj_on_of_nodup_map hr.names hf hg h

/-- Members are read on just if each field accepts its own, and no field that is required is left
without one. -/
theorem fromMembers_iff (hsorted : Sorted members) (hseen : ∀ m ∈ members, m.1 ∉ seen) :
    (∃ s', r.fromMembers .value .closed seen s (memberTrees members) = .ok s') ↔
      ∀ f ∈ r.fields, (∀ item, (object members).get? f.name = some item → f.Accepts item) ∧
        ((object members).get? f.name = none → f.required = true → f.name ∈ seen) := by
  induction members generalizing seen s with
  | nil =>
    have hmissing : missing? r.fields seen = none ↔
        ∀ f ∈ r.fields, f.required = true → f.name ∈ seen := by
      rw [missing?, Option.map_eq_none_iff, List.find?_eq_none]
      simp
    rw [memberTrees, fromMembers, finish]
    refine Iff.trans ?_ (hmissing.trans (forall₂_congr fun f _ => ?_))
    · cases missing? r.fields seen with
      | none => exact iff_of_true ⟨s, rfl⟩ rfl
      | some name =>
        refine iff_of_false ?_ (Option.some_ne_none name)
        rintro ⟨_, h⟩
        cases h
    · simp [get?]
  | cons first rest ih =>
    obtain ⟨key, item⟩ := first
    obtain ⟨hkey, hunseen⟩ := List.forall_mem_cons.mp hseen
    have htail := hsorted.get?_tail
    have hrest : Sorted rest := (List.pairwise_cons.mp hsorted).2
    simp only [get?_object_cons]
    rw [memberTrees, fromMembers]
    cases hf : r.fields.find? (Field.answersTo key) with
    | none =>
      rw [skipFault_toTree]
      refine (ih hrest hunseen).trans (forall₂_congr fun f hmem => ?_)
      rw [if_neg (Ne.symm ((hr.find?_eq_none key).mp hf f hmem))]
    | some f =>
      obtain ⟨hmem, rfl⟩ := hr.find?_eq_some hf
      have hnew : seen.contains f.name = false := by simpa using hkey
      have hseen' : ∀ m ∈ rest, m.1 ∉ f.name :: seen := fun m hm => by
        have hlt := (List.pairwise_cons.mp hsorted).1 m hm
        refine List.not_mem_cons_of_ne_of_not_mem (fun h => ?_) (hunseen m hm)
        exact String.lt_irrefl _ (h ▸ hlt)
      simp only [hnew, Bool.false_eq_true, if_false]
      cases hput : f.put .value item.toTree s with
      | error fault =>
        refine iff_of_false ?_ fun h => ?_
        · rintro ⟨_, h⟩
          cases h
        · obtain ⟨s', hs'⟩ := (h f hmem).1 item (if_pos rfl) s
          rw [hput] at hs'
          cases hs'
      | ok s₁ =>
        refine (ih hrest hseen').trans (forall₂_congr fun g hg => ?_)
        by_cases hname : f.name = g.name
        -- The key stands before all others, so the rest has no second member for this field.
        · obtain rfl := hr.eq_of_name hmem hg hname
          have haccepts := (hr.fields f hmem).accepts hput
          simp [htail, haccepts]
        · simp [hname, Ne.symm hname]

/-- **An object is read just if every field accepts its member**, and has a default where there is
none. -/
theorem read_object_iff (hsorted : Sorted members) :
    r.read.Accepts (object members) ↔
      ∀ f ∈ r.fields, (∀ item, (object members).get? f.name = some item → f.Accepts item) ∧
        ((object members).get? f.name = none → f.required = false) := by
  refine (hr.fromMembers_iff hsorted fun _ _ => List.not_mem_nil).trans
    (forall₂_congr fun f _ => ?_)
  simp

end Plain

/-! ### What is read of an object -/

/-- A field of the name is there, and `get` shows what it puts there, and no other field. -/
structure Shows (r : Record σ) (name : String) (shape : Shape α) (get : σ → α) : Prop where
  fields : ∀ f ∈ r.fields, f.Shown name shape get
  mem : ∃ f ∈ r.fields, f.name = name

variable {name : String} {shape : Shape α} {get : σ → α}

theorem Shows.fromMembers (hr : r.Plain) (h : r.Shows name shape get) (hsorted : Sorted members)
    (hread : r.fromMembers .value .closed seen s (memberTrees members) = .ok s') :
    shape.memberOf (object members) name (get s) = .ok (get s') := by
  induction members generalizing seen s with
  | nil =>
    rw [memberTrees, Record.fromMembers] at hread
    rw [finish_eq_ok hread]
    rfl
  | cons first rest ih =>
    obtain ⟨key, item⟩ := first
    have hrest : Sorted rest := (List.pairwise_cons.mp hsorted).2
    rw [Shape.memberOf, get?_object_cons]
    rw [memberTrees, Record.fromMembers] at hread
    cases hf : r.fields.find? (Field.answersTo key) with
    | none =>
      rw [hf, skipFault_toTree] at hread
      obtain ⟨f, hmem, rfl⟩ := h.mem
      rw [if_neg (Ne.symm ((hr.find?_eq_none key).mp hf f hmem))]
      exact ih hrest hread
    | some f =>
      obtain ⟨hmem, rfl⟩ := hr.find?_eq_some hf
      rw [hf] at hread
      dsimp only at hread
      split at hread
      · cases hread
      · cases hput : f.put .value item.toTree s with
        | error fault => rw [hput] at hread; cases hread
        | ok s₁ =>
          rw [hput] at hread
          have hgoes := ih hrest hread
          split_ifs with hname
          · subst hname
            rw [Shape.memberOf, hsorted.get?_tail] at hgoes
            rw [← Except.ok.inj hgoes]
            exact (h.fields f hmem).own rfl hput
          · rw [← (h.fields f hmem).other hname hput]
            exact hgoes

/-- **What is read of an object is told by the members of the fields.** -/
theorem Shows.memberOf_eq_ok (hr : r.Plain) (h : r.Shows name shape get) (hsorted : Sorted members)
    (hread : r.read .value (object members).toTree = .ok s) :
    shape.memberOf (object members) name (get r.blank) = .ok (get s) :=
  h.fromMembers hr hsorted hread

/-! ### Forms -/

/-- Every field is one of a form, and no two have one name. -/
structure Form (r : Record σ) : Prop where
  fields : ∀ f ∈ r.fields, f.InForm
  names : (r.fields.map Field.name).Nodup

theorem Form.plain (hr : r.Form) : r.Plain :=
  ⟨fun f hf => (hr.fields f hf).toPlain, hr.names⟩

theorem Form.judges (hr : r.Form) : r.read.Judges :=
  read_judges fun f hf => (hr.fields f hf).judges

/-- **A form is read from an object just if every field accepts what is there for it.** -/
theorem Form.read_object_iff (hr : r.Form) (hsorted : Sorted members) :
    r.read.Accepts (object members) ↔
      ∀ f ∈ r.fields, ∀ item, (object members).get? f.name = some item → f.Accepts item :=
  (hr.plain.read_object_iff hsorted).trans <| forall₂_congr fun f hf =>
    and_iff_left fun _ => (hr.fields f hf).optional

/-- Every field is lenient, and no two have one name. -/
structure Lenient (r : Record σ) : Prop where
  fields : ∀ f ∈ r.fields, f.Lenient
  names : (r.fields.map Field.name).Nodup

theorem Lenient.form (hr : r.Lenient) : r.Form :=
  ⟨fun f hf => (hr.fields f hf).inForm, hr.names⟩

theorem fromItems_iff {fields : List (Field σ)} (hfields : ∀ f ∈ fields, f.Lenient) {length : Nat}
    {items : List Json} :
    (∃ s', r.fromItems .value .closed length s fields (itemTrees items) = .ok s') ↔
      items.length ≤ fields.length := by
  induction fields generalizing length items s with
  | nil =>
    cases items with
    | nil => exact iff_of_true ⟨s, rfl⟩ (Nat.le_refl 0)
    | cons item items => exact iff_of_false nofun (Nat.not_succ_le_zero _)
  | cons f fields ih =>
    obtain ⟨hf, hfields⟩ := List.forall_mem_cons.mp hfields
    cases items with
    | nil =>
      rw [itemTrees, fromItems, hf.optional]
      exact (@ih s hfields (length + 1) []).trans (by simp)
    | cons item items =>
      obtain ⟨s₁, hs₁⟩ := hf.accepts_all item s
      rw [itemTrees, fromItems, hs₁, List.length_cons, List.length_cons, Nat.succ_le_succ_iff]
      exact ih hfields

/-- **A lenient record is read from every object**, and from every array that is not too long. -/
theorem Lenient.accepts_iff (hr : r.Lenient) {j : Json} (hj : j.Regular) :
    r.read.Accepts j ↔ (∃ members, j = .object members) ∨
      ∃ items, j = .array items ∧ items.length ≤ r.fields.length := by
  cases hj with
  | object hsorted _ =>
    refine iff_of_true ((hr.form.read_object_iff hsorted).mpr ?_) (.inl ⟨_, rfl⟩)
    exact fun f hf item _ => (hr.fields f hf).accepts_all item
  | array _ =>
    refine (fromItems_iff hr.fields).trans ?_
    simp
  | null | bool _ | integer _ | float _ | string _ => exact iff_of_false nofun (by simp)

end Record

end Dunning
