import Dunning.Json.Record
import Dunning.Proofs.Json.Parsed

/-!
# Proofs/Json/Reading — what records read

Two ways to look at the reader of a record:

* *from the result*: what the blank record satisfies and every field keeps, every record read from a
  regular tree satisfies (`Record.read_keeps`), however its members are ordered, and also where a
  sequence stands for it;
* *from the members*: a member that names a field not seen before is put into the record, and
  reading goes on (`Record.fromMembers_cons`), which computes what reading gives for the members
  that a writer has put there.  Where a writer may leave members out, `Record.Takes` is about all
  fields that can have been seen at once.

Numbers that are written and read again come back as they are, except that an infinity has no text
and comes back as NaN (`Decimal.settle`).
-/

namespace Dunning

open Json

variable {σ α β : Type}

/-! ## What every field keeps -/

/-- A field keeps a property, whatever is read into it. -/
def Field.Keeps (p : σ → Prop) (f : Field σ) : Prop :=
  ∀ source t s s', t.Regular → f.put source t s = .ok s' → p s → p s'

theorem Field.make_keeps {p : σ → Prop} {name : String} {aliases : List String} {required : Bool}
    {shape : Shape α} {set : α → σ → σ}
    (h : ∀ source t a s, t.Regular → shape source t = .ok a → p s → p (set a s)) :
    (Field.make name aliases required shape set).Keeps p := by
  intro source t s s' ht hput hs
  change (shape source t).map (fun a => set a s) = .ok s' at hput
  cases ha : shape source t with
  | error _ => rw [ha] at hput; cases hput
  | ok a =>
    rw [ha] at hput
    cases hput
    exact h source t a s ht ha hs

theorem Shape.unwanted_ne_ok {wanted : String} {t : Tree} {a : α} :
    (unwanted wanted t : Except JsonFault α) ≠ .ok a := by
  unfold unwanted
  split <;> exact nofun

namespace Record

variable {r : Record σ} {p : σ → Prop} {source : Source} {stop : Stop} {s s' : σ}

theorem finish_eq_ok {seen : List String} (h : r.finish stop seen s = .ok s') : s' = s := by
  rw [finish] at h
  cases hs : Stop.finish s stop with
  | error _ => rw [hs] at h; cases h
  | ok done =>
    obtain ⟨-, rfl⟩ := Stop.finish_eq_ok hs
    rw [hs] at h
    simp only [Shape.lift, Bind.bind, Except.bind] at h
    split at h
    · cases h
    · exact (Except.ok.inj h).symm

theorem exactEnd_eq_ok {length : Nat} {rest : List Tree}
    (h : exactEnd source length rest stop s = .ok s') : s' = s := by
  unfold exactEnd at h
  split at h
  · exact (Except.ok.inj h).symm
  all_goals cases h

theorem fromMembers_keeps (hfields : ∀ f ∈ r.fields, f.Keeps p) {members : List (Key × Tree)}
    (hmembers : ∀ m ∈ members, m.2.Regular) {seen : List String} (hs : p s)
    (h : r.fromMembers source stop seen s members = .ok s') : p s' := by
  induction members generalizing seen s with
  | nil =>
    rw [fromMembers] at h
    exact finish_eq_ok h ▸ hs
  | cons first rest ih =>
    obtain ⟨hfirst, hrest⟩ := List.forall_mem_cons.mp hmembers
    obtain ⟨key | fault | _, item⟩ := first
    · rw [fromMembers] at h
      split at h
      · split at h
        · cases h
        · exact ih hrest hs h
      · next f hf =>
        split at h
        · cases h
        · cases hput : f.put source item s with
          | error _ => rw [hput] at h; cases h
          | ok next =>
            rw [hput] at h
            have hkeeps := hfields f (List.mem_of_find?_eq_some hf)
            exact ih hrest (hkeeps source item s next hfirst hput hs) h
    · cases h
    · cases h

theorem fromItems_keeps {length : Nat} {fields : List (Field σ)} (hfields : ∀ f ∈ fields, f.Keeps p)
    {items : List Tree} (hitems : ∀ item ∈ items, item.Regular) (hs : p s)
    (h : r.fromItems source stop length s fields items = .ok s') : p s' := by
  induction fields generalizing length items s with
  | nil => exact exactEnd_eq_ok h ▸ hs
  | cons f fields ih =>
    obtain ⟨hf, hfields⟩ := List.forall_mem_cons.mp hfields
    cases items with
    | nil =>
      rw [fromItems] at h
      cases hstop : stop.finish () with
      | error _ => rw [hstop] at h; cases h
      | ok _ =>
        rw [hstop] at h
        simp only [Shape.lift, Bind.bind, Except.bind] at h
        split at h
        · cases h
        · exact ih hfields hitems hs h
    | cons item items =>
      obtain ⟨hitem, hitems⟩ := List.forall_mem_cons.mp hitems
      rw [fromItems] at h
      cases hput : f.put source item s with
      | error _ => rw [hput] at h; cases h
      | ok next =>
        rw [hput] at h
        exact ih hfields hitems (hf source item s next hitem hput hs) h

/-- **What the blank record satisfies and every field keeps, every record read satisfies.** -/
theorem read_keeps (hblank : p r.blank) (hfields : ∀ f ∈ r.fields, f.Keeps p) {t : Tree}
    (ht : t.Regular) (h : r.read source t = .ok s) : p s := by
  unfold read at h
  split at h
  · next members stop =>
    cases ht with
    | object hmembers => exact fromMembers_keeps hfields hmembers hblank h
  · next items stop =>
    cases ht with
    | array hitems => exact fromItems_keeps hfields hitems hblank h
  · cases h
  · cases h
  · exact absurd h Shape.unwanted_ne_ok

/-! ## Member by member -/

theorem read_object (r : Record σ) (source : Source) (members : List (String × Json)) :
    r.read source (Json.object members).toTree =
      r.fromMembers source .closed [] r.blank (memberTrees members) := rfl

/-- A member that names a field not seen before is put into the record. -/
theorem fromMembers_cons {key name : String} {aliases : List String} {required : Bool}
    {shape : Shape α} {set : α → σ → σ} {a : α} {item : Tree} {seen : List String}
    (hf : r.fields.find? (Field.answersTo key) = some (.make name aliases required shape set))
    (hseen : seen.contains name = false) (hitem : shape source item = .ok a)
    (members : List (Key × Tree)) :
    r.fromMembers source stop seen s ((.name key, item) :: members) =
      r.fromMembers source stop (name :: seen) (set a s) members := by
  rw [fromMembers, hf]
  simp only [Field.make, hseen, hitem]
  rfl

/-- At the end of a map no required field is missing. -/
theorem fromMembers_nil {seen : List String} (h : missing? r.fields seen = none) :
    r.fromMembers source .closed seen s [] = .ok s := by
  rw [fromMembers, finish, h]
  rfl

/-! ## All members -/

variable {known : List String} {members : List (String × Json)}

/-- With no more than the known fields read, the members take a record from one value to another. -/
def Takes (r : Record σ) (source : Source) (known : List String) (members : List (String × Json))
    (s s' : σ) : Prop :=
  ∀ seen : List String, (∀ name ∈ seen, name ∈ known) →
    r.fromMembers source .closed seen s (memberTrees members) = .ok s'

namespace Takes

theorem nil (h : ∀ f ∈ r.fields, f.required = false) : r.Takes source known [] s s := by
  intro seen _
  refine fromMembers_nil ?_
  have hnone : r.fields.find? (fun f => f.required && !seen.contains f.name) = none :=
    List.find?_eq_none.mpr fun f hf => by simp [h f hf]
  rw [missing?, hnone]
  rfl

/-- A field not yet known is put into the record. -/
theorem put {key name : String} {aliases : List String} {required : Bool} {shape : Shape α}
    {set : α → σ → σ} {a : α} {item : Json}
    (hf : r.fields.find? (Field.answersTo key) = some (.make name aliases required shape set))
    (hname : name ∉ known) (hitem : shape source item.toTree = .ok a)
    (h : r.Takes source (name :: known) members (set a s) s') :
    r.Takes source known ((key, item) :: members) s s' := by
  intro seen hseen
  have hfresh : seen.contains name = false := by
    simpa using fun hmem => hname (hseen name hmem)
  rw [memberTrees, fromMembers_cons hf hfresh hitem]
  refine h (name :: seen) fun n hn => ?_
  rcases List.mem_cons.mp hn with rfl | hn
  · exact List.mem_cons_self
  · exact List.mem_cons_of_mem _ (hseen n hn)

/-- A field may be passed over. -/
theorem pass {name : String} (h : r.Takes source (name :: known) members s s') :
    r.Takes source known members s s' :=
  fun seen hseen => h seen fun n hn => List.mem_cons_of_mem _ (hseen n hn)

end Takes

end Record

/-! ## Traversals -/

/-- **What a traversal gives, item by item.** -/
theorem forall₂_of_mapM {ε : Type} {f : α → Except ε β} {as : List α} {bs : List β}
    (h : as.mapM f = .ok bs) : List.Forall₂ (fun a b => f a = .ok b) as bs := by
  induction as generalizing bs with
  | nil =>
    cases h
    exact .nil
  | cons a as ih =>
    rw [List.mapM_cons] at h
    cases ha : f a with
    | error _ => rw [ha] at h; cases h
    | ok b =>
      cases has : as.mapM f with
      | error _ => rw [ha, has] at h; cases h
      | ok rest =>
        rw [ha, has] at h
        cases h
        exact .cons ha (ih has)

/-- What every result of a traversal satisfies. -/
theorem forall_mem_of_mapM {ε : Type} {f : α → Except ε β} {p : β → Prop} {as : List α}
    {bs : List β}
    (hf : ∀ a ∈ as, ∀ b, f a = .ok b → p b) (h : as.mapM f = .ok bs) : ∀ b ∈ bs, p b := by
  have hall := forall₂_of_mapM h
  clear h
  induction hall with
  | nil => exact fun b hb => absurd hb List.not_mem_nil
  | cons hab _ ih =>
    obtain ⟨ha, has⟩ := List.forall_mem_cons.mp hf
    exact List.forall_mem_cons.mpr ⟨ha _ hab, ih has⟩

theorem itemsOf_eq_mapM (shape : Shape α) (source : Source) (items : List Tree) :
    Shape.itemsOf shape source items = items.mapM (shape source) := by
  induction items with
  | nil => rfl
  | cons item items ih =>
    rw [Shape.itemsOf, List.mapM_cons, ih]
    rfl

/-! ## Lists and optional parts -/

theorem itemsOf_map {shape : Shape β} {source : Source} {write : α → Json} {f : α → β} {as : List α}
    (h : ∀ a ∈ as, shape source (write a).toTree = .ok (f a)) :
    Shape.itemsOf shape source (itemTrees (as.map write)) = .ok (as.map f) := by
  induction as with
  | nil => rfl
  | cons a as ih =>
    obtain ⟨ha, has⟩ := List.forall_mem_cons.mp h
    rw [List.map_cons, itemTrees, Shape.itemsOf, ha, ih has]
    rfl

/-- Items that are written one by one are read one by one. -/
theorem list_map {shape : Shape β} {source : Source} {write : α → Json} {f : α → β} {as : List α}
    (h : ∀ a ∈ as, shape source (write a).toTree = .ok (f a)) :
    Shape.list shape source (Json.array (as.map write)).toTree = .ok (as.map f) := by
  rw [toTree, Shape.list, itemsOf_map h]
  rfl

/-- What is not `null` is read as it would be if it had to be there. -/
theorem optional_eq {shape : Shape α} {source : Source} {t : Tree} {a : α} (hne : t ≠ .null)
    (h : shape source t = .ok a) : Shape.optional shape source t = .ok (some a) := by
  unfold Shape.optional
  split
  · exact absurd rfl hne
  · rw [h]
    rfl

/-- A value that may be unset. -/
theorem optional_ofOption {shape : Shape α} {source : Source} {write : α → Json} {o : Option α}
    (h : ∀ a ∈ o, (write a).toTree ≠ .null ∧ shape source (write a).toTree = .ok a) :
    Shape.optional shape source (Json.ofOption write o).toTree = .ok o := by
  cases o with
  | none => rfl
  | some a => exact optional_eq (h a rfl).1 (h a rfl).2

/-- What every item of a list satisfies. -/
theorem forall_mem_of_itemsOf {shape : Shape α} {source : Source} {p : α → Prop} {items : List Tree}
    {as : List α} (hitems : ∀ item ∈ items, ∀ a, shape source item = .ok a → p a)
    (h : Shape.itemsOf shape source items = .ok as) : ∀ a ∈ as, p a := by
  rw [itemsOf_eq_mapM] at h
  exact forall_mem_of_mapM hitems h

theorem forall_mem_of_list {shape : Shape α} {source : Source} {p : α → Prop} {t : Tree}
    {as : List α} (ht : t.Regular)
    (hshape : ∀ item a, item.Regular → shape source item = .ok a → p a)
    (h : Shape.list shape source t = .ok as) : ∀ a ∈ as, p a := by
  unfold Shape.list at h
  split at h
  · next items stop =>
    cases ht with
    | array hitems =>
      cases has : Shape.itemsOf shape source items with
      | error _ => rw [has] at h; cases h
      | ok read =>
        rw [has] at h
        cases hstop : stop.finish read with
        | error _ => simp only [Bind.bind, Except.bind, hstop, Shape.lift] at h; cases h
        | ok done =>
          simp only [Bind.bind, Except.bind, hstop, Shape.lift] at h
          cases h
          obtain ⟨-, rfl⟩ := Stop.finish_eq_ok hstop
          exact forall_mem_of_itemsOf (fun item hitem a => hshape item a (hitems item hitem)) has
  · cases h
  · exact absurd h Shape.unwanted_ne_ok

/-! ## Scalars -/

namespace Decimal

/-- The double that a written one comes back as: an infinity has no text in JSON. -/
def settle (x : Float) : Float :=
  if x.isInf then nan else x

theorem settle_of_isFinite {x : Float} (h : x.isFinite = true) : settle x = x := by
  rw [settle, if_neg (by simp [not_isInf_of_isFinite h])]

theorem settle_nan : settle nan = nan := by
  rw [settle, if_neg (by simp [not_isInf_nan])]

theorem settle_of_not_isFinite {x : Float} (h : x.isFinite = false) : settle x = nan := by
  rcases eq_nan_or_isInf h with rfl | hinf
  · exact settle_nan
  · rw [settle, if_pos hinf]

/-- **Only an infinity changes.** -/
theorem settle_eq_self_iff {x : Float} : settle x = x ↔ x.isInf = false := by
  cases hx : x.isInf with
  | false => simp [settle, hx]
  | true =>
    refine iff_of_false (fun h => ?_) (by decide)
    rw [settle, if_pos hx] at h
    rw [← h, not_isInf_nan] at hx
    cases hx

end Decimal

namespace Json

theorem ofFloat_of_isFinite {x : Float} (h : x.isFinite = true) : ofFloat x = .float x :=
  if_pos h

theorem ofFloat_of_not_isFinite {x : Float} (h : x.isFinite = false) : ofFloat x = .null :=
  if_neg (by simp [h])

theorem ofFloat_regular (x : Float) : (ofFloat x).Regular := by
  rw [ofFloat]
  split
  · next h => exact .float h
  · exact .null

@[simp] theorem tidy_ofFloat (x : Float) : (ofFloat x).tidy = ofFloat x :=
  (ofFloat_regular x).tidy_eq_self

theorem ofFloat_settle (x : Float) : ofFloat (Decimal.settle x) = ofFloat x := by
  cases hx : x.isFinite with
  | true => rw [Decimal.settle_of_isFinite hx]
  | false =>
    rw [Decimal.settle_of_not_isFinite hx, ofFloat_of_not_isFinite hx,
      ofFloat_of_not_isFinite Decimal.not_isFinite_nan]

end Json

namespace Shape

theorem any_tidy (j : Json) (source : Source) : any source j.toTree = .ok j.tidy := by
  rw [any, j.load_toTree]
  rfl

theorem any_toTree {j : Json} (h : j.Regular) (source : Source) : any source j.toTree = .ok j := by
  rw [any_tidy, h.tidy_eq_self]

theorem regular_of_any {source : Source} {t : Tree} {j : Json} (ht : t.Regular)
    (h : any source t = .ok j) : j.Regular := by
  rw [any] at h
  cases hj : load t with
  | error _ => rw [hj] at h; cases h
  | ok _ =>
    rw [hj] at h
    cases h
    exact load_regular ht hj

theorem lenientText_string (s : String) (source : Source) :
    lenientText source (.string s) = .ok s := rfl

theorem lenientFlag_bool (b : Bool) (source : Source) : lenientFlag source (.bool b) = .ok b := rfl

theorem numberOf_ofFloat (x : Float) : numberOf (ofFloat x) = Decimal.settle x := by
  cases hx : x.isFinite with
  | true => rw [ofFloat_of_isFinite hx, Decimal.settle_of_isFinite hx, numberOf]
  | false =>
    rw [ofFloat_of_not_isFinite hx, Decimal.settle_of_not_isFinite hx]
    rfl

theorem lenientNumber_ofFloat (x : Float) (source : Source) :
    lenientNumber source (ofFloat x).toTree = .ok (Decimal.settle x) := by
  rw [lenientNumber, any_toTree (ofFloat_regular x), ← numberOf_ofFloat]
  rfl

end Shape

end Dunning
