import Dunning.Json.Number

/-!
# Proofs/Json/Regular — the values that texts hold

A `Json` is regular if its integers fit 64 bits, its doubles are finite and the members of its
objects stand in the order of their keys, no key twice.  These are the values a program can hold:

* whatever is loaded from a tree with such numbers is regular (`load_regular`), and
* a value loads with its members in order (`load_toTree`), which leaves a regular value as it is
  (`Regular.tidy_eq_self`), and loading twice is loading once (`tidy_tidy`).
-/

namespace Dunning.Json

/-! ## Members in order -/

/-- The members stand in the order of their keys, no key twice. -/
def Sorted (members : List (String × Json)) : Prop :=
  members.Pairwise fun a b => a.1 < b.1

theorem mem_insert {key : String} {value : Json} {members : List (String × Json)}
    {m : String × Json} (h : m ∈ insert key value members) : m = (key, value) ∨ m ∈ members := by
  induction members with
  | nil => exact .inl (List.mem_singleton.mp h)
  | cons first rest ih =>
    rw [insert] at h
    split at h
    · exact List.mem_cons.mp h
    · split at h
      · rcases List.mem_cons.mp h with h | h
        · exact .inl h
        · exact .inr (List.mem_cons_of_mem _ h)
      · rcases List.mem_cons.mp h with rfl | h
        · exact .inr List.mem_cons_self
        · rcases ih h with h | h
          · exact .inl h
          · exact .inr (List.mem_cons_of_mem _ h)

theorem Sorted.insert {key : String} {value : Json} {members : List (String × Json)}
    (h : Sorted members) : Sorted (insert key value members) := by
  induction members with
  | nil => exact List.pairwise_singleton _ _
  | cons first rest ih =>
    obtain ⟨hfirst, hrest⟩ := List.pairwise_cons.mp h
    rw [Json.insert]
    split
    · next hlt =>
      refine List.pairwise_cons.mpr ⟨fun m hm => ?_, h⟩
      rcases List.mem_cons.mp hm with rfl | hm
      · exact hlt
      · exact String.lt_trans hlt (hfirst m hm)
    · next hge =>
      split
      · next heq =>
        exact List.pairwise_cons.mpr ⟨fun m hm => heq ▸ hfirst m hm, hrest⟩
      · next hne =>
        refine List.pairwise_cons.mpr ⟨fun m hm => ?_, ih hrest⟩
        rcases mem_insert hm with rfl | hm
        · exact String.not_le.mp fun hle => hne (String.le_antisymm hle (String.not_lt.mp hge))
        · exact hfirst m hm

/-- A member behind all others is put at the end. -/
theorem insert_eq_append {key : String} {value : Json} {members : List (String × Json)}
    (h : ∀ m ∈ members, m.1 < key) : insert key value members = members ++ [(key, value)] := by
  induction members with
  | nil => rfl
  | cons first rest ih =>
    have hfirst : first.1 < key := h first List.mem_cons_self
    have hasym : ¬ key < first.1 := String.lt_asymm hfirst
    have hne : ¬ key = first.1 := fun heq => String.lt_irrefl key (heq ▸ hfirst)
    rw [insert, if_neg hasym, if_neg hne, ih fun m hm => h m (List.mem_cons_of_mem _ hm),
      List.cons_append]

theorem foldl_insert_append {before members : List (String × Json)}
    (h : Sorted (before ++ members)) :
    members.foldl (fun sorted (key, value) => insert key value sorted) before =
      before ++ members := by
  induction members generalizing before with
  | nil => rw [List.foldl_nil, List.append_nil]
  | cons first rest ih =>
    obtain ⟨key, value⟩ := first
    have hbefore : ∀ m ∈ before, m.1 < key := fun m hm =>
      (List.pairwise_append.mp h).2.2 m hm (key, value) List.mem_cons_self
    have hsplit : before ++ (key, value) :: rest = (before ++ [(key, value)]) ++ rest := by simp
    calc rest.foldl (fun sorted (key, value) => insert key value sorted) (insert key value before)
        = rest.foldl (fun sorted (key, value) => insert key value sorted)
            (before ++ [(key, value)]) := by rw [insert_eq_append hbefore]
      _ = (before ++ [(key, value)]) ++ rest := ih (hsplit ▸ h)
      _ = before ++ (key, value) :: rest := hsplit.symm

/-- Members in order make an object as they are. -/
theorem Sorted.ofMembers {members : List (String × Json)} (h : Sorted members) :
    ofMembers members = .object members := by
  rw [Json.ofMembers, foldl_insert_append (by simpa using h), List.nil_append]

/-- The members of an object made of any members are in order and among them. -/
theorem ofMembers_spec (members : List (String × Json)) :
    ∃ sorted, ofMembers members = .object sorted ∧ Sorted sorted ∧ ∀ m ∈ sorted, m ∈ members := by
  suffices h : ∀ before, Sorted before →
      ∃ sorted, members.foldl (fun sorted (key, value) => insert key value sorted) before = sorted ∧
        Sorted sorted ∧ ∀ m ∈ sorted, m ∈ before ∨ m ∈ members by
    obtain ⟨sorted, heq, hsorted, hmem⟩ := h [] List.Pairwise.nil
    exact ⟨sorted, congrArg Json.object heq, hsorted,
      fun m hm => (hmem m hm).resolve_left List.not_mem_nil⟩
  induction members with
  | nil => exact fun before hbefore => ⟨before, rfl, hbefore, fun m hm => .inl hm⟩
  | cons first rest ih =>
    intro before hbefore
    obtain ⟨sorted, heq, hsorted, hmem⟩ := ih _ (hbefore.insert)
    refine ⟨sorted, heq, hsorted, fun m hm => ?_⟩
    rcases hmem m hm with hm | hm
    · rcases mem_insert hm with rfl | hm
      · exact .inr List.mem_cons_self
      · exact .inl hm
    · exact .inr (List.mem_cons_of_mem _ hm)

/-! ## Regular values -/

/-- An integer that 64 bits hold. -/
def Fits (n : Int) : Prop :=
  leastInteger ≤ n ∧ n ≤ greatestInteger

/-- A value as texts and programs hold it. -/
inductive Regular : Json → Prop
  | null : Regular .null
  | bool (b : Bool) : Regular (.bool b)
  | integer {n : Int} (h : Fits n) : Regular (.integer n)
  | float {x : Float} (h : x.isFinite = true) : Regular (.float x)
  | string (s : String) : Regular (.string s)
  | array {items : List Json} (h : ∀ item ∈ items, Regular item) : Regular (.array items)
  | object {members : List (String × Json)} (hsorted : Sorted members)
      (h : ∀ m ∈ members, Regular m.2) : Regular (.object members)

@[simp] theorem regular_null : Regular .null := .null

@[simp] theorem regular_string (s : String) : Regular (.string s) := .string s

@[simp] theorem regular_integer_iff {n : Int} : Regular (.integer n) ↔ Fits n :=
  ⟨fun | .integer h => h, .integer⟩

@[simp] theorem regular_array_iff {items : List Json} :
    Regular (.array items) ↔ ∀ item ∈ items, Regular item :=
  ⟨fun | .array h => h, .array⟩

@[simp] theorem regular_object_iff {members : List (String × Json)} :
    Regular (.object members) ↔ Sorted members ∧ ∀ m ∈ members, Regular m.2 :=
  ⟨fun | .object hsorted h => ⟨hsorted, h⟩, fun ⟨hsorted, h⟩ => .object hsorted h⟩

/-- A tree whose numbers are numbers that texts hold. -/
inductive Tree.Regular : Tree → Prop
  | stuck (read skip : Malformed) : Regular (.stuck read skip)
  | unreadable (fault : Malformed) : Regular (.unreadable fault)
  | deep (inner : Tree) : Regular (.deep inner)
  | null : Regular .null
  | bool (b : Bool) : Regular (.bool b)
  | integer {n : Int} (h : Fits n) : Regular (.integer n)
  | float {x : Float} (h : x.isFinite = true) : Regular (.float x)
  | string (s : String) : Regular (.string s)
  | array {items : List Tree} {stop : Stop} (h : ∀ item ∈ items, Regular item) :
      Regular (.array items stop)
  | object {members : List (Key × Tree)} {stop : Stop} (h : ∀ m ∈ members, Regular m.2) :
      Regular (.object members stop)

theorem itemTrees_eq_map : ∀ items : List Json, itemTrees items = items.map toTree
  | [] => rfl
  | item :: items => by rw [itemTrees, itemTrees_eq_map items, List.map_cons]

theorem memberTrees_eq_map : ∀ members : List (String × Json),
    memberTrees members = members.map fun m => (Key.name m.1, toTree m.2)
  | [] => rfl
  | (key, value) :: members => by rw [memberTrees, memberTrees_eq_map members, List.map_cons]

theorem Regular.toTree {j : Json} (h : j.Regular) : j.toTree.Regular := by
  induction h with
  | null => exact .null
  | bool b => exact .bool b
  | integer h => exact .integer h
  | float h => exact .float h
  | string s => exact .string s
  | array _ ih =>
    rw [Json.toTree, itemTrees_eq_map]
    refine .array fun item hitem => ?_
    obtain ⟨j, hj, rfl⟩ := List.mem_map.mp hitem
    exact ih j hj
  | object _ _ ih =>
    rw [Json.toTree, memberTrees_eq_map]
    refine .object fun m hm => ?_
    obtain ⟨j, hj, rfl⟩ := List.mem_map.mp hm
    exact ih j hj

/-- A member of a regular value is regular. -/
theorem Regular.get? {j item : Json} {key : String} (h : j.Regular)
    (hitem : j.get? key = some item) : item.Regular := by
  cases h with
  | null | bool _ | integer _ | float _ | string _ | array _ => cases hitem
  | object _ hmembers =>
    obtain ⟨m, hm, rfl⟩ := Option.map_eq_some_iff.mp hitem
    exact hmembers m (List.mem_of_find?_eq_some hm)

/-! ## Loading -/

/-- What an end that can be read on gives. -/
theorem Stop.finish_eq_ok {α : Type} {done a : α} {stop : Stop}
    (h : stop.finish done = .ok a) : stop = .closed ∧ a = done := by
  cases stop with
  | closed => exact ⟨rfl, (Except.ok.inj h).symm⟩
  | broken _ _ _ => cases h

mutual

/-- A value with the members of its objects in order. -/
def tidy : Json → Json
  | .array items => .array (tidyItems items)
  | .object members => ofMembers (tidyMembers members)
  | .null => .null
  | .bool b => .bool b
  | .integer n => .integer n
  | .float x => .float x
  | .string s => .string s

/-- The items of an array, each in order. -/
def tidyItems : List Json → List Json
  | [] => []
  | item :: items => tidy item :: tidyItems items

/-- The members of an object, each in order. -/
def tidyMembers : List (String × Json) → List (String × Json)
  | [] => []
  | (key, value) :: members => (key, tidy value) :: tidyMembers members

end

mutual

/-- **A value loads in order.** -/
theorem load_toTree : (j : Json) → load j.toTree = .ok j.tidy
  | .null | .bool _ | .integer _ | .float _ | .string _ => rfl
  | .array items => by
    rw [toTree, load, loadItems_itemTrees items]
    rfl
  | .object members => by
    rw [toTree, load, loadMembers_memberTrees members]
    rfl

theorem loadItems_itemTrees : (items : List Json) →
    loadItems (itemTrees items) = .ok (tidyItems items)
  | [] => rfl
  | item :: items => by
    rw [itemTrees, loadItems, load_toTree item, loadItems_itemTrees items]
    rfl

theorem loadMembers_memberTrees : (members : List (String × Json)) →
    loadMembers (memberTrees members) = .ok (tidyMembers members)
  | [] => rfl
  | (key, value) :: members => by
    rw [memberTrees, loadMembers, load_toTree value, loadMembers_memberTrees members]
    rfl

end

theorem tidyItems_eq_self {items : List Json} (h : ∀ item ∈ items, item.tidy = item) :
    tidyItems items = items := by
  induction items with
  | nil => rfl
  | cons first rest ih =>
    obtain ⟨hfirst, hrest⟩ := List.forall_mem_cons.mp h
    rw [tidyItems, hfirst, ih hrest]

theorem tidyMembers_eq_self {members : List (String × Json)} (h : ∀ m ∈ members, m.2.tidy = m.2) :
    tidyMembers members = members := by
  induction members with
  | nil => rfl
  | cons first rest ih =>
    obtain ⟨hfirst, hrest⟩ := List.forall_mem_cons.mp h
    rw [tidyMembers, hfirst, ih hrest]

theorem tidyItems_eq_map : ∀ items : List Json, tidyItems items = items.map tidy
  | [] => rfl
  | item :: items => by rw [tidyItems, tidyItems_eq_map items, List.map_cons]

mutual

/-- **What is in order stays as it is.** -/
theorem tidy_tidy : (j : Json) → j.tidy.tidy = j.tidy
  | .null | .bool _ | .integer _ | .float _ | .string _ => rfl
  | .array items => by rw [tidy, tidy, tidyItems_eq_self (tidy_of_mem_tidyItems items)]
  | .object members => by
    obtain ⟨sorted, heq, hsorted, hmem⟩ := ofMembers_spec (tidyMembers members)
    have htidy : ∀ m ∈ sorted, m.2.tidy = m.2 := fun m hm =>
      tidy_of_mem_tidyMembers members m (hmem m hm)
    rw [tidy, heq, tidy, tidyMembers_eq_self htidy, hsorted.ofMembers]

theorem tidy_of_mem_tidyItems : (items : List Json) →
    ∀ item ∈ tidyItems items, item.tidy = item
  | [] => fun _ h => absurd h List.not_mem_nil
  | item :: items =>
    List.forall_mem_cons.mpr ⟨tidy_tidy item, tidy_of_mem_tidyItems items⟩

theorem tidy_of_mem_tidyMembers : (members : List (String × Json)) →
    ∀ m ∈ tidyMembers members, m.2.tidy = m.2
  | [] => fun _ h => absurd h List.not_mem_nil
  | (_, value) :: members =>
    List.forall_mem_cons.mpr ⟨tidy_tidy value, tidy_of_mem_tidyMembers members⟩

end

/-- **A regular value is in order.** -/
theorem Regular.tidy_eq_self {j : Json} (h : j.Regular) : j.tidy = j := by
  induction h with
  | null | bool _ | integer _ | float _ | string _ => rfl
  | array _ ih => rw [tidy, tidyItems_eq_self ih]
  | object hsorted _ ih => rw [tidy, tidyMembers_eq_self ih, hsorted.ofMembers]

theorem loadItems_regular {trees : List Tree} {items : List Json}
    (hload : ∀ t ∈ trees, ∀ j, load t = .ok j → j.Regular) (h : loadItems trees = .ok items) :
    ∀ item ∈ items, item.Regular := by
  induction trees generalizing items with
  | nil =>
    cases h
    exact fun item hitem => absurd hitem List.not_mem_nil
  | cons first rest ih =>
    obtain ⟨hfirst, hrest⟩ := List.forall_mem_cons.mp hload
    rw [loadItems] at h
    cases hj : load first with
    | error _ => rw [hj] at h; cases h
    | ok j =>
      cases hjs : loadItems rest with
      | error _ => rw [hj, hjs] at h; cases h
      | ok js =>
        rw [hj, hjs] at h
        cases h
        exact List.forall_mem_cons.mpr ⟨hfirst j hj, ih hrest hjs⟩

theorem loadMembers_regular {trees : List (Key × Tree)} {members : List (String × Json)}
    (hload : ∀ t ∈ trees, ∀ j, load t.2 = .ok j → j.Regular) (h : loadMembers trees = .ok members) :
    ∀ m ∈ members, m.2.Regular := by
  induction trees generalizing members with
  | nil =>
    cases h
    exact fun m hm => absurd hm List.not_mem_nil
  | cons first rest ih =>
    obtain ⟨hfirst, hrest⟩ := List.forall_mem_cons.mp hload
    obtain ⟨_ | _ | _, t⟩ := first
    · rw [loadMembers] at h
      cases hj : load t with
      | error _ => rw [hj] at h; cases h
      | ok j =>
        cases hjs : loadMembers rest with
        | error _ => rw [hj, hjs] at h; cases h
        | ok js =>
          rw [hj, hjs] at h
          cases h
          exact List.forall_mem_cons.mpr ⟨hfirst j hj, ih hrest hjs⟩
    · cases h
    · cases h

/-- **What is loaded is regular.** -/
theorem load_regular {t : Tree} {j : Json} (ht : t.Regular) (h : load t = .ok j) : j.Regular := by
  induction ht generalizing j with
  | stuck _ _ | unreadable _ | deep _ => cases h
  | null => cases h; exact .null
  | bool b => cases h; exact .bool b
  | integer hn => cases h; exact .integer hn
  | float hx => cases h; exact .float hx
  | string s => cases h; exact .string s
  | @array trees stop _ ih =>
    rw [load] at h
    cases hitems : loadItems trees with
    | error _ => rw [hitems] at h; cases h
    | ok items =>
      rw [hitems] at h
      obtain ⟨-, rfl⟩ := Stop.finish_eq_ok h
      exact .array (loadItems_regular (fun t ht j => ih t ht) hitems)
  | @object trees stop _ ih =>
    rw [load] at h
    cases hmembers : loadMembers trees with
    | error _ => rw [hmembers] at h; cases h
    | ok members =>
      rw [hmembers] at h
      obtain ⟨-, rfl⟩ := Stop.finish_eq_ok h
      obtain ⟨sorted, heq, hsorted, hmem⟩ := ofMembers_spec members
      have hregular := loadMembers_regular (fun t ht j => ih t ht) hmembers
      exact heq ▸ .object hsorted fun m hm => hregular m (hmem m hm)

end Dunning.Json
