import Dunning.Csv.Table
import Dunning.Proofs.Json.Reading
import Dunning.Proofs.Text.Joined

/-!
# Proofs/Csv/Reading — what tables read

The blanks around a cell are dropped before the cell is looked at.  So what the blank structure
satisfies and every column keeps when it is filled from a text without such blanks, every structure
read from a table satisfies (`Csv.read_keeps`), also where the cells are taken in the order of the
fields because the names of the columns are no text.
-/

namespace Dunning

open Text

variable {σ α : Type}

/-- A column keeps a property, whatever text without blanks around it fills the column. -/
def Column.Keeps (p : σ → Prop) (c : Column σ) : Prop :=
  ∀ cell s s', trim cell = cell → c.fill cell s = .ok s' → p s → p s'

theorem Column.make_keeps {p : σ → Prop} {name : String} {aliases : List String} {required : Bool}
    {datum : Datum α} {set : α → σ → σ}
    (h : ∀ cell a s, trim cell = cell → datum.cell cell = .ok a → p s → p (set a s)) :
    (Column.make name aliases required datum set).Keeps p := by
  intro cell s s' hcell hfill hs
  change (datum.cell cell).map (fun a => set a s) = .ok s' at hfill
  cases ha : datum.cell cell with
  | error _ => rw [ha] at hfill; cases hfill
  | ok a =>
    rw [ha] at hfill
    cases hfill
    exact h cell a s hcell ha hs

namespace Csv

variable {columns : List (Column σ)} {p : σ → Prop} {start : Position} {s s' blank : σ}

/-- The cells of a row have no blanks around them. -/
theorem trim_of_mem_decode {column : Nat} {fields : List (List UInt8)} {cells : List String}
    (h : decode column fields = .ok cells) : ∀ cell ∈ cells, trim cell = cell := by
  induction fields generalizing column cells with
  | nil =>
    cases h
    exact fun cell hcell => absurd hcell List.not_mem_nil
  | cons field fields ih =>
    simp only [decode] at h
    split at h
    · cases h
    · cases hrest : decode (column + 1) fields with
      | error _ => rw [hrest] at h; cases h
      | ok rest =>
        rw [hrest] at h
        cases h
        exact List.forall_mem_cons.mpr ⟨trim_trim _, ih hrest⟩

theorem fromNamed_keeps (hcolumns : ∀ c ∈ columns, c.Keeps p) {cells : List (String × String)}
    (hcells : ∀ cell ∈ cells, trim cell.2 = cell.2) {column : Nat} {seen : List String} (hs : p s)
    (h : fromNamed columns start column seen s cells = .ok s') : p s' := by
  induction cells generalizing column seen s with
  | nil =>
    rw [fromNamed] at h
    split at h
    · cases h
    · exact Except.ok.inj h ▸ hs
  | cons first rest ih =>
    obtain ⟨name, cell⟩ := first
    obtain ⟨hcell, hrest⟩ := List.forall_mem_cons.mp hcells
    rw [fromNamed] at h
    split at h
    · exact ih hrest hs h
    · next c hc =>
      split at h
      · cases h
      · cases hfill : c.fill cell s with
        | error _ => rw [hfill] at h; cases h
        | ok next =>
          rw [hfill] at h
          have hkeeps := hcolumns c (List.mem_of_find?_eq_some hc)
          exact ih hrest (hkeeps cell s next hcell hfill hs) h

theorem fromOrdered_keeps (hcolumns : ∀ c ∈ columns, c.Keeps p) {cells : List String}
    (hcells : ∀ cell ∈ cells, trim cell = cell) {column : Nat} (hs : p s)
    (h : fromOrdered start column s columns cells = .ok s') : p s' := by
  induction columns generalizing column cells s with
  | nil =>
    rw [fromOrdered] at h
    · exact Except.ok.inj h ▸ hs
    · exact nofun
  | cons c columns ih =>
    obtain ⟨hc, hcolumns⟩ := List.forall_mem_cons.mp hcolumns
    cases cells with
    | nil => exact Except.ok.inj h ▸ hs
    | cons cell cells =>
      obtain ⟨hcell, hcells⟩ := List.forall_mem_cons.mp hcells
      rw [fromOrdered] at h
      cases hfill : c.fill cell s with
      | error _ => rw [hfill] at h; cases h
      | ok next =>
        rw [hfill] at h
        exact ih hcolumns hcells (hc cell s next hcell hfill hs) h

theorem readRow_keeps (hblank : p blank) (hcolumns : ∀ c ∈ columns, c.Keeps p)
    {names : Option (List String)} {width : Nat} {row : Row}
    (h : readRow columns blank names width row = .ok s) : p s := by
  rw [readRow] at h
  split at h
  · cases h
  · split at h
    · cases h
    · next cells hdecode =>
      have hcells := trim_of_mem_decode hdecode
      split at h
      · exact fromNamed_keeps hcolumns (fun cell hcell => hcells _ (List.of_mem_zip hcell).2)
          hblank h
      · exact fromOrdered_keeps hcolumns hcells hblank h

/-- **What the blank structure satisfies and every column keeps, every structure of a table
satisfies.** -/
theorem read_keeps (hblank : p blank) (hcolumns : ∀ c ∈ columns, c.Keeps p) {bytes : List UInt8}
    {read : List σ} (h : Csv.read columns blank bytes = .ok read) : ∀ s ∈ read, p s := by
  rw [Csv.read] at h
  split at h
  · cases h
    exact fun s hs => absurd hs List.not_mem_nil
  · exact forall_mem_of_mapM (fun _ _ _ hrow => readRow_keeps hblank hcolumns hrow) h

end Csv

end Dunning
