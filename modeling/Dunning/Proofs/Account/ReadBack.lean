import Dunning.Account.Listing
import Dunning.Proofs.Calendar.ReadBack
import Dunning.Proofs.Json.FewDigits
import Dunning.Proofs.Json.Reading
import Dunning.Proofs.Text.Utf8
import Dunning.Startup

/-!
# Proofs/Account/ReadBack — a listed account reads back

    accounts ──s──▸ listed ──write──▸ bytes ──read──▸ listed

Seventeen fields are written in three ways: always, as `null` where they are unset, or not at all
where they are unset.  A record takes its members one after the other (`Record.Takes.put`), and a
member that is left out leaves the blank value, which is the same as reading an unset one
(`Record.Takes.putIfSet`).  So an account whose figures are finite comes back from its members
(`Account.read_toJson`), and a list of accounts from the bytes of the document that lists them
(`Account.ofDocument_document`), if the text of each figure reads back, as it does where its digits
are few (`Json.readsBack_of_isShort`).  Identities are filled in once, when accounts are loaded; no
strategy unsets them, so that reading a listing fills in nothing (`Startup.accounts_listing`).
-/

namespace Dunning

open Json Dunning.Text

variable {σ α : Type}

/-! ## Results that are there -/

section Results

variable {ε ε' β : Type}

/-- Steps that succeed one after the other. -/
theorem exists_of_bind_eq_ok {x : Except ε α} {next : α → Except ε β} {b : β}
    (h : x >>= next = .ok b) : ∃ a, x = .ok a ∧ next a = .ok b := by
  cases x with
  | error _ => cases h
  | ok a => exact ⟨a, rfl, h⟩

theorem eq_ok_of_mapError {x : Except ε α} {f : ε → ε'} {a : α} (h : x.mapError f = .ok a) :
    x = .ok a := by
  cases x with
  | error _ => cases h
  | ok _ => exact congrArg Except.ok (Except.ok.inj h)

end Results

/-! ## What is written reads back -/

/-- A field that is left out where it is unset. -/
theorem Record.Takes.putIfSet {r : Record σ} {source : Source} {known : List String}
    {members : List (String × Json)} {s s' : σ} {key name : String} {aliases : List String}
    {required : Bool} {set : Option String → σ → σ} {o : Option String}
    (hf : r.fields.find? (Field.answersTo key) =
      some (.make name aliases required (Shape.optional Shape.string) set))
    (hname : name ∉ known) (hunset : set none s = s)
    (h : r.Takes source (name :: known) members (set o s) s') :
    r.Takes source known (Account.memberIfSet key o ++ members) s s' := by
  cases o with
  | none => exact (hunset ▸ h).pass
  | some v => exact put hf hname rfl h

namespace Account

variable (source : Source)

theorem figure_readBack {o : Option Float} (h : ∀ x ∈ o, x.isFinite = true) :
    Shape.optional Shape.number source (Json.ofOption Json.ofFloat o).toTree = .ok o :=
  optional_ofOption fun x hx => by
    rw [ofFloat_of_isFinite (h x hx)]
    exact ⟨nofun, rfl⟩

theorem date_readBack (o : Option Date) :
    Shape.optional Shape.date source
      (Json.ofOption (fun d => .string d.text) o).toTree = .ok o :=
  optional_ofOption fun d _ => ⟨nofun, by
    show ((Date.parse d.text).mapError _).mapError _ = _
    rw [d.parse_text]
    rfl⟩

theorem uint32_readBack (o : Option UInt32) :
    Shape.optional Datum.uint32.shape source
      (Json.ofOption (fun n => .integer n.toNat) o).toTree = .ok o :=
  optional_ofOption fun n _ => ⟨nofun, by
    have hin : (0 : Int) ≤ n.toNat ∧ (n.toNat : Int) ≤ 4294967295 := by
      have := n.toNat_lt
      omega
    show Except.map _ (if (0 : Int) ≤ n.toNat ∧ (n.toNat : Int) ≤ 4294967295 then _ else _) = _
    rw [if_pos hin]
    exact congrArg Except.ok (by simp)⟩

theorem int32_readBack (o : Option Int32) :
    Shape.optional Datum.int32.shape source
      (Json.ofOption (fun n => .integer n.toInt) o).toTree = .ok o :=
  optional_ofOption fun n _ => ⟨nofun, by
    have hin : -2147483648 ≤ n.toInt ∧ n.toInt ≤ 2147483647 := by
      have := n.le_toInt
      have := n.toInt_lt
      omega
    show Except.map _ (if -2147483648 ≤ n.toInt ∧ n.toInt ≤ 2147483647 then _ else _) = _
    rw [if_pos hin]
    exact congrArg Except.ok (by simp)⟩

theorem text_readBack (o : Option String) :
    Shape.optional Shape.string source (Json.ofOption .string o).toTree = .ok o :=
  optional_ofOption fun _ _ => ⟨nofun, rfl⟩

theorem delinquency_readBack (o : Option Delinquency) :
    Shape.optional (Shape.oneOf Delinquency.choices) source
      (Json.ofOption Delinquency.toJson o).toTree = .ok o :=
  optional_ofOption fun d _ => ⟨nofun, by cases d <;> rfl⟩

theorem scale_readBack (o : Option PriorityScale) :
    Shape.optional (Shape.oneOf PriorityScale.choices) source
      (Json.ofOption PriorityScale.toJson o).toTree = .ok o :=
  optional_ofOption fun d _ => ⟨nofun, by cases d <;> rfl⟩

/-! ## One account -/

/-- The figures of an account that are set. -/
def figures (a : Account) : List Float :=
  [a.balance, a.originalAmount, a.lastPaymentAmount, a.daysInArrears].reduceOption

/-- The figures of an account, one by one. -/
theorem forall_mem_figures {p : Float → Prop} {a : Account} (h : ∀ x ∈ a.figures, p x) :
    ∀ o ∈ [a.balance, a.originalAmount, a.lastPaymentAmount, a.daysInArrears], ∀ x ∈ o, p x :=
  fun _ ho x hx => h x (List.reduceOption_mem_iff.mpr (Option.mem_def.mp hx ▸ ho))

/-- **An account with finite figures comes back from its document.** -/
theorem read_toJson (a : Account) (h : ∀ x ∈ a.figures, x.isFinite = true) (source : Source) :
    record.read source a.toJson.toTree = .ok a := by
  have hfigure := forall_mem_figures h
  suffices hread : record.Takes source [] a.members blank a from
    hread [] fun _ hn => absurd hn List.not_mem_nil
  -- One step a member, in the order in which they are written.
  simp only [members, List.append_assoc, List.cons_append, List.nil_append]
  refine .put (a := a.id) rfl (by decide) rfl ?_
  refine .put (a := a.number) rfl (by decide) rfl ?_
  refine .putIfSet rfl (by decide) rfl ?_
  refine .put (a := a.customerName) rfl (by decide) rfl ?_
  refine .put rfl (by decide) (figure_readBack source (hfigure a.balance (by simp))) ?_
  refine .put rfl (by decide) (figure_readBack source (hfigure a.originalAmount (by simp))) ?_
  refine .put rfl (by decide) (figure_readBack source (hfigure a.lastPaymentAmount (by simp))) ?_
  refine .put rfl (by decide) (date_readBack source a.lastPaymentDate) ?_
  refine .put rfl (by decide) (figure_readBack source (hfigure a.daysInArrears (by simp))) ?_
  refine .put rfl (by decide) (uint32_readBack source a.daysInCollection) ?_
  refine .putIfSet rfl (by decide) rfl ?_
  refine .putIfSet rfl (by decide) rfl ?_
  refine .putIfSet rfl (by decide) rfl ?_
  refine .put rfl (by decide) (int32_readBack source a.priority) ?_
  refine .put rfl (by decide) (text_readBack source a.nextAction) ?_
  refine .put rfl (by decide) (delinquency_readBack source a.delinquency) ?_
  refine .put rfl (by decide) (scale_readBack source a.scale) ?_
  exact .nil (by decide)

/-! ## Its text -/

theorem printable_memberIfSet {depth : Nat} (key : String) (o : Option String) :
    ∀ m ∈ memberIfSet key o, Printable depth m.2 := by
  intro m hm
  cases o with
  | none => exact absurd hm List.not_mem_nil
  | some s =>
    rw [List.mem_singleton.mp hm]
    exact .string s

theorem printable_ofOption {depth : Nat} {write : α → Json} {o : Option α}
    (h : ∀ a ∈ o, Printable depth (write a)) : Printable depth (Json.ofOption write o) := by
  cases o with
  | none => exact .null
  | some a => exact h a rfl

theorem printable_ofFloat {depth : Nat} {x : Float} (h : ReadsBack x) :
    Printable depth (Json.ofFloat x) := by
  rw [ofFloat]
  split
  · next hx => exact .float hx h
  · exact .null

theorem fits_of_bounds {n : Int} (h : -2147483648 ≤ n ∧ n ≤ 4294967295) : Fits n := by
  have hleast : leastInteger = -9223372036854775808 := rfl
  have hgreatest : greatestInteger = 18446744073709551615 := rfl
  exact ⟨by omega, by omega⟩

/-- What an account writes can be read, if the texts of its figures can. -/
theorem printable_toJson {depth : Nat} {a : Account} (h : ∀ x ∈ a.figures, ReadsBack x) :
    Printable (depth + 1) a.toJson := by
  have hfigure : ∀ o ∈ [a.balance, a.originalAmount, a.lastPaymentAmount, a.daysInArrears],
      Printable depth (Json.ofOption Json.ofFloat o) := fun o ho =>
    printable_ofOption fun x hx => printable_ofFloat (forall_mem_figures h o ho x hx)
  have hcount : ∀ n : UInt32, Printable depth (.integer n.toNat) := fun n =>
    .integer (fits_of_bounds (by have := n.toNat_lt; omega))
  have hpriority : ∀ n : Int32, Printable depth (.integer n.toInt) := fun n =>
    .integer (fits_of_bounds (by have := n.le_toInt; have := n.toInt_lt; omega))
  have hend : ∀ m ∈ ([] : List (String × Json)), Printable depth m.2 := nofun
  refine .object ?_
  simp only [members, List.forall_mem_append, List.forall_mem_cons]
  refine ⟨⟨⟨⟨⟨⟨⟨?id, ?number, hend⟩, ?customerId⟩, ?customerName, ?balance, ?originalAmount,
    ?lastPaymentAmount, ?lastPaymentDate, ?daysInArrears, ?daysInCollection, hend⟩, ?band⟩,
    ?category⟩, ?status⟩, ?priority, ?nextAction, ?delinquency, ?scale, hend⟩
  case id | number | customerName => exact .string _
  case customerId | band | category | status => exact printable_memberIfSet _ _
  case balance | originalAmount | lastPaymentAmount | daysInArrears => exact hfigure _ (by simp)
  case daysInCollection => exact printable_ofOption fun n _ => hcount n
  case priority => exact printable_ofOption fun n _ => hpriority n
  case lastPaymentDate | nextAction | delinquency | scale =>
    exact printable_ofOption fun _ _ => .string _

/-! ## Lists of accounts -/

/-- **Accounts with finite figures come back from the document that lists them**, if the texts of
the figures read back; those without an identity are known by their number. -/
theorem ofDocument_document {accounts : List Account}
    (h : ∀ a ∈ accounts, ∀ x ∈ a.figures, x.isFinite = true)
    (hback : ∀ a ∈ accounts, ∀ x ∈ a.figures, ReadsBack x) :
    ofDocument (document accounts).toUTF8.toList = .ok (accounts.map identified) := by
  have hitems : ∀ item ∈ accounts.map toJson, Printable 126 item := by
    intro item hitem
    obtain ⟨a, ha, rfl⟩ := List.mem_map.mp hitem
    exact printable_toJson (hback a ha)
  have hprintable : Printable maxDepth (Json.array (accounts.map toJson)) := .array hitems
  have hlist : Shape.list record.read .text (Json.array (accounts.map toJson)).toTree =
      .ok (accounts.map fun a => a) := list_map fun a ha => read_toJson a (h a ha) .text
  rw [ofDocument, Utf8.glyphs_toUTF8, document, parse_pretty hprintable]
  simp only [hlist, List.map_id_fun']
  rfl

/-! ## Identities -/

theorem identified_eq_self_iff {a : Account} : a.identified = a ↔ (a.id = "" → a.number = "") := by
  unfold identified
  split
  · next hid =>
    refine ⟨fun h _ => (congrArg id h).trans hid, fun h => ?_⟩
    exact congrArg (fun id => { a with id := id }) ((h hid).trans hid.symm)
  · next hid => exact iff_of_true rfl fun h => absurd h hid

theorem identified_identified (a : Account) : a.identified.identified = a.identified := by
  rw [identified_eq_self_iff]
  unfold identified
  split
  · exact fun h => h
  · next hid => exact fun h => absurd h hid

/-- A strategy leaves identity and number as they are. -/
theorem identified_refresh (s : Strategy) {a : Account} (h : a.identified = a) :
    (s.refresh a).identified = s.refresh a := by
  rw [identified_eq_self_iff] at h ⊢
  exact h

theorem identified_of_ofDocument {bytes : List UInt8} {accounts : List Account}
    (h : ofDocument bytes = .ok accounts) : ∀ a ∈ accounts, a.identified = a := by
  obtain ⟨read, -, hfinish⟩ := exists_of_bind_eq_ok h
  rw [Document.finish] at hfinish
  split at hfinish
  · cases hfinish
  · cases hfinish
    exact List.forall_mem_map.mpr fun a _ => identified_identified a

theorem identified_of_ofTable {bytes : List UInt8} {accounts : List Account}
    (h : ofTable bytes = .ok accounts) : ∀ a ∈ accounts, a.identified = a := by
  rw [ofTable] at h
  cases hread : Csv.read columns blank bytes with
  | error _ => rw [hread] at h; cases h
  | ok read =>
    rw [hread] at h
    cases h
    exact List.forall_mem_map.mpr fun a _ => identified_identified a

/-- Accounts of a file have an identity, if they have a number. -/
theorem identified_of_ofFile {isDocument : Bool} {bytes : List UInt8} {accounts : List Account}
    (h : ofFile isDocument bytes = .ok accounts) : ∀ a ∈ accounts, a.identified = a := by
  rw [ofFile] at h
  split at h
  · exact identified_of_ofDocument (eq_ok_of_mapError h)
  · exact identified_of_ofTable (eq_ok_of_mapError h)

end Account

/-! ## Files of accounts -/

namespace Startup

variable {files files' : Files} {path path' : String} {bytes : List UInt8} {loaded : List Account}

/-- Loaded accounts have an identity, if they have a number. -/
theorem identified_of_accounts (h : accounts files path = .ok loaded) :
    ∀ a ∈ loaded, a.identified = a := by
  obtain ⟨opened, -, hopened⟩ := exists_of_bind_eq_ok h
  obtain ⟨bytes, -, hbytes⟩ := exists_of_bind_eq_ok hopened
  exact Account.identified_of_ofFile (eq_ok_of_mapError hbytes)

/-- A document is read as its bytes are. -/
theorem accounts_of_document (hfile : files path = .ok (.file bytes))
    (hjson : Path.isDocument path = true) (hread : Account.ofDocument bytes = .ok loaded) :
    accounts files path = .ok loaded := by
  have hfound : Account.ofFile true bytes = .ok loaded := by
    rw [Account.ofFile, if_pos rfl, hread]
    rfl
  rw [accounts, hfile, hjson]
  simp only [Except.mapError, Opened.read, Bind.bind, Except.bind, hfound]

theorem forall_mem_figures_reapply {p : Float → Prop} (h : ∀ a ∈ loaded, ∀ x ∈ a.figures, p x)
    (s : Strategy) : ∀ b ∈ s.reapply loaded, ∀ x ∈ b.figures, p x := by
  intro b hb
  obtain ⟨a, ha, rfl⟩ := List.mem_map.mp hb
  exact h a ha

/-- **What is listed as a document can be fed back.**  Accounts that were loaded, with finite
figures of which each reads back from its own text, come back from the listing under any strategy:
all fields of all accounts, in their order, and no identity has to be filled in.  That a text reads
back as its figure is asked of the figures at hand, since it does not hold of every double. -/
theorem accounts_listing (h : accounts files path = .ok loaded)
    (hfinite : ∀ a ∈ loaded, ∀ x ∈ a.figures, x.isFinite = true)
    (hback : ∀ a ∈ loaded, ∀ x ∈ a.figures, ReadsBack x) (s : Strategy)
    (hjson : Path.isDocument path' = true)
    (hwritten : files' path' =
      .ok (.file (Account.listing true (s.reapply loaded)).toUTF8.toList)) :
    accounts files' path' = .ok (s.reapply loaded) ∧
      (s.reapply loaded).map Account.identified = s.reapply loaded := by
  have hidentified : (s.reapply loaded).map Account.identified = s.reapply loaded := by
    rw [Strategy.reapply, List.map_map]
    exact List.map_congr_left fun a ha =>
      Account.identified_refresh s (identified_of_accounts h a ha)
  have hread := Account.ofDocument_document (forall_mem_figures_reapply hfinite s)
    (forall_mem_figures_reapply hback s)
  rw [hidentified] at hread
  exact ⟨accounts_of_document hwritten hjson hread, hidentified⟩

/-- A table of two accounts, one without an identity and the other without a balance.  Their figures
have few digits. -/
theorem accounts_listing_queue :
    let files := Files.ofList [("queue.csv",
      ("id,account_number,outstanding_balance,days_in_arrears,last_payment_date,status\n" ++
        ",A-1,1234.5,45,2024-02-29,open\n7,A-2,,0.25,,\n").toUTF8.toList)]
    let first : Account := { Account.blank with
      id := "A-1", number := "A-1", balance := some 1234.5, daysInArrears := some 45,
      lastPaymentDate := some ⟨2024, 2, 29, by decide⟩, status := some "open" }
    let second : Account := { Account.blank with
      id := "7", number := "A-2", daysInArrears := some 0.25 }
    let listed := Strategy.standard.reapply [first, second]
    let written : Files := fun _ => .ok (.file (Account.listing true listed).toUTF8.toList)
    accounts files "queue.csv" = .ok [first, second] ∧
      (∀ a ∈ [first, second], ∀ x ∈ a.figures, x.isFinite = true) ∧
      (∀ a ∈ [first, second], ∀ x ∈ a.figures, ReadsBack x) ∧
      Path.isDocument "queue.json" = true ∧ accounts written "queue.json" = .ok listed := by
  intro files first second listed written
  have hloaded : accounts files "queue.csv" = .ok [first, second] := by decide +kernel
  have hfinite : ∀ a ∈ [first, second], ∀ x ∈ a.figures, x.isFinite = true := by decide +kernel
  have hshort : ∀ a ∈ [first, second], ∀ x ∈ a.figures, IsShort (Decimal.shortest x.abs) := by
    decide +kernel
  have hback : ∀ a ∈ [first, second], ∀ x ∈ a.figures, ReadsBack x := fun a ha x hx =>
    readsBack_of_isShort (hfinite a ha x hx) (hshort a ha x hx)
  have hjson : Path.isDocument "queue.json" = true := by decide +kernel
  exact ⟨hloaded, hfinite, hback, hjson,
    (accounts_listing hloaded hfinite hback .standard hjson rfl).1⟩

end Startup

end Dunning
