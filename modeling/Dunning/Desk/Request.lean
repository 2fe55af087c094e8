import Dunning.Desk.Document
import Dunning.Text.MediaType
import Dunning.Text.Percent

/-!
# Desk/Request — the desk over HTTP

A request is routed by its path and method, its body is read, and the desk is called. A path that is
no route, a method that a route does not have, and a body that is refused are answered before the
desk is called, and so change nothing.
-/

namespace Dunning

open Dunning.Text

/-- A request. -/
structure Request where
  method : String
  path : String
  headers : List (String × String)
  body : List UInt8

/-- A response. The body is `null` where it holds no JSON. -/
structure Response where
  status : Nat
  body : Json
  deriving Repr, DecidableEq

namespace Response

/-- A status without a JSON body. -/
def plain (status : Nat) : Response := ⟨status, .null⟩

/-- A message in place of an answer. -/
def fault (status : Nat) (message : String) : Response :=
  ⟨status, .object [("error", .string message)]⟩

end Response

/-- The status of a refusal. -/
def DeskFault.status : DeskFault → Nat
  | .accountNotFound => 404
  | .library (.notFound _) => 404
  | .unavailable _ => 500

namespace Request

/-! ## Headers -/

/-- The value of a header, whatever the case of its name. -/
def header? (r : Request) (name : String) : Option String :=
  (r.headers.find? fun (key, _) => lowerAscii key == name).map Prod.snd

/-- Visible ASCII, blanks and tabs. -/
def isPlainChar (c : Char) : Bool :=
  c == '\t' || (0x20 ≤ c.toNat && c.toNat < 0x7F)

/-- Who is behind a request, where it does not say. -/
def defaultTrigger : String := "api"

/-- Who is behind a request. -/
def triggeredBy (r : Request) : String :=
  match r.header? "x-triggered-by" with
  | some value =>
    if value.toList.all isPlainChar && !isBlankText value then trim value else defaultTrigger
  | none => defaultTrigger

/-- The body is declared to be JSON. -/
def declaresJson (r : Request) : Bool :=
  match r.header? "content-type" with
  | some value =>
    value.toList.all isPlainChar && ((MediaType.parse? value).map MediaType.isJson).getD false
  | none => false

/-! ## Routes -/

/-- What a path leads to. -/
inductive Route where
  | health
  | ready
  | metrics
  | accounts
  | importUpdates
  | account (encodedId : String)
  | apply
  | strategies
  | trial
  | deactivate
  | activate (encodedId : String)
  deriving Repr, DecidableEq

/-- The segments of a path, its query left out. -/
def segments (path : String) : List String :=
  let plain := path.toList.takeWhile fun c => c != '?' && c != '#'
  (pieces '/' plain).map String.ofList

/-- The route of a path. A fixed segment goes before one that stands for an id. -/
def route? (path : String) : Option Route :=
  match segments path with
  | ["", "health"] => some .health
  | ["", "ready"] => some .ready
  | ["", "metrics"] => some .metrics
  | ["", "api", "v1", "accounts"] => some .accounts
  | ["", "api", "v1", "accounts", id] =>
    if id = "import" then some .importUpdates else if id = "" then none else some (.account id)
  | ["", "api", "v1", "strategy", "apply"] => some .apply
  | ["", "api", "v1", "strategies"] => some .strategies
  | ["", "api", "v1", "strategies", name] =>
    if name = "test" then some .trial else if name = "deactivate" then some .deactivate else none
  | ["", "api", "v1", "strategies", id, "activate"] => some (.activate id)
  | _ => none

/-- What a method asks of a route. -/
inductive Verb where
  | get
  | post
  deriving Repr, DecidableEq

/-- A `HEAD` request is a `GET` request whose answer has no body. -/
def verb? (method : String) : Option Verb :=
  if method = "GET" ∨ method = "HEAD" then some .get
  else if method = "POST" then some .post
  else none

/-! ## Bodies -/

/-- The greatest length of a body. -/
def maxBody : Nat := 2097152

/-- Reads the body. What follows the first value is ignored. -/
def read {α : Type} (r : Request) (shape : Shape α) : Except Response α :=
  if !r.declaresJson then .error (.plain 415)
  else if maxBody < r.body.length then .error (.plain 413)
  else match shape .text (Json.Document.parse (Utf8.glyphs r.body)).tree with
    | .ok a => .ok a
    | .error (.malformed _) => .error (.plain 400)
    | .error (.mismatch _) => .error (.plain 422)

/-- Updates under a name. -/
def wrappedUpdates : Record (List Update) where
  title := "struct variant ImportPayload::Wrapped"
  blank := []
  fields := [.needed "records" (Shape.list Update.record.read) fun v _ => v]

/-- Updates: a list of them, or an object that holds one. -/
def updates : Shape (List Update) := fun _ t => do
  let _ ← Shape.lift (Json.load t)
  match Shape.list Update.record.read .buffer t with
  | .ok us => .ok us
  | .error _ =>
    match t with
    | .object _ _ =>
      match wrappedUpdates.read .buffer t with
      | .ok us => .ok us
      | .error _ => Shape.mismatch (.noVariant "ImportPayload")
    | _ => Shape.mismatch (.noVariant "ImportPayload")

/-- A draft is signed by who is behind the request, unless it is signed already. -/
def sign (by_ : String) (d : Draft) : Draft :=
  if isBlankText d.createdBy then { d with createdBy := by_ } else d

end Request

/-! ## Answers -/

/-- What surrounds a desk while it answers a request. -/
structure Setting where
  outage : Outage
  ready : Bool
  now : Instant

namespace Desk

open Request

/-- The response to a call of the desk. -/
def answered {α : Type} (status : Nat) (write : α → Json) (reply : Reply α) : Response × Desk :=
  match reply with
  | (.ok a, d) => (⟨status, write a⟩, d)
  | (.error fault, d) => (.fault fault.status fault.message, d)

/-- The response to a call that reads only. -/
def shown {α : Type} (d : Desk) (write : α → Json) (answer : Except DeskFault α) :
    Response × Desk :=
  answered 200 write (answer, d)

/-- Calls the desk with the body of a request, unless the body is refused. -/
def withBody {α : Type} (d : Desk) (r : Request) (shape : Shape α)
    (call : α → Response × Desk) : Response × Desk :=
  match r.read shape with
  | .ok a => call a
  | .error refusal => (refusal, d)

/-- Calls the desk with the id in a path, unless that is no text. -/
def withId (d : Desk) (encodedId : String) (call : String → Response × Desk) : Response × Desk :=
  match percentDecode? encodedId with
  | some id => call id
  | none => (.plain 400, d)

/-- Writes an activated strategy with what its activation did. -/
def activationJson : SavedStrategy × Report → Json
  | (saved, report) => .object [("strategy", saved.toJson), ("reevaluation", report.toJson)]

/-- Answers a request whose route and method are known. -/
def dispatch (d : Desk) (s : Setting) (r : Request) (route : Route) (verb : Verb) :
    Response × Desk :=
  let o := s.outage
  let by_ := r.triggeredBy
  match route, verb with
  | .health, .get => (⟨200, .object [("status", .string "ok")]⟩, d)
  | .ready, .get =>
    if s.ready then (⟨200, .object [("status", .string "ready")]⟩, d)
    else (⟨503, .object [("status", .string "initializing")]⟩, d)
  | .metrics, .get => (.plain 200, d)
  | .accounts, .get => d.shown (fun as => .array (as.map Account.toJson)) (d.accounts o)
  | .account encodedId, .get => d.withId encodedId fun id => d.shown Account.toJson (d.account o id)
  | .importUpdates, .post =>
    d.withBody r updates fun us => answered 200 ImportReport.toJson (d.importUpdates o by_ us)
  | .apply, .post => answered 200 Report.toJson (d.apply o by_)
  | .strategies, .get =>
    d.shown (fun entries => .array (entries.map SavedStrategy.toJson)) (.ok d.library.entries)
  | .strategies, .post =>
    d.withBody r Draft.record.read fun draft =>
      answered 201 SavedStrategy.toJson (d.save o by_ s.now (sign by_ draft))
  | .trial, .post =>
    d.withBody r Trial.record.read fun t => (⟨200, (trial t.graph t.account).toJson⟩, d)
  | .deactivate, .post => answered 200 Report.toJson (d.deactivate o by_ s.now)
  | .activate encodedId, .post =>
    d.withId encodedId fun id => answered 200 activationJson (d.activate o by_ s.now id)
  | _, _ => (.plain 405, d)

/-- Answers a request. -/
def respond (d : Desk) (s : Setting) (r : Request) : Response × Desk :=
  match route? r.path with
  | none => (.plain 404, d)
  | some route =>
    match verb? r.method with
    | none => (.plain 405, d)
    | some verb =>
      let (response, d) := d.dispatch s r route verb
      (if r.method = "HEAD" then .plain response.status else response, d)

end Desk

end Dunning
