import Dunning.Text.Case
import Dunning.Text.Pieces

/-!
# Text/MediaType — media types, as headers name them

`type/subtype`, perhaps with a suffix after a `+` and parameters after a `;`. `isJson` accepts the
types whose body is JSON.
-/

namespace Dunning.Text

/-- A media type, in lower case and without its parameters. -/
structure MediaType where
  type : String
  subtype : String
  suffix : Option String
  deriving Repr, DecidableEq

namespace MediaType

/-- The characters of a token. -/
def isTokenChar (c : Char) : Bool :=
  c.isAlphanum || "!#$%&'*+-.^_`|~".toList.contains c

/-- The characters between quotes. -/
def isQuotedChar (c : Char) : Bool :=
  c == '\t' || (0x20 ≤ c.toNat && c.toNat != 0x7F)

/-- A token, and what follows it. -/
def token (cs : List Char) : List Char × List Char :=
  (cs.takeWhile isTokenChar, cs.dropWhile isTokenChar)

/-- What follows the closing quote of a value. -/
def afterQuoted? : List Char → Option (List Char)
  | [] => none
  | '"' :: rest => some rest
  | '\\' :: c :: rest => if isQuotedChar c then afterQuoted? rest else none
  | c :: rest => if isQuotedChar c then afterQuoted? rest else none

/-- Parameters divided by semicolons, each a name, an equals sign and a value. -/
def areParameters : Nat → List Char → Bool
  | 0, _ => false
  | _ + 1, [] => true
  | fuel + 1, ' ' :: rest => areParameters fuel rest
  | fuel + 1, cs =>
    match token cs with
    | (_ :: _, '=' :: '"' :: rest) =>
      match afterQuoted? rest with
      | some [] => true
      | some (';' :: rest) => areParameters fuel rest
      | _ => false
    | (_ :: _, '=' :: rest) =>
      match token rest with
      | (_ :: _, []) => true
      | (_ :: _, ';' :: rest) => areParameters fuel rest
      | _ => false
    | _ => false

/-- The part before the last `+`, and the part after it. A `+` at the front sets nothing apart. -/
def splitSuffix (cs : List Char) : List Char × Option (List Char) :=
  match cut? '+' cs.reverse with
  | some (after, before) =>
    if before.isEmpty then (cs, none) else (before.reverse, some after.reverse)
  | none => (cs, none)

/-- Reads a media type. -/
def parse? (s : String) : Option MediaType :=
  let lowered := fun (cs : List Char) => lowerAscii (String.ofList cs)
  match token s.toList with
  | (_ :: _, '/' :: rest) =>
    let (type, _) := token s.toList
    let (name, rest) := token rest
    let (subtype, suffix) := splitSuffix name
    let wellFormed := match rest with
      | [] => true
      | ';' :: rest => areParameters (rest.length + 1) rest
      | _ => false
    if wellFormed && !name.isEmpty then some ⟨lowered type, lowered subtype, suffix.map lowered⟩
    else none
  | _ => none

/-- The body of such a request is JSON. -/
def isJson (m : MediaType) : Bool :=
  m.type == "application" && (m.subtype == "json" || m.suffix == some "json")

end MediaType

end Dunning.Text
