import Dunning.Text.Blank
import Dunning.Text.Letter
import Dunning.Text.Pieces
import Dunning.Text.Utf8

/-!
# Settings/EnvFile — variables out of a file

A line sets a variable: `NAME=value`, perhaps after `export`. A value may be quoted: single quotes
keep everything, within double quotes and outside of quotes a backslash escapes and `$NAME` or
`${NAME}` stands for a variable. A quoted value may span lines. A variable that is set already keeps
its value. Reading stops at the first line that is none of this; what the lines before it have set
stays set.
-/

namespace Dunning

/-- Variables with their values, the latest first. -/
abbrev Environment : Type := List (String × String)

namespace EnvFile

open Dunning.Text

/-- The single quote. -/
def apostrophe : Char := Char.ofNat 39

/-! ## Lines -/

/-- Where a line stands, as far as its end is concerned. -/
inductive Place where
  | complete
  | escape
  | strong
  | strongEscape
  | weak
  | weakEscape
  | space
  | comment
  deriving Repr, DecidableEq

/-- The place after a character. -/
def Place.next (place : Place) (c : Char) : Place :=
  let opened := if c = '\\' then Place.escape
    else if c = '"' then .weak
    else if c = apostrophe then .strong
    else .complete
  match place with
  | .space => if c = '#' then .comment else opened
  | .escape => .complete
  | .complete => if isBlank c && c != '\n' && c != '\r' then .space else opened
  | .weak => if c = '\\' then .weakEscape else if c = '"' then .complete else .weak
  | .weakEscape => .weak
  | .strong => if c = '\\' then .strongEscape else if c = apostrophe then .complete else .strong
  | .strongEscape => .strong
  | .comment => .comment

/-- What comes of a part of a line: the characters before a comment, and the place at the end. -/
def scan (place : Place) : List Char → List Char × Place
  | [] => ([], place)
  | c :: cs =>
    match place.next c with
    | .comment => ([], .comment)
    | next =>
      let (kept, last) := scan next cs
      (c :: kept, last)

/-- The characters up to the first line feed and with it, and the rest. -/
def cutLine : List Char → List Char × List Char
  | [] => ([], [])
  | c :: cs =>
    if c = '\n' then (['\n'], cs)
    else
      let (line, rest) := cutLine cs
      (c :: line, rest)

/-- A line without its end. -/
def chomp (line : List Char) : List Char :=
  match line.reverse with
  | '\n' :: '\r' :: before => before.reverse
  | '\n' :: before => before.reverse
  | _ => line

/-- The first non-blank character is a hash sign. -/
def isComment (cs : List Char) : Bool :=
  (cs.dropWhile isBlank).head? == some '#'

/-- The next line, which ends where no quote is open, and the rest; `none` where the text ends
first. -/
def nextLine? : Nat → List Char → Place → List Char → Option (List Char × List Char)
  | 0, _, _, _ => none
  | _ + 1, _, _, [] => none
  | fuel + 1, before, place, cs =>
    let (line, rest) := cutLine cs
    if isComment (before ++ line) then some ([], rest)
    else match scan place line with
      | (kept, .comment) => some (before ++ kept, rest)
      | (_, .complete) => some (chomp (before ++ line), rest)
      | (_, place) => nextLine? fuel (before ++ line) place rest

/-! ## Values -/

/-- What a variable stands for: what is set, else what the file has said. -/
def valueOf (env said : Environment) (name : String) : List Char :=
  match env.lookup name with
  | some value => value.toList
  | none => ((said.lookup name).getD "").toList

/-- What a character of a value belongs to. -/
inductive Mode where
  | plain
  | variable (name : List Char)
  | braced (name : List Char)
  | atEnd
  deriving Repr, DecidableEq

/-- A reader of a value. Names and output stand in reverse order. -/
structure Reader where
  mode : Mode
  strong : Bool
  weak : Bool
  escaped : Bool
  output : List Char

/-- The character that an escape stands for. -/
def escaped? (c : Char) : Option Char :=
  if c = '\\' || c = apostrophe || c = '"' || c = '$' || c = ' ' then some c
  else if c = 'n' then some '\n'
  else none

/-- Adds characters to the output. -/
def Reader.put (r : Reader) (cs : List Char) : Reader :=
  { r with output := cs.reverse ++ r.output }

/-- A character outside of variables, escapes and single quotes. -/
def Reader.plain (r : Reader) (c : Char) : Reader :=
  if c = '$' then { r with mode := .variable [] }
  else if r.weak then
    if c = '"' then { r with weak := false }
    else if c = '\\' then { r with escaped := true }
    else r.put [c]
  else if c = apostrophe then { r with strong := true }
  else if c = '"' then { r with weak := true }
  else if c = '\\' then { r with escaped := true }
  else if c = ' ' || c = '\t' then { r with mode := .atEnd }
  else r.put [c]

/-- Reads the characters of a value. -/
def readValue? (value : String → List Char) (r : Reader) : List Char → Option (List Char)
  | [] =>
    if r.strong || r.weak then none
    else match r.mode with
      | .braced _ => none
      | .variable name => some (r.put (value (String.ofList name.reverse))).output.reverse
      | _ => some r.output.reverse
  | c :: cs =>
    match r.mode with
    | .atEnd =>
      if c = ' ' || c = '\t' then readValue? value r cs
      else if c = '#' then some r.output.reverse
      else none
    | mode =>
      if r.escaped then
        match escaped? c with
        | some meant => readValue? value ({ r with escaped := false }.put [meant]) cs
        | none => none
      else if r.strong then
        if c = apostrophe then readValue? value { r with strong := false } cs
        else readValue? value (r.put [c]) cs
      else match mode with
        | .variable name =>
          if isLetterOrNumber c then readValue? value { r with mode := .variable (c :: name) } cs
          else if c = '\x7b' && name.isEmpty then readValue? value { r with mode := .braced [] } cs
          else
            let r := r.put (value (String.ofList name.reverse))
            if c = '$' then readValue? value { r with mode := .variable [] } cs
            else readValue? value ({ r with mode := .plain }.put [c]) cs
        | .braced name =>
          if c = '\x7d' then
            readValue? value
              ({ r with mode := .plain }.put (value (String.ofList name.reverse))) cs
          else readValue? value { r with mode := .braced (c :: name) } cs
        | _ => readValue? value (r.plain c) cs

/-! ## Settings -/

/-- The name at the front, and what follows it. -/
def name? (cs : List Char) : Option (String × List Char) :=
  match cs with
  | [] => none
  | c :: _ =>
    if c.isAlpha || c = '_' then
      let inName := fun (c : Char) => c.isAlphanum || c = '_' || c = '.'
      some (String.ofList (cs.takeWhile inName), cs.dropWhile inName)
    else none

/-- The text after an equals sign, blanks around it left out. -/
def equals? (cs : List Char) : Option (List Char) :=
  match cs.dropWhile isBlank with
  | '=' :: rest => some (rest.dropWhile isBlank)
  | _ => none

/-- What a line says: nothing, or a value for a name; `none` where it is malformed. -/
def setting? (value : String → List Char) (line : List Char) :
    Option (Option (String × String)) := do
  let cs := trimBy isBlank line
  if cs.isEmpty || isComment cs then some none
  else do
    let (name, rest) ← name? cs
    let (name, rest) ← match equals? rest with
      | some rest => some (name, rest)
      | none =>
        if name = "export" then do
          let (name, rest) ← name? (rest.dropWhile isBlank)
          some (name, ← equals? rest)
        else none
    if rest.isEmpty || isComment rest then some (some (name, ""))
    else do
      let cs ← readValue? value ⟨.plain, false, false, false, []⟩ rest
      some (some (name, String.ofList cs))

/-- Sets a variable, unless it is set. -/
def set (env : Environment) (name value : String) : Environment :=
  match env.lookup name with
  | some _ => env
  | none => (name, value) :: env

/-- Reads lines until one is malformed. -/
def load : Nat → Environment → Environment → List Char → Environment
  | 0, env, _, _ => env
  | fuel + 1, env, said, cs =>
    match nextLine? (cs.length + 1) [] .complete cs with
    | none => env
    | some (line, rest) =>
      match setting? (valueOf env said) line with
      | none => env
      | some none => load fuel env said rest
      | some (some (name, value)) => load fuel (set env name value) ((name, value) :: said) rest

/-- The text of a file up to the line that holds the first byte outside a character; a mark at its
start is left out. -/
def readable (bytes : List UInt8) : List Char :=
  let shown := Utf8.glyphs bytes
  let kept := (shown.takeWhile Option.isSome).filterMap id
  let whole := if kept.length = shown.length then kept
    else (kept.reverse.dropWhile fun c => c != '\n').reverse
  match whole with
  | c :: rest => if c = Char.ofNat 0xFEFF then rest else whole
  | [] => []

/-- The variables after a file has been read. -/
def apply (env : Environment) (bytes : List UInt8) : Environment :=
  let cs := readable bytes
  load (cs.length + 1) env [] cs

end EnvFile

end Dunning
