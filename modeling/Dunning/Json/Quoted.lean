import Dunning.Decimal.Reading
import Dunning.Json.Fault
import Dunning.Text.Utf8

/-!
# Json/Quoted — strings inside quotes

A quoted string is a run of pieces: characters, escapes, and the 16-bit units that `\u` names.
`pieces` finds the run and the text after its closing quote, which is all it takes to pass over a
string; `join` reads the pieces, where two units that belong together make one character and a unit
that lacks its partner is a fault.
-/

namespace Dunning.Json

open Dunning.Text

/-- A part of a quoted string. -/
inductive Piece where
  | char (c : Char)
  /-- A 16-bit unit, or digits that name none. -/
  | unit (n : Option Nat)
  /-- A byte that is no part of a character. -/
  | byte

/-- The character that a one-letter escape stands for. -/
def escaped? (c : Char) : Option Char :=
  if c = '"' ∨ c = '\\' ∨ c = '/' then some c
  else if c = 'b' then some (Char.ofNat 8)
  else if c = 'f' then some (Char.ofNat 12)
  else if c = 'n' then some '\n'
  else if c = 'r' then some '\r'
  else if c = 't' then some '\t'
  else none

/-- The unit that four digits name. -/
def unit? (a b c d : Glyph) : Option Nat := do
  let a ← Decimal.hexDigit? (← a)
  let b ← Decimal.hexDigit? (← b)
  let c ← Decimal.hexDigit? (← c)
  let d ← Decimal.hexDigit? (← d)
  some (((a * 16 + b) * 16 + c) * 16 + d)

/-- How many bytes a glyph takes. -/
def glyphWidth : Glyph → Nat
  | some c => c.utf8Size
  | none => 1

/-- Fewer than four glyphs after `\u`: the text ends early, unless they take four bytes and so name
no unit. -/
def shortUnit (rest : List Glyph) : List Piece × Except Malformed (List Glyph) :=
  if rest.foldl (fun width g => width + glyphWidth g) 0 < 4 then ([], .error .endInString)
  else ([.unit none], .error .badEscape)

/-- Puts a piece in front. -/
def Piece.before (p : Piece) (run : List Piece × Except Malformed (List Glyph)) :
    List Piece × Except Malformed (List Glyph) :=
  (p :: run.1, run.2)

/-- The pieces up to the closing quote, and the text after it. -/
def pieces : List Glyph → List Piece × Except Malformed (List Glyph)
  | [] => ([], .error .endInString)
  | none :: rest => Piece.byte.before (pieces rest)
  | some c :: rest =>
    if c = '"' then ([], .ok rest)
    else if c = '\\' then
      match rest with
      | [] => ([], .error .endInString)
      | none :: _ => ([], .error .badEscape)
      | some e :: rest =>
        if e = 'u' then
          match rest with
          | x :: y :: z :: w :: rest =>
            match unit? x y z w with
            | some n => (Piece.unit n).before (pieces rest)
            | none => ([.unit none], .error .badEscape)
          | short => shortUnit short
        else match escaped? e with
          | some meant => (Piece.char meant).before (pieces rest)
          | none => ([], .error .badEscape)
    else if c.toNat < 0x20 then ([], .error .controlCharacter)
    else (Piece.char c).before (pieces rest)

/-- Units that open a pair. -/
def isLeading (n : Nat) : Bool := 0xD800 ≤ n && n ≤ 0xDBFF

/-- Units that close a pair. -/
def isTrailing (n : Nat) : Bool := 0xDC00 ≤ n && n ≤ 0xDFFF

/-- The character that two units make. -/
def pairChar (leading trailing : Nat) : Char :=
  Char.ofNat (0x10000 + (leading - 0xD800) * 0x400 + (trailing - 0xDC00))

/-- What a leading unit at the end of a run lacks. -/
def cutShort : Except Malformed (List Glyph) → Malformed
  | .error .endInString => .endInString
  | _ => .surrogateCutShort

/-- Reads a run of pieces whose end is `after`. A byte outside a character is reported only where
all else is well. -/
def join (after : Except Malformed (List Glyph)) :
    List Piece → Except Malformed (List (Option Char))
  | [] => match after with
    | .ok _ => .ok []
    | .error fault => .error fault
  | .char c :: ps => (join after ps).map (some c :: ·)
  | .byte :: ps => (join after ps).map (none :: ·)
  | .unit none :: _ => .error .badEscape
  | .unit (some n) :: ps =>
    if isTrailing n then .error .loneSurrogate
    else if isLeading n then
      match ps with
      | .unit none :: _ => .error .badEscape
      | .unit (some m) :: ps =>
        if isTrailing m then (join after ps).map (some (pairChar n m) :: ·)
        else .error .loneSurrogate
      | [] => .error (cutShort after)
      | _ => .error .surrogateCutShort
    else (join after ps).map (some (Char.ofNat n) :: ·)

/-- A quoted string: its content, and the text after it. -/
structure Quoted where
  content : Except Malformed String
  after : Except Malformed (List Glyph)

/-- Reads a string whose opening quote has been read. -/
def Quoted.read (cs : List Glyph) : Quoted :=
  let (run, after) := pieces cs
  let content := (join after run).bind fun shown =>
    match Utf8.textOf? shown with
    | some s => .ok s
    | none => .error .badEncoding
  ⟨content, after⟩

end Dunning.Json
