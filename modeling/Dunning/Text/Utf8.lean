/-!
# Text/Utf8 — characters out of bytes

`Glyph` is what a byte sequence shows at one place: a character, or `none` for a byte that belongs
to no well-formed character. `glyphs` reads a whole sequence so; `Utf8.decode?` is the text of a
sequence that is well formed throughout, and `wellFormedBytes` counts the bytes before the first
that is not. Overlong forms, surrogates and code points above U+10FFFF are not well formed.
-/

namespace Dunning.Text

/-- A character, or a byte that is no part of one. -/
abbrev Glyph := Option Char

namespace Utf8

/-- The payload of a continuation byte. -/
def tail? (b : UInt8) : Option Nat :=
  if 0x80 ≤ b && b ≤ 0xBF then some (b.toNat - 0x80) else none

/-- The character of a two-byte sequence. -/
def two? (a b : UInt8) : Option Char := do
  let y ← tail? b
  if 0xC2 ≤ a && a ≤ 0xDF then some (Char.ofNat ((a.toNat - 0xC0) * 64 + y)) else none

/-- The character of a three-byte sequence: neither overlong nor a surrogate. -/
def three? (a b c : UInt8) : Option Char := do
  let y ← tail? b
  let z ← tail? c
  let n := (a.toNat - 0xE0) * 4096 + y * 64 + z
  if 0xE0 ≤ a && a ≤ 0xEF && 0x800 ≤ n && !(0xD800 ≤ n && n ≤ 0xDFFF) then some (Char.ofNat n)
  else none

/-- The character of a four-byte sequence: above U+FFFF and at most U+10FFFF. -/
def four? (a b c d : UInt8) : Option Char := do
  let x ← tail? b
  let y ← tail? c
  let z ← tail? d
  let n := (a.toNat - 0xF0) * 262144 + x * 4096 + y * 64 + z
  if 0xF0 ≤ a && a ≤ 0xF4 && 0x10000 ≤ n && n ≤ 0x10FFFF then some (Char.ofNat n) else none

/-- The character at the front of a sequence, and the bytes it takes. -/
def first? : List UInt8 → Option (Char × Nat)
  | [] => none
  | a :: rest =>
    if a < 0x80 then some (Char.ofNat a.toNat, 1)
    else match rest with
      | [] => none
      | b :: rest =>
        match two? a b, rest with
        | some ch, _ => some (ch, 2)
        | none, [] => none
        | none, c :: rest =>
          match three? a b c, rest with
          | some ch, _ => some (ch, 3)
          | none, [] => none
          | none, d :: _ => (four? a b c d).map fun ch => (ch, 4)

/-- Reads a sequence whose first `skip` bytes have been read already. -/
def glyphsAfter : Nat → List UInt8 → List Glyph
  | _, [] => []
  | skip + 1, _ :: rest => glyphsAfter skip rest
  | 0, b :: rest =>
    match first? (b :: rest) with
    | some (c, width) => some c :: glyphsAfter (width - 1) rest
    | none => none :: glyphsAfter 0 rest

/-- What a byte sequence shows. -/
def glyphs (bytes : List UInt8) : List Glyph :=
  glyphsAfter 0 bytes

/-- The text of what is shown, unless some byte is no part of a character. -/
def textOf? (shown : List Glyph) : Option String :=
  (shown.mapM id).map String.ofList

/-- The text of a well-formed sequence. -/
def decode? (bytes : List UInt8) : Option String :=
  textOf? (glyphs bytes)

/-- The bytes of a character. -/
def width (c : Char) : Nat :=
  c.utf8Size

/-- How many bytes stand before the first that is no part of a character. -/
def wellFormedBytes (bytes : List UInt8) : Nat :=
  ((glyphs bytes).takeWhile Option.isSome).foldl (fun n g => n + (g.map width).getD 0) 0

end Utf8

/-- What a text shows: its characters. -/
def glyphsOf (s : String) : List Glyph :=
  s.toList.map some

end Dunning.Text
