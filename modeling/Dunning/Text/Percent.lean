import Dunning.Decimal.Reading
import Dunning.Text.Utf8

/-!
# Text/Percent — percent-encoded text

`%` and two digits in base sixteen stand for a byte. A `%` without such digits stands for itself,
and so does every other character. The bytes have to be well-formed text.
-/

namespace Dunning.Text

/-- The byte that two digits name. -/
def percentByte? (a b : Char) : Option UInt8 := do
  let high ← Decimal.hexDigit? a
  let low ← Decimal.hexDigit? b
  some (UInt8.ofNat (high * 16 + low))

/-- The bytes of a percent-encoded text. -/
def percentBytes : List Char → List UInt8
  | '%' :: a :: b :: rest =>
    match percentByte? a b with
    | some byte => byte :: percentBytes rest
    | none => '%'.toUInt8 :: percentBytes (a :: b :: rest)
  | c :: rest => String.utf8EncodeChar c ++ percentBytes rest
  | [] => []

/-- The text that a percent-encoded text stands for. -/
def percentDecode? (s : String) : Option String :=
  Utf8.decode? (percentBytes s.toList)

end Dunning.Text
