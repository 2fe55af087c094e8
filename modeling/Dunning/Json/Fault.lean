import Dunning.Calendar.Date
import Dunning.Decimal.Layout
import Dunning.Text.Shown

/-!
# Json/Fault — what can be wrong with JSON

A `Malformed` text is no JSON; `endsEarly` separates a text that stops too soon from one that goes
wrong. A `Mismatch` is JSON of the wrong shape. `JsonFault` is either, and each has one wording.
-/

namespace Dunning

/-- Why a text is no JSON. -/
inductive Malformed where
  | endInArray
  | endInObject
  | endInString
  | endInValue
  | noColon
  | noCommaOrBracket
  | noCommaOrBrace
  | noWord
  | noValue
  | badEscape
  | badNumber
  | numberTooLarge
  | badEncoding
  | controlCharacter
  | keyNotString
  | loneSurrogate
  | trailingComma
  | trailingText
  | surrogateCutShort
  | tooDeep
  deriving Repr, DecidableEq

namespace Malformed

/-- The text stops where more of it is due. -/
def endsEarly : Malformed → Bool
  | .endInArray | .endInObject | .endInString | .endInValue => true
  | _ => false

/-- The wording of a fault. -/
def message : Malformed → String
  | .endInArray => "EOF while parsing a list"
  | .endInObject => "EOF while parsing an object"
  | .endInString => "EOF while parsing a string"
  | .endInValue => "EOF while parsing a value"
  | .noColon => "expected `:`"
  | .noCommaOrBracket => "expected `,` or `]`"
  | .noCommaOrBrace => "expected `,` or `\x7d`"
  | .noWord => "expected ident"
  | .noValue => "expected value"
  | .badEscape => "invalid escape"
  | .badNumber => "invalid number"
  | .numberTooLarge => "number out of range"
  | .badEncoding => "invalid unicode code point"
  | .controlCharacter => "control character (\\u0000-\\u001F) found while parsing a string"
  | .keyNotString => "key must be a string"
  | .loneSurrogate => "lone leading surrogate in hex escape"
  | .trailingComma => "trailing comma"
  | .trailingText => "trailing characters"
  | .surrogateCutShort => "unexpected end of hex escape"
  | .tooDeep => "recursion limit exceeded"

end Malformed

/-- What a reader found in place of what it wanted. -/
inductive Found where
  | null
  | bool (b : Bool)
  | integer (n : Int)
  | float (x : Float)
  | string (s : String)
  | sequence
  | map
  deriving Repr, DecidableEq

/-- The wording of a find. -/
def Found.text : Found → String
  | .null => "null"
  | .bool b => "boolean `" ++ (if b then "true" else "false") ++ "`"
  | .integer n => "integer `" ++ Decimal.intText n ++ "`"
  | .float x => "floating point `" ++ Decimal.Layout.json.write x ++ "`"
  | .string s => "string " ++ Text.shown s
  | .sequence => "sequence"
  | .map => "map"

/-- JSON of the wrong shape. -/
inductive Mismatch where
  | missingField (name : String)
  | duplicateField (name : String)
  | unknownVariant (name : String) (known : List String)
  | wrongType (found : Found) (wanted : String)
  | wrongValue (found : Found) (wanted : String)
  | wrongLength (length : Nat) (wanted : String)
  | noVariant (type : String)
  | badDate (fault : DateFault)
  | notADocument
  | inNode (id : String) (fault : Mismatch)
  deriving Repr, DecidableEq

namespace Mismatch

/-- Names to choose from: two joined by `or`, more as a list. -/
def choice : List String → String
  | [] => "there are no variants"
  | [a] => "expected `" ++ a ++ "`"
  | [a, b] => "expected `" ++ a ++ "` or `" ++ b ++ "`"
  | names => "expected one of " ++ String.intercalate ", " (names.map fun a => "`" ++ a ++ "`")

/-- The wording of a fault. -/
def message : Mismatch → String
  | .missingField name => "missing field `" ++ name ++ "`"
  | .duplicateField name => "duplicate field `" ++ name ++ "`"
  | .unknownVariant name known => "unknown variant `" ++ name ++ "`, " ++ choice known
  | .wrongType found wanted => "invalid type: " ++ found.text ++ ", expected " ++ wanted
  | .wrongValue found wanted => "invalid value: " ++ found.text ++ ", expected " ++ wanted
  | .wrongLength length wanted =>
    "invalid length " ++ Decimal.natText length ++ ", expected " ++ wanted
  | .noVariant type => "data did not match any variant of untagged enum " ++ type
  | .badDate fault => fault.message
  | .notADocument =>
    "strategy document must be a node array or an object with a `nodes` list"
  | .inNode id fault => "node " ++ id ++ ": " ++ fault.message

end Mismatch

/-- What can be wrong with JSON that is read for its contents. -/
inductive JsonFault where
  | malformed (cause : Malformed)
  | mismatch (cause : Mismatch)
  deriving Repr, DecidableEq

/-- The wording of a fault. -/
def JsonFault.message : JsonFault → String
  | .malformed cause => cause.message
  | .mismatch cause => cause.message

end Dunning
