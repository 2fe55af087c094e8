import Dunning.Text.Case
import Dunning.Text.LetterTable

/-!
# Text/Letter — letters and numbers of every script
-/

namespace Dunning.Text

/-- A letter or a number. -/
def isLetterOrNumber (c : Char) : Bool :=
  if c.toNat < 0x80 then c.isAlphanum else inRanges letterRanges c

end Dunning.Text
