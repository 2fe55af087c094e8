/-!
# Text/Blank — white space, and trimming it

`isBlank` is the Unicode property `White_Space`: twenty-five characters, which the zero-width space
and the byte-order mark are not among. `trim` drops the blanks on both sides of a text; a text that
neither starts nor ends with a blank is left alone (`trim_eq_self`).
-/

namespace Dunning.Text

/-- The characters with the Unicode property `White_Space`. -/
def isBlank (c : Char) : Bool :=
  let n := c.toNat
  (9 ≤ n && n ≤ 13) || n == 0x20 || n == 0x85 || n == 0xA0 || n == 0x1680 ||
    (0x2000 ≤ n && n ≤ 0x200A) || n == 0x2028 || n == 0x2029 || n == 0x202F || n == 0x205F ||
    n == 0x3000

/-- The blanks that a reader of single bytes recognises: the vertical tab is not among them. -/
def isBlankByte (b : UInt8) : Bool :=
  b == 9 || b == 10 || b == 12 || b == 13 || b == 32

/-- Drops the members at either end that satisfy `p`. -/
def trimBy {α : Type} (p : α → Bool) (xs : List α) : List α :=
  ((xs.dropWhile p).reverse.dropWhile p).reverse

/-- Drops the blanks at either end. -/
def trim (s : String) : String :=
  String.ofList (trimBy isBlank s.toList)

/-- Nothing but blanks. -/
def isBlankText (s : String) : Bool :=
  s.toList.all isBlank

theorem trimBy_eq_self {α : Type} {p : α → Bool} {xs : List α}
    (first : ∀ x ∈ xs.head?, p x = false) (last : ∀ x ∈ xs.getLast?, p x = false) :
    trimBy p xs = xs := by
  have h : xs.dropWhile p = xs := by
    cases xs with
    | nil => rfl
    | cons x _ => rw [List.dropWhile_cons_of_neg (by simp [first x rfl])]
  rw [trimBy, h]
  cases hr : xs.reverse with
  | nil => simpa using hr
  | cons x _ =>
    have hx : x ∈ xs.getLast? := by rw [← List.head?_reverse, hr]; rfl
    rw [List.dropWhile_cons_of_neg (by simp [last x hx]), ← hr, List.reverse_reverse]

theorem trim_eq_self {s : String} (first : ∀ c ∈ s.toList.head?, isBlank c = false)
    (last : ∀ c ∈ s.toList.getLast?, isBlank c = false) : trim s = s := by
  rw [trim, trimBy_eq_self first last, String.ofList_toList]

end Dunning.Text
