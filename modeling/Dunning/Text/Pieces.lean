/-!
# Text/Pieces — splitting a text at a mark, and finding one text inside another

`pieces` splits at every mark and always gives at least one piece; `cut?` splits at the first mark
only. `occursIn` looks for a contiguous run of characters, and finds exactly the sublists
`List.IsInfix` describes (`occursIn_iff`).
-/

namespace Dunning.Text

/-- The runs between the marks: one more than there are marks. -/
def pieces (mark : Char) : List Char → List (List Char)
  | [] => [[]]
  | c :: cs =>
    if c = mark then [] :: pieces mark cs
    else match pieces mark cs with
      | [] => [[c]]
      | p :: ps => (c :: p) :: ps

/-- What stands before the first mark and what follows it, if there is a mark. -/
def cut? (mark : Char) : List Char → Option (List Char × List Char)
  | [] => none
  | c :: cs =>
    if c = mark then some ([], cs)
    else (cut? mark cs).map fun (before, after) => (c :: before, after)

/-- The pieces of a text, as texts. -/
def split (mark : Char) (s : String) : List String :=
  (pieces mark s.toList).map String.ofList

/-- Both sides of the first mark of a text. -/
def splitOnce? (mark : Char) (s : String) : Option (String × String) :=
  (cut? mark s.toList).map fun (before, after) => (String.ofList before, String.ofList after)

/-- Some contiguous run of the second list is the first. -/
def occursIn (s : List Char) : List Char → Bool
  | [] => s.isEmpty
  | c :: cs => s.isPrefixOf (c :: cs) || occursIn s cs

theorem occursIn_iff {s t : List Char} : occursIn s t = true ↔ s <:+: t := by
  induction t with
  | nil => simp [occursIn, List.isEmpty_iff]
  | cons c cs ih => simp [occursIn, ih, List.infix_cons_iff]

/-- Repeats one character. -/
def fill (c : Char) (n : Nat) : String :=
  String.ofList (List.replicate n c)

/-- Pads on the left with `c` to at least `width` characters. -/
def padLeft (c : Char) (width : Nat) (s : String) : String :=
  fill c (width - s.length) ++ s

/-- Pads on the right to at least `width` characters. -/
def padRight (width : Nat) (s : String) : String :=
  s ++ fill ' ' (width - s.length)

end Dunning.Text
