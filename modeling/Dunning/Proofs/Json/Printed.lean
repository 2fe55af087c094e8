import Dunning.Json.Parser
import Dunning.Json.Printer
import Dunning.Proofs.Json.NumberText
import Dunning.Proofs.Json.Quoted

/-!
# Proofs/Json/Printed — a printed value reads back

A text `Reads` as a tree if the parser, wherever it meets the text, gives the tree and goes on
behind it.  Scalars do (`reads_scalar`), and so do brackets around texts that do, with commas
between them and blanks wherever a printer puts them (`reads_array`, `reads_object`).  Hence a value
is the tree of its own text (`parse_pretty`), if texts can hold its numbers and it has no more
brackets within each other than the parser reads (`Printable`).

For a double this asks that its own text reads back (`ReadsBack`), as not every double does.

The fuel never runs out: a text of `n` characters needs `n`.
-/

namespace Dunning.Json

open Dunning.Text Dunning.Decimal

variable {s t blanks : String} {rest : List Glyph} {depth fuel : Nat}

theorem glyphsOf_append (s t : String) : glyphsOf (s ++ t) = glyphsOf s ++ glyphsOf t := by
  simp [glyphsOf]

theorem length_glyphsOf (s : String) : (glyphsOf s).length = s.length := by
  rw [glyphsOf, List.length_map, String.length_toList]

/-! ## Blanks -/

/-- A text of blanks. -/
def Blank (s : String) : Prop :=
  ∀ c ∈ s.toList, isSpace c = true

/-- What is no blank and closes no bracket. -/
def Opens (c : Char) : Prop :=
  isSpace c = false ∧ c ≠ ']' ∧ c ≠ '\x7d'

instance (c : Char) : Decidable (Opens c) := by
  unfold Opens
  infer_instance

/-- What comes first is no blank and closes no bracket. -/
def OpensWith (gs : List Glyph) : Prop :=
  ∃ c cs, gs = some c :: cs ∧ Opens c

theorem OpensWith.append {gs : List Glyph} (h : OpensWith gs) (rest : List Glyph) :
    OpensWith (gs ++ rest) := by
  obtain ⟨c, cs, rfl, hc⟩ := h
  exact ⟨c, cs ++ rest, rfl, hc⟩

theorem skipSpace_cons {c : Char} (hc : isSpace c = false) (rest : List Glyph) :
    skipSpace (some c :: rest) = some c :: rest := by
  simp [skipSpace, hc]

theorem skipSpace_blank (h : Blank blanks) (rest : List Glyph) :
    skipSpace (glyphsOf blanks ++ rest) = skipSpace rest := by
  rw [skipSpace, glyphsOf, List.dropWhile_append_of_pos]
  · rfl
  · intro g hg
    obtain ⟨c, hc, rfl⟩ := List.mem_map.mp hg
    exact h c hc

/-! ## Texts that read as trees -/

/-- The parser gives the tree and goes on behind the text. -/
structure Reads (depth : Nat) (s : String) (t : Tree) : Prop where
  opens : OpensWith (glyphsOf s)
  value_eq : ∀ fuel rest, s.length ≤ fuel → Ends rest →
    value fuel depth (glyphsOf s ++ rest) = (t, some rest)

/-- What stands by itself is read as the character in front tells. -/
theorem reads_scalar {c : Char} {cs : List Char} {tree : Tree} (hs : s.toList = c :: cs)
    (hopens : Opens c) (hsequence : c ≠ '[') (hmap : c ≠ '\x7b')
    (h : ∀ rest, Ends rest → scalar c (cs.map some ++ rest) = (tree, some rest)) :
    Reads depth s tree where
  opens := ⟨c, cs.map some, by rw [glyphsOf, hs, List.map_cons], hopens⟩
  value_eq fuel rest hfuel hrest := by
    obtain ⟨fuel, rfl⟩ : ∃ n, fuel = n + 1 := by
      refine ⟨fuel - 1, ?_⟩
      have : 0 < s.length := by rw [← String.length_toList, hs]; simp
      omega
    rw [glyphsOf, hs, List.map_cons, List.cons_append, value, skipSpace_cons hopens.1]
    simp only [hsequence, hmap, if_false]
    exact h rest hrest

theorem reads_null : Reads depth "null" .null := by
  have hs : "null".toList = 'n' :: ['u', 'l', 'l'] := by simp
  refine reads_scalar hs (by decide) (by decide) (by decide) fun rest _ => ?_
  simp [scalar, word]

theorem reads_bool (b : Bool) : Reads depth (if b then "true" else "false") (.bool b) := by
  cases b with
  | true =>
    have hs : "true".toList = 't' :: ['r', 'u', 'e'] := by simp
    refine reads_scalar hs (by decide) (by decide) (by decide) fun rest _ => ?_
    simp [scalar, word]
  | false =>
    have hs : "false".toList = 'f' :: ['a', 'l', 's', 'e'] := by simp
    refine reads_scalar hs (by decide) (by decide) (by decide) fun rest _ => ?_
    simp [scalar, word]

theorem reads_string (s : String) : Reads depth (quoted s) (.string s) := by
  have hs : (quoted s).toList = '"' :: (s.toList.flatMap escapeChar ++ ['"']) := by simp [quoted]
  refine reads_scalar hs (by decide) (by decide) (by decide) fun rest _ => ?_
  have hread := Quoted.read_escaped s rest
  simp [scalar, text, hread]

/-- A digit opens a value. -/
theorem opens_of_isDigit {c : Char} (h : isDigit c = true) : Opens c ∧ c ≠ '[' ∧ c ≠ '\x7b' := by
  obtain ⟨d, rfl⟩ := eq_digit_of_isDigit h
  revert d
  decide

/-- What is read by a digit in front. -/
theorem scalar_digit {c : Char} (h : isDigit c = true) (rest : List Glyph) :
    scalar c rest = number false (some c :: rest) := by
  obtain ⟨d, rfl⟩ := eq_digit_of_isDigit h
  have hword : ∀ d : Fin 10, digit d.val ≠ 'n' ∧ digit d.val ≠ 't' ∧ digit d.val ≠ 'f' ∧
      digit d.val ≠ '"' ∧ digit d.val ≠ '-' := by decide
  obtain ⟨hn, ht, hf, hquote, hminus⟩ := hword d
  simp [scalar, hn, ht, hf, hquote, hminus, h]

theorem reads_number {t : NumberText} {negative : Bool} {tree : Tree}
    (hs : s.toList = t.signed negative) (htree : t.meaning negative = tree) :
    Reads depth s tree := by
  subst htree
  cases negative with
  | true =>
    refine reads_scalar hs (by decide) (by decide) (by decide) fun rest hrest => ?_
    simp [scalar, number, t.magnitude_text true hrest]
  | false =>
    obtain ⟨c, cs, htext, hc⟩ := t.exists_cons
    obtain ⟨hopens, hsequence, hmap⟩ := opens_of_isDigit hc
    refine reads_scalar (hs.trans htext) hopens hsequence hmap fun rest hrest => ?_
    have hread := t.magnitude_text false hrest
    rw [htext, List.map_cons, List.cons_append] at hread
    simp [scalar_digit hc, number, hread]

/-! ## Between the parts of a bracket -/

theorem skipSpace_opensWith {gs : List Glyph} (h : OpensWith gs) : skipSpace gs = gs := by
  obtain ⟨c, cs, rfl, hc⟩ := h
  exact skipSpace_cons hc.1 cs

/-- A value is read behind blanks as it is without them. -/
theorem value_blank (h : Blank blanks) (fuel depth : Nat) (cs : List Glyph) :
    value fuel depth (glyphsOf blanks ++ cs) = value fuel depth cs := by
  cases fuel with
  | zero => rfl
  | succ fuel => rw [value, value, skipSpace_blank h]

theorem afterItem_closed (h : Blank blanks) (rest : List Glyph) :
    afterItem (glyphsOf blanks ++ some ']' :: rest) = .finished .closed (some rest) := by
  rw [afterItem, skipSpace_blank h, skipSpace_cons (by decide)]
  rfl

theorem afterItem_comma (h : Blank blanks) {gs : List Glyph} (hgs : OpensWith gs) :
    afterItem (some ',' :: (glyphsOf blanks ++ gs)) = .another gs := by
  rw [afterItem, skipSpace_cons (by decide)]
  simp only [skipSpace_blank h, skipSpace_opensWith hgs]
  obtain ⟨c, cs, rfl, -, hsequence, -⟩ := hgs
  simp [hsequence]

theorem afterMember_closed (h : Blank blanks) (rest : List Glyph) :
    afterMember (glyphsOf blanks ++ some '\x7d' :: rest) = .finished .closed (some rest) := by
  rw [afterMember, skipSpace_blank h, skipSpace_cons (by decide)]
  rfl

theorem afterMember_comma (h : Blank blanks) {gs : List Glyph} (hgs : OpensWith gs) :
    afterMember (some ',' :: (glyphsOf blanks ++ gs)) = .another gs := by
  rw [afterMember, skipSpace_cons (by decide)]
  simp only [skipSpace_blank h, skipSpace_opensWith hgs]
  obtain ⟨c, cs, rfl, -, -, hmap⟩ := hgs
  simp [hmap]

theorem endsNumber_of_isSpace {c : Char} (h : isSpace c = true) : EndsNumber c := by
  simp only [isSpace, Bool.or_eq_true, beq_iff_eq] at h
  obtain ((rfl | rfl) | rfl) | rfl := h <;> decide

theorem ends_nil : Ends [] := nofun

theorem ends_cons {c : Char} (hc : EndsNumber c) (rest : List Glyph) : Ends (some c :: rest) := by
  intro d hd
  cases hd
  exact hc

/-- Blanks end a number, and so does what follows where there are none. -/
theorem Blank.ends (h : Blank blanks) (hrest : Ends rest) : Ends (glyphsOf blanks ++ rest) := by
  rw [glyphsOf]
  cases hb : blanks.toList with
  | nil => exact hrest
  | cons b bs =>
    have hmem : b ∈ blanks.toList := by
      rw [hb]
      exact List.mem_cons_self
    exact ends_cons (endsNumber_of_isSpace (h b hmem)) _

/-! ## Inside brackets -/

section Inside

variable {write : Json → String} {sep closing : String} (hsep : Blank sep)
  (hclosing : Blank closing)

theorem glyphsOf_comma (sep : String) (rest : List Glyph) :
    glyphsOf ("," ++ sep) ++ rest = some ',' :: (glyphsOf sep ++ rest) := by
  rw [glyphsOf_append]
  rfl

theorem ends_comma (rest : List Glyph) : Ends (some ',' :: rest) :=
  ends_cons (by decide) rest

/-- Joined texts open as the first of them does. -/
theorem opensWith_intercalate (h : OpensWith (glyphsOf s)) (ss : List String) :
    OpensWith (glyphsOf (t.intercalate (s :: ss))) := by
  cases ss with
  | nil => rwa [String.intercalate_singleton]
  | cons s' ss =>
    rw [String.intercalate_cons_cons, glyphsOf_append, glyphsOf_append, List.append_assoc]
    exact h.append _

/-- The texts behind a comma are shorter. -/
theorem length_lt_of_comma {n : Nat} (h : s.length + ("," ++ sep).length + t.length < n + 1) :
    s.length ≤ n ∧ t.length < n := by
  rw [String.length_append] at h
  have hcomma : ",".length = 1 := rfl
  omega

/-- The text of a member. -/
def memberText (write : Json → String) (gap : String) (m : String × Json) : String :=
  quoted m.1 ++ (":" ++ gap) ++ write m.2

theorem glyphsOf_memberText (gap : String) (m : String × Json) (rest : List Glyph) :
    glyphsOf (memberText write gap m) ++ rest =
      some '"' :: ((m.1.toList.flatMap escapeChar).map some ++
        some '"' :: some ':' :: (glyphsOf gap ++ (glyphsOf (write m.2) ++ rest))) := by
  simp [memberText, glyphsOf, quoted]

theorem opensWith_memberText (write : Json → String) (gap : String) (m : String × Json) :
    OpensWith (glyphsOf (memberText write gap m)) := by
  rw [← List.append_nil (glyphsOf _), glyphsOf_memberText]
  exact ⟨'"', _, rfl, by decide⟩

theorem colon_cons (rest : List Glyph) : colon (some ':' :: rest) = .ok rest := by
  rw [colon, skipSpace_cons (by decide)]
  rfl

section Member

variable {gap : String} (hgap : Blank gap) {m : String × Json} {after rest : List Glyph}
  (hm : Reads depth (write m.2) m.2.toTree) (hfuel : (write m.2).length ≤ fuel)
  (hends : Ends after)

include hgap hm hfuel hends

/-- The last member is read up to the bracket behind its value. -/
theorem members_last {stop : Stop} {left : Option (List Glyph)}
    (hafter : afterMember after = .finished stop left) :
    members (fuel + 1) depth (glyphsOf (memberText write gap m) ++ after) =
      ([(.name m.1, m.2.toTree)], stop, left) := by
  rw [glyphsOf_memberText, members, if_pos rfl, Quoted.read_escaped]
  simp only [colon_cons, value_blank hgap, hm.value_eq fuel after hfuel hends, hafter]

/-- Any other member is read up to the comma behind its value. -/
theorem members_more (hafter : afterMember after = .another rest) :
    members (fuel + 1) depth (glyphsOf (memberText write gap m) ++ after) =
      ((.name m.1, m.2.toTree) :: (members fuel depth rest).1, (members fuel depth rest).2) := by
  rw [glyphsOf_memberText, members, if_pos rfl, Quoted.read_escaped]
  simp only [colon_cons, value_blank hgap, hm.value_eq fuel after hfuel hends, hafter]

end Member

include hsep hclosing

/-- Items with commas between them, up to the closing bracket. -/
theorem items_joined {first : Json} {more : List Json}
    (h : ∀ item ∈ first :: more, Reads depth (write item) item.toTree)
    (hfuel : (String.intercalate ("," ++ sep) ((first :: more).map write)).length < fuel)
    (rest : List Glyph) :
    items fuel depth (glyphsOf (String.intercalate ("," ++ sep) ((first :: more).map write)) ++
      (glyphsOf closing ++ some ']' :: rest)) =
        (itemTrees (first :: more), .closed, some rest) := by
  -- The first item is kept apart, since the parser reads one before it looks for a comma.
  induction more generalizing first fuel with
  | nil =>
    obtain ⟨fuel, rfl⟩ := Nat.exists_eq_add_of_lt hfuel
    rw [List.map_singleton, String.intercalate_singleton]
    rw [items, (h first List.mem_cons_self).value_eq _ _ (by simp)
      (hclosing.ends (ends_cons (by decide) rest))]
    simp only [afterItem_closed hclosing]
    rfl
  | cons second more ih =>
    obtain ⟨hfirst, hmore⟩ := List.forall_mem_cons.mp h
    have hopens := opensWith_intercalate (t := "," ++ sep)
      (hmore second List.mem_cons_self).opens (more.map write)
    obtain ⟨fuel, rfl⟩ : ∃ n, fuel = n + 1 := ⟨fuel - 1, by omega⟩
    rw [List.map_cons, List.map_cons, String.intercalate_cons_cons] at hfuel ⊢
    rw [String.length_append, String.length_append] at hfuel
    obtain ⟨hlength, hrest⟩ := length_lt_of_comma hfuel
    rw [glyphsOf_append, glyphsOf_append, List.append_assoc, List.append_assoc, glyphsOf_comma,
      items, hfirst.value_eq _ _ hlength (ends_comma _)]
    simp only [afterItem_comma hsep (hopens.append _)]
    rw [← List.map_cons, ih hmore hrest]
    rfl

/-- Members with commas between them, up to the closing brace. -/
theorem members_joined {gap : String} (hgap : Blank gap) {first : String × Json}
    {more : List (String × Json)} (h : ∀ m ∈ first :: more, Reads depth (write m.2) m.2.toTree)
    (hfuel : (String.intercalate ("," ++ sep)
      ((first :: more).map (memberText write gap))).length < fuel) (rest : List Glyph) :
    members fuel depth (glyphsOf (String.intercalate ("," ++ sep)
        ((first :: more).map (memberText write gap))) ++
      (glyphsOf closing ++ some '\x7d' :: rest)) =
        (memberTrees (first :: more), .closed, some rest) := by
  have hlength : ∀ m, (write m.2).length ≤ (memberText write gap m).length := fun m => by
    rw [memberText, String.length_append]
    omega
  induction more generalizing first fuel with
  | nil =>
    obtain ⟨fuel, rfl⟩ := Nat.exists_eq_add_of_lt hfuel
    rw [List.map_singleton, String.intercalate_singleton] at hfuel ⊢
    have hfirst := hlength first
    exact members_last hgap (h first List.mem_cons_self) (by omega)
      (hclosing.ends (ends_cons (by decide) rest)) (afterMember_closed hclosing rest)
  | cons second more ih =>
    obtain ⟨hfirst, hmore⟩ := List.forall_mem_cons.mp h
    have hnext := opensWith_intercalate (t := "," ++ sep) (opensWith_memberText write gap second)
      (more.map (memberText write gap))
    obtain ⟨fuel, rfl⟩ : ∃ n, fuel = n + 1 := ⟨fuel - 1, by omega⟩
    rw [List.map_cons, List.map_cons, String.intercalate_cons_cons] at hfuel ⊢
    rw [String.length_append, String.length_append] at hfuel
    obtain ⟨hlt, hrest⟩ := length_lt_of_comma hfuel
    rw [glyphsOf_append, glyphsOf_append, List.append_assoc, List.append_assoc, glyphsOf_comma,
      members_more hgap hfirst ((hlength first).trans hlt) (ends_comma _)
        (afterMember_comma hsep (hnext.append _)),
      ← List.map_cons, ih hmore hrest]
    rfl

end Inside

/-! ## Blocks -/

/-- What a line of a block starts with. -/
def indentText (depth : Nat) : String :=
  "\n" ++ fill ' ' (2 * depth)

theorem blank_indentText (depth : Nat) : Blank (indentText depth) := by
  intro c hc
  simp only [indentText, fill, String.toList_append, String.toList_ofList, List.mem_append] at hc
  rcases hc with hc | hc
  · rw [List.mem_singleton.mp hc]
    decide
  · rw [List.eq_of_mem_replicate hc]
    decide

theorem blank_space : Blank " " := by
  simp [Blank]
  decide

/-- A block with something in it. -/
theorem block_cons (opening closing : String) (depth : Nat) (line : String) (lines : List String) :
    block opening closing depth (line :: lines) = opening ++ (indentText (depth + 1) ++
      (String.intercalate ("," ++ indentText (depth + 1)) (line :: lines) ++
        (indentText depth ++ closing))) := by
  simp [block, indentText, String.append_assoc, Nat.mul_add]

section Blocks

variable {opening closing : String} {o c : Char} {indent : Nat} {tree : Tree}
  (ho : glyphsOf opening = [some o]) (hc : glyphsOf closing = [some c]) (hopens : Opens o)

include ho hc hopens

theorem reads_empty_block
    (h : ∀ fuel rest, value (fuel + 1) depth (some o :: some c :: rest) = (tree, some rest)) :
    Reads depth (block opening closing indent []) tree := by
  have htext : glyphsOf (block opening closing indent []) = [some o, some c] := by
    rw [block, glyphsOf_append, ho, hc, List.singleton_append]
  refine ⟨⟨o, [some c], htext, hopens⟩, fun fuel rest hfuel _ => ?_⟩
  rw [← length_glyphsOf, htext] at hfuel
  obtain ⟨fuel, rfl⟩ := Nat.exists_eq_add_of_lt hfuel
  rw [htext]
  exact h _ rest

/-- A block is read by what reads its lines. -/
theorem reads_block {line : String} {lines : List String}
    (h : ∀ fuel rest,
      (String.intercalate ("," ++ indentText (indent + 1)) (line :: lines)).length < fuel →
      value (fuel + 1) depth (some o :: (glyphsOf (indentText (indent + 1)) ++
        (glyphsOf (String.intercalate ("," ++ indentText (indent + 1)) (line :: lines)) ++
          (glyphsOf (indentText indent) ++ some c :: rest)))) = (tree, some rest)) :
    Reads depth (block opening closing indent (line :: lines)) tree := by
  have htext : ∀ rest, glyphsOf (block opening closing indent (line :: lines)) ++ rest =
      some o :: (glyphsOf (indentText (indent + 1)) ++
        (glyphsOf (String.intercalate ("," ++ indentText (indent + 1)) (line :: lines)) ++
          (glyphsOf (indentText indent) ++ some c :: rest))) := by
    intro rest
    simp only [block_cons, glyphsOf_append, ho, hc, List.append_assoc, List.cons_append,
      List.nil_append]
  refine ⟨⟨o, _, by rw [← List.append_nil (glyphsOf _), htext], hopens⟩, ?_⟩
  intro fuel rest hfuel _
  have hlength := congrArg List.length (htext [])
  simp only [List.append_nil, List.length_cons, List.length_append, length_glyphsOf] at hlength
  obtain ⟨fuel, rfl⟩ : ∃ n, fuel = n + 1 := ⟨fuel - 1, by omega⟩
  rw [htext]
  exact h fuel rest (by omega)

end Blocks

section Brackets

variable {gs : List Glyph}

theorem value_sequence (h : Blank blanks) (hgs : OpensWith gs) :
    value (fuel + 1) (depth + 1) (some '[' :: (glyphsOf blanks ++ gs)) =
      (.array (items fuel depth gs).1 (items fuel depth gs).2.1, (items fuel depth gs).2.2) := by
  rw [value, skipSpace_cons (by decide)]
  simp only [skipSpace_blank h, skipSpace_opensWith hgs]
  obtain ⟨c, cs, rfl, -, hsequence, -⟩ := hgs
  simp [hsequence, bracket]

theorem value_map (h : Blank blanks) (hgs : OpensWith gs) :
    value (fuel + 1) (depth + 1) (some '\x7b' :: (glyphsOf blanks ++ gs)) =
      (.object (members fuel depth gs).1 (members fuel depth gs).2.1,
        (members fuel depth gs).2.2) := by
  rw [value, skipSpace_cons (by decide)]
  simp only [skipSpace_blank h, skipSpace_opensWith hgs]
  obtain ⟨c, cs, rfl, -, -, hmap⟩ := hgs
  simp [hmap, bracket]

end Brackets

/-- **An array reads as its items do.** -/
theorem reads_array {write : Json → String} {items : List Json} (indent : Nat)
    (h : ∀ item ∈ items, Reads depth (write item) item.toTree) :
    Reads (depth + 1) (block "[" "]" indent (items.map write)) (Json.array items).toTree := by
  cases items with
  | nil =>
    refine reads_empty_block (o := '[') (c := ']') rfl rfl (by decide) fun fuel rest => ?_
    rw [value, skipSpace_cons (by decide)]
    simp [skipSpace_cons (c := ']') (by decide), bracket, toTree, itemTrees]
  | cons first more =>
    refine reads_block (o := '[') (c := ']') rfl rfl (by decide) fun fuel rest hfuel => ?_
    have hopens := opensWith_intercalate (t := "," ++ indentText (indent + 1))
      (h first List.mem_cons_self).opens (more.map write)
    rw [value_sequence (blank_indentText _) (hopens.append _), ← List.map_cons,
      items_joined (blank_indentText _) (blank_indentText _) h hfuel]
    rfl

/-- **An object reads as its members do.** -/
theorem reads_object {write : Json → String} {gap : String} (hgap : Blank gap)
    {members : List (String × Json)} (indent : Nat)
    (h : ∀ m ∈ members, Reads depth (write m.2) m.2.toTree) :
    Reads (depth + 1) (block "\x7b" "\x7d" indent (members.map (memberText write gap)))
      (Json.object members).toTree := by
  cases members with
  | nil =>
    refine reads_empty_block (o := '\x7b') (c := '\x7d') rfl rfl (by decide) fun fuel rest => ?_
    rw [value, skipSpace_cons (by decide)]
    simp [skipSpace_cons (c := '\x7d') (by decide), bracket, toTree, memberTrees]
  | cons first more =>
    refine reads_block (o := '\x7b') (c := '\x7d') rfl rfl (by decide) fun fuel rest hfuel => ?_
    have hopens := opensWith_intercalate (t := "," ++ indentText (indent + 1))
      (opensWith_memberText write gap first) (more.map (memberText write gap))
    rw [value_map (blank_indentText _) (hopens.append _), ← List.map_cons,
      members_joined (blank_indentText _) (blank_indentText _) hgap h hfuel]
    rfl

/-! ## Values -/

theorem prettyItems_eq_map (depth : Nat) (items : List Json) :
    prettyItems depth items = items.map (prettyAt depth) := by
  induction items with
  | nil => rfl
  | cons item items ih => rw [prettyItems, ih, List.map_cons]

theorem prettyMembers_eq_map (depth : Nat) (members : List (String × Json)) :
    prettyMembers depth members = members.map (memberText (prettyAt depth) " ") := by
  induction members with
  | nil => rfl
  | cons m members ih => rw [prettyMembers, ih, List.map_cons]; rfl

theorem blank_empty : Blank "" := by
  simp [Blank]

/-- A text is the tree that it reads as, whatever blanks follow it. -/
theorem Reads.parse {tree : Tree} (h : Reads maxDepth s tree) (hblanks : Blank blanks) :
    Document.parse (glyphsOf (s ++ blanks)) = ⟨tree, false⟩ := by
  have hspace : skipSpace (glyphsOf blanks) = [] := by
    have hskip := skipSpace_blank hblanks []
    rwa [List.append_nil] at hskip
  have hends : Ends (glyphsOf blanks) := by
    have hends := hblanks.ends ends_nil
    rwa [List.append_nil] at hends
  have hfuel : s.length ≤ 2 * (glyphsOf s ++ glyphsOf blanks).length + 2 := by
    rw [List.length_append, length_glyphsOf]
    omega
  rw [Document.parse, glyphsOf_append, h.value_eq _ _ hfuel hends]
  simp [hspace]

/-! ## Doubles -/

/-- A double that reads back: it is the value of its own text. -/
def ReadsBack (x : Float) : Prop :=
  parse (Json.float x).pretty = .ok (.float x)

instance (x : Float) : Decidable (ReadsBack x) := by
  unfold ReadsBack
  infer_instance

theorem pretty_float {x : Float} (h : x.isFinite = true) (indent : Nat) :
    prettyAt indent (.float x) = Layout.json.write x := by
  rw [prettyAt, compact, if_pos h]
  all_goals exact nofun

theorem floatTree_of_load {negative : Bool} {d : Scientific} {x : Float}
    (h : Json.load (floatTree negative d) = .ok (.float x)) : floatTree negative d = .float x := by
  rw [floatTree] at h ⊢
  split at h
  · next hfinite =>
    rw [if_pos hfinite]
    exact congrArg Tree.float (Json.float.inj (Except.ok.inj h))
  · cases h

/-- A double reads back if and only if this is what its text says. -/
theorem readsBack_iff {x : Float} (hx : x.isFinite = true) {t : NumberText} {negative : Bool}
    (hmarked : t.Marked) (htext : (Layout.json.write x).toList = t.signed negative) :
    ReadsBack x ↔ t.meaning negative = .float x := by
  have hreads : Reads maxDepth (Layout.json.write x) (t.meaning negative) := reads_number htext rfl
  have hparse := hreads.parse blank_empty
  rw [String.append_empty] at hparse
  have hload : parse (Json.float x).pretty = Json.load (t.meaning negative) := by
    rw [parse, pretty, pretty_float hx, hparse, Document.load]
    cases Json.load (t.meaning negative) <;> rfl
  rw [ReadsBack, hload]
  constructor
  · intro h
    rw [NumberText.meaning_of_marked hmarked] at h ⊢
    exact floatTree_of_load h
  · intro h
    rw [h]
    rfl

theorem ReadsBack.reads {x : Float} (h : ReadsBack x) (hx : x.isFinite = true) :
    Reads depth (Layout.json.write x) (.float x) := by
  obtain ⟨t, hmarked, htext⟩ := NumberText.exists_marked hx
  exact reads_number htext ((readsBack_iff hx hmarked htext).1 h)

/-! ## All values -/

/-- A value whose numbers texts can hold, with at most `depth` brackets within each other. -/
inductive Printable : Nat → Json → Prop
  | null {depth : Nat} : Printable depth .null
  | bool {depth : Nat} (b : Bool) : Printable depth (.bool b)
  | integer {depth : Nat} {n : Int} (h : Fits n) : Printable depth (.integer n)
  | float {depth : Nat} {x : Float} (hx : x.isFinite = true) (h : ReadsBack x) :
      Printable depth (.float x)
  | string {depth : Nat} (s : String) : Printable depth (.string s)
  | array {depth : Nat} {items : List Json} (h : ∀ item ∈ items, Printable depth item) :
      Printable (depth + 1) (.array items)
  | object {depth : Nat} {members : List (String × Json)} (h : ∀ m ∈ members, Printable depth m.2) :
      Printable (depth + 1) (.object members)

/-- **A printable value reads back**, at any place of a text. -/
theorem Printable.reads {j : Json} (h : Printable depth j) (indent : Nat) :
    Reads depth (prettyAt indent j) j.toTree := by
  induction h generalizing indent with
  | null => exact reads_null
  | bool b => exact reads_bool b
  | integer h =>
    obtain ⟨t, negative, htext, hmeaning⟩ := NumberText.integer_readBack h
    exact reads_number htext hmeaning
  | float hx h =>
    rw [pretty_float hx]
    exact h.reads hx
  | string s => exact reads_string s
  | array _ ih =>
    rw [prettyAt, prettyItems_eq_map]
    exact reads_array indent fun item hitem => ih item hitem (indent + 1)
  | object _ ih =>
    rw [prettyAt, prettyMembers_eq_map]
    exact reads_object blank_space indent fun m hm => ih m hm (indent + 1)

/-- **A printed value is the tree of its text**, and nothing follows it. -/
theorem parse_pretty {j : Json} (h : Printable maxDepth j) :
    Document.parse (glyphsOf (j.pretty ++ "\n")) = ⟨j.toTree, false⟩ := by
  have hnewline : Blank "\n" := by
    simp [Blank]
    decide
  exact (h.reads 0).parse hnewline

end Dunning.Json
