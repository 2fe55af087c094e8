import Dunning.Json.Basic
import Dunning.Json.Fault

/-!
# Json/Tree — a JSON text, read as far as it goes

A reader that looks for fields meets a fault only when it comes to it, and passes over what it does
not want with less scrutiny than it reads. A `Tree` holds both views of a text: what stands there,
and at each faulty place what reading and what passing over would report. `load` reads all of a tree
into a value, `skipFault` passes over it; a value is a tree without faults (`Json.toTree`).
-/

namespace Dunning.Json

/-- What follows the last item or member of a bracket. -/
inductive Stop where
  /-- The closing bracket. -/
  | closed
  /-- A fault: as one who reads on meets it, as one who passes over it does, and as one who wants no
  further item does. -/
  | broken (read skip exact : Malformed)
  deriving Repr, DecidableEq

/-- What stands where the key of a member is due. -/
inductive Key where
  | name (s : String)
  /-- A string that can be passed over but not read. -/
  | unreadable (fault : Malformed)
  /-- Something else than a string; the tree of the member is what it is. -/
  | misplaced
  deriving Repr, DecidableEq

/-- A JSON text, read as far as it goes. -/
inductive Tree where
  /-- Nothing can be read from here on. -/
  | stuck (read skip : Malformed)
  /-- A value that can be passed over but not read. -/
  | unreadable (fault : Malformed)
  /-- A bracket nested too deep to be read; it can be passed over. -/
  | deep (inner : Tree)
  | null
  | bool (b : Bool)
  | integer (n : Int)
  | float (x : Float)
  | string (s : String)
  | array (items : List Tree) (stop : Stop)
  | object (members : List (Key × Tree)) (stop : Stop)
  deriving Repr

/-- What a tree shows of itself at first sight. -/
def Tree.found : Tree → Except Malformed Found
  | .stuck read _ => .error read
  | .unreadable fault => .error fault
  | .deep inner => inner.found
  | .null => .ok .null
  | .bool b => .ok (.bool b)
  | .integer n => .ok (.integer n)
  | .float x => .ok (.float x)
  | .string s => .ok (.string s)
  | .array _ _ => .ok .sequence
  | .object _ _ => .ok .map

/-! ## Passing over -/

/-- The first of two faults. -/
def firstFault (first second : Option Malformed) : Option Malformed :=
  match first with
  | some fault => some fault
  | none => second

/-- What passing over the end of a bracket reports. -/
def Stop.skipFault : Stop → Option Malformed
  | .closed => none
  | .broken _ skip _ => some skip

mutual

/-- What passing over a tree reports. -/
def skipFault : Tree → Option Malformed
  | .stuck _ skip => some skip
  | .deep inner => skipFault inner
  | .array items stop => skipItems stop.skipFault items
  | .object members stop => skipMembers stop.skipFault members
  | .unreadable _ | .null | .bool _ | .integer _ | .float _ | .string _ => none

/-- What passing over items and then an end reports. -/
def skipItems (atEnd : Option Malformed) : List Tree → Option Malformed
  | [] => atEnd
  | item :: items => firstFault (skipFault item) (skipItems atEnd items)

/-- What passing over members and then an end reports. -/
def skipMembers (atEnd : Option Malformed) : List (Key × Tree) → Option Malformed
  | [] => atEnd
  | (.misplaced, _) :: _ => some .keyNotString
  | (.name _, item) :: members | (.unreadable _, item) :: members =>
    firstFault (skipFault item) (skipMembers atEnd members)

end

/-! ## Reading everything -/

/-- What reading on at the end of a bracket gives. -/
def Stop.finish {α : Type} (done : α) : Stop → Except Malformed α
  | .closed => .ok done
  | .broken read _ _ => .error read

mutual

/-- Reads a tree whole. Members are sorted by key and the last of equal keys is kept. -/
def load : Tree → Except Malformed Json
  | .stuck read _ => .error read
  | .unreadable fault => .error fault
  | .deep _ => .error .tooDeep
  | .null => .ok .null
  | .bool b => .ok (.bool b)
  | .integer n => .ok (.integer n)
  | .float x => .ok (.float x)
  | .string s => .ok (.string s)
  | .array items stop => do
    let items ← loadItems items
    stop.finish (.array items)
  | .object members stop => do
    let members ← loadMembers members
    stop.finish (ofMembers members)

/-- Reads the items of an array. -/
def loadItems : List Tree → Except Malformed (List Json)
  | [] => .ok []
  | item :: items => do
    let item ← load item
    let items ← loadItems items
    .ok (item :: items)

/-- Reads the members of an object. -/
def loadMembers : List (Key × Tree) → Except Malformed (List (String × Json))
  | [] => .ok []
  | (.misplaced, _) :: _ => .error .keyNotString
  | (.unreadable fault, _) :: _ => .error fault
  | (.name key, item) :: members => do
    let item ← load item
    let members ← loadMembers members
    .ok ((key, item) :: members)

end

/-! ## Values as trees -/

mutual

/-- A value is a tree without faults. -/
def toTree : Json → Tree
  | .null => .null
  | .bool b => .bool b
  | .integer n => .integer n
  | .float x => .float x
  | .string s => .string s
  | .array items => .array (itemTrees items) .closed
  | .object members => .object (memberTrees members) .closed

/-- The items of an array as trees. -/
def itemTrees : List Json → List Tree
  | [] => []
  | item :: items => toTree item :: itemTrees items

/-- The members of an object as trees. -/
def memberTrees : List (String × Json) → List (Key × Tree)
  | [] => []
  | (key, value) :: members => (.name key, toTree value) :: memberTrees members

end

end Dunning.Json
