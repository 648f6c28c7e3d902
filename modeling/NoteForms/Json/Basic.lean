import NoteForms.Number.Bound
import NoteForms.Table

/-!
# JSON values

An object is a list of members.  Values read from text have their members sorted by name, each name
once; values written by the library have them in the order in which they are declared, and `sorted`
takes one order to the other.
-/

namespace NoteForms

/-- A number of a JSON text.  Whole numbers of 64 bits stay whole, and a zero keeps the sign it was
written with. -/
inductive Json.Number
  | integer (n : Int)
  | real (x : Binary64)
  | negativeZero
  deriving DecidableEq

/-- A JSON value. -/
inductive Json
  | null
  | bool (b : Bool)
  | num (n : Json.Number)
  | str (s : String)
  | arr (items : List Json)
  | obj (members : List (String × Json))

namespace Json

/-- The number as binary64, to which a whole number of 64 bits is rounded. -/
def Number.toBinary64 : Number → Binary64
  | .integer n => Binary64.ofInt n
  | .real x => x
  | .negativeZero => 0

/-- Numbers of one kind are the same if they are equal as numbers: the sign of a zero is ignored,
and a whole number differs from a real one. -/
def Number.same : Number → Number → Bool
  | .integer m, .integer n => m == n
  | .integer _, _ => false
  | _, .integer _ => false
  | m, n => m.toBinary64 == n.toBinary64

/-- The members in order of name, the last of one name standing for all of them. -/
def sortMembers (members : List (String × Json)) : List (String × Json) :=
  members.foldl (fun sorted m => insertEntry m.1 m.2 sorted) []

mutual

/-- Whether two values are the same, member by member and with numbers compared as numbers. -/
def same : Json → Json → Bool
  | .null, .null => true
  | .bool a, .bool b => a == b
  | .num a, .num b => a.same b
  | .str a, .str b => a == b
  | .arr a, .arr b => sameItems a b
  | .obj a, .obj b => sameMembers a b
  | _, _ => false

/-- Whether two lists of values are the same. -/
def sameItems : List Json → List Json → Bool
  | [], [] => true
  | a :: as, b :: bs => same a b && sameItems as bs
  | _, _ => false

/-- Whether two lists of members are the same. -/
def sameMembers : List (String × Json) → List (String × Json) → Bool
  | [], [] => true
  | (k, a) :: as, (l, b) :: bs => k == l && same a b && sameMembers as bs
  | _, _ => false

end

mutual

/-- Whether two values are equal, numbers being compared as they are written. -/
def isEqual : Json → Json → Bool
  | .null, .null => true
  | .bool a, .bool b => a == b
  | .num a, .num b => a == b
  | .str a, .str b => a == b
  | .arr a, .arr b => equalItems a b
  | .obj a, .obj b => equalMembers a b
  | _, _ => false

/-- Whether two lists of values are equal. -/
def equalItems : List Json → List Json → Bool
  | [], [] => true
  | a :: as, b :: bs => isEqual a b && equalItems as bs
  | _, _ => false

/-- Whether two lists of members are equal. -/
def equalMembers : List (String × Json) → List (String × Json) → Bool
  | [], [] => true
  | (k, a) :: as, (l, b) :: bs => k == l && isEqual a b && equalMembers as bs
  | _, _ => false

end

mutual

theorem isEqual_iff : ∀ {v w : Json}, isEqual v w = true ↔ v = w
  | .null, w => by cases w <;> simp [isEqual]
  | .bool a, w => by cases w <;> simp [isEqual]
  | .num a, w => by cases w <;> simp [isEqual]
  | .str a, w => by cases w <;> simp [isEqual]
  | .arr a, w => by cases w <;> simp [isEqual, equalItems_iff]
  | .obj a, w => by cases w <;> simp [isEqual, equalMembers_iff]

theorem equalItems_iff : ∀ {as bs : List Json}, equalItems as bs = true ↔ as = bs
  | [], bs => by cases bs <;> simp [equalItems]
  | a :: as, bs => by cases bs <;> simp [equalItems, isEqual_iff, equalItems_iff]

theorem equalMembers_iff : ∀ {as bs : List (String × Json)}, equalMembers as bs = true ↔ as = bs
  | [], bs => by cases bs <;> simp [equalMembers]
  | (k, a) :: as, bs => by
    cases bs <;> simp [equalMembers, isEqual_iff, equalMembers_iff, Prod.ext_iff]

end

instance : DecidableEq Json := fun _ _ => decidable_of_iff _ isEqual_iff

mutual

/-- The value with the members of every object in order of name. -/
def sorted : Json → Json
  | .null => .null
  | .bool b => .bool b
  | .num n => .num n
  | .str s => .str s
  | .arr items => .arr (sortedItems items)
  | .obj members => .obj (sortMembers (sortedMembers members))

/-- Every value of a list with its members in order. -/
def sortedItems : List Json → List Json
  | [] => []
  | v :: vs => sorted v :: sortedItems vs

/-- Every member's value with its own members in order. -/
def sortedMembers : List (String × Json) → List (String × Json)
  | [] => []
  | (k, v) :: ms => (k, sorted v) :: sortedMembers ms

end

/-- An array of texts. -/
def ofStrings (items : List String) : Json := .arr (items.map .str)

/-- A number of a form: small whole numbers are integers. -/
def ofBinary64 (x : Binary64) : Json :=
  .num (if x.IsSmallWhole then .integer x.toInt else .real x)

/-- A bound of a form; JSON has no other numbers than finite ones, and null stands for the rest. -/
def ofBound : Bound → Json
  | .finite x => ofBinary64 x
  | _ => .null

/-- The member for a value that may be absent, in which case there is none. -/
def optional (name : String) (encode : α → Json) : Option α → List (String × Json)
  | some a => [(name, encode a)]
  | none => []

end Json

end NoteForms
