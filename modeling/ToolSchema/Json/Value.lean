import ToolSchema.Number.Binary64
import ToolSchema.Table

/-!
# Documents

A document is a tree of objects and arrays over scalars. An object keeps its members in order of
arrival; writing to a key that is present changes the value and moves nothing. A number remembers
whether it was an integer: integers between `-2 ^ 63` and `2 ^ 64 - 1` are exact, all other numbers
are finite binary ones.
-/

namespace ToolSchema

/-- The integers that a document number holds exactly. -/
def IsExactInteger (n : Int) : Prop :=
  -0x8000000000000000 ≤ n ∧ n < 0x10000000000000000

instance (n : Int) : Decidable (IsExactInteger n) := inferInstanceAs (Decidable (_ ∧ _))

inductive Number where
  | integer (value : Int) (exact : IsExactInteger value)
  | float (value : Binary64)
deriving DecidableEq

namespace Number

/-- The binary number nearest to a document number. -/
def toBinary64 : Number → Binary64
  | integer n _ => .ofInt n
  | float x => x

/-- The number as a signed 64-bit integer, if it is an integer in that range. -/
def int64? : Number → Option Int
  | integer n _ => if n < 0x8000000000000000 then some n else none
  | float _ => none

/-- An integer where it is exact, otherwise the nearest binary number. -/
def ofInt (n : Int) : Number :=
  if h : IsExactInteger n then .integer n h else .float (.ofInt n)

/-- A binary number as a literal: integral values of magnitude below nine quadrillion are written
as integers, so that they print without a fraction. -/
def literal (x : Binary64) : Number :=
  if x.isIntegral ∧ x.truncate.natAbs < 9000000000000000 then ofInt x.truncate else .float x

end Number

inductive Json where
  | null
  | bool (value : Bool)
  | number (value : Number)
  | string (value : String)
  | array (items : List Json)
  | object (members : List (String × Json))

instance : Inhabited Json := ⟨.null⟩

inductive JsonType where
  | null | boolean | number | string | array | object
deriving DecidableEq

namespace JsonType

def name : JsonType → String
  | null => "null"
  | boolean => "boolean"
  | number => "number"
  | string => "string"
  | array => "array"
  | object => "object"

end JsonType

namespace Json

def type : Json → JsonType
  | null => .null
  | bool _ => .boolean
  | number _ => .number
  | string _ => .string
  | array _ => .array
  | object _ => .object

def ofInt (n : Int) : Json := .number (.ofInt n)

def ofStrings (texts : List String) : Json := .array (texts.map .string)

/-- A number as a document; what is not finite has none but null. -/
def ofDouble : Double → Json
  | .finite x => .number (.float x)
  | _ => .null

def text? : Json → Option String
  | string s => some s
  | _ => none

/-- The binary number nearest to a number document. -/
def number? : Json → Option Binary64
  | number n => some n.toBinary64
  | _ => none

def get? (key : String) : Json → Option Json
  | object members => lookup key members
  | _ => none

mutual
/-- Equality of documents, objects member by member in order. -/
def beq : Json → Json → Bool
  | null, null => true
  | bool a, bool b => a == b
  | number a, number b => a == b
  | string a, string b => a == b
  | array a, array b => beqItems a b
  | object a, object b => beqMembers a b
  | _, _ => false

def beqItems : List Json → List Json → Bool
  | [], [] => true
  | a :: as, b :: bs => beq a b && beqItems as bs
  | _, _ => false

def beqMembers : List (String × Json) → List (String × Json) → Bool
  | [], [] => true
  | (j, a) :: as, (k, b) :: bs => j == k && beq a b && beqMembers as bs
  | _, _ => false
end

end Json

end ToolSchema
