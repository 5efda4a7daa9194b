import RuleTriggers.Reward
import RuleTriggers.Vocabulary

/-!
Structured values, as data files hold them, and how reading them fails. A reader asks for one
form of value and stops at the first thing that does not fit.
-/

namespace RuleTriggers

/-- What a data file can hold. -/
inductive Value
  | null
  | bool (b : Bool)
  | int (i : Int)
  | text (t : Text)
  | list (vs : List Value)
  | object (fields : List (Text × Value))
  deriving Inhabited

/-- What a reader can ask for. -/
inductive Form
  | text | byte | integer | list | entry | seatMap
  deriving DecidableEq

/-- Why a value was not read. -/
inductive LoadError
  | wrongForm (found : Value) (expected : Form)
  | outOfRange (found : Int) (expected : Form)
  | tooShort (length : Nat) (expected : Form) (size : Nat)
  | tooLong (length : Nat)
  | missingField (field : Text)
  | vocabulary (error : VocabularyError)
  | reward (error : RewardError)

/-- What messages call a form. -/
def Form.describe : Form → String
  | text => "a string"
  | byte => "u8"
  | integer => "i64"
  | list => "a sequence"
  | entry => "struct SerializedTrigger"
  | seatMap => "struct PlayerMap"

namespace Value

/-- What messages call a number. -/
def describeInt (i : Int) : String := "integer `" ++ String.ofList (Text.signedDecimal i) ++ "`"

/-- What a value is, with its content if that is short. -/
def describe : Value → String
  | null => "null"
  | bool true => "boolean `true`"
  | bool false => "boolean `false`"
  | int i => describeInt i
  | text t => "string " ++ String.ofList (Text.quoted t)
  | list _ => "sequence"
  | object _ => "map"

end Value

/-- What a load error says. -/
def LoadError.message : LoadError → String
  | wrongForm found expected =>
    "invalid type: " ++ found.describe ++ ", expected " ++ expected.describe
  | outOfRange found expected =>
    "invalid value: " ++ Value.describeInt found ++ ", expected " ++ expected.describe
  | tooShort length expected size =>
    "invalid length " ++ String.ofList (Text.decimal length) ++ ", expected " ++
      expected.describe ++ " with " ++ String.ofList (Text.decimal size) ++
      (if size = 1 then " element" else " elements")
  | tooLong length =>
    "invalid length " ++ String.ofList (Text.decimal length) ++
      ", expected fewer elements in array"
  | missingField field => "missing field `" ++ String.ofList field ++ "`"
  | vocabulary error => error.message
  | reward error => error.message

/-- A reader of values of one type. -/
abbrev Reader (α : Type) := Value → Except LoadError α

namespace Value

/-- Any text. -/
def readText : Reader Text
  | text t => .ok t
  | v => .error (.wrongForm v .text)

/-- Whole numbers from `lo` to `hi`. -/
def readInt (expected : Form) (lo hi : Int) : Reader Int
  | int i => if lo ≤ i ∧ i ≤ hi then .ok i else .error (.outOfRange i expected)
  | v => .error (.wrongForm v expected)

/-- A list whose members are all read by `read`, from the front. -/
def readList {α : Type} (read : Reader α) : Reader (List α)
  | list vs => vs.mapM read
  | v => .error (.wrongForm v .list)

/-- The value of a field, if there is one of this name. -/
def field? (fields : List (Text × Value)) (field : Text) : Option Value :=
  (fields.find? (·.1 == field)).map (·.2)

/-- The value of a field, read if it is there. -/
def readField? {α : Type} (read : Reader α) (fields : List (Text × Value)) (field : Text) :
    Except LoadError (Option α) :=
  match field? fields field with
  | some v => (read v).map some
  | none => .ok none

/-- What was read of a field that has to be there. -/
def require {α : Type} (field : Text) : Option α → Except LoadError α
  | some a => .ok a
  | none => .error (.missingField field)

end Value

end RuleTriggers
