import Tca.PollSelection
import Mathlib.Data.List.Sort

/-!
# Python objects of any type

Arguments that are checked at run time may be of any type.  The file embeds
the objects that such checks tell apart, the conversion of integers to floats
and the documents that `json.dumps` makes of them.
-/

namespace Tca

/-- A key of a mapping.  A number comes with the text that JSON writes for
it. -/
inductive PyKey where
  | str (text : String)
  | number (value : ℚ) (text : String)
  | none
  | other
  deriving DecidableEq

/-- A Python object; a tuple counts as a list. -/
inductive PyObject where
  | none
  | bool (value : Bool)
  | int (value : Int)
  | float (value : PyFloat)
  | str (value : String)
  | list (values : List PyObject)
  | mapping (entries : List (PyKey × PyObject))
  | other

/-- `mapping.get(key)` for a text. -/
def getKey (entries : List (PyKey × PyObject)) (key : String) :
    Option PyObject :=
  (entries.find? fun entry => entry.1 = .str key).map (·.2)

/-- The nearest integer with a significand of 53 bits. -/
def roundToDouble (value : Int) : Int :=
  if value.natAbs < 2 ^ 53 then value
  else
    let unit : Int := 2 ^ (value.natAbs.log2 - 52)
    roundHalfEven ((value : ℚ) / unit) * unit

/-- `float(value)` of an integer. -/
def floatOfInt (value : Int) : Except PyError PyFloat :=
  if (roundToDouble value).natAbs < 2 ^ 1024 then
    .ok (.finite (roundToDouble value))
  else .error (.overflowError "int too large to convert to float")

namespace Json

/-- The text of a key, if all keys of its mapping are texts. -/
def textKey : PyKey × PyValue → Option (String × PyValue)
  | (.str text, value) => some (text, value)
  | _ => none

/-- The value and the text of a key, if all keys of its mapping are
numbers. -/
def numberKey : PyKey × PyValue → Option (ℚ × String × PyValue)
  | (.number number text, value) => some (number, text, value)
  | _ => none

/-- The members of an object in the order of their keys.  Keys of different
kinds cannot be compared. -/
def sortMembers (members : List (PyKey × PyValue)) :
    Option (List (String × PyValue)) :=
  match members.mapM textKey, members.mapM numberKey, members with
  | some texts, _, _ =>
      some (texts.insertionSort fun first second => first.1 ≤ second.1)
  | none, some numbers, _ =>
      some ((numbers.insertionSort fun first second =>
        first.1 ≤ second.1).map (·.2))
  | none, none, [(.none, value)] => some [("null", value)]
  | none, none, _ => none

mutual

/-- The document that `dumps(value, sort_keys=True, allow_nan=False)` writes,
with no result where it raises `TypeError` or `ValueError`. -/
def dumps : PyObject → Option PyValue
  | .none => some .none
  | .bool value => some (.bool value)
  | .int value =>
      -- Python refuses to spell longer integers out.
      if (Nat.toDigits 10 value.natAbs).length ≤ 4300 then some (.int value)
      else none
  | .float value => if value.isFinite then some (.float value) else none
  | .str value => some (.str value)
  | .list values => (dumpsAll values).map .list
  | .mapping entries => ((dumpsMembers entries).bind sortMembers).map .dict
  | .other => none

def dumpsAll : List PyObject → Option (List PyValue)
  | [] => some []
  | value :: values => do
      let document ← dumps value
      let documents ← dumpsAll values
      return document :: documents

def dumpsMembers :
    List (PyKey × PyObject) → Option (List (PyKey × PyValue))
  | [] => some []
  | (key, value) :: entries => do
      let document ← dumps value
      let members ← dumpsMembers entries
      return (key, document) :: members

end

end Json

example : Json.dumps (.mapping [(.str "b", .int 1), (.str "a", .list [.none])])
    = some (.dict [("a", .list [.none]), ("b", .int 1)]) := by
  rfl

end Tca
