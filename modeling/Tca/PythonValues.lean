import Tca.PythonTexts
import Mathlib.Data.Rat.Defs
import Mathlib.Data.List.TakeWhile

/-!
# Python values and exceptions

The values that cross the boundary between Python code and the store: JSON
documents, identifiers handed in by callers, and the exceptions that leave a
repository call.
-/

namespace Tca

/-- A Python `float`; the finite ones are given by their exact value. -/
inductive PyFloat where
  | finite (value : ℚ)
  | infinite (negative : Bool)
  | notANumber
  deriving DecidableEq

/-- A Python object of the types that JSON knows. -/
inductive PyValue where
  | none
  | bool (value : Bool)
  | int (value : Int)
  | float (value : PyFloat)
  | str (value : String)
  | list (values : List PyValue)
  | dict (entries : List (String × PyValue))

/-- Exceptions raised by the modelled code, with their messages. -/
inductive PyError where
  | valueError (message : String)
  | typeError (message : String)
  | overflowError (message : String)
  | osError (message : String)
  | integrityError (message : String)
  | operationalError (message : String)
  | settingAlreadyExistsError (message : String)
  | settingValueDecodeError (message : String)
  | threadQueryRepositoryError (message : String)
  | botDeliveryAlreadyExistsError (message : String)
  | keyMaterialError (message : String)
  | keyRotationError (message : String)
  | keyRotationStateMissingError (message : String)
  | keyRotationAccountNotFoundError (message : String)
  | multipleResultsFound (message : String)
  | telegramAccountNotFoundError (message : String)
  | rpcError (message : String)
  | strategyContractError (message : String)
  | dedupeDecisionsRepositoryError (message : String)
  | recursionError (message : String)
  | channelAlreadyAssignedToGroupError (message : String)
  | envelopeDecryptionError (message : String)
  | channelStateDecodeError (message : String)
  deriving DecidableEq

/-- `float.is_integer`. -/
def PyFloat.isInteger : PyFloat → Bool
  | .finite value => value.den == 1
  | .infinite _ => false
  | .notANumber => false

/-- `int(value)` for a float that is an integer. -/
def PyFloat.toInt : PyFloat → Int
  | .finite value => value.num
  | .infinite _ => 0
  | .notANumber => 0

/-- `int(value)` of a finite float: the fraction is cut off. -/
def PyFloat.truncate : PyFloat → Int
  | .finite value => value.num.tdiv value.den
  | .infinite _ => 0
  | .notANumber => 0

/-- `math.isfinite`. -/
def PyFloat.isFinite : PyFloat → Bool
  | .finite _ => true
  | .infinite _ => false
  | .notANumber => false

/-- The characters that `str.isspace` accepts. -/
def isPythonSpace (letter : Char) : Bool :=
  letter.toNat ∈ [9, 10, 11, 12, 13, 28, 29, 30, 31, 32, 133, 160, 5760, 8192,
    8193, 8194, 8195, 8196, 8197, 8198, 8199, 8200, 8201, 8202, 8232, 8233,
    8239, 8287, 12288]

/-- `text.strip()`. -/
def pythonStrip (text : String) : String :=
  String.ofList
    (((text.toList.dropWhile isPythonSpace).reverse.dropWhile
      isPythonSpace).reverse)

section Stripping

private theorem mem_dropWhile_of_not {letters : List Char} {letter : Char}
    (present : letter ∈ letters) (visible : isPythonSpace letter = false) :
    letter ∈ letters.dropWhile isPythonSpace := by
  rw [← @List.takeWhile_append_dropWhile _ isPythonSpace letters,
    List.mem_append] at present
  rcases present with leading | remaining
  · have space := List.mem_takeWhile_imp leading
    rw [visible] at space
    cases space
  · exact remaining

/-- Stripping drops white space only. -/
theorem mem_pythonStrip {text : String} {letter : Char}
    (present : letter ∈ text.toList) (visible : isPythonSpace letter = false) :
    letter ∈ (pythonStrip text).toList := by
  rw [pythonStrip, String.toList_ofList, List.mem_reverse]
  refine mem_dropWhile_of_not ?_ visible
  rw [List.mem_reverse]
  exact mem_dropWhile_of_not present visible

/-- A text is blank when it has nothing but white space. -/
theorem pythonStrip_ne_empty_iff {text : String} :
    pythonStrip text ≠ "" ↔
      ∃ letter ∈ text.toList, isPythonSpace letter = false := by
  constructor
  · intro visible
    by_contra blank
    have allSpace : ∀ letter ∈ text.toList, isPythonSpace letter = true := by
      simpa using blank
    apply visible
    rw [pythonStrip, List.dropWhile_eq_nil_iff.mpr allSpace]
    rfl
  · rintro ⟨letter, present, visible⟩ empty
    have remains := mem_pythonStrip present visible
    rw [empty] at remains
    cases remains

/-- A stripped text that is not empty is not blank either. -/
theorem pythonStrip_pythonStrip_ne_empty {text : String}
    (visible : pythonStrip text ≠ "") :
    pythonStrip (pythonStrip text) ≠ "" := by
  obtain ⟨letter, present, notSpace⟩ := pythonStrip_ne_empty_iff.mp visible
  exact pythonStrip_ne_empty_iff.mpr
    ⟨letter, mem_pythonStrip present notSpace, notSpace⟩

theorem pythonStrip_eq (text : String) :
    pythonStrip text =
      String.ofList (PythonTexts.strip isPythonSpace text.toList) :=
  rfl

/-- Trimming again changes nothing. -/
theorem pythonStrip_pythonStrip (text : String) :
    pythonStrip (pythonStrip text) = pythonStrip text := by
  rw [pythonStrip_eq, pythonStrip_eq, String.toList_ofList,
    PythonTexts.strip_strip]

end Stripping

end Tca
