import PlanarSketch.Json.Number
import PlanarSketch.Json.Reader
import PlanarSketch.Relation

/-!
# What can go wrong

An error is a cause. Its wording is one function of the cause (`Error.message`), and so is the
family it belongs to (`Error.family`): the families of the sketch's own rules, and the families of
values that were not of the right sort for any rule to apply.
-/

set_option autoImplicit false

namespace PlanarSketch

/-- A value was of the wrong sort for what was asked of it. -/
inductive Mismatch where
  /-- A record lacks a field. -/
  | missingField (name : Text)
  /-- A field was asked of a text. -/
  | fieldOfText
  /-- A field was asked of a list. -/
  | fieldOfList
  /-- A field was asked of a value without parts. -/
  | fieldOf (found : Json)
  /-- The items were asked of a value that has none. -/
  | notIterable (found : Json)
  /-- A number was asked of a value that is neither a number nor a text. -/
  | notNumeric (found : Json)
  /-- A number was computed or compared with something that is none. -/
  | notNumber (found : Json)
  /-- A position was given by something that is no whole number. -/
  | notPosition (found : Json)
  /-- A list or an object was used as a name. -/
  | notKey (found : Json)
  /-- An operation was given too few, too many or unknown arguments. -/
  | arguments

def Mismatch.message : Mismatch → String
  | missingField name => name.quoted
  | fieldOfText => "string indices must be integers, not 'str'"
  | fieldOfList => "list indices must be integers or slices, not str"
  | fieldOf found => s!"'{found.typeName}' object is not subscriptable"
  | notIterable found => s!"'{found.typeName}' object is not iterable"
  | notNumeric found =>
    s!"float() argument must be a string or a real number, not '{found.typeName}'"
  | notNumber found => s!"must be real number, not {found.typeName}"
  | notPosition found => s!"indices must be integers, not {found.typeName}"
  | notKey found => s!"unhashable type: '{found.typeName}'"
  | arguments => "the arguments do not fit the operation"

/-- The records a sketch document is made of. -/
inductive RecordKind where
  | entity
  | constraint
deriving DecidableEq, Repr

def RecordKind.name : RecordKind → String
  | entity => "entity"
  | constraint => "constraint"

/-- A setting of the solver is out of range. -/
inductive SettingError where
  | iterationsNotWhole (found : Json)
  | iterationsNotPositive (found : Int)
  | tolerance (found : Number)
  | damping (found : Number)
  | mode (found : Json)
  | epsilon (found : Number)
  | pivotTolerance (found : Number)
  | deficiency (found : Number)

def SettingError.message : SettingError → String
  | iterationsNotWhole found => s!"max_iterations must be an integer, got {found.display}"
  | iterationsNotPositive found => s!"max_iterations must be >= 1, got {Json.intText found}"
  | tolerance found => s!"tolerance must be positive, got {found.display}"
  | damping found => s!"damping_factor must be in (0, 1], got {found.display}"
  | mode found => s!"jacobian_mode must be one of forward, central, analytic, got {found.display}"
  | epsilon found => s!"fd_epsilon must be positive, got {found.display}"
  | pivotTolerance found => s!"pivot_tolerance must be non-negative, got {found.display}"
  | deficiency found => s!"max_rank_deficiency must be >= 0 or None, got {found.display}"

/-- Why a correction could not be computed. -/
inductive LinearFailure where
  /-- There are no equations or no unknowns. -/
  | empty (equations unknowns : Nat)
  /-- The correction has an infinite or undefined component. -/
  | notFinite
deriving DecidableEq, Repr

def LinearFailure.message : LinearFailure → String
  | empty equations unknowns => s!"Cannot solve a {equations}x{unknowns} correction system"
  | notFinite => "Correction vector contains non-finite values"

/-- The sizes of a table in each direction, as messages show them. -/
def extentText : List Nat → String
  | [size] => s!"({size},)"
  | sizes => "(" ++ ", ".intercalate (sizes.map toString) ++ ")"

/-- The same without blanks, as messages about sums show them. -/
def denseExtentText : List Nat → String
  | [size] => s!"({size},)"
  | sizes => "(" ++ ",".intercalate (sizes.map toString) ++ ")"

/-- The sizes of tables do not allow an operation. -/
inductive ExtentError where
  /-- The lists of a nested list have different sizes; all have those given, and the next differ. -/
  | ragged (common : List Nat)
  /-- Lists are nested deeper than the given number of directions that a table can have. -/
  | tooDeep (limit : Nat)
  /-- A single number was to be given by a list. -/
  | sequence
  /-- A decision was to be taken on a table without entries. -/
  | undecided
  /-- A decision was to be taken on a table with several entries. -/
  | ambiguous
  /-- A system is not square, or its right side does not fit. -/
  | notSquare (matrix vector : List Nat)
  /-- A matrix with `expected` columns was applied to a table of `found` rows. -/
  | product (expected found : Nat)
  /-- A matrix was applied to a single number. -/
  | productOfNumber
  /-- Two tables were combined entry by entry that do not fit. -/
  | combination (left right : List Nat)
  /-- A table was added to a vector it does not fit. -/
  | sum (vector table : List Nat)
  /-- A table was added to a vector that would have to grow for it. -/
  | sumGrows (vector result : List Nat)
deriving DecidableEq, Repr

def ExtentError.message : ExtentError → String
  | ragged common =>
    s!"setting an array element with a sequence. The requested array has an inhomogeneous shape " ++
      s!"after {common.length} dimensions. The detected shape was {extentText common} + " ++
      "inhomogeneous part."
  | tooDeep limit =>
    s!"setting an array element with a sequence. The requested array would exceed the maximum " ++
      s!"number of dimension of {limit}."
  | sequence => "setting an array element with a sequence."
  | undecided =>
    "The truth value of an empty array is ambiguous. " ++
      "Use `array.size > 0` to check that an array is not empty."
  | ambiguous =>
    "The truth value of an array with more than one element is ambiguous. Use a.any() or a.all()"
  | notSquare matrix vector =>
    s!"Expected a square system, got {extentText matrix} and {extentText vector}"
  | product expected found =>
    s!"matmul: Input operand 1 has a mismatch in its core dimension 0, with gufunc signature " ++
      s!"(n?,k),(k,m?)->(n?,m?) (size {found} is different from {expected})"
  | productOfNumber =>
    "matmul: Input operand 1 does not have enough dimensions (has 0, gufunc core with signature " ++
      "(n?,k),(k,m?)->(n?,m?) requires 1)"
  | combination left right =>
    s!"operands could not be broadcast together with shapes {denseExtentText left} " ++
      s!"{denseExtentText right} "
  | sum vector table =>
    s!"operands could not be broadcast together with shapes {denseExtentText vector} " ++
      s!"{denseExtentText table} {denseExtentText vector} "
  | sumGrows vector result =>
    s!"non-broadcastable output operand with shape {denseExtentText vector} doesn't match the " ++
      s!"broadcast shape {denseExtentText result}"

/-- Something was asked for by a position that does not exist. -/
inductive PositionError where
  /-- A component of a vector, a reference of a constraint, or a direction of a table. -/
  | part
  /-- A parameter to be overwritten. -/
  | parameter
  /-- The position is further from zero than can be counted. -/
  | uncountable
  | slot (index : Int) (size : Nat)
  | notWhole
deriving DecidableEq, Repr

def PositionError.message : PositionError → String
  | part => "tuple index out of range"
  | parameter => "list assignment index out of range"
  | uncountable => "cannot fit 'int' into an index-sized integer"
  | slot index size => s!"index {Json.intText index} is out of bounds for axis 0 with size {size}"
  | notWhole =>
    "only integers, slices (`:`), ellipsis (`...`), numpy.newaxis (`None`) " ++
      "and integer or boolean arrays are valid indices"

/-- The causes of failing operations on a sketch measured in `α`. -/
inductive Error (α : Type) where
  | entityName (found : Json)
  | shapeKind (found : Json)
  | parameterCount (kind : ShapeKind) (found : Nat)
  | parameterNotFinite (found : List α)
  | constraintName (found : Json)
  | relationKind (found : Json)
  | referenceCount (name : Text) (kind : RelationKind) (found : Nat)
  | valueMissing (name : Text) (kind : RelationKind)
  | valueNotFinite (name : Text)
  | toleranceNotPositive (name : Text) (found : α)
  /-- There is no entity with this name, which the constraint, if any, refers to. -/
  | entityMissing (name : Text) (constraint : Option Text)
  | setting (cause : SettingError)
  /-- A record does not have the form of its kind. -/
  | malformed (kind : RecordKind) (record : Json) (cause : Mismatch)
  | notMapping (found : Json)
  | notObject
  | versionNotWhole (found : Json)
  | versionUnsupported (found : Int)
  | notJson (fault : Json.Fault)
  | linear (cause : LinearFailure)
  | extent (cause : ExtentError)
  /-- Something should have `expected` parts. -/
  | partCount (expected found : Nat)
  | derivativeMode (found : Json)
  /-- Singular values were asked of a matrix with an infinite or undefined entry. -/
  | matrixNotFinite
  | notNumeral (text : Text)
  /-- A name was looked up that is not there. -/
  | nameUnknown (found : Json)
  | mismatch (cause : Mismatch)
  /-- An operation was asked of a value that does not have it. -/
  | noSuchOperation
  /-- A text was computed or compared with a double. -/
  | textOperand
  /-- A whole number is too large for a double. -/
  | tooLarge
  /-- The number of a slot is too large to be counted, though not too large for a machine word. -/
  | slotTooLarge
  | position (cause : PositionError)
  | zeroStep

inductive ErrorFamily where
  | invalidEntity
  | invalidConstraint
  | constraintArity
  | missingValue
  | missingEntity
  | settings
  | document
  | linearSystem
  | value
  | lookup
  | sort
  | operation
  | computation
  | overflow
  | position
  | division
deriving DecidableEq, Repr

namespace Error

def family {α : Type} : Error α → ErrorFamily
  | entityName .. | shapeKind .. | parameterCount .. | parameterNotFinite .. => .invalidEntity
  | constraintName .. | relationKind .. | valueNotFinite .. | toleranceNotPositive .. =>
    .invalidConstraint
  | referenceCount .. => .constraintArity
  | valueMissing .. => .missingValue
  | entityMissing .. => .missingEntity
  | setting .. => .settings
  | malformed .. | notMapping .. | notObject | versionNotWhole .. | versionUnsupported ..
  | notJson .. => .document
  | linear .. => .linearSystem
  | extent .. | partCount .. | derivativeMode .. | matrixNotFinite | notNumeral .. => .value
  | nameUnknown .. => .lookup
  | mismatch .. => .sort
  | noSuchOperation => .operation
  | textOperand => .computation
  | tooLarge | slotTooLarge => .overflow
  | position .. => .position
  | zeroStep => .division

/-- What a message says about a constraint. -/
def aboutConstraint (name : Text) (rest : String) : Text :=
  Text.concat ["Constraint '", name, "': ", rest]

def message : Error Float → Text
  | entityName found => s!"Entity id must be a non-empty string, got {found.display}"
  | shapeKind found => s!"Unknown entity type {found.display}"
  | parameterCount kind found => s!"A {kind.name} takes {kind.arity} parameters, got {found}"
  | parameterNotFinite found =>
    "Non-finite parameter in [" ++ ", ".intercalate (found.map Decimal.shortest) ++ "]"
  | constraintName found => s!"Constraint id must be a non-empty string, got {found.display}"
  | relationKind found => s!"Unknown constraint type {found.display}"
  | referenceCount name kind found =>
    aboutConstraint name s!"{kind.name} takes {kind.arity} entities, got {found}"
  | valueMissing name kind => aboutConstraint name s!"{kind.name} needs a value"
  | valueNotFinite name => aboutConstraint name "value must be finite"
  | toleranceNotPositive name found =>
    aboutConstraint name s!"tolerance must be positive, got {Decimal.shortest found}"
  | entityMissing name none => Text.concat ["Entity '", name, "' not found"]
  | entityMissing name (some constraint) =>
    Text.concat ["Entity '", name, "' not found (constraint '", constraint, "')"]
  | setting cause => cause.message
  | malformed kind record cause =>
    s!"Malformed {kind.name} record {record.display}: {cause.message}"
  | notMapping found => s!"Expected a mapping, got {found.typeName}"
  | notObject => "Sketch JSON must be an object"
  | versionNotWhole found => s!"Sketch format version must be an integer, got {found.display}"
  | versionUnsupported found => s!"Unsupported sketch format version {Json.intText found}"
  | notJson fault => s!"Invalid sketch JSON: {fault.message}"
  | linear cause => cause.message
  | extent cause => cause.message
  | partCount expected found =>
    if found < expected then s!"not enough values to unpack (expected {expected}, got {found})"
    else s!"too many values to unpack (expected {expected})"
  | derivativeMode found => s!"Unknown Jacobian mode {found.display}"
  | matrixNotFinite => "array must not contain infs or NaNs"
  | notNumeral text => s!"could not convert string to float: {text.quoted}"
  | nameUnknown found => found.display
  | mismatch cause => cause.message
  | noSuchOperation => "the value does not have the operation"
  | textOperand => "a text takes no part in a computation"
  | tooLarge => "int too large to convert to float"
  | slotTooLarge => "the slot is too large to be counted"
  | position cause => cause.message
  | zeroStep => "float division by zero"

end Error

end PlanarSketch
