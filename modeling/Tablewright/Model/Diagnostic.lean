import Tablewright.Model.Meaning

/-!
# Diagnostics

What the generator complains about: the problem, the model, property and dialect that it is about, and
the place. Errors keep a table from being generated; warnings do not.
-/

namespace Tablewright

/-- How much a diagnostic matters. -/
inductive Severity where
  | warning
  | error
  deriving DecidableEq, Repr

/-- The name of a severity. -/
def Severity.name : Severity → String
  | warning => "warning"
  | error => "error"

/-- The kinds of problems. -/
inductive DiagnosticKind where
  | notExtensible
  | missingProfile
  | duplicateProfile
  | missingConfiguration
  | invalidConfiguration
  | nonConstantArgument
  | invalidArgument
  | unknownMethod
  | unknownProperty
  | unsupportedType
  | missingKey
  | upsertInfeasible
  deriving DecidableEq, Repr

namespace DiagnosticKind

/-- The name of the kind. -/
def name : DiagnosticKind → String
  | notExtensible => "NotExtensible"
  | missingProfile => "MissingProfile"
  | duplicateProfile => "DuplicateProfile"
  | missingConfiguration => "MissingConfiguration"
  | invalidConfiguration => "InvalidConfiguration"
  | nonConstantArgument => "NonConstantArg"
  | invalidArgument => "InvalidArgument"
  | unknownMethod => "UnknownMethod"
  | unknownProperty => "UnknownProperty"
  | unsupportedType => "UnsupportedType"
  | missingKey => "MissingKey"
  | upsertInfeasible => "UpsertInfeasible"

/-- The code of the kind. -/
def code : DiagnosticKind → String
  | notExtensible => "BG0001"
  | missingProfile => "BG0002"
  | duplicateProfile => "BG0003"
  | missingConfiguration => "BG0004"
  | invalidConfiguration => "BG0005"
  | nonConstantArgument => "BG0006"
  | invalidArgument => "BG0007"
  | unknownMethod => "BG0008"
  | unknownProperty => "BG0009"
  | unsupportedType => "BG0010"
  | missingKey => "BG0011"
  | upsertInfeasible => "BG0012"

/-- How much the kind matters. -/
def severity : DiagnosticKind → Severity
  | unknownMethod | upsertInfeasible => .warning
  | _ => .error

end DiagnosticKind

/-- What is wrong. -/
inductive Problem where
  /-- A capability for something that is no struct of the crate. -/
  | undeclared (traitName : String)
  | genericStruct
  | hiddenStruct
  | unnamedFields
  | hiddenField (field : String)
  | missingProfile
  /-- A second profile for a dialect. -/
  | duplicateProfile (kept ignored : String)
  /-- A profile that is not for one model. -/
  | profileArity (traitName : String) (count : Nat)
  | otherDialect (type : ColumnType)
  | otherFamily (type : ColumnType)
  | precisionOutOfRange (precision : Nat)
  | scaleAbovePrecision
  | identityNotInteger
  | missingSettings (settings : List String)
  | unknownProperty
  | argumentCount (method : String) (expected found : Nat)
  | nonConstantArgument (method : String)
  /-- An argument of another kind than the method takes. -/
  | unexpectedArgument (method expected : String) (found : Constant)
  | emptyText (method : String)
  | lengthNotPositive (method : String) (found : Int)
  /-- A precision or scale above 255 or below 0. -/
  | settingOutOfRange (method : String) (found : Int)
  | unknownColumnType (path : String)
  | unknownMethod (method : String)
  | unsupportedType (reason : UnsupportedType)
  | missingKey
  | upsertInfeasible
  deriving DecidableEq

/-- The largest precision of a decimal in either dialect. -/
def maxPrecision : Nat := 38

namespace Problem

/-- The kind of the problem. -/
def kind : Problem → DiagnosticKind
  | undeclared _ | genericStruct | hiddenStruct | unnamedFields | hiddenField _ => .notExtensible
  | missingProfile => .missingProfile
  | duplicateProfile _ _ => .duplicateProfile
  | profileArity _ _ | otherDialect _ | otherFamily _ | precisionOutOfRange _ | scaleAbovePrecision
  | identityNotInteger => .invalidConfiguration
  | missingSettings _ => .missingConfiguration
  | unknownProperty => .unknownProperty
  | argumentCount _ _ _ | unexpectedArgument _ _ _ | emptyText _ | lengthNotPositive _ _
  | settingOutOfRange _ _ | unknownColumnType _ => .invalidArgument
  | nonConstantArgument _ => .nonConstantArgument
  | unknownMethod _ => .unknownMethod
  | unsupportedType _ => .unsupportedType
  | missingKey => .missingKey
  | upsertInfeasible => .upsertInfeasible

/-- A name in a message. -/
def quoted (name : String) : String := "`" ++ name ++ "`"

/-- A model that nothing can be generated for. -/
def notGenerated (model reason : String) : String :=
  quoted model ++ " cannot be generated for: " ++ reason

/-- A property of a model. -/
def propertyOf (property model : String) : String :=
  "property " ++ quoted property ++ " of " ++ quoted model

/-- The text of the problem, given the model, the property and the name of the dialect that it is
about. -/
def message (model property dialect : String) : Problem → String
  | undeclared traitName => quoted model ++ " implements " ++ quoted traitName ++
      " but is not a struct declared in this crate"
  | genericStruct => notGenerated model "generic structs are not supported"
  | hiddenStruct =>
    notGenerated model ("the struct must be " ++ quoted "pub" ++ " or " ++ quoted "pub(crate)")
  | unnamedFields => notGenerated model "the struct must have named fields"
  | hiddenField field => notGenerated model ("field " ++ quoted field ++ " must be " ++
      quoted "pub" ++ " or " ++ quoted "pub(crate)")
  | missingProfile =>
    quoted model ++ " is a domain model but no dialect profile configures it"
  | duplicateProfile kept ignored => quoted model ++ " already has a " ++ dialect ++ " profile (" ++
      quoted kept ++ "); " ++ quoted ignored ++ " is ignored"
  | profileArity traitName count => quoted model ++ " implements " ++ quoted traitName ++ " with " ++
      Text.numeral count ++ " type arguments; it takes exactly one model"
  | otherDialect type => propertyOf property model ++ " uses " ++ type.dialect.name ++ " " ++
      quoted type.path ++ " in its " ++ dialect ++ " profile"
  | otherFamily type => propertyOf property model ++ " cannot be stored as " ++ quoted type.path
  | precisionOutOfRange precision => "precision of " ++ quoted property ++
      " must be between 1 and " ++ Text.numeral maxPrecision ++ ", found " ++ Text.numeral precision
  | scaleAbovePrecision => "scale of " ++ quoted property ++ " exceeds its precision"
  | identityNotInteger => "identity property " ++ quoted property ++ " must be an integer"
  | missingSettings settings => propertyOf property model ++ " needs " ++
      String.intercalate ", " settings ++ " in its " ++ dialect ++ " profile"
  | unknownProperty => quoted model ++ " has no property " ++ quoted property
  | argumentCount method expected found => quoted method ++ " takes " ++ Text.numeral expected ++
      " argument(s), found " ++ Text.numeral found
  | nonConstantArgument method => "argument to " ++ quoted method ++ " must be a literal, a " ++
      quoted "const" ++ ", or " ++ quoted "stringify!(name)" ++ "; the call is ignored"
  | unexpectedArgument method expected found =>
    quoted method ++ " expects " ++ expected ++ ", found " ++ found.description
  | emptyText method => quoted method ++ " expects a non-empty string"
  | lengthNotPositive method found =>
    quoted method ++ " expects a positive length, found " ++ Text.signedNumeral found
  | settingOutOfRange method found =>
    quoted method ++ " expects a value between 0 and 255, found " ++ Text.signedNumeral found
  | unknownColumnType path => quoted path ++ " names no known column type; the call is ignored"
  | unknownMethod method => quoted method ++ " is not a " ++ dialect ++
      " configuration method; the call is ignored"
  | unsupportedType reason => propertyOf property model ++ ": " ++ reason.message
  | missingKey => quoted model ++ " has no key: declare one with " ++ quoted "key(..)" ++
      " or add an " ++ quoted "id" ++ " property"
  | upsertInfeasible => "every key of " ++ quoted model ++ " is store-assigned, so no " ++ dialect ++
      " upsert is generated"

end Problem

/-- A problem, what it is about, and where it is. -/
structure Diagnostic where
  problem : Problem
  model : String
  property : Option String
  /-- The dialect, if the problem does not concern all of them. -/
  dialect : Option Dialect
  location : Location

namespace Diagnostic

/-- The kind of the problem. -/
def kind (d : Diagnostic) : DiagnosticKind := d.problem.kind

/-- How much the problem matters. -/
def severity (d : Diagnostic) : Severity := d.kind.severity

/-- Whether the problem is an error. -/
def isError (d : Diagnostic) : Bool := d.severity == .error

/-- The text of the problem. -/
def message (d : Diagnostic) : String :=
  d.problem.message d.model (d.property.getD "") ((d.dialect.map Dialect.name).getD "")

/-- The diagnostic with its kind and place. -/
def text (d : Diagnostic) : String :=
  d.severity.name ++ "[" ++ d.kind.code ++ "]: " ++ d.message ++ "\n --> " ++ d.location.text

/-- Whether the diagnostic keeps a model's table in a dialect from being generated. -/
def blocks (d : Diagnostic) (model : String) (dialect : Dialect) : Bool :=
  d.isError && d.model == model && d.dialect.all (· == dialect)

/-- The order of diagnostics: by place, then by code. -/
def compare (a b : Diagnostic) : Ordering :=
  (a.location.compare b.location).then (Ord.compare a.kind.code b.kind.code)

/-- Diagnostics in order; those that the order does not tell apart stay as they are. -/
def sorted (ds : List Diagnostic) : List Diagnostic :=
  ds.mergeSort fun a b => (a.compare b).isLE

end Diagnostic

end Tablewright
