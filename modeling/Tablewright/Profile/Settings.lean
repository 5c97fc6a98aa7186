import Tablewright.Model.Diagnostic
import Tablewright.Number.Power

/-!
# Settings of columns

What a profile says about a column, and what a call on a property changes of it. `ProfileCall.change`
says which calls are accepted: the others change nothing and are complained about.
-/

namespace Tablewright

/-- What a profile says about the column of a property. -/
structure ColumnSettings where
  column : Option String
  type : Option ColumnType
  size : Option ColumnSize
  precision : Option Nat
  scale : Option Nat
  nullable : Option Bool
  default : Option String
  /-- Where the property is first configured. -/
  location : Option Location
  deriving DecidableEq, Repr

/-- Nothing said. -/
def ColumnSettings.unset : ColumnSettings := ⟨none, none, none, none, none, none, none, none⟩

/-- What an accepted call changes. -/
inductive Change where
  | column (name : String)
  | size (size : ColumnSize)
  | precision (n : Nat)
  | scale (n : Nat)
  | nullable (b : Bool)
  | default (expression : String)
  | type (t : ColumnType)
  /-- A type with its size, or with none. -/
  | typeAndSize (t : ColumnType) (size : Option ColumnSize)
  /-- A type with its precision and scale. -/
  | typeAndPrecision (t : ColumnType) (precision scale : Nat)
  deriving DecidableEq, Repr

/-- The settings after a change. -/
def Change.apply (s : ColumnSettings) : Change → ColumnSettings
  | column name => { s with column := some name }
  | size length => { s with size := some length }
  | precision n => { s with precision := some n }
  | scale n => { s with scale := some n }
  | nullable b => { s with nullable := some b }
  | default expression => { s with default := some expression }
  | type t => { s with type := some t }
  | typeAndSize t length => { s with type := some t, size := length }
  | typeAndPrecision t p q =>
    { s with type := some t, precision := some p, scale := some q }

/-- A problem with a call, not yet with the model and dialect that it is about. -/
structure Complaint where
  problem : Problem
  property : Option String
  location : Location

/-- The diagnostic of a complaint. -/
def Complaint.diagnostic (model : String) (d : Dialect) (c : Complaint) : Diagnostic :=
  ⟨c.problem, model, c.property, some d, c.location⟩

/-- A call of a profile. -/
structure ProfileCall where
  method : String
  arguments : List Source.Expr
  location : Location

/-- A method that sets a type together with what the type takes. -/
inductive Shorthand where
  /-- Takes a length. -/
  | sized (t : ColumnType)
  /-- Of greatest length. -/
  | max (t : ColumnType)
  /-- Without a length. -/
  | bare (t : ColumnType)
  /-- Takes a precision and a scale. -/
  | decimal (t : ColumnType)

/-- The methods of a dialect that set a type. -/
def Dialect.shorthands : Dialect → List (String × Shorthand)
  | .sqlServer => [
    ("char", .sized (.sqlServer .char)),
    ("varchar", .sized (.sqlServer .varChar)),
    ("nchar", .sized (.sqlServer .nChar)),
    ("nvarchar", .sized (.sqlServer .nVarChar)),
    ("binary", .sized (.sqlServer .binary)),
    ("varbinary", .sized (.sqlServer .varBinary)),
    ("varchar_max", .max (.sqlServer .varChar)),
    ("nvarchar_max", .max (.sqlServer .nVarChar)),
    ("varbinary_max", .max (.sqlServer .varBinary)),
    ("decimal", .decimal (.sqlServer .decimal))]
  | .postgres => [
    ("char", .sized (.postgres .char)),
    ("varchar", .sized (.postgres .varChar)),
    ("text", .bare (.postgres .text)),
    ("bytea", .bare (.postgres .bytea)),
    ("numeric", .decimal (.postgres .numeric))]

namespace ProfileCall

variable (c : ProfileCall)

/-- The values of the arguments, of which there have to be so many. -/
def values (symbols : SymbolTable) (count : Nat) : Except (Problem × Location) (List Constant) :=
  if c.arguments.length != count then
    .error (.argumentCount c.method count c.arguments.length, c.location)
  else
    c.arguments.mapM fun e =>
      match symbols.fold? e with
      | some v => .ok v
      | none => .error (.nonConstantArgument c.method, ⟨c.location.file, e.position⟩)

/-- The value as a text that is not blank. -/
def expectText : Constant → Except Problem String
  | .text s => if (Text.trim s.toList).isEmpty then .error (.emptyText c.method) else .ok s
  | v => .error (.unexpectedArgument c.method "a string" v)

/-- The value as a length. -/
def expectLength : Constant → Except Problem Nat
  | .int n =>
    if 0 < n ∧ n < twoTo 32 then .ok n.toNat else .error (.lengthNotPositive c.method n)
  | v => .error (.unexpectedArgument c.method "an integer" v)

/-- The value as a precision or scale. -/
def expectSetting : Constant → Except Problem Nat
  | .int n => if 0 ≤ n ∧ n < 256 then .ok n.toNat else .error (.settingOutOfRange c.method n)
  | v => .error (.unexpectedArgument c.method "an integer" v)

/-- The value as a column type. -/
def expectType : Constant → Except Problem ColumnType
  | .columnType t => .ok t
  | .unknownColumnType path => .error (.unknownColumnType path)
  | v => .error (.unexpectedArgument c.method "a column type" v)

/-- What a call without arguments changes. -/
def changeOfNone (symbols : SymbolTable) (change : Change) :
    Except (List (Problem × Location)) Change :=
  match c.values symbols 0 with
  | .ok _ => .ok change
  | .error e => .error [e]

/-- What a call with one argument changes. -/
def changeOfOne {α : Type} (symbols : SymbolTable) (expect : Constant → Except Problem α)
    (change : α → Change) : Except (List (Problem × Location)) Change :=
  match c.values symbols 1 with
  | .ok [v] =>
    match expect v with
    | .ok a => .ok (change a)
    | .error problem => .error [(problem, c.location)]
  | .ok _ => .error []
  | .error e => .error [e]

/-- What a call with a precision and a scale changes. -/
def changeOfTwo (symbols : SymbolTable) (change : Nat → Nat → Change) :
    Except (List (Problem × Location)) Change :=
  match c.values symbols 2 with
  | .ok [p, s] =>
    match c.expectSetting p, c.expectSetting s with
    | .ok precision, .ok scale => .ok (change precision scale)
    | .error e, .ok _ | .ok _, .error e => .error [(e, c.location)]
    | .error e, .error e' => .error [(e, c.location), (e', c.location)]
  | .ok _ => .error []
  | .error e => .error [e]

/-- What a call changes, or what is wrong with it. -/
def change (symbols : SymbolTable) (d : Dialect) : Except (List (Problem × Location)) Change :=
  match c.method with
  | "column" => c.changeOfOne symbols c.expectText .column
  | "size" => c.changeOfOne symbols c.expectLength fun n => .size (.length n)
  | "size_max" => c.changeOfNone symbols (.size .max)
  | "precision" => c.changeOfOne symbols c.expectSetting .precision
  | "scale" => c.changeOfOne symbols c.expectSetting .scale
  | "nullable" => c.changeOfNone symbols (.nullable true)
  | "required" => c.changeOfNone symbols (.nullable false)
  | "default_value" => c.changeOfOne symbols c.expectText .default
  | "db_type" => c.changeOfOne symbols c.expectType .type
  | method =>
    match d.shorthands.lookup method with
    | some (.sized t) =>
      c.changeOfOne symbols c.expectLength fun n => .typeAndSize t (some (.length n))
    | some (.max t) => c.changeOfNone symbols (.typeAndSize t (some .max))
    | some (.bare t) => c.changeOfNone symbols (.typeAndSize t none)
    | some (.decimal t) => c.changeOfTwo symbols (.typeAndPrecision t)
    | none => .error [(.unknownMethod method, c.location)]

end ProfileCall

end Tablewright
