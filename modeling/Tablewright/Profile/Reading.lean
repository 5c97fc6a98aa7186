import Tablewright.Model.Discovery
import Tablewright.Profile.Settings
import Tablewright.Source.Chain

/-!
# Reading profiles

The chains of a profile's bodies become the settings of its table. Calls in front of `rule_for` are
about the table. Those behind it are about a property: all calls on a property, whatever chains they
are in, are applied in the order of their names, and calls of one name in the order in which they
stand, so that the last one holds.
-/

namespace Tablewright

/-- What a profile says about its table. -/
structure ProfileSettings where
  schema : Option String
  table : Option String
  /-- The properties of the key, in the order of their calls. -/
  keys : List String
  identity : List String
  /-- The settings of properties, in the order of their names. -/
  properties : List (String × ColumnSettings)
  diagnostics : List Diagnostic

/-- The settings of a property. -/
def ProfileSettings.settingsOf (s : ProfileSettings) (property : String) : ColumnSettings :=
  (s.properties.lookup property).getD .unset

/-- What a call changes of the table itself. -/
inductive TableChange where
  | schema (name : String)
  | table (name : String)
  | key (property : String)
  | identity (property : String)
  deriving DecidableEq, Repr

/-- The calls on a property of one chain. -/
structure Rule where
  property : String
  /-- Where the property is named. -/
  location : Location
  calls : List ProfileCall

/-- A chain of a profile, as calls. -/
structure ProfileChain where
  calls : List ProfileCall

/-- The chains of a profile in the order of its bodies. -/
def Profile.chains (p : Profile) : List ProfileChain :=
  p.bodies.flatMap fun body => body.expr.chains.map fun chain =>
    ⟨chain.unchain.2.map fun c => ⟨c.method, c.arguments, ⟨body.file, c.position⟩⟩⟩

namespace ProfileChain

/-- The calls on the table. -/
def tableCalls (c : ProfileChain) : List ProfileCall :=
  c.calls.takeWhile (·.method != "rule_for")

/-- The call that names a property, and those behind it. -/
def ruleCalls (c : ProfileChain) : List ProfileCall :=
  c.calls.dropWhile (·.method != "rule_for")

end ProfileChain

namespace ProfileCall

/-- The property that a call names; a call that names none is passed over, and a property that the
model does not have is complained about. -/
def property? (c : ProfileCall) (m : Model) : Except Complaint (Option String) :=
  match c.arguments with
  | [selector] =>
    match selector.selectedField? with
    | none => .ok none
    | some field =>
      let name := plainName field
      if (m.property? name).isSome then .ok (some name)
      else .error ⟨.unknownProperty, some name, c.location⟩
  | _ => .ok none

/-- The text that a call on the table takes. -/
def tableText (c : ProfileCall) (symbols : SymbolTable) : Except Complaint String :=
  match c.values symbols 1 with
  | .ok [v] => (c.expectText v).mapError (⟨·, none, c.location⟩)
  | .ok _ => .error ⟨.argumentCount c.method 1 c.arguments.length, none, c.location⟩
  | .error (problem, location) => .error ⟨problem, none, location⟩

/-- What a call on the table changes. -/
def tableChange (c : ProfileCall) (m : Model) (symbols : SymbolTable) :
    Except Complaint (Option TableChange) :=
  match c.method with
  | "schema" => (c.tableText symbols).map fun s => some (.schema s)
  | "table" => (c.tableText symbols).map fun s => some (.table s)
  | "key" => (c.property? m).map (·.map .key)
  | "identity" => (c.property? m).map (·.map .identity)
  | _ => .ok none

end ProfileCall

/-- What a chain changes of the table. -/
def ProfileChain.tableChanges (c : ProfileChain) (m : Model) (symbols : SymbolTable) :
    List (Except Complaint (Option TableChange)) :=
  c.tableCalls.map (·.tableChange m symbols)

/-- The rule of a chain, if it has one. -/
def ProfileChain.rule? (c : ProfileChain) (m : Model) : Except Complaint (Option Rule) :=
  match c.ruleCalls with
  | [] => .ok none
  | lead :: calls => (lead.property? m).map (·.map fun property => ⟨property, lead.location, calls⟩)

/-- The error of a result. -/
def complaint? {α : Type} : Except Complaint α → Option Complaint
  | .ok _ => none
  | .error c => some c

/-- The value of a result. -/
def outcome? {α : Type} : Except Complaint (Option α) → Option α
  | .ok a => a
  | .error _ => none

/-- The calls on a property, in the order in which they are applied. -/
def callsOn (rules : List Rule) (property : String) : List ProfileCall :=
  ((rules.filter (·.property == property)).flatMap (·.calls)).mergeSort
    fun a b => (compare a.method b.method).isLE

/-- The settings that calls lead to. -/
def settingsOfCalls (symbols : SymbolTable) (d : Dialect) (first : ColumnSettings)
    (calls : List ProfileCall) : ColumnSettings :=
  calls.foldl (fun s c =>
    match c.change symbols d with
    | .ok change => change.apply s
    | .error _ => s) first

/-- What is wrong with calls on a property. -/
def complaintsOfCalls (symbols : SymbolTable) (d : Dialect) (property : String)
    (calls : List ProfileCall) : List Complaint :=
  calls.flatMap fun c =>
    match c.change symbols d with
    | .ok _ => []
    | .error problems => problems.map fun (problem, location) => ⟨problem, some property, location⟩

/-- The settings of a profile. -/
def Profile.settings (p : Profile) (m : Model) (symbols : SymbolTable) : ProfileSettings :=
  let chains := p.chains
  let rules := chains.filterMap fun c => outcome? (c.rule? m)
  let changes := chains.flatMap fun c => (c.tableChanges m symbols).filterMap outcome?
  let properties := (rules.map (·.property)).eraseDups
  let settings := properties.map fun property =>
    let location := (rules.find? (·.property == property)).map (·.location)
    (property, settingsOfCalls symbols p.dialect { ColumnSettings.unset with location }
      (callsOn rules property))
  let complaints :=
    (chains.flatMap fun c => (c.tableChanges m symbols).filterMap complaint? ++
      (complaint? (c.rule? m)).toList) ++
    properties.flatMap fun property =>
      complaintsOfCalls symbols p.dialect property (callsOn rules property)
  { schema := (changes.filterMap fun | .schema s => some s | _ => none).getLast?
    table := (changes.filterMap fun | .table s => some s | _ => none).getLast?
    keys := (changes.filterMap fun | .key s => some s | _ => none).eraseDups
    identity := (changes.filterMap fun | .identity s => some s | _ => none).eraseDups
    properties := settings.mergeSort fun a b => (compare a.1 b.1).isLE
    diagnostics := complaints.map (·.diagnostic m.name p.dialect) }

end Tablewright
