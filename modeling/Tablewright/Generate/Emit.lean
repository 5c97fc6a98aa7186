import Tablewright.Generate.Unit

/-!
# Generated code

The text of the generated file: for every table a module of statements and parameters with the
implementations that use them, for every model the reading of its rows, and in front of all a function
for every enum that is read.
-/

namespace Tablewright

open Code

/-- A path into the library that generated code uses. -/
def libraryPath (segments : List String) : String := rooted ("bulkgen" :: segments)

/-- The marker of a dialect. -/
def markerPath (d : Dialect) : String := libraryPath [d.markerName]

/-- A column type. -/
def columnTypeCode (t : ColumnType) : String :=
  libraryPath ["DbType", t.dialect.markerName] ++ " " ++
    inParens [libraryPath [ColumnType.enumName t.dialect, t.variantName]]

/-- An integer with the name of its type. -/
def typedInteger (n : Nat) (type : String) : String := Text.numeral n ++ type

namespace Column

/-- The specification of the column's parameter. -/
def specificationCode (c : Column) : String :=
  let new := libraryPath ["ParamSpec", "new"] ++ " " ++
    inParens [text c.parameterName, columnTypeCode c.type]
  let size :=
    if c.type.takesSize then
      match c.size with
      | some (.length n) => ". with_size " ++ inParens [libraryPath ["ColumnSize", "Len"] ++ " " ++
          inParens [typedInteger n "u32"]]
      | some .max => ". with_size " ++ inParens [libraryPath ["ColumnSize", "Max"]]
      | none => ""
    else ""
  let precision :=
    match c.type.takesPrecision, c.precision, c.scale with
    | true, some p, some s =>
      ". with_precision " ++ inParens [typedInteger p "u8", typedInteger s "u8"]
    | _, _, _ => ""
  spaced [new, size, precision]

end Column

namespace EmittedModel

variable (u : EmittedModel)

/-- The path of the model. -/
def pathCode : String := path (pathSegments u.model.path)

/-- The constant of a column's parameter, and the function that binds it. -/
def parameterCode (c : Column) : String :=
  let constant := constantName c.property
  let factory := match u.model.property? c.property with
    | some p => spaced ["pub fn", p.ident, inParens ["value : impl " ++
        rooted ["core", "convert", "Into"] ++ " < " ++ libraryPath ["Value"] ++ " >"], "->",
        libraryPath ["Param"],
        inBraces ["Self :: " ++ constant ++ " . bind " ++ inParens ["value"]]]
    | none => ""
  spaced ["pub const", constant, ":", libraryPath ["ParamSpec"], "=", c.specificationCode, ";", factory]

/-- A constant that holds a text. -/
def textConstant (name value : String) : String :=
  spaced ["pub const", name, ": & str =", text value, ";"]

/-- A constant that holds a text or nothing. -/
def optionalConstant (name : String) (value : Option String) : String :=
  spaced ["pub const", name, ":", rooted ["core", "option", "Option"], "< & str > =",
    optionalText value, ";"]

/-- The fields of the record of statements, each with the constant of its name. -/
def statementFields : List String :=
  ["table", "create", "insert", "insert_batch", "insert_width", "update", "delete", "delete_batch",
    "upsert", "truncate", "select", "find"]

/-- A record of a name, with a comma behind each field. -/
def recordCode (name : String) (fields : List (String × String)) : String :=
  spaced [name, inBraces (fields.map fun (field, value) => field ++ " : " ++ value ++ " ,")]

/-- The texts for staging. -/
def stagingCode (s : StagingTexts) : String :=
  spaced ["pub static STAGING :", libraryPath ["StagingSql"], "=",
    recordCode (libraryPath ["StagingSql"])
      [("table", text s.table), ("create", text s.create),
        ("columns", "& " ++ inBrackets (s.columns.map text)), ("apply", text s.apply),
        ("apply_indexed", text s.applyIndexed)], ";"]

/-- The module of a table. -/
def moduleCode (t : Table) (name : String) : String :=
  let sql := t.texts
  let documentation := " SQL and parameters for `" ++ u.model.name ++ "` on " ++ t.dialect.name ++ "."
  let staging := match sql.staging, u.model.capability with
    | some s, .bulk => stagingCode s
    | _, _ => ""
  spaced ["# [doc = " ++ text documentation ++ "] # [allow (dead_code)] pub mod", name, inBraces [
    textConstant "TABLE" sql.table,
    textConstant "CREATE" sql.create,
    textConstant "INSERT" sql.insert,
    textConstant "INSERT_BATCH" sql.insertBatch,
    spaced ["pub const INSERT_WIDTH : usize =", typedInteger sql.insertWidth "usize", ";"],
    optionalConstant "UPDATE" sql.update,
    optionalConstant "DELETE" sql.delete,
    optionalConstant "DELETE_BATCH" sql.deleteBatch,
    optionalConstant "UPSERT" sql.upsert,
    textConstant "TRUNCATE" sql.truncate,
    textConstant "SELECT" sql.select,
    optionalConstant "FIND" sql.find,
    spaced ["pub static SQL :", libraryPath ["EntitySql"], "=",
      recordCode (libraryPath ["EntitySql"])
        (statementFields.map fun field => (field, Text.constantCase field)), ";"],
    staging,
    "# [doc = r\" Parameter specs and typed factories, one per column.\"] pub struct Params ;",
    spaced ["impl Params", inBraces (t.columns.map u.parameterCode)]]]

/-- The value of a property, for a parameter or a row. -/
def valueCode (p : Property) (meaning : Meaning) : String :=
  let field := "self . " ++ p.ident ++ " . clone ()"
  match meaning with
  | .enum e =>
    if p.optional then
      field ++ " . map " ++ inParens ["| v | v as " ++ e.representation.name]
    else field ++ " as " ++ e.representation.name
  | _ => field

/-- A list. -/
def vectorCode (values : List String) : String :=
  rooted ["std", "vec"] ++ " ! " ++ inBrackets values

/-- The parameters of columns. -/
def boundCode (module : String) (columns : List Column) : String :=
  vectorCode (columns.filterMap fun c => (u.property? c.property).map fun (p, meaning) =>
    path [module, "Params", constantName c.property] ++ " . bind " ++ inParens [valueCode p meaning])

/-- A function of an implementation that gives parameters. -/
def parametersCode (name content : String) : String :=
  spaced ["fn", name, "(& self) ->", rooted ["std", "vec", "Vec"], "<", libraryPath ["Param"], ">",
    inBraces [content]]

/-- A function of an implementation that gives what a module holds. -/
def referenceCode (name type module constant : String) : String :=
  spaced ["fn", name, "() -> & 'static", libraryPath [type],
    inBraces ["& " ++ path [module, constant]]]

/-- The head of an implementation for a dialect. -/
def implementationHead (trait : String) (d : Dialect) : String :=
  spaced ["# [allow (clippy :: clone_on_copy)] impl", libraryPath [trait], "<", markerPath d, "> for",
    u.pathCode]

/-- The statements and parameters of a table. -/
def entityCode (t : Table) (module : String) : String :=
  spaced [u.implementationHead "Entity" t.dialect, inBraces [
    referenceCode "sql" "EntitySql" module "SQL",
    parametersCode "insert_params" (u.boundCode module t.insertColumns),
    parametersCode "update_params" (u.boundCode module (t.updateColumns ++ t.keyColumns)),
    parametersCode "key_params" (u.boundCode module t.keyColumns)]]

/-- The staging of a table. -/
def bulkEntityCode (t : Table) (module : String) : String :=
  let values := t.columns.filterMap fun c => (u.property? c.property).map fun (p, meaning) =>
    libraryPath ["Value", "from"] ++ " " ++ inParens [valueCode p meaning]
  spaced [u.implementationHead "BulkEntity" t.dialect, inBraces [
    referenceCode "staging" "StagingSql" module "STAGING",
    spaced ["fn staging_row (& self) ->", rooted ["std", "vec", "Vec"], "<", libraryPath ["Value"], ">",
      inBraces [vectorCode values]]]]

/-- The value of a property read from a row. -/
def readCode (p : Property) (meaning : Meaning) : String :=
  let name := text p.name
  match meaning with
  | .enum e =>
    let decoded (raw : String) := decoderName e ++ " " ++ inParens [raw, name] ++ " ?"
    let option := rooted ["core", "option", "Option"]
    if p.optional then
      spaced ["match row . get :: <", option, "<", e.representation.name, ">> " ++ inParens [name], "?",
        inBraces [
          option ++ " :: Some (raw) => " ++ option ++ " :: Some " ++ inParens [decoded "raw"] ++ " ,",
          option ++ " :: None => " ++ option ++ " :: None ,"]]
    else
      decoded ("row . get :: < " ++ e.representation.name ++ " > " ++ inParens [name] ++ " ?")
  | _ => "row . get " ++ inParens [name] ++ " ?"

/-- The reading of a row. -/
def fromRowCode : String :=
  let fields := (u.model.properties.zip u.meanings).map fun (p, meaning) =>
    p.ident ++ " : " ++ readCode p meaning
  spaced ["impl", libraryPath ["FromRow"], "for", u.pathCode, inBraces [
    spaced ["fn from_row (row : & " ++ libraryPath ["Row"] ++ ") ->", libraryPath ["Result"], "< Self >",
      inBraces [rooted ["core", "result", "Result", "Ok"] ++ " " ++
        inParens ["Self " ++ inBraces [listed fields]]]]]]

/-- All code for the model but that of its enums. -/
def codes (qualified : Bool) : List String :=
  u.tables.flatMap (fun t =>
    let module := moduleName u.model t.dialect qualified
    [u.moduleCode t module, u.entityCode t module] ++
      if u.model.capability = .bulk && t.texts.staging.isSome then [u.bulkEntityCode t module] else []) ++
    [u.fromRowCode]

end EmittedModel

/-- The function that decodes an enum. -/
def EnumRef.decoderCode (e : EnumRef) : String :=
  let enum := Code.path (pathSegments e.path)
  let result := rooted ["core", "result", "Result"]
  let arms := e.variants.map fun variant =>
    spaced ["if raw ==", enum, "::", variant, "as", e.representation.name,
      inBraces ["return " ++ result ++ " :: Ok " ++ inParens [enum ++ " :: " ++ variant] ++ " ;"]]
  let failure := result ++ " :: Err " ++ inParens [EmittedModel.recordCode
    (libraryPath ["Error", "Decode"])
    [("column", "column . to_owned ()"), ("message", rooted ["std", "format"] ++ " ! " ++
      inParens [text "\x7b\x7d is not a valid \x7b\x7d", "raw", text e.name])]]
  spaced ["# [allow (dead_code)] fn", decoderName e,
    inParens ["raw : " ++ e.representation.name, "column : & str"], "->",
    libraryPath ["Result"], "<", enum, ">", inBraces (arms ++ [failure])]

/-- The enums of models by their paths, in order, each path once. -/
def emittedEnums (units : List EmittedModel) : List EnumRef :=
  let all := units.flatMap (·.enums)
  let paths := (all.map (·.path)).eraseDups.mergeSort fun a b => (compare a b).isLE
  paths.filterMap fun path => all.find? (·.path == path)

/-- The generated file. -/
def emit (units : List EmittedModel) : String :=
  let codes := (emittedEnums units).map (·.decoderCode) ++
    (withQualification units).flatMap fun (u, qualified) => u.codes qualified
  generatedHeader ++ ". Do not edit.\n" ++ String.join (codes.map fun code => "\n" ++ code ++ "\n")

end Tablewright
