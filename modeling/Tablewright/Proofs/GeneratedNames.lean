import Mathlib.Data.List.Nodup
import Tablewright.Proofs.GeneratedTables
import Tablewright.Proofs.KeyedTables
import Tablewright.Proofs.WordsOfNames

/-!
# Generated names

The names that are made for generated code: those of modules, of the constants in them and of the functions
that decode enums. Each is made from names in the sources by a change of case, of which only the words are
left, and where a path is part of it, nothing shows where one of its names ends. So names that differ in the
sources are told apart if and only if their words do so.

## Key results

- `moduleName_eq_iff`, `decoderName_eq_iff`: when two generated names are the same
- `nodup_generatedModules_iff`: when the modules have different names
- `names_apart_iff`: when all generated names differ that have to
-/

namespace Tablewright

/-! ## Paths -/

/-- Names of a path from the root: none is the word for the root or holds a colon, and no underscore in
them has a mark. -/
def IsSegments (names : List String) : Prop :=
  ∀ s ∈ names, s ≠ "crate" ∧ ':' ∉ s.toList ∧ Text.Unmarked s.toList

variable {module : List String} {name : String}

theorem toList_rootedPath (module : List String) (name : String) : (rootedPath module name).toList =
    "::".toList.intercalate (("crate" :: (module ++ [name])).map String.toList) := by
  rw [rootedPath, String.toList_join, List.map_cons, Text.intercalate_cons_eq, List.flatMap_cons,
    List.flatMap_map, List.flatMap_map]
  simp only [String.toList_append]

theorem split_segments {names : List String} (hne : names ≠ []) (h : ∀ s ∈ names, ':' ∉ s.toList) :
    Text.split "::".toList ("::".toList.intercalate (names.map String.toList)) =
      names.map String.toList :=
  @Text.split_of_notMem "::".toList ':' rfl _ (mt List.map_eq_nil_iff.1 hne) (List.forall_mem_map.2 h)

theorem pathSegments_rootedPath (h : ∀ s ∈ module ++ [name], ':' ∉ s.toList) :
    pathSegments (rootedPath module name) = "crate" :: (module ++ [name]) := by
  have hcolon : ∀ s ∈ "crate" :: (module ++ [name]), ':' ∉ s.toList :=
    List.forall_mem_cons.2 ⟨by decide, h⟩
  rw [pathSegments, toList_rootedPath, split_segments (List.cons_ne_nil _ _) hcolon, List.map_map]
  exact List.map_id'' (fun s => String.ofList_toList) _

/-- Taking the word for the root off a path leaves its names: none of them is that word. -/
theorem withoutLead_rootedPath (h : IsSegments (module ++ [name])) :
    withoutLead "crate::".toList (rootedPath module name).length (rootedPath module name).toList =
      "::".toList.intercalate ((module ++ [name]).map String.toList) := by
  have hne : module ++ [name] ≠ [] := by simp
  have hsplit := split_segments hne fun s hs => (h s hs).2.1
  set rest := "::".toList.intercalate ((module ++ [name]).map String.toList) with hrest
  have hpath : (rootedPath module name).toList = "crate::".toList ++ rest := by
    rw [toList_rootedPath, List.map_cons,
      List.intercalate_cons_of_ne_nil (mt List.map_eq_nil_iff.1 hne), hrest]
    rfl
  have hlead : Text.after? "crate::".toList rest = none := by
    rw [Option.eq_none_iff_forall_not_mem]
    intro more hmore
    -- If the rest began with the word again, the word would be the first of the names.
    have hclear : Text.Clear "::".toList "crate".toList := Text.clear_of_notMem (by decide)
    have hfirst := Text.split_cons (by decide) hclear more
    rw [← (Text.eq_append_of_after? hmore : rest = "crate".toList ++ "::".toList ++ more), hsplit] at hfirst
    obtain ⟨s, hs, hcrate⟩ := List.mem_map.1 (hfirst ▸ List.mem_cons_self)
    exact (h s hs).1 (String.toList_inj.1 hcrate)
  have hstop (fuel : Nat) : withoutLead "crate::".toList fuel rest = rest := by
    cases fuel with
    | zero => rfl
    | succ fuel => rw [withoutLead, hlead]
  -- The length of the path bounds how often the word is taken off: it is at least once.
  have hlength : (rootedPath module name).length = 6 + rest.length + 1 := by
    rw [← String.length_toList, hpath, List.length_append, Nat.add_right_comm]
    rfl
  rw [hlength, hpath, withoutLead, Text.after?_append]
  exact hstop _

/-! ## Functions that decode enums -/

namespace EnumRef

/-- The path of the enum is made of names. -/
def IsRooted (e : EnumRef) : Prop :=
  ∃ module name, e.path = rootedPath module name ∧ IsSegments (module ++ [name])

/-- The words of the path, which is all that the name of the function has of it. -/
def pathWords (e : EnumRef) : List (List Char) := (pathSegments e.path).tail.flatMap Text.smallWords

end EnumRef

theorem decoderName_eq {e : EnumRef} (hpath : e.path = rootedPath module name)
    (h : IsSegments (module ++ [name])) :
    decoderName e = "__bulkgen_decode_" ++ Text.snakeCase ("_".intercalate (module ++ [name])) := by
  have hsplit := split_segments (by simp) fun s hs => (h s hs).2.1
  have hjoined : String.ofList (['_'].intercalate ((module ++ [name]).map String.toList)) =
      "_".intercalate (module ++ [name]) := by
    rw [← String.toList_inj, String.toList_ofList, String.toList_intercalate]
    rfl
  show "__bulkgen_decode_" ++ Text.snakeCase (String.ofList (['_'].intercalate (Text.split "::".toList
    (withoutLead "crate::".toList e.path.length e.path.toList)))) = _
  rw [hpath, withoutLead_rootedPath h, hsplit, hjoined]

theorem EnumRef.pathWords_eq {e : EnumRef} (hpath : e.path = rootedPath module name)
    (h : IsSegments (module ++ [name])) : e.pathWords = (module ++ [name]).flatMap Text.smallWords := by
  rw [pathWords, hpath, pathSegments_rootedPath fun s hs => (h s hs).2.1, List.tail_cons]

/-- Enums are decoded by functions of one name exactly when their paths have the same words. -/
theorem decoderName_eq_iff {e e' : EnumRef} (h : e.IsRooted) (h' : e'.IsRooted) :
    decoderName e = decoderName e' ↔ e.pathWords = e'.pathWords := by
  obtain ⟨module, name, hpath, hsegments⟩ := h
  obtain ⟨module', name', hpath', hsegments'⟩ := h'
  rw [decoderName_eq hpath hsegments, decoderName_eq hpath' hsegments', String.append_right_inj,
    Text.snakeCase_intercalate_eq_iff (by simp) (by simp) (fun s hs => (hsegments s hs).2.2)
      fun s hs => (hsegments' s hs).2.2,
    EnumRef.pathWords_eq hpath hsegments, EnumRef.pathWords_eq hpath' hsegments']

theorem path_of_find? {enums : List EnumRef} {path : String} {e : EnumRef}
    (h : enums.find? (·.path == path) = some e) : e.path = path := by
  have hpath := List.find?_some h
  exact eq_of_beq hpath

theorem mem_emittedEnums_iff {units : List EmittedModel} {e : EnumRef} : e ∈ emittedEnums units ↔
    (units.flatMap (·.enums)).find? (·.path == e.path) = some e := by
  rw [emittedEnums, List.mem_filterMap]
  constructor
  · rintro ⟨path, -, hfound⟩
    rwa [path_of_find? hfound]
  · intro hfound
    refine ⟨e.path, List.mem_mergeSort.2 (List.mem_eraseDups.2 ?_), hfound⟩
    exact List.mem_map_of_mem (List.mem_of_find?_eq_some hfound)

/-- Each path is decoded once. -/
theorem nodup_emittedPaths (units : List EmittedModel) : ((emittedEnums units).map (·.path)).Nodup := by
  rw [emittedEnums, List.map_filterMap]
  -- The enums are looked up by paths that are listed once, and each has the path it was looked up by.
  refine List.Nodup.filterMap (fun path path' p hp hp' => ?_)
    ((List.mergeSort_perm _ _).nodup_iff.2 (nodup_eraseDups _))
  obtain ⟨e, he, rfl⟩ := Option.map_eq_some_iff.1 hp
  obtain ⟨e', he', hsame⟩ := Option.map_eq_some_iff.1 hp'
  rw [← path_of_find? he, ← path_of_find? he', hsame]

/-- Functions that decode enums have different names if no two paths of enums have the same words. -/
theorem nodup_decoderNames_iff {units : List EmittedModel} (h : ∀ e ∈ emittedEnums units, e.IsRooted) :
    ((emittedEnums units).map decoderName).Nodup ↔ ∀ e ∈ emittedEnums units, ∀ e' ∈ emittedEnums units,
      e.pathWords = e'.pathWords → e.path = e'.path := by
  have hpaths := nodup_emittedPaths units
  rw [List.nodup_map_iff_inj_on hpaths.of_map]
  refine forall₄_congr fun e he e' he' => ?_
  rw [decoderName_eq_iff (h e he) (h e' he')]
  exact imp_congr_right fun _ => ⟨congrArg _, List.inj_on_of_nodup_map hpaths he he'⟩

/-! ## Modules -/

namespace EmittedModel

variable (u : EmittedModel)

/-- The names from which that of a module is made. -/
def nameSegments (qualified : Bool) : List String :=
  if qualified then u.model.module ++ [u.model.name] else [u.model.name]

/-- The words of a module's name in front of its dialect. -/
def nameWords (qualified : Bool) : List (List Char) :=
  (u.nameSegments qualified).flatMap Text.smallWords

/-- The dialects in which there are tables. -/
def dialects : List Dialect := u.tables.map (·.dialect)

/-- No underscore in the names from which names are made has a mark, and the paths of enums are made of
names. -/
structure WellNamed : Prop where
  segments : ∀ s ∈ u.model.module ++ [u.model.name], Text.Unmarked s.toList
  properties : ∀ t ∈ u.tables, ∀ c ∈ t.columns, Text.Unmarked c.property.toList
  enums : ∀ e ∈ u.enums, e.IsRooted

variable {u}

theorem WellNamed.nameSegments (h : u.WellNamed) (qualified : Bool) :
    ∀ s ∈ u.nameSegments qualified, Text.Unmarked s.toList := by
  intro s hs
  rw [EmittedModel.nameSegments] at hs
  split at hs
  · exact h.segments s hs
  · exact h.segments s (List.mem_append_right _ hs)

end EmittedModel

theorem moduleName_eq (u : EmittedModel) (d : Dialect) (qualified : Bool) :
    moduleName u.model d qualified =
      Text.snakeCase ("_".intercalate (u.nameSegments qualified)) ++ "_" ++ d.name := by
  cases qualified with
  | true => rfl
  | false =>
    rw [EmittedModel.nameSegments, if_neg Bool.false_ne_true, String.intercalate_singleton]
    rfl

/-- The dialect can be read off the end of a name. -/
theorem append_dialect_eq_iff {base base' : String} {d d' : Dialect} :
    base ++ "_" ++ d.name = base' ++ "_" ++ d'.name ↔ base = base' ∧ d = d' := by
  refine ⟨fun h => ?_, fun ⟨hbase, hd⟩ => by rw [hbase, hd]⟩
  have hd : d = d' := by
    -- The names of the dialects have different last letters.
    have hlast (s : String) (d : Dialect) :
        (s ++ "_" ++ d.name).toList.getLast? = d.name.toList.getLast? := by
      rw [String.toList_append, List.getLast?_append_of_ne_nil _ (by cases d <;> decide)]
    have hsame := (hlast base d).symm.trans ((congrArg (·.toList.getLast?) h).trans (hlast base' d'))
    cases d <;> cases d' <;> first | rfl | exact absurd hsame (by decide)
  subst hd
  exact ⟨(String.append_left_inj _).1 ((String.append_left_inj _).1 h), rfl⟩

/-- Modules have one name exactly when they are for one dialect and the names of their models have the same
words. -/
theorem moduleName_eq_iff {u u' : EmittedModel} (h : u.WellNamed) (h' : u'.WellNamed) {d d' : Dialect}
    {qualified qualified' : Bool} :
    moduleName u.model d qualified = moduleName u'.model d' qualified' ↔
      u.nameWords qualified = u'.nameWords qualified' ∧ d = d' := by
  have hne (u : EmittedModel) (qualified : Bool) : u.nameSegments qualified ≠ [] := by
    cases qualified <;> simp [EmittedModel.nameSegments]
  rw [moduleName_eq, moduleName_eq, append_dialect_eq_iff,
    Text.snakeCase_intercalate_eq_iff (hne _ _) (hne _ _) (h.nameSegments _) (h'.nameSegments _)]
  rfl

/-- The names of a model's modules. -/
def EmittedModel.moduleNames (u : EmittedModel) (qualified : Bool) : List String :=
  u.dialects.map fun d => moduleName u.model d qualified

theorem nodup_moduleNames {u : EmittedModel} (h : u.WellNamed) (hdialects : u.dialects.Nodup)
    (qualified : Bool) : (u.moduleNames qualified).Nodup :=
  hdialects.map fun _ _ heq => ((moduleName_eq_iff h h).1 heq).2

theorem disjoint_moduleNames_iff {u u' : EmittedModel} (h : u.WellNamed) (h' : u'.WellNamed)
    {qualified qualified' : Bool} : (u.moduleNames qualified).Disjoint (u'.moduleNames qualified') ↔
      (u.nameWords qualified = u'.nameWords qualified' → u.dialects.Disjoint u'.dialects) := by
  constructor
  · intro hdisjoint hwords d hd hd'
    have hsame : moduleName u.model d qualified = moduleName u'.model d qualified' :=
      (moduleName_eq_iff h h').2 ⟨hwords, rfl⟩
    have hmem : moduleName u.model d qualified ∈ u'.moduleNames qualified' := by
      rw [hsame]
      exact List.mem_map_of_mem hd'
    exact hdisjoint (List.mem_map_of_mem hd) hmem
  · intro hapart name hname hname'
    obtain ⟨d, hd, rfl⟩ := List.mem_map.1 hname
    obtain ⟨d', hd', hsame⟩ := List.mem_map.1 hname'
    obtain ⟨hwords, rfl⟩ := (moduleName_eq_iff h' h).1 hsame
    exact hapart hwords.symm hd hd'

/-- The names of all modules, in the order of the modules. -/
def generatedModules (units : List EmittedModel) : List String :=
  (withQualification units).flatMap fun (u, qualified) => u.moduleNames qualified

/-- Modules are told apart if no two models of the same words have tables in one dialect. -/
theorem nodup_generatedModules_iff {units : List EmittedModel}
    (hdialects : ∀ u ∈ units, u.dialects.Nodup) (hnames : ∀ u ∈ units, u.WellNamed) :
    (generatedModules units).Nodup ↔ (withQualification units).Pairwise fun a b =>
      a.1.nameWords a.2 = b.1.nameWords b.2 → a.1.dialects.Disjoint b.1.dialects := by
  have hunit : ∀ a ∈ withQualification units, a.1 ∈ units := List.forall_mem_map.2 fun u hu => hu
  -- The dialects tell the modules of one model apart, so what is left is said of pairs of models.
  rw [generatedModules, List.nodup_flatMap, and_iff_right fun a ha =>
    nodup_moduleNames (hnames _ (hunit a ha)) (hdialects _ (hunit a ha)) a.2]
  exact List.Pairwise.iff_of_mem fun ha hb =>
    disjoint_moduleNames_iff (hnames _ (hunit _ ha)) (hnames _ (hunit _ hb))

/-! ## Constants -/

/-- The names of the constants for the columns of a table. -/
def Table.constantNames (t : Table) : List String := t.columns.map fun c => constantName c.property

theorem nodup_constantNames_iff {t : Table} (h : ∀ c ∈ t.columns, Text.Unmarked c.property.toList) :
    t.constantNames.Nodup ↔ t.columns.Pairwise fun c c' =>
      Text.capitalWords c.property ≠ Text.capitalWords c'.property := by
  rw [Table.constantNames, List.Nodup, List.pairwise_map]
  exact List.Pairwise.iff_of_mem fun hc hc' => not_congr (Text.constantCase_eq_iff (h _ hc) (h _ hc'))

/-! ## All names -/

/-- Generated names differ that have to, exactly when the words do of which they are made: the words of the
names of models with tables in one dialect, those of the properties of one table and those of the paths of
enums. That the names, the properties or the paths differ themselves is not enough. -/
theorem names_apart_iff {units : List EmittedModel} (hdialects : ∀ u ∈ units, u.dialects.Nodup)
    (hnames : ∀ u ∈ units, u.WellNamed) :
    ((generatedModules units).Nodup ↔ (withQualification units).Pairwise fun a b =>
      a.1.nameWords a.2 = b.1.nameWords b.2 → a.1.dialects.Disjoint b.1.dialects) ∧
    (∀ u ∈ units, ∀ t ∈ u.tables, t.constantNames.Nodup ↔ t.columns.Pairwise fun c c' =>
      Text.capitalWords c.property ≠ Text.capitalWords c'.property) ∧
    (((emittedEnums units).map decoderName).Nodup ↔ ∀ e ∈ emittedEnums units, ∀ e' ∈ emittedEnums units,
      e.pathWords = e'.pathWords → e.path = e'.path) := by
  refine ⟨nodup_generatedModules_iff hdialects hnames,
    fun u hu t ht => nodup_constantNames_iff ((hnames u hu).properties t ht),
    nodup_decoderNames_iff fun e he => ?_⟩
  obtain ⟨u, hu, henum⟩ := List.mem_flatMap.1 (List.mem_of_find?_eq_some (mem_emittedEnums_iff.1 he))
  exact (hnames u hu).enums e henum

/-- A model of integers and enums, with its table for PostgreSQL. -/
def EmittedModel.ofFields (module : List String) (name : String)
    (fields : List (String × String × Meaning)) : EmittedModel where
  model := ⟨name, module, .domain, fields.map fun (field, type, _) =>
    ⟨field, field, .ofName type, .ofName type, false, default⟩, default⟩
  meanings := fields.map fun (_, _, meaning) => meaning
  tables := [{
    dialect := .postgres
    schema := "public"
    name := name
    columns := fields.filterMap fun (field, _, meaning) =>
      (meaning.defaultType? .postgres).map (Column.ofProperty field)
    keys := ["id"]
    identity := [] }]

/-- Orders of two modules. -/
def shopOrders : List EmittedModel :=
  [.ofFields ["store"] "Order" [("id", "i64", .int .i64), ("line1", "i32", .int .i32),
      ("line_2", "i32", .int .i32)],
    .ofFields ["user"] "Order" [("id", "i64", .int .i64),
      ("kind", "Kind", .enum ⟨"Kind", "crate::user::Kind", .i32, ["Retail"]⟩)]]

/-- All names for the orders differ. -/
theorem names_apart_shopOrders : (generatedModules shopOrders).Nodup ∧
    (∀ u ∈ shopOrders, ∀ t ∈ u.tables, t.constantNames.Nodup) ∧
    ((emittedEnums shopOrders).map decoderName).Nodup := by
  have hkind : EnumRef.IsRooted ⟨"Kind", "crate::user::Kind", .i32, ["Retail"]⟩ :=
    ⟨["user"], "Kind", by decide, by unfold IsSegments; decide +kernel⟩
  have hnames : ∀ u ∈ shopOrders, u.WellNamed := List.forall_mem_cons.2
    ⟨⟨by decide +kernel, by decide +kernel, fun e he => absurd (he : e ∈ []) List.not_mem_nil⟩,
      List.forall_mem_singleton.2
        ⟨by decide +kernel, by decide +kernel, List.forall_mem_singleton.2 hkind⟩⟩
  obtain ⟨hmodules, hconstants, hdecoders⟩ := names_apart_iff (by decide) hnames
  have hpairs : (withQualification shopOrders).Pairwise fun a b => a.1.nameWords a.2 ≠ b.1.nameWords b.2 := by
    decide +kernel
  have hproperties : ∀ u ∈ shopOrders, ∀ t ∈ u.tables, t.columns.Pairwise fun c c' =>
      Text.capitalWords c.property ≠ Text.capitalWords c'.property := by
    decide +kernel
  refine ⟨hmodules.2 (hpairs.imp fun hne hwords => absurd hwords hne),
    fun u hu t ht => (hconstants u hu t ht).2 (hproperties u hu t ht),
    hdecoders.2 fun e he e' he' _ => ?_⟩
  -- Only one of the models has an enum.
  have henums : shopOrders.flatMap (·.enums) = [⟨"Kind", "crate::user::Kind", .i32, ["Retail"]⟩] := rfl
  have honly {e : EnumRef} (he : e ∈ emittedEnums shopOrders) : e.path = "crate::user::Kind" := by
    have hmem := List.mem_of_find?_eq_some (mem_emittedEnums_iff.1 he)
    rw [henums, List.mem_singleton] at hmem
    rw [hmem]
  exact (honly he).trans (honly he').symm

/-- Orders that a report has of its own. -/
def reportedOrders : List EmittedModel :=
  .ofFields ["report"] "UserOrder" [("id", "i64", .int .i64), ("line1", "i32", .int .i32),
    ("line_1", "i32", .int .i32),
    ("kind", "UserKind", .enum ⟨"UserKind", "crate::UserKind", .i32, ["Retail"]⟩)] :: shopOrders

/-- The reported orders are told apart from those of users by their path, their properties by their names
and their enum by its path; but modules, constants and functions for them have the same names. -/
theorem names_shared_reportedOrders :
    (reportedOrders.map (·.model.path)).Nodup ∧ (∀ u ∈ reportedOrders, u.dialects.Nodup) ∧
      ¬(generatedModules reportedOrders).Nodup ∧
    (∃ u ∈ reportedOrders, ∃ t ∈ u.tables, (t.columns.map (·.property)).Nodup ∧ ¬t.constantNames.Nodup) ∧
    ((emittedEnums reportedOrders).map (·.path)).Nodup ∧
      ¬((emittedEnums reportedOrders).map decoderName).Nodup := by
  refine ⟨by decide, by decide, by decide +kernel, by decide +kernel, nodup_emittedPaths _, fun h => ?_⟩
  have hkind : ⟨"Kind", "crate::user::Kind", .i32, ["Retail"]⟩ ∈ emittedEnums reportedOrders :=
    mem_emittedEnums_iff.2 (by decide)
  have huser : ⟨"UserKind", "crate::UserKind", .i32, ["Retail"]⟩ ∈ emittedEnums reportedOrders :=
    mem_emittedEnums_iff.2 (by decide)
  exact absurd (List.inj_on_of_nodup_map h hkind huser (by decide +kernel)) (by decide)

end Tablewright
