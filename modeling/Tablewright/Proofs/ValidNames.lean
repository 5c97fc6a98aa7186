import Tablewright.Proofs.GeneratedNames
import Tablewright.Proofs.IdentifierCase
import Tablewright.Proofs.RootedPaths

/-!
# Valid names in generated code

A run of the generator fails only over a name in its code that cannot be one. The names are made from those
in the sources: changed in case, joined with underscores, or as they are in a path. If the names in the
sources are identifiers, not raw, then all of them are identifiers too, whatever the settings, and so the
run succeeds.

## Key results

- `isWord_of_mem_names`: the names that the code for a model takes
- `WordNames.units`: what of the sources is in these names
- `generate_of_wordNames`: a run succeeds
-/

namespace Tablewright

open Code

/-! ## Identifiers -/

/-- An identifier lacks the characters that no identifier has. -/
theorem notMem_of_isWord {c : Char} (hc : Text.isIdentifierContinue c = false) {s : List Char}
    (h : isWord s = true) : c ∉ s := by
  intro hmem
  have hcontinue := List.all_eq_true.1 (Text.all_of_isWord h) c hmem
  exact absurd hcontinue (by simp [hc])

/-- An identifier does not begin with a digit. -/
theorem notDigit_of_isWord {s : List Char} (h : isWord s = true) : s.head?.any Char.isDigit = false := by
  obtain ⟨c, rest, rfl⟩ := Text.exists_cons_of_isWord h
  have hdigits : ∀ n < 0x80, (Char.ofNat n).isDigit = true →
      Text.isIdentifierStart (Char.ofNat n) = false := by decide
  refine Bool.eq_false_iff.2 fun hdigit => ?_
  have hascii : c.toNat < 0x80 := by
    have hbounds : 48 ≤ c.val ∧ c.val ≤ 57 := by simpa [Char.isDigit] using hdigit
    exact Nat.lt_of_le_of_lt (UInt32.le_iff_toNat_le.1 hbounds.2) (by decide)
  have hstart := hdigits _ hascii (by simpa using hdigit)
  rw [Char.ofNat_toNat, (Text.isWord_cons.1 h).1] at hstart
  cases hstart

/-- Identifiers are not raw. -/
theorem after?_raw_of_isWord {s : List Char} (h : isWord s = true) : Text.after? "r#".toList s = none := by
  refine Option.eq_none_iff_forall_not_mem.2 fun rest hrest => ?_
  rw [Text.eq_append_of_after? hrest] at h
  exact notMem_of_isWord (c := '#') (by decide) h (List.mem_append_left rest (by decide))

theorem isName_of_isWord {name : String} (h : isWord name.toList = true) : isName name = true := by
  rw [isName, after?_raw_of_isWord h]
  exact h

theorem plainName_of_isWord {ident : String} (h : isWord ident.toList = true) :
    plainName ident = ident := by
  rw [plainName, after?_raw_of_isWord h]
  exact String.ofList_toList

/-! ## Names that are made -/

theorem moduleName_isWord {m : Model} (h : ∀ n ∈ m.module ++ [m.name], isWord n.toList = true)
    (d : Dialect) (qualified : Bool) : isWord (moduleName m d qualified).toList = true := by
  have hname := h m.name (by simp)
  have hbase : isWord (if qualified then String.intercalate "_" (m.module ++ [m.name]) else m.name).toList =
      true := by
    cases qualified with
    | false => exact hname
    | true =>
      -- The first of the names begins the joined one.
      obtain ⟨n, ns, hnames⟩ := List.exists_cons_of_ne_nil (l := m.module ++ [m.name]) (by simp)
      have hseparator : "_".toList = ['_'] := rfl
      rw [hnames] at h ⊢
      have hall := Text.all_intercalate (List.forall_mem_map.2 fun n hn => Text.all_of_isWord (h n hn))
      rw [List.map_cons, Text.intercalate_cons_eq, List.all_append] at hall
      rw [if_pos rfl, String.toList_intercalate, hseparator, List.map_cons, Text.intercalate_cons_eq]
      exact Text.isWord_append (h n List.mem_cons_self) (Bool.and_eq_true_iff.1 hall).2
  rw [moduleName, String.toList_append, String.toList_append]
  refine Text.isWord_append (Text.isWord_append (Text.isWord_snakeCase hbase) (by decide)) ?_
  cases d <;> decide

/-- Taking a word off the front of a path leaves only segments of the path. -/
theorem split_withoutLead_subset (fuel : Nat) (s : List Char) :
    Text.split "::".toList (withoutLead "crate::".toList fuel s) ⊆ Text.split "::".toList s := by
  induction fuel generalizing s with
  | zero => exact List.Subset.refl _
  | succ fuel ih =>
    rw [withoutLead]
    cases hrest : Text.after? "crate::".toList s with
    | none => exact List.Subset.refl _
    | some rest =>
      have hclear : Text.Clear "::".toList "crate".toList := Text.clear_of_notMem (by decide)
      have hsplit := Text.split_cons (by decide) hclear rest
      rw [← (Text.eq_append_of_after? hrest : s = "crate".toList ++ "::".toList ++ rest)] at hsplit
      rw [hsplit]
      exact List.subset_cons_of_subset _ (ih rest)

/-- A path from the root is made of identifiers. -/
def IsWordPath (path : String) : Prop :=
  ∃ module name, path = rootedPath module name ∧ ∀ n ∈ module ++ [name], isWord n.toList = true

theorem pathSegments_isWord {path : String} (h : IsWordPath path) :
    ∀ n ∈ pathSegments path, isWord n.toList = true := by
  obtain ⟨module, name, rfl, hwords⟩ := h
  rw [pathSegments_rootedPath fun n hn => notMem_of_isWord (by decide) (hwords n hn)]
  exact List.forall_mem_cons.2 ⟨by decide, hwords⟩

theorem decoderName_isWord {e : EnumRef} (h : IsWordPath e.path) :
    isWord (decoderName e).toList = true := by
  have hsegments : ∀ p ∈ Text.split "::".toList e.path.toList, isWord p = true := by
    intro p hp
    simpa using pathSegments_isWord h _ (List.mem_map_of_mem hp)
  show isWord ("__bulkgen_decode_" ++ Text.snakeCase (String.ofList (['_'].intercalate (Text.split
    "::".toList (withoutLead "crate::".toList e.path.length e.path.toList))))).toList = true
  rw [String.toList_append]
  refine Text.isWord_append (by decide) (Text.all_snakeCase ?_)
  rw [String.toList_ofList]
  exact Text.all_intercalate fun p hp =>
    Text.all_of_isWord (hsegments p (split_withoutLead_subset _ _ hp))

/-! ## The names of a model -/

/-- The names from which those in the code for a model are made are identifiers. -/
structure EmittedModel.WordNames (u : EmittedModel) : Prop where
  path : ∀ n ∈ u.model.module ++ [u.model.name], isWord n.toList = true
  columns : ∀ t ∈ u.tables, ∀ c ∈ t.columns, isWord c.property.toList = true
  enums : ∀ e ∈ u.enums, IsWordPath e.path ∧ ∀ v ∈ e.variants, isWord v.toList = true

theorem EmittedModel.isWord_of_mem_names {u : EmittedModel} (h : u.WordNames) {qualified : Bool} :
    ∀ n ∈ u.names qualified, isWord n.toList = true := by
  intro n hn
  simp only [names, List.mem_append, List.mem_flatMap, List.mem_cons, List.mem_map] at hn
  rcases hn with (⟨t, ht, rfl | ⟨c, hc, rfl⟩⟩ | ⟨e, he, (rfl | hn) | hn⟩) | hn
  · exact moduleName_isWord h.path t.dialect qualified
  · exact Text.isWord_constantCase (h.columns t ht c hc)
  · exact decoderName_isWord (h.enums e he).1
  · exact pathSegments_isWord (h.enums e he).1 n hn
  · exact (h.enums e he).2 n hn
  · exact pathSegments_isWord ⟨_, _, rfl, h.path⟩ n hn

/-! ## The names in the sources -/

/-- The names in the sources that come into the generated code are identifiers, and not raw: those of
modules, structs, fields, enums and variants. -/
structure SourceSet.WordNames (s : SourceSet) : Prop where
  structs : ∀ a ∈ s.structs, ∀ n ∈ a.module ++ [a.item.name], isWord n.toList = true
  fields : ∀ a ∈ s.structs, ∀ f ∈ a.item.fields.getD [], isWord f.ident.toList = true
  enums : ∀ a ∈ s.enums, ∀ n ∈ a.module ++ [a.item.name], isWord n.toList = true
  variants : ∀ a ∈ s.enums, ∀ v ∈ a.item.variants, isWord v.name.toList = true

/-- An enum that a type means is one of those that are known. -/
theorem Meaning.exists_enum_of_ofType {enums : List EnumModel} {t : Source.TypeExpr} {e : EnumRef}
    (h : Meaning.ofType enums t = .ok (.enum e)) :
    ∃ known ∈ enums, e.path = known.path ∧ e.variants = known.variants := by
  cases hlast : Meaning.lastSegment? t with
  | none => simp [Meaning.ofType, hlast] at h
  | some segment =>
    obtain ⟨name, argument⟩ := segment
    obtain ⟨-, henum⟩ := (Meaning.ofType_eq_enum_iff hlast).1 h
    simp only [Meaning.ofEnum?, Option.bind_eq_bind, Option.bind_eq_some_iff] at henum
    obtain ⟨known, hknown, henum⟩ := henum
    split at henum
    · cases henum
    · split at henum
      all_goals
        obtain ⟨representation, -, henum⟩ := Option.bind_eq_some_iff.1 henum
        obtain rfl := Meaning.enum.inj (Option.some.inj henum)
        exact ⟨known, List.mem_of_find?_eq_some hknown, rfl, rfl⟩

namespace SourceSet

variable {s : SourceSet} {policy : Policy}

/-- A model is made of a struct. -/
theorem exists_struct_of_discovered {m : DiscoveredModel} (hm : m ∈ (s.discover policy).models) :
    ∃ a ∈ s.structs, ∃ c, Model.ofStruct a c = .ok m.model := by
  obtain ⟨i, hi⟩ := mem_discovered_iff.1 hm
  obtain ⟨a, c, ha, -, hstruct⟩ := exists_struct_of_discoveredAt? hi
  exact ⟨a, List.mem_of_getElem? ha, c, hstruct⟩

/-- A column comes from a property of the model. -/
theorem Configures.exists_property {m : DiscoveredModel} {meanings : List Meaning} {p : Profile} {t : Table}
    (h : s.Configures policy m meanings p t) {c : Column} (hc : c ∈ t.columns) :
    ∃ q ∈ m.model.properties, c.property = q.name := by
  obtain ⟨q, hq, meaning, settings, -, hcolumn⟩ := exists_mem_of_forall₂ h.columns.flip hc
  obtain ⟨_, -, rfl⟩ := Option.map_eq_some_iff.1 hcolumn
  exact ⟨q, hq, rfl⟩

theorem WordNames.units (h : s.WordNames) : ∀ u ∈ s.units policy, u.WordNames := by
  intro u hu
  obtain ⟨m, hm, hunit⟩ := List.mem_filterMap.1 hu
  obtain ⟨meanings, hmeans, hmodel, rfl, htables⟩ := DiscoveredModel.eq_of_unit? hunit
  obtain ⟨a, ha, c, hstruct⟩ := exists_struct_of_discovered hm
  obtain ⟨hname, hmodule, -, hproperties⟩ := Model.ofStruct_eq_ok hstruct
  refine ⟨by rw [hmodel, hname, hmodule]; exact h.structs a ha, fun t ht column hcolumn => ?_,
    fun e he => ?_⟩
  · rw [htables] at ht
    split at ht
    · rename_i htable
      obtain ⟨p, hp, ht⟩ := List.mem_filterMap.1 ht
      have hconfigures : s.Configures policy m u.meanings p t :=
        ⟨hm, htable, (DiscoveredModel.mem_openProfiles.1 hp).1, hmeans, ht⟩
      obtain ⟨q, hq, hproperty⟩ := hconfigures.exists_property hcolumn
      rw [hproperties] at hq
      obtain ⟨f, hf, rfl⟩ := List.mem_map.1 hq
      have hident := h.fields a ha f hf
      have hplain : column.property = f.ident := hproperty.trans (plainName_of_isWord hident)
      rwa [hplain]
    · cases ht
  · obtain ⟨meaning, hmeaning, henum⟩ := List.mem_filterMap.1 he
    obtain rfl : meaning = .enum e := by
      cases meaning <;> cases henum
      rfl
    obtain ⟨q, -, hofType⟩ := exists_mem_of_forall₂ hmeans.flip hmeaning
    obtain ⟨known, hknown, hpath, hvariants⟩ := Meaning.exists_enum_of_ofType hofType
    obtain ⟨b, hb, rfl⟩ := List.mem_map.1 hknown
    refine ⟨⟨_, _, hpath, h.enums b hb⟩, ?_⟩
    rw [hvariants]
    exact List.forall_mem_map.2 (h.variants b hb)

/-- Each name that the code takes is an identifier. -/
theorem WordNames.isWord_of_mem_emittedNames (h : s.WordNames) :
    ∀ name ∈ emittedNames (s.units policy), isWord name.toList = true := by
  intro name hname
  obtain ⟨_, hqualified, hname⟩ := List.mem_flatMap.1 hname
  obtain ⟨u, hu, rfl⟩ := List.mem_map.1 hqualified
  exact EmittedModel.isWord_of_mem_names (h.units u hu) name hname

theorem WordNames.exists_generate (h : s.WordNames) : ∃ g, s.generate policy = .ok g :=
  exists_generate_iff.2 fun name hname => isName_of_isWord (h.isWord_of_mem_emittedNames name hname)

/-- On sources in which all names are identifiers, a run of the generator succeeds whatever the policy, and
each name that its code takes is an identifier: it is not empty and does not begin with a digit. -/
theorem generate_of_wordNames (s : SourceSet) (policy : Policy) (h : s.WordNames) :
    (∃ g, s.generate policy = .ok g) ∧ ∀ name ∈ emittedNames (s.units policy),
      isWord name.toList = true ∧ name ≠ "" ∧ name.toList.head?.any Char.isDigit = false := by
  refine ⟨h.exists_generate, fun name hname => ?_⟩
  have hword := h.isWord_of_mem_emittedNames name hname
  refine ⟨hword, ?_, notDigit_of_isWord hword⟩
  rintro rfl
  exact absurd hword (by decide)

end SourceSet

/-- Sensors whose names begin with underscores, end with digits or have letters beyond ASCII. -/
def sensors : SourceSet :=
  ⟨[.publicStruct "_2d" "ǅSensor9" [("id", "i64"), ("_1", "i32"), ("__x__y", "i32"), ("maß", "_Kind")]],
    [⟨⟨"_Kind", [], [⟨"_0", true⟩]⟩, ["_2d"], "src/_2d.rs"⟩],
    [.traitImpl "_2d" "BulkModel" [] "ǅSensor9" []], ⟨[]⟩, []⟩

/-- Code for the sensors is generated; in two dialects, as no profile is demanded. -/
theorem generate_of_wordNames_sensors : sensors.WordNames ∧
    (∃ g, sensors.generate ⟨false, Dialect.all⟩ = .ok g) ∧
    (["ǆsensor_9_postgres", "_1", "__X__Y", "MASS", "__bulkgen_decode__2_d__kind"].all
      (emittedNames (sensors.units ⟨false, Dialect.all⟩)).contains) = true := by
  have h : sensors.WordNames := ⟨by decide +kernel, by decide +kernel, by decide +kernel, by decide +kernel⟩
  refine ⟨h, (sensors.generate_of_wordNames ⟨false, Dialect.all⟩ h).1, ?_⟩
  decide +kernel

end Tablewright
