import Mathlib.Data.List.Induction
import Mathlib.Data.String.Basic
import Mathlib.Order.Compare
import Tablewright.Profile.Reading
import Tablewright.Proofs.AcceptedCalls
import Tablewright.Proofs.StableSorting

/-!
# Settings of chains

What a profile says about a property is what its calls on the property say, whatever chains and bodies they
are in. The calls are put in the order of their names, and those of one name stay as the chains present
them; each setting is what the last accepted call on it writes.

## Key results

- `holds_settingsOfCalls`: each setting is the last one written
- `settingsOfCalls_of_outlines`: the settings depend only on the methods and the values of the arguments
- `settings_by_last_writer`: all of this for the settings of a profile, and who is complained about
-/

namespace Tablewright

/-- The settings without the place where the property is first configured. -/
def ColumnSettings.unplaced (s : ColumnSettings) : ColumnSettings := { s with location := none }

/-! ## The settings that a change writes -/

namespace Change

/-- What a change writes as the name of the column. -/
def column? : Change → Option (Option String)
  | column name => some (some name)
  | _ => none

/-- What a change writes as the type. -/
def type? : Change → Option (Option ColumnType)
  | type t | typeAndSize t _ | typeAndPrecision t _ _ => some (some t)
  | _ => none

/-- What a change writes as the size; a type without a length writes that there is none. -/
def size? : Change → Option (Option ColumnSize)
  | size length => some (some length)
  | typeAndSize _ length => some length
  | _ => none

/-- What a change writes as the precision. -/
def precision? : Change → Option (Option Nat)
  | precision n | typeAndPrecision _ n _ => some (some n)
  | _ => none

/-- What a change writes as the scale. -/
def scale? : Change → Option (Option Nat)
  | scale n | typeAndPrecision _ _ n => some (some n)
  | _ => none

/-- What a change writes about whether the column may be empty. -/
def nullable? : Change → Option (Option Bool)
  | nullable b => some (some b)
  | _ => none

/-- What a change writes as the default. -/
def default? : Change → Option (Option String)
  | default expression => some (some expression)
  | _ => none

variable (s : ColumnSettings) (ch : Change)

theorem column_apply : (ch.apply s).column = ch.column?.getD s.column := by cases ch <;> rfl

theorem type_apply : (ch.apply s).type = ch.type?.getD s.type := by cases ch <;> rfl

theorem size_apply : (ch.apply s).size = ch.size?.getD s.size := by cases ch <;> rfl

theorem precision_apply : (ch.apply s).precision = ch.precision?.getD s.precision := by cases ch <;> rfl

theorem scale_apply : (ch.apply s).scale = ch.scale?.getD s.scale := by cases ch <;> rfl

theorem nullable_apply : (ch.apply s).nullable = ch.nullable?.getD s.nullable := by cases ch <;> rfl

theorem default_apply : (ch.apply s).default = ch.default?.getD s.default := by cases ch <;> rfl

/-- No change is about where the property is first configured. -/
theorem unplaced_apply : (ch.apply s).unplaced = ch.apply s.unplaced := by cases ch <;> rfl

end Change

/-! ## The last accepted call on a setting -/

/-- The setting that calls lead to, one behind the other: what the last accepted call on it writes, or
nothing if no accepted call writes it. -/
inductive Holds {α : Type} (symbols : SymbolTable) (d : Dialect) (write : Change → Option (Option α)) :
    List ProfileCall → Option α → Prop where
  | written {before after : List ProfileCall} {c : ProfileCall} {ch : Change} {value : Option α}
      (hsets : c.Sets symbols d ch) (hwrites : write ch = some value)
      (hlast : ∀ c' ∈ after, ∀ ch', c'.Sets symbols d ch' → write ch' = none) :
      Holds symbols d write (before ++ c :: after) value
  | unwritten {calls : List ProfileCall}
      (hnone : ∀ c ∈ calls, ∀ ch, c.Sets symbols d ch → write ch = none) :
      Holds symbols d write calls none

section

variable {α : Type} {symbols : SymbolTable} {d : Dialect} {write : Change → Option (Option α)}

/-- One more call that does not write the setting leaves it as it is. -/
theorem Holds.concat {calls : List ProfileCall} {value : Option α} {c : ProfileCall}
    (h : Holds symbols d write calls value) (hc : ∀ ch, c.Sets symbols d ch → write ch = none) :
    Holds symbols d write (calls ++ [c]) value := by
  have hadd {rest : List ProfileCall}
      (hrest : ∀ c' ∈ rest, ∀ ch', c'.Sets symbols d ch' → write ch' = none) :
      ∀ c' ∈ rest ++ [c], ∀ ch', c'.Sets symbols d ch' → write ch' = none := by
    intro c' hc'
    rcases List.mem_append.1 hc' with hc' | hc'
    · exact hrest c' hc'
    · exact List.mem_singleton.1 hc' ▸ hc
  cases h with
  | written hsets hwrites hlast =>
    rw [List.append_assoc, List.cons_append]
    exact .written hsets hwrites (hadd hlast)
  | unwritten hnone => exact .unwritten (hadd hnone)

/-- Only the accepted calls count. -/
theorem settingsOfCalls_eq (first : ColumnSettings) (calls : List ProfileCall) :
    settingsOfCalls symbols d first calls =
      (calls.filterMap fun c => (c.change symbols d).toOption).foldl Change.apply first := by
  induction calls generalizing first with
  | nil => rfl
  | cons c calls ih =>
    rw [settingsOfCalls, List.foldl_cons, ← settingsOfCalls, ih, List.filterMap_cons]
    cases c.change symbols d <;> rfl

/-- A setting that changes write holds what the last accepted call on it writes. -/
theorem holds_settingsOfCalls {setting : ColumnSettings → Option α}
    (hwrite : ∀ s ch, setting (Change.apply s ch) = (write ch).getD (setting s)) {first : ColumnSettings}
    (hfirst : setting first = none) (calls : List ProfileCall) :
    Holds symbols d write calls (setting (settingsOfCalls symbols d first calls)) := by
  induction calls using List.reverseRecOn with
  | nil => exact hfirst ▸ .unwritten (by simp)
  | append_singleton calls c ih =>
    rw [settingsOfCalls_eq] at ih ⊢
    rw [List.filterMap_append, List.foldl_append]
    cases hc : c.change symbols d with
    | error problems =>
      -- A call that is not accepted writes nothing.
      simp only [List.filterMap_cons, hc, Except.toOption, List.filterMap_nil, List.foldl_nil]
      exact ih.concat fun ch hch => by
        rw [ProfileCall.change_of_sets hch] at hc
        cases hc
    | ok ch =>
      simp only [List.filterMap_cons, hc, Except.toOption, List.filterMap_nil, List.foldl_cons,
        List.foldl_nil, hwrite]
      cases hvalue : write ch with
      | none =>
        refine ih.concat fun ch' hch' => ?_
        rw [ProfileCall.change_of_sets hch'] at hc
        cases hc
        exact hvalue
      | some value => exact .written (ProfileCall.sets_of_change hc) hvalue (by simp)

end

/-- Settings of which each is the last one written. -/
structure LastWritten (symbols : SymbolTable) (d : Dialect) (calls : List ProfileCall)
    (s : ColumnSettings) : Prop where
  column : Holds symbols d Change.column? calls s.column
  type : Holds symbols d Change.type? calls s.type
  size : Holds symbols d Change.size? calls s.size
  precision : Holds symbols d Change.precision? calls s.precision
  scale : Holds symbols d Change.scale? calls s.scale
  nullable : Holds symbols d Change.nullable? calls s.nullable
  default : Holds symbols d Change.default? calls s.default

/-- Calls on a property of which nothing but the place is known lead to the settings that they write. -/
theorem lastWritten_settingsOfCalls (symbols : SymbolTable) (d : Dialect) (l : Option Location)
    (calls : List ProfileCall) :
    LastWritten symbols d calls
      (settingsOfCalls symbols d { ColumnSettings.unset with location := l } calls) where
  column := holds_settingsOfCalls Change.column_apply rfl calls
  type := holds_settingsOfCalls Change.type_apply rfl calls
  size := holds_settingsOfCalls Change.size_apply rfl calls
  precision := holds_settingsOfCalls Change.precision_apply rfl calls
  scale := holds_settingsOfCalls Change.scale_apply rfl calls
  nullable := holds_settingsOfCalls Change.nullable_apply rfl calls
  default := holds_settingsOfCalls Change.default_apply rfl calls

/-! ## The order of calls -/

/-- Calls in the order of their names, character by character; those of one name are in the order in which
they were. -/
structure InNameOrder (calls ordered : List ProfileCall) : Prop where
  sorted : ordered.Pairwise fun a b => a.method ≤ b.method
  stable : ∀ method, (ordered.filter fun c => c.method == method) = calls.filter fun c => c.method == method

/-- Lists in the order of names are the same if they are for each name. -/
theorem eq_of_pairwise_name {α : Type} {name : α → String} {xs ys : List α}
    (hxs : xs.Pairwise fun a b => name a ≤ name b) (hys : ys.Pairwise fun a b => name a ≤ name b)
    (h : ∀ method, (xs.filter fun a => name a == method) = ys.filter fun a => name a == method) :
    xs = ys := by
  -- Names are of the same rank only if they are the same.
  have hclass (x y : String) : (decide (x ≤ y) && decide (y ≤ x)) = (y == x) := by
    rw [Bool.eq_iff_iff, Bool.and_eq_true, decide_eq_true_iff, decide_eq_true_iff, beq_iff_eq]
    exact ⟨fun h => le_antisymm h.2 h.1, fun h => ⟨h.ge, h.le⟩⟩
  have total (a b : α) : (decide (name a ≤ name b) || decide (name b ≤ name a)) = true := by
    rw [Bool.or_eq_true, decide_eq_true_iff, decide_eq_true_iff]
    exact le_total _ _
  exact eq_of_pairwise_of_class total (hxs.imp decide_eq_true) (hys.imp decide_eq_true) fun a => by
    simp only [hclass, h]

/-- Sorting by names puts calls in that order. -/
theorem inNameOrder_mergeSort (calls : List ProfileCall) :
    InNameOrder calls (calls.mergeSort fun a b => (compare a.method b.method).isLE) := by
  have hle (a b : ProfileCall) : (compare a.method b.method).isLE = true ↔ a.method ≤ b.method :=
    Std.LawfulBCmp.isLE_iff_le
  have trans (a b c : ProfileCall) (h : (compare a.method b.method).isLE = true)
      (h' : (compare b.method c.method).isLE = true) : (compare a.method c.method).isLE = true := by
    rw [hle] at *
    exact le_trans h h'
  have total (a b : ProfileCall) :
      ((compare a.method b.method).isLE || (compare b.method a.method).isLE) = true := by
    rw [Bool.or_eq_true, hle, hle]
    exact le_total _ _
  refine ⟨(List.pairwise_mergeSort trans total calls).imp (hle _ _).1, fun method => ?_⟩
  refine filter_mergeSort_class trans total (fun a b ha hb => ?_) calls
  rw [beq_iff_eq] at ha hb
  rw [hle, ha, hb]

/-- What counts of a call: its method and the values of its arguments. -/
def ProfileCall.outline (symbols : SymbolTable) (c : ProfileCall) : String × List (Option Constant) :=
  (c.method, c.arguments.map symbols.fold?)

/-- The order of names is the only one of its kind. -/
theorem InNameOrder.unique {calls ordered ordered' : List ProfileCall} (h : InNameOrder calls ordered)
    (h' : InNameOrder calls ordered') : ordered = ordered' :=
  eq_of_pairwise_name h.sorted h'.sorted fun method => by rw [h.stable, h'.stable]

/-- Calls of which those of each name take the same values, one behind the other, are the same in the order
of their names, as far as it counts. -/
theorem InNameOrder.outlines_eq {symbols : SymbolTable} {calls calls' ordered ordered' : List ProfileCall}
    (h : InNameOrder calls ordered) (h' : InNameOrder calls' ordered')
    (hcalls : ∀ method, ((calls.filter fun c => c.method == method).map fun c =>
        c.arguments.map symbols.fold?) =
      (calls'.filter fun c => c.method == method).map fun c => c.arguments.map symbols.fold?) :
    ordered.map (·.outline symbols) = ordered'.map (·.outline symbols) := by
  have hsorted {calls ordered : List ProfileCall} (h : InNameOrder calls ordered) :
      (ordered.map (·.outline symbols)).Pairwise fun a b => a.1 ≤ b.1 := List.pairwise_map.2 h.sorted
  have hclass {calls ordered : List ProfileCall} (h : InNameOrder calls ordered) (method : String) :
      (ordered.map (·.outline symbols)).filter (fun b => b.1 == method) =
        ((calls.filter fun c => c.method == method).map fun c => c.arguments.map symbols.fold?).map
          (Prod.mk method) := by
    rw [List.filter_map, ← h.stable, List.map_map]
    refine List.map_congr_left fun c hc => ?_
    rw [List.mem_filter] at hc
    exact congrArg (Prod.mk · _) (beq_iff_eq.1 hc.2)
  exact eq_of_pairwise_name (hsorted h) (hsorted h') fun method => by rw [hclass h, hclass h', hcalls]

/-! ## What counts of a call -/

/-- A rule looks at the method and at the values of the arguments only. -/
theorem ProfileCall.Sets.of_outline {symbols : SymbolTable} {d : Dialect} {c c' : ProfileCall} {ch : Change}
    (hc : c'.outline symbols = c.outline symbols) (h : c.Sets symbols d ch) : c'.Sets symbols d ch := by
  obtain ⟨method', arguments', l'⟩ := c'
  obtain ⟨hmethod, harguments⟩ := Prod.mk.inj hc
  cases h
  all_goals
    obtain rfl := hmethod
    simp only [List.map_cons, List.map_nil, List.map_eq_nil_iff, List.map_eq_cons_iff] at harguments
  case sizeMax | nullable | required | max | bare =>
    obtain rfl := harguments
    constructor <;> assumption
  case decimal =>
    obtain ⟨e, _, rfl, he, e', _, rfl, he', rfl⟩ := harguments
    constructor <;> first | assumption | rwa [he] | rwa [he']
  all_goals
    obtain ⟨e, _, rfl, he, rfl⟩ := harguments
    constructor <;> first | assumption | rwa [he]

/-- The settings depend on the methods and the values of the arguments only, up to where the property is
first configured. -/
theorem settingsOfCalls_of_outlines {symbols : SymbolTable} {d : Dialect} {calls calls' : List ProfileCall}
    (h : calls.map (·.outline symbols) = calls'.map (·.outline symbols)) {first first' : ColumnSettings}
    (hfirst : first.unplaced = first'.unplaced) :
    (settingsOfCalls symbols d first calls).unplaced =
      (settingsOfCalls symbols d first' calls').unplaced := by
  induction calls generalizing calls' first first' with
  | nil =>
    obtain rfl : calls' = [] := by simpa using h.symm
    exact hfirst
  | cons c calls ih =>
    obtain ⟨c', calls', rfl, hc, hrest⟩ := List.map_eq_cons_iff.1 h.symm
    simp only [settingsOfCalls, List.foldl_cons]
    cases hchange : c.change symbols d with
    | ok ch =>
      rw [ProfileCall.change_of_sets ((ProfileCall.sets_of_change hchange).of_outline hc)]
      refine ih hrest.symm ?_
      rw [Change.unplaced_apply, Change.unplaced_apply, hfirst]
    | error problems =>
      -- The other call is not accepted either, since the same rule would apply to this one.
      cases hchange' : c'.change symbols d with
      | ok ch =>
        have hsets := (ProfileCall.sets_of_change hchange').of_outline hc.symm
        rw [ProfileCall.change_of_sets hsets] at hchange
        cases hchange
      | error problems' => exact ih hrest.symm hfirst

/-! ## Complaints -/

section

variable {symbols : SymbolTable} {d : Dialect} {property : String} {c : ProfileCall}

/-- There is nothing to complain about just if the call is accepted. -/
theorem complaintsOfCalls_eq_nil_iff :
    complaintsOfCalls symbols d property [c] = [] ↔ ∃ ch, c.Sets symbols d ch := by
  rw [complaintsOfCalls, List.flatMap_cons, List.flatMap_nil, List.append_nil]
  cases h : c.change symbols d with
  | ok ch => exact iff_of_true rfl ⟨ch, ProfileCall.sets_of_change h⟩
  | error problems =>
    refine iff_of_false (by simpa using (ProfileCall.isRefused_of_change h).1) ?_
    rintro ⟨ch, hch⟩
    rw [ProfileCall.change_of_sets hch] at h
    cases h

/-- Complaints name the property and stand at the call. -/
theorem isAt_of_mem_complaintsOfCalls {complaint : Complaint}
    (h : complaint ∈ complaintsOfCalls symbols d property [c]) :
    complaint.property = some property ∧ c.IsAt complaint.location := by
  rw [complaintsOfCalls, List.flatMap_cons, List.flatMap_nil, List.append_nil] at h
  cases hc : c.change symbols d with
  | ok ch => simp [hc] at h
  | error problems =>
    rw [hc] at h
    obtain ⟨problem, hproblem, rfl⟩ := List.mem_map.1 h
    exact ⟨rfl, (ProfileCall.isRefused_of_change hc).2 problem hproblem⟩

end

/-! ## Settings of a profile -/

/-- There are no calls on a property that no chain names. -/
theorem callsOn_of_forall_ne {rules : List Rule} {property : String}
    (h : ∀ r ∈ rules, r.property ≠ property) : callsOn rules property = [] := by
  rw [callsOn, List.filter_eq_nil_iff.2 (by simpa using h), List.flatMap_nil, List.mergeSort_nil]

namespace Profile

variable (p : Profile) (m : Model) (symbols : SymbolTable)

/-- The chains of a profile that name a property, with the calls on it. -/
def rules : List Rule := p.chains.filterMap fun c => outcome? (c.rule? m)

/-- The calls on a property as the chains of all bodies present them. -/
def presented (property : String) : List ProfileCall :=
  ((p.rules m).filter (·.property == property)).flatMap (·.calls)

theorem inNameOrder_callsOn (property : String) :
    InNameOrder (p.presented m property) (callsOn (p.rules m) property) :=
  inNameOrder_mergeSort _

/-- The settings of a property are those that its calls lead to, in the order of their names. -/
theorem settingsOf_settings (property : String) : (p.settings m symbols).settingsOf property =
    settingsOfCalls symbols p.dialect
      { ColumnSettings.unset with
        location := ((p.rules m).find? (·.property == property)).map (·.location) }
      (callsOn (p.rules m) property) := by
  let settings (q : String) : ColumnSettings := settingsOfCalls symbols p.dialect
    { ColumnSettings.unset with location := ((p.rules m).find? (·.property == q)).map (·.location) }
    (callsOn (p.rules m) q)
  have hproperties : (p.settings m symbols).properties =
      (((p.rules m).map (·.property)).eraseDups.map fun q => (q, settings q)).mergeSort
        fun a b => (compare a.1 b.1).isLE := rfl
  have hmem (x : String × ColumnSettings) : x ∈ (p.settings m symbols).properties ↔
      (∃ r ∈ p.rules m, r.property = x.1) ∧ x.2 = settings x.1 := by
    rw [hproperties, List.mem_mergeSort, List.mem_map]
    simp only [List.mem_eraseDups, List.mem_map]
    constructor
    · rintro ⟨q, hq, rfl⟩
      exact ⟨hq, rfl⟩
    · rintro ⟨hq, hx⟩
      exact ⟨x.1, hq, Prod.ext rfl hx.symm⟩
  rw [ProfileSettings.settingsOf]
  cases hlookup : (p.settings m symbols).properties.lookup property with
  | some s => exact ((hmem _).1 (ProfileCall.mem_of_lookup_eq_some hlookup)).2
  | none =>
    -- No chain names the property, so that there are no calls on it.
    have hrules (r : Rule) (hr : r ∈ p.rules m) : r.property ≠ property := by
      intro hproperty
      have hx := (hmem (property, settings property)).2 ⟨⟨r, hr, hproperty⟩, rfl⟩
      exact absurd (List.lookup_eq_none_iff.1 hlookup _ hx) (by simp)
    rw [callsOn_of_forall_ne hrules, List.find?_eq_none.2 (by simpa using hrules)]
    rfl

/-- What is wrong with the calls on a property is shown, call by call. -/
theorem sublist_diagnostics (property : String) :
    ((complaintsOfCalls symbols p.dialect property (callsOn (p.rules m) property)).map
      (·.diagnostic m.name p.dialect)).Sublist (p.settings m symbols).diagnostics := by
  by_cases hproperty : property ∈ (p.rules m).map (·.property)
  · refine List.Sublist.map _ (List.Sublist.trans ?_ (List.sublist_append_right _ _))
    exact List.sublist_flatten_of_mem (List.mem_map_of_mem (List.mem_eraseDups.2 hproperty))
  · rw [callsOn_of_forall_ne (by simpa using hproperty)]
    exact List.nil_sublist _

/-- Profiles that present the calls of each name with the same values, one behind the other, lead to the
same settings. -/
theorem settings_of_presented {p' : Profile} (hdialect : p'.dialect = p.dialect) {property : String}
    (hcalls : ∀ method, (((p'.presented m property).filter fun c => c.method == method).map fun c =>
        c.arguments.map symbols.fold?) =
      ((p.presented m property).filter fun c => c.method == method).map fun c =>
        c.arguments.map symbols.fold?) :
    ((p'.settings m symbols).settingsOf property).unplaced =
      ((p.settings m symbols).settingsOf property).unplaced := by
  rw [settingsOf_settings, settingsOf_settings, hdialect]
  exact settingsOfCalls_of_outlines
    ((p'.inNameOrder_callsOn m property).outlines_eq (p.inNameOrder_callsOn m property) hcalls) rfl

/-- The calls on a property that the chains of a profile present, whatever chains these are, lead to its
settings. There is one order of the calls by their names in which those of one name stay as they were; each
setting is what the last accepted call in this order writes; every call that is not accepted, and no other,
is complained about; and a profile that presents the calls of each name with the same values, one behind the
other, leads to the same settings. -/
theorem settings_by_last_writer (property : String) :
    ∃ ordered, InNameOrder (p.presented m property) ordered ∧
      (∀ other, InNameOrder (p.presented m property) other → other = ordered) ∧
      (∀ c ch, ProfileCall.change c symbols p.dialect = .ok ch ↔ c.Sets symbols p.dialect ch) ∧
      LastWritten symbols p.dialect ordered ((p.settings m symbols).settingsOf property) ∧
      (∃ complaints : ProfileCall → List Diagnostic,
        (ordered.flatMap complaints).Sublist (p.settings m symbols).diagnostics ∧
        ∀ c, (complaints c = [] ↔ ∃ ch, c.Sets symbols p.dialect ch) ∧
          ∀ x ∈ complaints c, x.model = m.name ∧ x.property = some property ∧
            x.dialect = some p.dialect ∧ c.IsAt x.location) ∧
      ∀ p' : Profile, p'.dialect = p.dialect →
        (∀ method, (((p'.presented m property).filter fun c => c.method == method).map fun c =>
            c.arguments.map symbols.fold?) =
          ((p.presented m property).filter fun c => c.method == method).map fun c =>
            c.arguments.map symbols.fold?) →
        ((p'.settings m symbols).settingsOf property).unplaced =
          ((p.settings m symbols).settingsOf property).unplaced := by
  refine ⟨callsOn (p.rules m) property, p.inNameOrder_callsOn m property,
    fun other hother => hother.unique (p.inNameOrder_callsOn m property),
    fun c ch => ProfileCall.change_eq_ok_iff, ?_, ?_, fun p' hdialect hcalls => ?_⟩
  · rw [settingsOf_settings]
    exact lastWritten_settingsOfCalls ..
  · refine ⟨fun c => (complaintsOfCalls symbols p.dialect property [c]).map
      (·.diagnostic m.name p.dialect), ?_, fun c => ⟨?_, fun x hx => ?_⟩⟩
    · convert p.sublist_diagnostics m symbols property using 1
      simp [complaintsOfCalls, List.map_flatMap]
    · rw [List.map_eq_nil_iff, complaintsOfCalls_eq_nil_iff]
    · obtain ⟨complaint, hcomplaint, rfl⟩ := List.mem_map.1 hx
      obtain ⟨hproperty, hplace⟩ := isAt_of_mem_complaintsOfCalls hcomplaint
      exact ⟨rfl, hproperty, rfl, hplace⟩
  · exact p.settings_of_presented m symbols hdialect hcalls

/-- A profile that takes a chain apart, so that several chains present its calls, leads to the same
settings. -/
theorem settings_of_parts {p' : Profile} (hdialect : p'.dialect = p.dialect)
    {before after parts : List ProfileChain} {c : ProfileChain} (hchains : p.chains = before ++ c :: after)
    (hchains' : p'.chains = before ++ parts ++ after)
    (hparts : ∀ property, ((((parts.filterMap fun part => outcome? (part.rule? m)).filter
        (·.property == property)).flatMap (·.calls)).map (·.outline symbols)) =
      (((outcome? (c.rule? m)).toList.filter (·.property == property)).flatMap (·.calls)).map
        (·.outline symbols)) (property : String) :
    ((p'.settings m symbols).settingsOf property).unplaced =
      ((p.settings m symbols).settingsOf property).unplaced := by
  have hfilter (calls : List ProfileCall) (method : String) :
      ((calls.filter fun c => c.method == method).map fun c => c.arguments.map symbols.fold?) =
        ((calls.map (·.outline symbols)).filter fun o => o.1 == method).map Prod.snd := by
    rw [List.filter_map, List.map_map]
    rfl
  have hrules : p.rules m = (before.filterMap fun c => outcome? (c.rule? m)) ++
      ((outcome? (c.rule? m)).toList ++ after.filterMap fun c => outcome? (c.rule? m)) := by
    rw [rules, hchains, List.filterMap_append, List.filterMap_cons]
    cases outcome? (c.rule? m) <;> rfl
  have houtlines : (p'.presented m property).map (·.outline symbols) =
      (p.presented m property).map (·.outline symbols) := by
    rw [presented, presented, hrules, rules, hchains']
    simp only [List.filterMap_append, List.filter_append, List.flatMap_append, List.map_append, hparts,
      List.append_assoc]
  exact p.settings_of_presented m symbols hdialect fun method => by rw [hfilter, hfilter, houtlines]

end Profile

end Tablewright
