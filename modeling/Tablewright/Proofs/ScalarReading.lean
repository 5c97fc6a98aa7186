import Tablewright.Proofs.KeyedRecords
import Tablewright.Row

/-!
# Scalars read back

Writing widens an integer to a kind that holds all numbers of its type, and reading takes integers of
any kind, so what is read is a number of the type only after its range was checked. Here reading an
integer is exact, in range or not at all, and what was written comes back: from the value itself, with
`optional` in front, and from a row under the name of its column.

## Key results

- `read_int_iff`: the values that are read as a number of an integer type
- `read_write`, `read_write_optional`: what was written is read
- `position?_eq_some_iff`, `read_eq_read_value`: the column that a name stands for, and its data
-/

namespace Tablewright

/-! ## Integers -/

/-- A value counts as a number: an integer of any kind as itself, the truth values as 0 and 1. -/
inductive Value.Counts : Value → Int → Prop where
  | int16 (n : Int16) : Counts (.int16 n) n.toInt
  | int32 (n : Int32) : Counts (.int32 n) n.toInt
  | int64 (n : Int64) : Counts (.int64 n) n.toInt
  | no : Counts (.bool false) 0
  | yes : Counts (.bool true) 1

namespace IntType

theorem ofInt?_eq_some_iff {t : IntType} {n : Int} {x : t.Range} : t.ofInt? n = some x ↔ x.1 = n := by
  rw [ofInt?]
  constructor
  · intro h
    split at h
    · exact (congrArg Subtype.val (Option.some.inj h)).symm
    · cases h
  · rintro rfl
    rw [dif_pos x.2]
    rfl

end IntType

namespace Scalar

variable {t : IntType} {v : Value} {n : Int} {s : Scalar}

theorem readInt_eq_ok_iff {x : t.Range} : readInt t n = .ok x ↔ x.1 = n := by
  rw [readInt, ← IntType.ofInt?_eq_some_iff]
  cases t.ofInt? n <;> simp

/-- A value that counts as a number is read as that number or not at all. -/
theorem read_int_eq_ok_iff (h : v.Counts n) {x : t.Range} : (int t).read v = .ok x ↔ x.1 = n := by
  cases h <;> exact readInt_eq_ok_iff

theorem exists_counts_of_read {x : t.Range} (h : (int t).read v = .ok x) : ∃ n, v.Counts n := by
  cases v with
  | bool b => cases b <;> exact ⟨_, by constructor⟩
  | int16 n | int32 n | int64 n => exact ⟨_, by constructor⟩
  | _ => cases h

/-- Reading an integer neither wraps nor truncates. -/
theorem read_int_iff : (∃ x : t.Range, (int t).read v = .ok x ∧ x.1 = n) ↔
    v.Counts n ∧ t.low ≤ n ∧ n ≤ t.high := by
  constructor
  · rintro ⟨x, hread, rfl⟩
    obtain ⟨m, hm⟩ := exists_counts_of_read hread
    have hx : x.1 = m := (read_int_eq_ok_iff hm).1 hread
    exact ⟨hx ▸ hm, x.2⟩
  · rintro ⟨hcounts, hrange⟩
    exact ⟨⟨n, hrange⟩, (read_int_eq_ok_iff hcounts).2 rfl, rfl⟩

/-! ## What was written -/

/-- The types of one datum whose data can be written and read. No kind of value holds all numbers of the
greatest integer type. -/
def IsWritten : Scalar → Prop
  | int .u64 | optional _ => False
  | _ => True

/-- The kind that a number is written in holds it. -/
theorem counts_toValue (ht : t ≠ .u64) (x : t.Range) : (t.toValue x.1).Counts x.1 := by
  obtain ⟨n, hlow, hhigh⟩ := x
  have bounds : t.low = (if t.signed then -(2 ^ (t.width - 1) : Int) else 0) ∧
      t.high = if t.signed then 2 ^ (t.width - 1) - 1 else 2 ^ t.width - 1 := by
    cases t <;> decide
  rw [bounds.1] at hlow
  rw [bounds.2] at hhigh
  have h16 (h : -2 ^ 15 ≤ n ∧ n < 2 ^ 15) : (Value.int16 (Int16.ofInt n)).Counts n := by
    simpa only [Int16.toInt_ofInt_of_le h.1 h.2] using Value.Counts.int16 (Int16.ofInt n)
  have h32 (h : -2 ^ 31 ≤ n ∧ n < 2 ^ 31) : (Value.int32 (Int32.ofInt n)).Counts n := by
    simpa only [Int32.toInt_ofInt_of_le h.1 h.2] using Value.Counts.int32 (Int32.ofInt n)
  have h64 (h : -2 ^ 63 ≤ n ∧ n < 2 ^ 63) : (Value.int64 (Int64.ofInt n)).Counts n := by
    simpa only [Int64.toInt_ofInt_of_le h.1 h.2] using Value.Counts.int64 (Int64.ofInt n)
  cases t with
  | i8 | u8 | i16 => exact h16 (by simp [IntType.signed, IntType.width] at hlow hhigh; omega)
  | u16 | i32 => exact h32 (by simp [IntType.signed, IntType.width] at hlow hhigh; omega)
  | u32 | i64 => exact h64 (by simp [IntType.signed, IntType.width] at hlow hhigh; omega)
  | u64 => exact absurd rfl ht

theorem read_write (hs : s.IsWritten) (x : s.Data) : s.read (s.write x) = .ok x := by
  cases s with
  | int t =>
    have ht : t ≠ .u64 := by
      rintro rfl
      exact hs
    exact (read_int_eq_ok_iff (counts_toValue ht x)).2 rfl
  | optional s => exact hs.elim
  | _ => rfl

theorem write_ne_null (hs : s.IsWritten) (x : s.Data) : s.write x ≠ .null := by
  cases s with
  | int t => cases t <;> exact Value.noConfusion
  | optional s => exact hs.elim
  | _ => exact Value.noConfusion

theorem read_optional (hv : v ≠ .null) : (optional s).read v = (s.read v).map some := by
  cases v with
  | null => exact absurd rfl hv
  | _ => rfl

/-- No datum is taken for an absent one, and an absent one comes back as such. -/
theorem read_write_optional (hs : s.IsWritten) (o : Option s.Data) :
    (optional s).read ((optional s).write o) = .ok o := by
  cases o with
  | none => rfl
  | some x =>
    show (optional s).read (s.write x) = .ok (some x)
    rw [read_optional (write_ne_null hs x), read_write hs x]
    rfl

end Scalar

/-! ## Columns of a row -/

namespace Row

variable {r : Row} {name : String} {i : Nat} {s : Scalar}

/-- A column goes by a name: its own is the same up to the case of ASCII letters, and no column before
it has that name as well. -/
def Names (r : Row) (name : String) (i : Nat) : Prop :=
  ∃ c, r.columns[i]? = some c ∧ Text.eqIgnoreAsciiCase c name = true ∧
    ∀ j < i, ∀ d, r.columns[j]? = some d → Text.eqIgnoreAsciiCase d c = false

theorem position?_eq_some_iff : r.position? name = some i ↔ r.Names name i := by
  -- A name that is the same as one of a column is so for all columns.
  have hsame {c d : String} (hc : Text.eqIgnoreAsciiCase c name = true) :
      Text.eqIgnoreAsciiCase d name = Text.eqIgnoreAsciiCase d c := by
    rw [Bool.eq_iff_iff, Text.eqIgnoreAsciiCase_iff, Text.eqIgnoreAsciiCase_iff,
      Text.eqIgnoreAsciiCase_iff.1 hc]
  rw [position?, Names, List.findIdx?_eq_some_iff_getElem]
  constructor
  · rintro ⟨hlt, hname, hfirst⟩
    refine ⟨_, List.getElem?_eq_getElem hlt, hname, fun j hj d hd => ?_⟩
    obtain ⟨hjlt, rfl⟩ := List.getElem?_eq_some_iff.1 hd
    rw [← hsame hname]
    exact Bool.not_eq_true _ ▸ hfirst j hj
  · rintro ⟨_, hc, hname, hfirst⟩
    obtain ⟨hlt, rfl⟩ := List.getElem?_eq_some_iff.1 hc
    refine ⟨hlt, hname, fun j hj => ?_⟩
    rw [hsame hname, hfirst j hj _ (List.getElem?_eq_getElem (Nat.lt_trans hj hlt))]
    exact Bool.false_ne_true

/-- Through a row, the value of a column is read as it is by itself. -/
theorem read_eq_read_value {v : Value} {x : s.Data} (hname : r.Names name i)
    (hvalue : r.values[i]? = some v) (hread : s.read v = .ok x) : r.read s name = .ok x := by
  simp only [read, position?_eq_some_iff.2 hname, readAt, hvalue, hread]
  rfl

end Row

/-! ## Exact reading -/

/-- Reading is exact. An integer type takes the values that count as a number in its range, as that
number. Each type that can be written takes back all of its data, optional or not, also out of a row
under any name that the column goes by. -/
theorem reading_exact :
    (∀ (t : IntType) (v : Value) (n : Int), (∃ x : t.Range, (Scalar.int t).read v = .ok x ∧ x.1 = n) ↔
      v.Counts n ∧ t.low ≤ n ∧ n ≤ t.high) ∧
    ∀ s : Scalar, s.IsWritten →
      (∀ x, s.read (s.write x) = .ok x) ∧
      (∀ o, s.optional.read (s.optional.write o) = .ok o) ∧
      ∀ (r : Row) (name : String) (i : Nat), r.Names name i →
        (∀ x, r.values[i]? = some (s.write x) → r.read s name = .ok x) ∧
        ∀ o, r.values[i]? = some (s.optional.write o) → r.read s.optional name = .ok o := by
  refine ⟨fun _ _ _ => Scalar.read_int_iff, fun s hs => ⟨Scalar.read_write hs,
    Scalar.read_write_optional hs, fun r name i hname => ⟨fun x hx => ?_, fun o ho => ?_⟩⟩⟩
  · exact Row.read_eq_read_value hname hx (Scalar.read_write hs x)
  · exact Row.read_eq_read_value hname ho (Scalar.read_write_optional hs o)

/-- A row whose second column is read as an optional number under a name in other letters. -/
theorem reading_exact_amount :
    let r : Row := ⟨["Id", "AMOUNT", "amount"], [.int32 4, .int32 65535, .null]⟩
    (Scalar.int .u16).IsWritten ∧ r.Names "Amount" 1 ∧
    r.values[1]? = some ((Scalar.int .u16).optional.write (some ⟨65535, by decide⟩)) ∧
    r.read (Scalar.int .u16).optional "Amount" = .ok (some ⟨65535, by decide⟩) := by
  intro r
  have hname : r.Names "Amount" 1 := Row.position?_eq_some_iff.1 (by decide)
  exact ⟨trivial, hname, rfl,
    (((reading_exact.2 (.int .u16) trivial).2.2 r "Amount" 1 hname).2 _ rfl)⟩

end Tablewright
