import Mathlib.Data.List.TakeWhile
import Tablewright.Postgres.Copy

/-!
# The fields of a bulk load

Every value but a null and a text is written without quotes. Such a field is not empty, and it has none
of the characters by which fields and rows are told apart: numbers, dates and identifiers are made of
digits, letters and a few marks.

## Key results

- `isBare_floatField`: a binary number is bare, its shortest digits being those of a positive number
- `isBare_copyField`: every value but a null and a text is bare
-/

namespace Tablewright

/-- Whether a character stands for itself in a field without quotes. -/
def isFieldChar (c : Char) : Bool :=
  c != ',' && c != '"' && c != '\n' && c != '\r'

/-- A text that is a field as it stands: not empty, and without a comma, a quote or the end of a line. -/
def IsBare (s : List Char) : Prop :=
  s ≠ [] ∧ s.all isFieldChar = true

instance (s : List Char) : Decidable (IsBare s) :=
  inferInstanceAs (Decidable (s ≠ [] ∧ s.all isFieldChar = true))

variable {s t : List Char}

theorem isBare_append (hs : IsBare s) (ht : t.all isFieldChar = true) : IsBare (s ++ t) :=
  ⟨List.append_ne_nil_of_left_ne_nil hs.1 t, by rw [List.all_append, hs.2, ht, Bool.and_self]⟩

theorem isBare_cons {c : Char} (hc : isFieldChar c = true) (hs : s.all isFieldChar = true) :
    IsBare (c :: s) :=
  ⟨List.cons_ne_nil c s, by rw [List.all_cons, hc, hs, Bool.and_self]⟩

theorem all_replicate {c : Char} (hc : isFieldChar c = true) (n : Nat) :
    (List.replicate n c).all isFieldChar = true := by
  rw [List.all_replicate]
  simp [hc]

theorem all_take (h : s.all isFieldChar = true) (n : Nat) : (s.take n).all isFieldChar = true :=
  List.all_eq_true.2 fun c hc => List.all_eq_true.1 h c (List.mem_of_mem_take hc)

theorem all_drop (h : s.all isFieldChar = true) (n : Nat) : (s.drop n).all isFieldChar = true :=
  List.all_eq_true.2 fun c hc => List.all_eq_true.1 h c (List.mem_of_mem_drop hc)

/-! ## Numerals -/

theorem isFieldChar_digitChar : ∀ d < 16, isFieldChar (Text.digitChar d) = true := by decide

theorem isBare_digits (n : Nat) : IsBare (Text.digits n) := by
  refine ⟨Text.digits_ne_nil n, ?_⟩
  fun_induction Text.digits n with
  | case1 n h => simp [isFieldChar_digitChar n (by omega)]
  | case2 n h ih => simp [ih, isFieldChar_digitChar (n % 10) (by omega)]

theorem isBare_numeral (n : Nat) : IsBare (Text.numeral n).toList := by
  rw [Text.numeral, String.toList_ofList]
  exact isBare_digits n

theorem isBare_signedNumeral (n : Int) : IsBare (Text.signedNumeral n).toList := by
  unfold Text.signedNumeral
  split
  · rw [String.toList_append]
    exact isBare_cons (by decide) (isBare_numeral _).2
  · exact isBare_numeral _

theorem isBare_padded (width n : Nat) : IsBare (Text.padded width n).toList := by
  rw [Text.padded, String.toList_ofList]
  refine ⟨List.append_ne_nil_of_right_ne_nil _ (Text.digits_ne_nil n), ?_⟩
  rw [List.all_append, all_replicate (by decide), (isBare_digits n).2, Bool.and_self]

theorem all_hexDigits (width n : Nat) : (Text.hexDigits width n).all isFieldChar = true := by
  induction width generalizing n with
  | zero => rfl
  | succ width ih => simp [Text.hexDigits, ih, isFieldChar_digitChar (n % 16) (by omega)]

/-! ## Values with several parts -/

/-- Digits with a point among them, and one digit or more in front or behind. -/
theorem isBare_point (h : s.all isFieldChar = true) (place : Nat) :
    IsBare (s.take place ++ '.' :: s.drop place) := by
  refine ⟨by simp, ?_⟩
  rw [List.all_append, all_take h, List.all_cons, all_drop h]
  decide

theorem isBare_decimal (d : Decimal) : IsBare d.text.toList := by
  have hwhole : IsBare (List.replicate (d.places + 1 - (Text.digits d.coefficient).length) '0' ++
      Text.digits d.coefficient) := by
    refine ⟨List.append_ne_nil_of_right_ne_nil _ (Text.digits_ne_nil _), ?_⟩
    rw [List.all_append, all_replicate (by decide), (isBare_digits _).2, Bool.and_self]
  rw [Decimal.text, String.toList_ofList]
  generalize List.replicate (d.places + 1 - (Text.digits d.coefficient).length) '0' ++
    Text.digits d.coefficient = whole at hwhole ⊢
  -- With a point or without, the digits are those of the whole number.
  have hbody : IsBare (if d.places = 0 then whole
      else whole.take (whole.length - d.places) ++ '.' :: whole.drop (whole.length - d.places)) := by
    split
    · exact hwhole
    · exact isBare_point hwhole.2 _
  split
  · exact isBare_cons (by decide) hbody.2
  · exact hbody

theorem isBare_uuid (u : Uuid) : IsBare u.text.toList := by
  have hgroup (start length : Nat) :
      (((Text.hexDigits 32 u.bits.toNat).drop start).take length).all isFieldChar = true :=
    all_take (all_drop (all_hexDigits 32 _) start) length
  rw [Uuid.text, String.toList_ofList]
  refine ⟨by simp, ?_⟩
  simp only [List.all_append, List.all_cons, hgroup]
  decide

theorem isBare_date (d : Date) : IsBare d.text.toList := by
  have hyear : IsBare (Date.yearText d.year).toList := by
    unfold Date.yearText
    split
    · exact isBare_padded 4 _
    · rw [String.toList_append]
      split
      · exact isBare_cons (by decide) (isBare_padded 4 _).2
      · exact isBare_cons (by decide) (isBare_padded 4 _).2
  rw [Date.text]
  simp only [String.toList_append, List.append_assoc]
  refine isBare_append hyear ?_
  rw [List.all_append, List.all_append, List.all_append, (isBare_padded 2 _).2, (isBare_padded 2 _).2]
  decide

theorem all_fractionText (nanosecond : Nat) :
    (TimeOfDay.fractionText nanosecond).toList.all isFieldChar = true := by
  have hplaces (width n : Nat) : ("." ++ Text.padded width n).toList.all isFieldChar = true := by
    rw [String.toList_append]
    exact (isBare_cons (by decide) (isBare_padded width n).2).2
  unfold TimeOfDay.fractionText
  repeat' split
  · rfl
  all_goals exact hplaces _ _

theorem isBare_time (t : TimeOfDay) : IsBare t.text.toList := by
  rw [TimeOfDay.text]
  simp only [String.toList_append, List.append_assoc]
  refine isBare_append (isBare_padded 2 _) ?_
  simp only [List.all_append, (isBare_padded 2 _).2, all_fractionText]
  decide

theorem isBare_dateTime {between : String} (hbetween : between.toList.all isFieldChar = true)
    (d : DateTime) : IsBare (d.textWith between).toList := by
  rw [DateTime.textWith]
  simp only [String.toList_append, List.append_assoc]
  refine isBare_append (isBare_date d.date) ?_
  rw [List.all_append, hbetween, (isBare_time d.time).2, Bool.and_self]

/-! ## Binary numbers -/

theorem digitChar_ne_zero : ∀ d < 10, d ≠ 0 → Text.digitChar d ≠ '0' := by decide

/-- A positive number has a digit that is not zero. -/
theorem exists_digit_ne_zero {n : Nat} (h : n ≠ 0) : ∃ c ∈ Text.digits n, c ≠ '0' := by
  fun_induction Text.digits n with
  | case1 n hlt => exact ⟨_, List.mem_singleton_self _, digitChar_ne_zero n hlt h⟩
  | case2 n hge ih =>
    obtain ⟨c, hc, hne⟩ := ih (by omega)
    exact ⟨c, List.mem_append_left _ hc, hne⟩

theorem isBare_positional {d : DecimalDigits} (h : d.coefficient ≠ 0) :
    IsBare d.positional.toList := by
  -- The digits without the zeros at their end, of which at least one is left.
  have hne : ((Text.digits d.coefficient).reverse.dropWhile (· == '0')).reverse ≠ [] := by
    obtain ⟨c, hc, hzero⟩ := exists_digit_ne_zero h
    rw [Ne, List.reverse_eq_nil_iff, List.dropWhile_eq_nil_iff]
    intro hzeros
    exact hzero (by simpa using hzeros c (List.mem_reverse.2 hc))
  have hall : ((Text.digits d.coefficient).reverse.dropWhile (· == '0')).reverse.all isFieldChar =
      true := by
    refine List.all_eq_true.2 fun c hc => List.all_eq_true.1 (isBare_digits d.coefficient).2 c ?_
    exact List.mem_reverse.1 (List.dropWhile_subset _ (List.mem_reverse.1 hc))
  rw [DecimalDigits.positional]
  dsimp only
  generalize ((Text.digits d.coefficient).reverse.dropWhile (· == '0')).reverse = text at hne hall ⊢
  split
  · rw [String.toList_ofList]
    exact isBare_append ⟨hne, hall⟩ (all_replicate (by decide) _)
  · split
    · rw [String.toList_ofList]
      exact isBare_point hall _
    · rw [String.toList_ofList]
      refine isBare_append (isBare_cons (by decide) ?_) hall
      exact (isBare_cons (by decide) (all_replicate (by decide) _)).2

namespace Shortest

theorem fst_scale_pos {n d : Nat} (h : 0 < n) (shift : Int) :
    0 < (BinaryFormat.scale n d shift).1 := by
  cases shift with
  | ofNat k => exact Nat.mul_pos h (twoTo_pos k)
  | negSucc k => exact h

theorem fst_unscale_pos {n d : Nat} (h : 0 < n) (exponent : Int) : 0 < (unscale n d exponent).1 := by
  cases exponent with
  | ofNat k => exact h
  | negSucc k => exact Nat.mul_pos h (tenTo_pos (k + 1))

/-- Zero does not read back as a positive number. -/
theorem holds_zero {h : Neighbourhood} (hlow : 0 < h.low) (exponent : Int) :
    h.holds 0 exponent = false := by
  have hpos := fst_unscale_pos (d := (BinaryFormat.scale h.low 1 h.exponent).2)
    (fst_scale_pos (d := 1) hlow h.exponent) exponent
  unfold Neighbourhood.holds
  dsimp only
  rw [Nat.zero_mul, Nat.zero_mul]
  cases h.closed with
  | true => simp [Nat.ne_of_gt hpos]
  | false => simp

theorem onGrid?_ne_zero {h : Neighbourhood} (hlow : 0 < h.low) {exponent : Int} {n : Nat}
    (hn : h.onGrid? exponent = some n) : n ≠ 0 := by
  -- What is taken reads back, or it is the successor of a number.
  have hread : h.holds n exponent = true ∨ ∃ m, n = m + 1 := by
    unfold Neighbourhood.onGrid? at hn
    dsimp only at hn
    split at hn
    case h_1 hbelow _ =>
      rw [Option.some.injEq] at hn
      split at hn
      · exact .inl (hn ▸ hbelow)
      · exact .inr ⟨_, hn.symm⟩
    case h_2 hbelow _ => exact .inl (Option.some.inj hn ▸ hbelow)
    case h_3 => exact .inr ⟨_, (Option.some.inj hn).symm⟩
    case h_4 => exact absurd hn (Option.some_ne_none n).symm
  rintro rfl
  rcases hread with hread | ⟨m, hm⟩
  · rw [holds_zero hlow] at hread
    exact Bool.false_ne_true hread
  · exact Nat.succ_ne_zero m hm.symm

theorem coefficient_search_ne_zero {h : Neighbourhood} (hlow : 0 < h.low) (hcenter : 0 < h.center)
    (fuel : Nat) (order : Int) : (h.search order fuel).coefficient ≠ 0 := by
  induction fuel generalizing order with
  | zero => exact Nat.ne_of_gt hcenter
  | succ fuel ih =>
    rw [Neighbourhood.search]
    cases hn : h.onGrid? order with
    | none => exact ih (order - 1)
    | some n => exact onGrid?_ne_zero hlow hn

/-- The shortest digits of a positive number are those of a positive number. -/
theorem coefficient_digits_ne_zero (f : BinaryFormat) {significand : Nat} (h : significand ≠ 0)
    (exponent : Int) : (digits f significand exponent).coefficient ≠ 0 := by
  refine coefficient_search_ne_zero ?_ ?_ 18 _
  · dsimp only [neighbourhood]
    split <;> omega
  · dsimp only [neighbourhood]
    omega

end Shortest

theorem isBare_floatText (f : BinaryFormat) (x : FloatValue) : IsBare (x.text f).toList := by
  cases x with
  | nan => exact (by decide : IsBare "NaN".toList)
  | infinity negative =>
    cases negative with
    | true => exact (by decide : IsBare "-inf".toList)
    | false => exact (by decide : IsBare "inf".toList)
  | finite negative significand exponent =>
    have hbody : IsBare (if significand = 0 then "0"
        else (Shortest.digits f significand exponent).positional).toList := by
      split
      · decide
      · rename_i h
        exact isBare_positional (Shortest.coefficient_digits_ne_zero f h exponent)
    rw [FloatValue.text]
    split
    · rw [String.toList_append]
      exact isBare_cons (by decide) hbody.2
    · exact hbody

namespace Postgres

theorem isBare_floatField (x : Double) : IsBare (floatField x).toList := by
  unfold floatField
  split
  · decide
  · decide
  · decide
  · exact isBare_floatText .double x.value

/-- Every value but a null and a text is written as a bare field. -/
theorem isBare_copyField {v : Value} (hnull : v ≠ .null) (htext : ∀ s, v ≠ .text s) :
    IsBare (copyField v).toList := by
  cases v with
  | null => exact absurd rfl hnull
  | text s => exact absurd rfl (htext s)
  | bool b => cases b <;> decide
  | int16 n => exact isBare_signedNumeral n.toInt
  | int32 n => exact isBare_signedNumeral n.toInt
  | int64 n => exact isBare_signedNumeral n.toInt
  | float32 x => exact isBare_floatField x.toDouble
  | float64 x => exact isBare_floatField x
  | decimal d => exact isBare_decimal d
  | uuid u => exact isBare_uuid u
  | date d => exact isBare_date d
  | time t => exact isBare_time t
  | dateTime d => exact isBare_dateTime (by decide) d
  | bytes b =>
    rw [copyField, String.toList_ofList]
    refine isBare_cons (by decide) (isBare_cons (by decide) ?_).2
    rw [Text.hexOfBytes, List.all_flatMap]
    exact List.all_eq_true.2 fun byte _ => all_hexDigits 2 byte.toNat
  | dateTimeUtc d =>
    have hdate : IsBare (d.textWith "T").toList := isBare_dateTime (by decide) d
    show IsBare (d.textWith "T" ++ "+00:00").toList
    rw [String.toList_append]
    exact isBare_append hdate (by decide)

end Postgres

end Tablewright
