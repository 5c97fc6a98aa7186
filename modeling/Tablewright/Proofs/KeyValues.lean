import Tablewright.Proofs.Records

/-!
# Values of keys

Two rows whose keys equal that of a third one have the same key. This holds for all kinds of values
although a value need not equal itself: a number that is none equals nothing at all.

## Key results

- `Value.sameKey_of_sameKey`, `Table.sameKey_of_sameKey`: equality to a third one is equality
-/

namespace Tablewright

theorem FloatValue.equals_of_equals {a b c : FloatValue} (hab : a.equals b = true)
    (hac : a.equals c = true) : b.equals c = true := by
  cases a with
  | nan => exact absurd hab Bool.false_ne_true
  | infinity x =>
    cases b with
    | infinity y =>
      cases c with
      | infinity z =>
        rw [equals, beq_iff_eq] at hab hac ⊢
        rw [← hab, hac]
      | nan => exact absurd hac Bool.false_ne_true
      | finite z m p => exact absurd hac Bool.false_ne_true
    | nan => exact absurd hab Bool.false_ne_true
    | finite y m p => exact absurd hab Bool.false_ne_true
  | finite x m p =>
    cases b with
    | finite y n q =>
      cases c with
      | finite z k r =>
        simp only [equals, Bool.or_eq_true, Bool.and_eq_true, beq_iff_eq] at hab hac ⊢
        -- Two zeros are equal whatever their signs; other numbers agree in all their parts.
        rcases hab with ⟨hm, hn⟩ | ⟨⟨rfl, rfl⟩, rfl⟩
        · rcases hac with ⟨-, hk⟩ | ⟨⟨-, rfl⟩, -⟩
          · exact .inl ⟨hn, hk⟩
          · exact .inl ⟨hn, hm⟩
        · exact hac
      | nan => exact absurd hac Bool.false_ne_true
      | infinity z => exact absurd hac Bool.false_ne_true
    | nan => exact absurd hab Bool.false_ne_true
    | infinity y => exact absurd hab Bool.false_ne_true

theorem Decimal.equals_of_equals {a b c : Decimal} (hab : a.equals b = true)
    (hac : a.equals c = true) : b.equals c = true := by
  rw [equals, Bool.and_eq_true, beq_iff_eq, beq_iff_eq] at hab hac ⊢
  obtain ⟨hab, hsign⟩ := hab
  obtain ⟨hac, hsign'⟩ := hac
  refine ⟨?_, hsign.symm.trans hsign'⟩
  refine Nat.eq_of_mul_eq_mul_right (tenTo_pos a.places) ?_
  calc b.coefficient * tenTo c.places * tenTo a.places
      = b.coefficient * tenTo a.places * tenTo c.places := Nat.mul_right_comm _ _ _
    _ = a.coefficient * tenTo b.places * tenTo c.places := by rw [hab]
    _ = a.coefficient * tenTo c.places * tenTo b.places := Nat.mul_right_comm _ _ _
    _ = c.coefficient * tenTo a.places * tenTo b.places := by rw [hac]
    _ = c.coefficient * tenTo b.places * tenTo a.places := Nat.mul_right_comm _ _ _

namespace Value

theorem equals_of_equals {a b c : Value} (hab : a.equals b = true) (hac : a.equals c = true) :
    b.equals c = true := by
  -- Only numbers with a point have an equality of their own; all other values are equal when same.
  cases a
  case float32 x =>
    cases b
    case float32 y =>
      cases c
      case float32 z => exact FloatValue.equals_of_equals hab hac
      all_goals exact absurd (eq_of_beq hac) (by simp)
    all_goals exact absurd (eq_of_beq hab) (by simp)
  case float64 x =>
    cases b
    case float64 y =>
      cases c
      case float64 z => exact FloatValue.equals_of_equals hab hac
      all_goals exact absurd (eq_of_beq hac) (by simp)
    all_goals exact absurd (eq_of_beq hab) (by simp)
  case decimal x =>
    cases b
    case decimal y =>
      cases c
      case decimal z => exact Decimal.equals_of_equals hab hac
      all_goals exact absurd (eq_of_beq hac) (by simp)
    all_goals exact absurd (eq_of_beq hab) (by simp)
  all_goals
    obtain rfl := eq_of_beq hab
    obtain rfl := eq_of_beq hac
    exact hab

/-- A value of an integer kind equals the values of the same kind only. -/
theorem toInt?_of_equals {a b : Value} (h : a.equals b = true) : a.toInt?.isSome = b.toInt?.isSome := by
  cases a
  case float32 x => cases b <;> first | rfl | exact absurd (eq_of_beq h) (by simp)
  case float64 x => cases b <;> first | rfl | exact absurd (eq_of_beq h) (by simp)
  case decimal x => cases b <;> first | rfl | exact absurd (eq_of_beq h) (by simp)
  all_goals
    obtain rfl := eq_of_beq h
    rfl

/-- A key that equals two others makes them equal. -/
theorem sameKey_of_sameKey {a b c : Value} (hab : a.sameKey b = true) (hac : a.sameKey c = true) :
    b.sameKey c = true := by
  rw [sameKey] at hab hac ⊢
  cases ha : a.toInt? with
  | none =>
    simp only [ha] at hab hac
    have hb := toInt?_of_equals hab
    rw [ha, Option.isSome_none, Eq.comm, Option.isSome_eq_false_iff, Option.isNone_iff_eq_none] at hb
    rw [hb]
    exact equals_of_equals hab hac
  | some m =>
    -- Numbers of different widths are compared as numbers, so that both sides are the same one.
    have hint {x : Value} (h : a.sameKey x = true) : x.toInt? = some m := by
      rw [sameKey, ha] at h
      cases hx : x.toInt? with
      | some n =>
        simp only [hx, beq_iff_eq] at h
        rw [h]
      | none =>
        simp only [hx] at h
        have hsome := toInt?_of_equals h
        rw [ha, hx] at hsome
        exact absurd hsome (by simp)
    rw [hint hab, hint hac]
    exact beq_self_eq_true m

end Value

namespace Table

variable {t : Table}

/-- Rows with the key of a third one have the same key. -/
theorem sameKey_of_sameKey {row a b : List Value} (ha : t.sameKey row a = true)
    (hb : t.sameKey row b = true) : t.sameKey a b = true := by
  rw [sameKey, List.all_eq_true] at ha hb ⊢
  exact fun c hc => Value.sameKey_of_sameKey (ha c hc) (hb c hc)

end Table

end Tablewright
