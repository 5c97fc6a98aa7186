import Tablewright.Proofs.Cutting
import Tablewright.Sql.Fragment
import Tablewright.Sql.QuotedName

/-!
# Plain names

A plain name consists of ASCII letters, digits and underscores; the name of a staging table may have a
number sign too. The quoted form of such a name holds nothing of the keywords and the punctuation
between which a statement is cut, so that composed statements are cut between their names and never
inside them.

## Key results

- `toList_quote`: the name stands in its quotes as it is
- `clear_word_quote`: words and a quoted name behind them are clear of a separator that the words
  lack
-/

namespace Tablewright

/-- Whether a name consists of ASCII letters, digits and underscores. -/
def isPlainName (name : String) : Bool :=
  name.toList.all Text.isAsciiWord

/-- A plain name has no white space in it. -/
theorem isBlank_of_isAsciiWord {c : Char} (h : Text.isAsciiWord c = true) :
    Text.isBlank c = false := by
  have hranges : (decide (65 ≤ c.val ∧ c.val ≤ 90) ||
      (decide (97 ≤ c.val) && decide (c.val ≤ 122)) ||
      (decide (48 ≤ c.val) && decide (c.val ≤ 57)) || c == '_') = true := h
  simp only [Bool.or_eq_true, Bool.and_eq_true, decide_eq_true_eq, UInt32.le_iff_toNat_le,
    beq_iff_eq] at hranges
  have hrange : 48 ≤ c.toNat ∧ c.toNat ≤ 122 := by
    rcases hranges with ((h | h) | h) | rfl
    · exact ⟨Nat.le_trans (by decide : 48 ≤ 65) h.1, Nat.le_trans h.2 (by decide : 90 ≤ 122)⟩
    · exact ⟨Nat.le_trans (by decide : 48 ≤ 97) h.1, Nat.le_trans h.2 (by decide : 122 ≤ 122)⟩
    · exact ⟨Nat.le_trans (by decide : 48 ≤ 48) h.1, Nat.le_trans h.2 (by decide : 57 ≤ 122)⟩
    · decide
  obtain ⟨hlow, hhigh⟩ := hrange
  simp only [Text.isBlank, Bool.or_eq_false_iff, Bool.and_eq_false_iff, decide_eq_false_iff_not,
    beq_eq_false_iff_ne]
  omega

theorem isAsciiWord_digitChar : ∀ d < 10, Text.isAsciiWord (Text.digitChar d) = true := by decide

/-- The numeral of a number is a plain name. -/
theorem isPlainName_numeral (n : Nat) : isPlainName (Text.numeral n) = true := by
  rw [isPlainName, Text.numeral, String.toList_ofList]
  fun_induction Text.digits n with
  | case1 n h => rw [List.all_cons, isAsciiWord_digitChar n h, List.all_nil, Bool.and_self]
  | case2 n h ih =>
    rw [List.all_append, ih, List.all_cons, isAsciiWord_digitChar _ (by omega), List.all_nil,
      Bool.and_self, Bool.and_self]

theorem isPlainName_append {a b : String} (ha : isPlainName a = true) (hb : isPlainName b = true) :
    isPlainName (a ++ b) = true := by
  rw [isPlainName] at ha hb ⊢
  rw [String.toList_append, List.all_append, ha, hb, Bool.and_self]

namespace Sql

/-- Whether a character may stand in the name of a plain table or of its staging table. -/
def isNameChar (c : Char) : Bool :=
  Text.isAsciiWord c || c == '#'

/-- Whether a name consists of such characters. -/
def isSimpleName (name : String) : Bool :=
  name.toList.all isNameChar

variable {d : Dialect} {name : String} {sep w : List Char}

theorem isSimpleName_of_isPlainName (h : isPlainName name = true) : isSimpleName name = true := by
  rw [isPlainName, List.all_eq_true] at h
  rw [isSimpleName, List.all_eq_true]
  intro c hc
  simp [isNameChar, h c hc]

theorem notMem_of_isSimpleName {c : Char} (hc : isNameChar c = false)
    (h : isSimpleName name = true) : c ∉ name.toList := by
  intro hm
  have hchar := List.all_eq_true.1 h c hm
  rw [hc] at hchar
  exact Bool.false_ne_true hchar

theorem closeQuote_notMem (d : Dialect) (h : isSimpleName name = true) :
    d.closeQuote ∉ name.toList := by
  cases d with
  | sqlServer => exact notMem_of_isSimpleName (by decide) h
  | postgres => exact notMem_of_isSimpleName (by decide) h

theorem quoteBody_of_notMem {close : Char} {s : List Char} (h : close ∉ s) :
    Dialect.quoteBody close s = s := by
  induction s with
  | nil => rfl
  | cons c s ih =>
    have hc : c ≠ close := fun hc => h (hc ▸ List.mem_cons_self)
    rw [Dialect.quoteBody, if_neg hc, ih fun hm => h (List.mem_cons_of_mem _ hm)]

/-- A simple name stands in its quotes as it is. -/
theorem toList_quote (d : Dialect) (h : isSimpleName name = true) :
    (d.quote name).toList = d.openQuote :: (name.toList ++ [d.closeQuote]) := by
  rw [Dialect.quote, String.toList_ofList, quoteBody_of_notMem (closeQuote_notMem d h),
    List.cons_append]

theorem isSimpleName_stagingName (d : Dialect) (h : isPlainName name = true) :
    isSimpleName (d.stagingName name) = true := by
  have hname := isSimpleName_of_isPlainName h
  rw [isSimpleName] at hname
  cases d with
  | sqlServer =>
    rw [isSimpleName, Dialect.stagingName, String.toList_append, String.toList_append,
      List.all_append, List.all_append, hname]
    decide
  | postgres =>
    rw [isSimpleName, Dialect.stagingName, String.toList_append, List.all_append, hname]
    decide

/-! ## Separators -/

/-- Whether a text has no quotes in it and begins with a character that no simple name has. -/
def isSeparator : List Char → Bool
  | [] => false
  | c :: s => !isNameChar c && (c :: s).all fun c => c != '[' && c != ']' && c != '"'

theorem quotes_notMem (d : Dialect) (h : isSeparator sep = true) :
    d.openQuote ∉ sep ∧ d.closeQuote ∉ sep := by
  cases sep with
  | nil => simp [isSeparator] at h
  | cons c s =>
    rw [isSeparator, Bool.and_eq_true] at h
    have hall := List.all_eq_true.1 h.2
    constructor
    · intro hm
      have := hall _ hm
      cases d <;> simp [Dialect.openQuote] at this
    · intro hm
      have := hall _ hm
      cases d <;> simp [Dialect.closeQuote] at this

theorem ne_nil_of_isSeparator (h : isSeparator sep = true) : sep ≠ [] := by
  rintro rfl
  simp [isSeparator] at h

/-- The first character of a separator stands in no quoted simple name. -/
theorem notMem_quote (d : Dialect) {c : Char} {s : List Char} (hsep : isSeparator (c :: s) = true)
    (hname : isSimpleName name = true) : c ∉ (d.quote name).toList := by
  obtain ⟨hopen, hclose⟩ := quotes_notMem d hsep
  have hc : isNameChar c = false := by
    rw [isSeparator, Bool.and_eq_true] at hsep
    simpa using hsep.1
  rw [toList_quote d hname]
  intro hm
  rcases List.mem_cons.1 hm with rfl | hm
  · exact hopen List.mem_cons_self
  · rcases List.mem_append.1 hm with hm | hm
    · exact notMem_of_isSimpleName hc hname hm
    · rw [List.mem_singleton.1 hm] at hclose
      exact hclose List.mem_cons_self

/-- No separator begins in a simple name or in one of its quotes. -/
theorem clear_quote (d : Dialect) (hsep : isSeparator sep = true) (hname : isSimpleName name = true) :
    Text.Clear sep (d.quote name).toList := by
  cases sep with
  | nil => simp [isSeparator] at hsep
  | cons c s => exact Text.clear_of_notMem (notMem_quote d hsep hname)

/-- Words that lack a separator do not begin one together with the quoted name behind them. -/
theorem clear_word_quote (d : Dialect) (hsep : isSeparator sep = true)
    (hname : isSimpleName name = true) (hw : Text.contains sep w = false) :
    Text.Clear sep (w ++ (d.quote name).toList) := by
  rw [toList_quote d hname]
  -- The opening quote ends the words; what follows it holds no separator either.
  refine Text.clear_append_cons (quotes_notMem d hsep).1 hw ?_
  cases sep with
  | nil => simp [isSeparator] at hsep
  | cons c s =>
    refine Text.clear_of_notMem fun hm => notMem_quote d hsep hname ?_
    rw [toList_quote d hname]
    exact List.mem_cons_of_mem _ hm

end Sql

end Tablewright
