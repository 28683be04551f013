import Mathlib.Algebra.Ring.Int.Defs
import WebRouting.Handler.Param

/-! # Conversion of parameters

What a type of parameters takes from a value (`ParamType.Takes`), which values it admits
(`ParamType.Admits`), and what it needs in place of one that it does not admit (`ParamType.Needs`). A
value is converted to what its type takes from it (`Value.toParam_of_takes`) or refused with what the
type needs (`Value.toParam_of_needs`). Of several values the first that is not admitted is refused
(`takeArguments_of_needs`). -/

namespace WebRouting

/-! ## Types and values -/

theorem Value.exists_int {v : Value} (h : v.kind = .int) : ∃ n, v = .int n := by
  cases v with
  | int n => exact ⟨n, rfl⟩
  | string | float | bool => cases h

namespace ParamType

/-- What a type takes from a value. -/
inductive Takes : (t : ParamType) → Value → t.Carrier → Prop where
  /-- The text, which every value has. -/
  | string (v : Value) : Takes .string v v.text
  /-- The integer. -/
  | int64 (n : Int64) : Takes .int64 (.int n) n
  /-- The same integer in 32 bits. -/
  | int32 {n : Int64} {k : Int32} (hvalue : k.toInt = n.toInt) : Takes .int32 (.int n) k
  /-- The same integer without a sign. -/
  | uint64 {n : Int64} {k : UInt64} (hvalue : (k.toNat : Int) = n.toInt) : Takes .uint64 (.int n) k
  /-- The number. -/
  | float (x : Double) : Takes .float (.float x) x
  /-- The number nearest to an integer. -/
  | nearest (n : Int64) : Takes .float (.int n) (.ofInt n.toInt)
  /-- The truth value. -/
  | bool (b : Bool) : Takes .bool (.bool b) b
  /-- The value itself. -/
  | any (v : Value) : Takes .any v v

/-- Whether a type admits a value. -/
def Admits : ParamType → Value → Prop
  | .string, _ => True
  | .int64, v => v.kind = .int
  | .int32, v => ∃ n : Int64, v = .int n ∧ -2 ^ 31 ≤ n.toInt ∧ n.toInt ≤ 2 ^ 31 - 1
  | .uint64, v => ∃ n : Int64, v = .int n ∧ 0 ≤ n.toInt
  | .float, v => v.kind = .int ∨ v.kind = .float
  | .bool, v => v.kind = .bool
  | .any, _ => True

/-- What a type needs in place of a value. The types of integers of fewer bits and of natural numbers
need an integer first, and one that fits them only then. -/
inductive Needs : ParamType → Value → Expectation → Prop where
  /-- An integer. -/
  | int64 {v : Value} (hkind : v.kind ≠ .int) : Needs .int64 v .int
  /-- An integer, before one of 32 bits. -/
  | int32 {v : Value} (hkind : v.kind ≠ .int) : Needs .int32 v .int
  /-- An integer of 32 bits. -/
  | bits {n : Int64} (hrange : n.toInt < -2 ^ 31 ∨ 2 ^ 31 - 1 < n.toInt) : Needs .int32 (.int n) .int32
  /-- An integer, before a natural number. -/
  | uint64 {v : Value} (hkind : v.kind ≠ .int) : Needs .uint64 v .int
  /-- A natural number. -/
  | sign {n : Int64} (hnegative : n.toInt < 0) : Needs .uint64 (.int n) .unsigned
  /-- A number. -/
  | float {v : Value} (hkind : v.kind ≠ .int ∧ v.kind ≠ .float) : Needs .float v .float
  /-- A truth value. -/
  | bool {v : Value} (hkind : v.kind ≠ .bool) : Needs .bool v .bool

variable {t : ParamType} {v : Value}

/-- A type takes something from each value that it admits. -/
theorem exists_takes (h : t.Admits v) : ∃ a, t.Takes v a := by
  cases t with
  | string => exact ⟨v.text, .string v⟩
  | int64 =>
    obtain ⟨n, rfl⟩ := Value.exists_int h
    exact ⟨n, .int64 n⟩
  | int32 =>
    obtain ⟨n, rfl, hleast, hmost⟩ := h
    exact ⟨.ofInt n.toInt, .int32 (Int32.toInt_ofInt_of_le hleast (by omega))⟩
  | uint64 =>
    obtain ⟨n, rfl, hnatural⟩ := h
    have hmost : n.toInt < 2 ^ 63 := n.toInt_lt
    refine ⟨.ofNat n.toInt.toNat, .uint64 ?_⟩
    rw [UInt64.toNat_ofNat_of_lt' (by rw [UInt64.size]; omega), Int.toNat_of_nonneg hnatural]
  | float =>
    cases v with
    | int n => exact ⟨_, .nearest n⟩
    | float x => exact ⟨x, .float x⟩
    | string | bool => rcases h with h | h <;> cases h
  | bool =>
    cases v with
    | bool b => exact ⟨b, .bool b⟩
    | string | int | float => cases h
  | any => exact ⟨v, .any v⟩

/-- A type needs something in place of each value that it does not admit. -/
theorem exists_needs (h : ¬ t.Admits v) : ∃ expected, t.Needs v expected := by
  cases t with
  | string => exact absurd trivial h
  | int64 => exact ⟨_, .int64 h⟩
  | int32 =>
    by_cases hkind : v.kind = .int
    · obtain ⟨n, rfl⟩ := Value.exists_int hkind
      have hrange : ¬ (-2 ^ 31 ≤ n.toInt ∧ n.toInt ≤ 2 ^ 31 - 1) := fun hfits => h ⟨n, rfl, hfits⟩
      exact ⟨_, .bits (by omega)⟩
    · exact ⟨_, .int32 hkind⟩
  | uint64 =>
    by_cases hkind : v.kind = .int
    · obtain ⟨n, rfl⟩ := Value.exists_int hkind
      have hnegative : ¬ 0 ≤ n.toInt := fun hfits => h ⟨n, rfl, hfits⟩
      exact ⟨_, .sign (Int.not_le.mp hnegative)⟩
    · exact ⟨_, .uint64 hkind⟩
  | float => exact ⟨_, .float (not_or.mp h)⟩
  | bool => exact ⟨_, .bool h⟩
  | any => exact absurd trivial h

end ParamType

namespace Value

variable {t : ParamType} {v : Value}

theorem expect_of_none {α : Type} {expected : Expectation} {view : Option α} (h : view = none) :
    v.expect expected view = .error (.mismatch expected v.kind) := by
  rw [h]
  rfl

theorem int?_of_kind_ne (h : v.kind ≠ .int) : v.int? = none := by
  cases v with
  | int n => exact absurd rfl h
  | string | float | bool => rfl

theorem toRange_of_kind_ne {α : Type} {expected : Expectation} {fits : Int → Bool}
    {convert : Int → α} (h : v.kind ≠ .int) :
    v.toRange expected fits convert = .error (.mismatch .int v.kind) := by
  rw [toRange, expect_of_none (int?_of_kind_ne h)]
  rfl

theorem toRange_int {α : Type} (n : Int64) (expected : Expectation) (fits : Int → Bool)
    (convert : Int → α) : (int n).toRange expected fits convert =
      if fits n.toInt then .ok (convert n.toInt) else .error (.mismatch expected .int) := rfl

/-- A value is converted to what its type takes from it. -/
theorem toParam_of_takes {a : t.Carrier} (h : t.Takes v a) : v.toParam t = .ok a := by
  cases h with
  | string => rfl
  | int64 => rfl
  | @int32 n k hvalue =>
    have hfits : (Int32.minValue.toInt ≤ n.toInt && n.toInt ≤ Int32.maxValue.toInt) = true := by
      rw [← hvalue, Bool.and_eq_true, decide_eq_true_iff, decide_eq_true_iff]
      exact ⟨k.minValue_le_toInt, k.toInt_le⟩
    rw [toParam, toRange_int, if_pos hfits, ← hvalue, Int32.ofInt_toInt]
  | @uint64 n k hvalue =>
    have hfits : decide (0 ≤ n.toInt) = true := by
      rw [← hvalue, decide_eq_true_iff]
      exact Int.natCast_nonneg _
    rw [toParam, toRange_int, if_pos hfits, ← hvalue, Int.toNat_natCast, UInt64.ofNat_toNat]
  | float => rfl
  | nearest => rfl
  | bool => rfl
  | any => rfl

/-- A value that a type does not admit is refused with what the type needs. -/
theorem toParam_of_needs {expected : Expectation} (h : t.Needs v expected) :
    v.toParam t = .error (.mismatch expected v.kind) := by
  cases h with
  | int64 hkind => exact expect_of_none (int?_of_kind_ne hkind)
  | int32 hkind => rw [toParam, toRange_of_kind_ne hkind]
  | @bits n hrange =>
    have hfits : ¬ (Int32.minValue.toInt ≤ n.toInt && n.toInt ≤ Int32.maxValue.toInt) = true := by
      rw [Bool.and_eq_true, decide_eq_true_iff, decide_eq_true_iff, Int32.toInt_minValue,
        Int32.toInt_maxValue]
      omega
    rw [toParam, toRange_int, if_neg hfits]
    rfl
  | uint64 hkind => rw [toParam, toRange_of_kind_ne hkind]
  | @sign n hnegative =>
    have hfits : ¬ decide (0 ≤ n.toInt) = true := by
      rw [decide_eq_true_iff]
      exact Int.not_le.mpr hnegative
    rw [toParam, toRange_int, if_neg hfits]
    rfl
  | float hkind =>
    refine expect_of_none ?_
    cases v with
    | int n => exact absurd rfl hkind.1
    | float x => exact absurd rfl hkind.2
    | string | bool => rfl
  | bool hkind =>
    refine expect_of_none ?_
    cases v with
    | bool b => exact absurd rfl hkind
    | string | int | float => rfl

end Value

/-! ## Arguments -/

/-- The arguments are what the types take from the values in turn. -/
inductive Arguments.Taken : (types : List ParamType) → List Value → Arguments types → Prop where
  /-- Nothing from nothing. -/
  | nil : Taken [] [] ()
  /-- What the first type takes from the first value, and so on. -/
  | cons {t : ParamType} {types : List ParamType} {v : Value} {values : List Value}
      {first : t.Carrier} {rest : Arguments types} (hfirst : t.Takes v first)
      (hrest : Taken types values rest) : Taken (t :: types) (v :: values) (first, rest)

section Arguments

variable {types : List ParamType} {values : List Value}

theorem takeArguments_cons_of_ok {t : ParamType} {v : Value} {first : t.Carrier}
    (h : v.toParam t = .ok first) (position : Nat) :
    takeArguments position (v :: values) (t :: types) =
      (takeArguments (position + 1) values types).map fun rest => (first, rest) := by
  rw [takeArguments, h]
  cases takeArguments (position + 1) values types <;> rfl

theorem takeArguments_cons_of_error {t : ParamType} {v : Value} {e : ConversionError}
    (h : v.toParam t = .error e) (position : Nat) :
    takeArguments position (v :: values) (t :: types) = .error e := by
  rw [takeArguments, h]
  rfl

theorem takeArguments_of_taken {arguments : Arguments types}
    (h : Arguments.Taken types values arguments) (position : Nat) :
    takeArguments position values types = .ok arguments := by
  induction h generalizing position with
  | nil => rfl
  | cons hfirst hrest ih =>
    rw [takeArguments_cons_of_ok (Value.toParam_of_takes hfirst), ih]
    rfl

/-- Types that admit their values take arguments from them. -/
theorem exists_taken (hlength : values.length = types.length)
    (hadmits : ∀ p ∈ types.zip values, p.1.Admits p.2) :
    ∃ arguments, Arguments.Taken types values arguments := by
  induction types generalizing values with
  | nil =>
    obtain rfl := List.eq_nil_of_length_eq_zero hlength
    exact ⟨(), .nil⟩
  | cons t types ih =>
    cases values with
    | nil => cases hlength
    | cons v values =>
      rw [List.zip_cons_cons, List.forall_mem_cons] at hadmits
      obtain ⟨first, hfirst⟩ := ParamType.exists_takes hadmits.1
      obtain ⟨rest, hrest⟩ := ih (Nat.succ.inj hlength) hadmits.2
      exact ⟨(first, rest), .cons hfirst hrest⟩

/-- The error is that of the first value that its type does not admit. -/
theorem takeArguments_of_needs {before after : List (ParamType × Value)} {t : ParamType} {v : Value}
    {expected : Expectation} (hsplit : types.zip values = before ++ (t, v) :: after)
    (hbefore : ∀ p ∈ before, p.1.Admits p.2) (hneeds : t.Needs v expected) (position : Nat) :
    takeArguments position values types = .error (.mismatch expected v.kind) := by
  induction before generalizing position types values with
  | nil =>
    obtain ⟨types, values, rfl, rfl, -⟩ := List.zip_eq_cons_iff.mp hsplit
    exact takeArguments_cons_of_error (Value.toParam_of_needs hneeds) position
  | cons p before ih =>
    obtain ⟨types, values, rfl, rfl, hothers⟩ := List.zip_eq_cons_iff.mp hsplit
    rw [List.forall_mem_cons] at hbefore
    obtain ⟨first, hfirst⟩ := ParamType.exists_takes hbefore.1
    rw [takeArguments_cons_of_ok (Value.toParam_of_takes hfirst), ih hothers.symm hbefore.2]
    rfl

end Arguments

end WebRouting
