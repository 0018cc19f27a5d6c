import RowAccess.Proofs.Number.Rounding
import RowAccess.Record.Condition

/-!
Contract: tests of an integer field against an integer.

Tests for equality compare integers as they are. Tests for order do so as long as both
are signed 64-bit integers; with an unsigned one beyond these among them, they compare
the nearest binary64 numbers instead. Rounding keeps the order, so that a test never
says the contrary of it, but two integers that are rounded to one number pass as
neither lower nor greater.

Owns:
- the pairs of integers that tests for order tell apart, and their order.
- the tests of an integer field, exact on these pairs and on no other ones.
-/

namespace RowAccess

namespace Number

/-- Whether an integer is a signed 64-bit one. -/
def Signed64 (value : Int) : Prop := -2 ^ 63 ≤ value ∧ value < 2 ^ 63

/-- Whether an integer is a signed or an unsigned 64-bit one. -/
def Word64 (value : Int) : Prop := -2 ^ 63 ≤ value ∧ value < 2 ^ 64

/-- Whether two integers are told apart where they differ: both are compared as they
are, or they have different nearest binary64 numbers. -/
def Resolved (left right : Int) : Prop :=
  Signed64 left ∧ Signed64 right ∨ left = right ∨
    (Binary64.ofInt left).signedUnits ≠ (Binary64.ofInt right).signedUnits

variable {left right : Int}

theorem signed64?_integer (value : Int) :
    (integer value).signed64? = some value ∧ Signed64 value ∨
      (integer value).signed64? = none ∧ ¬ Signed64 value := by
  unfold signed64?
  dsimp only
  split
  next inRange => exact Or.inl ⟨rfl, inRange⟩
  next beyond => exact Or.inr ⟨rfl, beyond⟩

theorem order_of_signed (leftSigned : Signed64 left) (rightSigned : Signed64 right) :
    (integer left).order (integer right) = compare left right := by
  unfold order
  rcases signed64?_integer left with ⟨leftValue, _⟩ | ⟨_, beyond⟩
  · rcases signed64?_integer right with ⟨rightValue, _⟩ | ⟨_, beyond⟩
    · rw [leftValue, rightValue]
    · exact absurd rightSigned beyond
  · exact absurd leftSigned beyond

/-- With an integer beyond the signed ones, the nearest numbers are compared. -/
theorem order_of_not_signed (beyond : ¬ (Signed64 left ∧ Signed64 right)) :
    (integer left).order (integer right) =
      compare (Binary64.ofInt left).signedUnits (Binary64.ofInt right).signedUnits := by
  unfold order
  rcases signed64?_integer left with ⟨leftValue, leftSigned⟩ | ⟨leftValue, _⟩
  · rcases signed64?_integer right with ⟨_, rightSigned⟩ | ⟨rightValue, _⟩
    · exact absurd ⟨leftSigned, rightSigned⟩ beyond
    · rw [leftValue, rightValue]
      rfl
  · rw [leftValue]
    rfl

theorem order_of_resolved (resolved : Resolved left right) :
    (integer left).order (integer right) = compare left right := by
  by_cases signed : Signed64 left ∧ Signed64 right
  · exact order_of_signed signed.1 signed.2
  · rw [order_of_not_signed signed]
    rcases resolved with both | same | differ
    · exact absurd both signed
    · rw [same, compare_eq_iff_eq.2 rfl, compare_eq_iff_eq.2 rfl]
    · rcases lt_trichotomy left right with below | same | above
      · have rounded := Binary64.signedUnits_ofInt_mono below.le
        rw [compare_lt_iff_lt.2 below, compare_lt_iff_lt.2 (lt_of_le_of_ne rounded differ)]
      · exact absurd (by rw [same]) differ
      · have rounded := Binary64.signedUnits_ofInt_mono above.le
        rw [compare_gt_iff_gt.2 above, compare_gt_iff_gt.2 (lt_of_le_of_ne rounded differ.symm)]

/-- Integers that are not told apart differ, and pass as one. -/
theorem order_of_not_resolved (blurred : ¬ Resolved left right) :
    left ≠ right ∧ (integer left).order (integer right) = .eq := by
  unfold Resolved at blurred
  simp only [not_or, not_not] at blurred
  obtain ⟨beyond, differ, sameNearest⟩ := blurred
  refine ⟨differ, ?_⟩
  rw [order_of_not_signed beyond, sameNearest]
  exact compare_eq_iff_eq.2 rfl

/-- 64-bit integers that are more than 2048 apart are told apart. -/
theorem resolved_of_apart (leftWord : Word64 left) (rightWord : Word64 right)
    (apart : 2048 < |left - right|) : Resolved left right := by
  obtain ⟨leftLow, leftHigh⟩ := leftWord
  obtain ⟨rightLow, rightHigh⟩ := rightWord
  refine Or.inr (Or.inr ?_)
  rcases lt_abs.1 apart with above | below
  · exact (Binary64.signedUnits_ofInt_lt (by omega) (by omega) (by omega)).ne'
  · exact (Binary64.signedUnits_ofInt_lt (by omega) (by omega) (by omega)).ne

end Number

namespace Condition

/-- Whether tests for order are those of two integers. -/
structure OrdersExactly (holds : Comparison → Bool) (left right : Int) : Prop where
  lt : holds .lt = true ↔ left < right
  le : holds .le = true ↔ left ≤ right
  gt : holds .gt = true ↔ right < left
  ge : holds .ge = true ↔ right ≤ left

/-- What the tests of an integer against another one say. Those for equality are
exact; those for order are so for integers that are told apart, which signed 64-bit
ones and those more than 2048 apart are, and then one of lower, equal and greater
holds. What they say of others is no contradiction of the order, but these pass as
neither lower nor greater, although they differ. -/
structure ComparesIntegers (holds : Comparison → Bool) (equal : Bool) (left right : Int) :
    Prop where
  equals : equal = true ↔ left = right
  ne : holds .ne = true ↔ left ≠ right
  exactly_iff : OrdersExactly holds left right ↔ Number.Resolved left right
  one_iff : [holds .lt, equal, holds .gt].count true = 1 ↔ Number.Resolved left right
  signed : Number.Signed64 left → Number.Signed64 right → OrdersExactly holds left right
  apart : 2048 < |left - right| → OrdersExactly holds left right
  sound : (holds .lt = true → left < right) ∧ (left ≤ right → holds .le = true) ∧
    (holds .gt = true → right < left) ∧ (right ≤ left → holds .ge = true)
  blurred : ¬ Number.Resolved left right →
    holds .lt = false ∧ holds .le = true ∧ equal = false ∧ holds .gt = false ∧ holds .ge = true

variable {left right : Int}

/-- A test for order reads the order of the integers. -/
theorem passes_integer (left right : Int) :
    passes .lt (.integer left) (.integer right) =
        ((Number.integer left).order (.integer right)).isLT ∧
      passes .le (.integer left) (.integer right) =
        ((Number.integer left).order (.integer right)).isLE ∧
      passes .gt (.integer left) (.integer right) =
        ((Number.integer left).order (.integer right)).isGT ∧
      passes .ge (.integer left) (.integer right) =
        ((Number.integer left).order (.integer right)).isGE := by
  unfold passes Json.integer Json.order?
  dsimp only
  cases (Number.integer left).order (.integer right) <;> decide

theorem same_integer : (Json.integer left).same (Json.integer right) = true ↔ left = right := by
  unfold Json.integer Json.same
  exact beq_iff_eq

theorem ordersExactly_of_resolved (resolved : Number.Resolved left right) :
    OrdersExactly (passes · (.integer left) (.integer right)) left right := by
  obtain ⟨lt, le, gt, ge⟩ := passes_integer left right
  rw [Number.order_of_resolved resolved] at lt le gt ge
  constructor
  · rw [lt, Ordering.isLT_iff_eq_lt, compare_lt_iff_lt]
  · rw [le, Ordering.isLE_iff_ne_gt]
    exact compare_le_iff_le
  · rw [gt, Ordering.isGT_iff_eq_gt, compare_gt_iff_gt]
  · rw [ge, Ordering.isGE_iff_ne_lt]
    exact compare_ge_iff_ge

/-- The tests of integers that are not told apart. -/
theorem passes_of_not_resolved (blurred : ¬ Number.Resolved left right) :
    passes .lt (.integer left) (.integer right) = false ∧
      passes .le (.integer left) (.integer right) = true ∧
      passes .gt (.integer left) (.integer right) = false ∧
      passes .ge (.integer left) (.integer right) = true := by
  obtain ⟨lt, le, gt, ge⟩ := passes_integer left right
  rw [(Number.order_of_not_resolved blurred).2] at lt le gt ge
  exact ⟨lt, le, gt, ge⟩

/-- Where tests for order are exact, one of lower, equal and greater holds. -/
theorem OrdersExactly.count_eq_one {holds : Comparison → Bool} {equal : Bool}
    (exactly : OrdersExactly holds left right) (equals : equal = true ↔ left = right) :
    [holds .lt, equal, holds .gt].count true = 1 := by
  rcases lt_trichotomy left right with below | same | above
  · have isLower := exactly.lt.2 below
    have notEqual := Bool.eq_false_iff.2 (mt equals.1 below.ne)
    have notGreater := Bool.eq_false_iff.2 (mt exactly.gt.1 below.asymm)
    rw [isLower, notEqual, notGreater]
    rfl
  · have notLower := Bool.eq_false_iff.2 (mt exactly.lt.1 same.not_lt)
    have isEqual := equals.2 same
    have notGreater := Bool.eq_false_iff.2 (mt exactly.gt.1 same.not_gt)
    rw [notLower, isEqual, notGreater]
    rfl
  · have notLower := Bool.eq_false_iff.2 (mt exactly.lt.1 above.asymm)
    have notEqual := Bool.eq_false_iff.2 (mt equals.1 above.ne')
    have isGreater := exactly.gt.2 above
    rw [notLower, notEqual, isGreater]
    rfl

/-- A 64-bit integer in a field is compared with another one exactly if the two are
told apart. -/
theorem integer_fields_compare {record : Record} {path : FieldPath}
    (found : record.lookup? path = some (.integer left)) (leftWord : Number.Word64 left)
    (rightWord : Number.Word64 right) :
    ComparesIntegers
      (fun comparison => (compares path comparison (.integer right)).holds record)
      ((equals path (.integer right)).holds record) left right := by
  have tests : (fun comparison => (compares path comparison (.integer right)).holds record) =
      (passes · (.integer left) (.integer right)) := by
    funext comparison
    unfold holds
    dsimp only
    rw [found]
  have equal : (equals path (.integer right)).holds record =
      (Json.integer left).same (.integer right) := by
    unfold holds
    dsimp only
    rw [found]
  have exactly : Number.Resolved left right →
      OrdersExactly (passes · (.integer left) (.integer right)) left right :=
    ordersExactly_of_resolved
  rw [tests, equal]
  refine
    { equals := same_integer
      ne := ?_
      exactly_iff := ⟨fun isExact => ?_, exactly⟩
      one_iff := ⟨fun one => ?_, fun resolved => (exactly resolved).count_eq_one same_integer⟩
      signed := fun leftSigned rightSigned => exactly (Or.inl ⟨leftSigned, rightSigned⟩)
      apart := fun far => exactly (Number.resolved_of_apart leftWord rightWord far)
      sound := ?_
      blurred := fun blurred => ?_ }
  · unfold passes
    rw [Bool.not_eq_true', Bool.eq_false_iff, ne_eq, same_integer]
  · by_contra blurred
    obtain ⟨notLower, _, notGreater, _⟩ := passes_of_not_resolved blurred
    have differ := (Number.order_of_not_resolved blurred).1
    rcases lt_or_gt_of_ne differ with below | above
    · exact Bool.eq_false_iff.1 notLower (isExact.lt.2 below)
    · exact Bool.eq_false_iff.1 notGreater (isExact.gt.2 above)
  · by_contra blurred
    obtain ⟨notLower, _, notGreater, _⟩ := passes_of_not_resolved blurred
    have differ := (Number.order_of_not_resolved blurred).1
    have notEqual := Bool.eq_false_iff.2 (mt same_integer.1 differ)
    rw [notLower, notEqual, notGreater] at one
    cases one
  · by_cases resolved : Number.Resolved left right
    · have isExact := exactly resolved
      exact ⟨isExact.lt.1, isExact.le.2, isExact.gt.1, isExact.ge.2⟩
    · obtain ⟨notLower, isLe, notGreater, isGe⟩ := passes_of_not_resolved resolved
      exact ⟨fun lower => absurd lower (Bool.eq_false_iff.1 notLower), fun _ => isLe,
        fun greater => absurd greater (Bool.eq_false_iff.1 notGreater), fun _ => isGe⟩
  · obtain ⟨notLower, isLe, notGreater, isGe⟩ := passes_of_not_resolved blurred
    have differ := (Number.order_of_not_resolved blurred).1
    exact ⟨notLower, isLe, Bool.eq_false_iff.2 (mt same_integer.1 differ), notGreater, isGe⟩

end Condition

namespace Shop

def total : FieldPath := ⟨"total", [], by decide⟩

/-- An order with a total. -/
def totalled (amount : Int) : Record :=
  ⟨⟨"1"⟩, OrderedMap.ofList [("total", .integer amount)]⟩

/-- What tests of a total against an amount say. -/
def totalTests (amount expected : Int) : Comparison → Bool := fun comparison =>
  (Condition.compares total comparison (.integer expected)).holds (totalled amount)

/-- The least and the greatest signed total are compared as they are, and so are the
greatest total of all and one that is 2049 below it. -/
theorem shop_orders_totals :
    Condition.OrdersExactly (totalTests (-2 ^ 63) (2 ^ 63 - 1)) (-2 ^ 63) (2 ^ 63 - 1) ∧
      totalTests (2 ^ 64 - 2050) (2 ^ 64 - 1) .lt = true := by
  constructor
  · have compared : Condition.ComparesIntegers (totalTests (-2 ^ 63) (2 ^ 63 - 1)) _ _ _ :=
      Condition.integer_fields_compare rfl ⟨by decide, by decide⟩ ⟨by decide, by decide⟩
    exact compared.signed ⟨by decide, by decide⟩ ⟨by decide, by decide⟩
  · have compared : Condition.ComparesIntegers (totalTests (2 ^ 64 - 2050) (2 ^ 64 - 1)) _ _ _ :=
      Condition.integer_fields_compare rfl ⟨by decide, by decide⟩ ⟨by decide, by decide⟩
    exact (compared.apart (by decide)).lt.2 (by decide)

/-- Two totals beyond the signed ones that follow each other are rounded to one number:
the lower one passes neither as lower nor as equal nor as greater. -/
theorem shop_blurs_totals :
    Number.Word64 (2 ^ 63) ∧ Number.Word64 (2 ^ 63 + 1) ∧
      totalTests (2 ^ 63) (2 ^ 63 + 1) .lt = false ∧
      (Condition.equals total (.integer (2 ^ 63 + 1))).holds (totalled (2 ^ 63)) = false ∧
      totalTests (2 ^ 63) (2 ^ 63 + 1) .gt = false := by
  refine ⟨⟨by decide, by decide⟩, ⟨by decide, by decide⟩, ?_⟩
  decide +kernel

end Shop

end RowAccess
