import Worksheet.Comparison

/-!
# The order of doubles

Doubles are compared by their kind and sign, then by exponent and by mantissa, the other way round
for negative ones. The two zeros are equal, and nothing compares with NaN. So numbers other than
NaN are compared by keys of three whole numbers, and with a key for NaN below all others the order
is one of keys throughout.

Results:
* `compare_eq`: how numbers other than NaN compare.
* `lt_iff`, `le_iff`, `beq_iff`: the comparisons of doubles.
* `lt_add_gt_add_beq`: exactly one of three holds.
* `Comparison.ofNumbers_eq`: the order with NaN below all others.
-/

namespace Worksheet

open Float.Model (UnpackedFloat)

namespace Number

/-! ## Keys -/

/-- Where a number stands: its kind and sign, its exponent, its mantissa. The latter two are turned
round for negative numbers. -/
def standing : UnpackedFloat → Int × Int × Int
  | .notANumber => (-3, 0, 0)
  | .infinity .negative => (-2, 0, 0)
  | .finite .negative mantissa exponent _ => (-1, -exponent, -mantissa)
  | .zero _ => (0, 0, 0)
  | .finite .positive mantissa exponent _ => (1, exponent, mantissa)
  | .infinity .positive => (2, 0, 0)

/-- The order of two keys: the first numbers that differ decide. -/
def compareKeys : Int × Int × Int → Int × Int × Int → Ordering :=
  compareLex (compareOn (·.1)) (compareLex (compareOn (·.2.1)) (compareOn (·.2.2)))

instance : Std.TransCmp compareKeys :=
  inferInstanceAs (Std.TransCmp (compareLex _ _))

/-- The order of two doubles, NaN below all others. -/
def order (x y : Float) : Ordering :=
  compareKeys (standing x.toModel.unpack) (standing y.toModel.unpack)

instance : Std.TransCmp order where
  eq_swap {_ _} := @Std.OrientedCmp.eq_swap _ compareKeys _ _ _
  isLE_trans {_ _ _} := @Std.TransCmp.isLE_trans _ compareKeys _ _ _ _

/-! ## Comparisons -/

theorem compare_neg (a b : Int) : compare (-a) (-b) = (compare a b).swap := by
  rw [Int.compare_swap, Int.compare_eq_ite_lt, Int.compare_eq_ite_lt]
  simp only [Int.neg_lt_neg_iff]

theorem compare_natCast (m n : Nat) : compare (m : Int) (n : Int) = compare m n := by
  simp only [compare, compareOfLessAndEq, Int.ofNat_lt, Int.ofNat_inj]

theorem compare_eq {u w : UnpackedFloat} (hu : u.isNaN = false) (hw : w.isNaN = false) :
    u.compare w = some (compareKeys (standing u) (standing w)) := by
  cases u with
  | notANumber => cases hu
  | infinity sign =>
    cases w with
    | notANumber => cases hw
    | infinity sign' => cases sign <;> cases sign' <;> rfl
    | zero => cases sign <;> rfl
    | finite sign' => cases sign <;> cases sign' <;> rfl
  | zero =>
    cases w with
    | notANumber => cases hw
    | infinity sign' => cases sign' <;> rfl
    | zero => rfl
    | finite sign' => cases sign' <;> rfl
  | finite sign m e =>
    cases w with
    | notANumber => cases hw
    | infinity sign' => cases sign <;> cases sign' <;> rfl
    | zero => cases sign <;> rfl
    | finite sign' m' e' =>
      cases sign <;> cases sign'
      · show some ((compare e e').then (compare m m')).swap =
          some ((compare (-e) (-e')).then (compare (-(m : Int)) (-(m' : Int))))
        rw [compare_neg, compare_neg, compare_natCast, Ordering.swap_then]
      · rfl
      · rfl
      · show some ((compare e e').then (compare m m')) =
          some ((compare e e').then (compare (m : Int) (m' : Int)))
        rw [compare_natCast]

variable {x y : Float}

theorem lt_iff (hx : x.isNaN = false) (hy : y.isNaN = false) : x < y ↔ order x y = .lt := by
  show decide ((x.toModel.unpack.compare y.toModel.unpack == some .lt) = true) = true ↔ _
  rw [compare_eq hx hy, decide_eq_true_iff, beq_iff_eq, Option.some.injEq]
  rfl

theorem le_iff (hx : x.isNaN = false) (hy : y.isNaN = false) :
    x ≤ y ↔ (order x y).isLE = true := by
  show decide ((x.toModel.unpack.compare y.toModel.unpack).any (·.isLE) = true) = true ↔ _
  rw [compare_eq hx hy, decide_eq_true_iff]
  rfl

theorem gt_iff (hx : x.isNaN = false) (hy : y.isNaN = false) : y < x ↔ order x y = .gt :=
  (lt_iff hy hx).trans Std.OrientedCmp.gt_iff_lt.symm

theorem beq_iff (hx : x.isNaN = false) (hy : y.isNaN = false) :
    (x == y) = true ↔ order x y = .eq := by
  show (x.toModel.unpack.compare y.toModel.unpack == some .eq) = true ↔ _
  rw [compare_eq hx hy, beq_iff_eq, Option.some.injEq]
  rfl

theorem not_lt_iff (hx : x.isNaN = false) (hy : y.isNaN = false) : ¬ x < y ↔ y ≤ x := by
  rw [lt_iff hx hy, le_iff hy hx, ← Std.OrientedCmp.isGE_eq_isLE]
  cases order x y <;> decide

theorem lt_add_le (hx : x.isNaN = false) (hy : y.isNaN = false) :
    (decide (x < y)).toNat + (decide (y ≤ x)).toNat = 1 := by
  simp only [← not_lt_iff hx hy, decide_not]
  cases decide (x < y) <;> rfl

/-- Of less, greater and equal exactly one holds. -/
theorem lt_add_gt_add_beq (hx : x.isNaN = false) (hy : y.isNaN = false) :
    (decide (x < y)).toNat + (decide (x > y)).toNat + (x == y).toNat = 1 := by
  have hbeq : (x == y) = decide (order x y = .eq) := by
    rw [Bool.eq_iff_iff, beq_iff hx hy, decide_eq_true_iff]
  simp only [hbeq, lt_iff hx hy, GT.gt, gt_iff hx hy]
  cases order x y <;> rfl

/-! ## The place of NaN -/

/-- NaN comes before all other numbers. -/
theorem compareKeys_notANumber {u : UnpackedFloat} (h : u.isNaN = false) :
    compareKeys (standing .notANumber) (standing u) = .lt := by
  cases u with
  | notANumber => cases h
  | infinity sign => cases sign <;> rfl
  | zero => rfl
  | finite sign => cases sign <;> rfl

theorem unpack_of_isNaN (h : x.isNaN = true) : x.toModel.unpack = .notANumber := by
  change x.toModel.unpack.isNaN = true at h
  cases hx : x.toModel.unpack with
  | notANumber => rfl
  | infinity | zero | finite =>
    rw [hx] at h
    cases h

theorem order_of_isNaN (hx : x.isNaN = true) (hy : y.isNaN = false) : order x y = .lt := by
  unfold order
  rw [unpack_of_isNaN hx]
  exact compareKeys_notANumber hy

theorem order_of_isNaN_of_isNaN (hx : x.isNaN = true) (hy : y.isNaN = true) :
    order x y = .eq := by
  unfold order
  rw [unpack_of_isNaN hx, unpack_of_isNaN hy]
  rfl

end Number

/-- The order of two numbers is that of their keys. -/
theorem Comparison.ofNumbers_eq (x y : Float) : ofNumbers x y = Number.order x y := by
  unfold ofNumbers
  cases hx : x.isNaN <;> cases hy : y.isNaN
  · simp only [Bool.false_eq_true, if_false, Number.lt_iff hx hy, Number.gt_iff hx hy]
    cases Number.order x y <;> rfl
  · rw [Std.OrientedCmp.gt_of_lt (Number.order_of_isNaN hy hx)]
    rfl
  · rw [Number.order_of_isNaN hx hy]
    rfl
  · rw [Number.order_of_isNaN_of_isNaN hx hy]
    rfl

end Worksheet
