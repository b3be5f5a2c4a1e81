import Fusebox.Decimal.Shortest
import Mathlib

/-! The numbers that floats stand for. A finite float is a whole number of powers of two with a
sign, and the order of floats is the order of these numbers; here it is compared with zero and with
one. -/
namespace Fusebox.Decimal

open Float.Model UnpackedFloat

/-- The exponent of a float as it is stored. -/
def exponentField (x : Float) : Nat := x.toBits.toNat / implicitBit % 0x800

/-- The exponent field of infinities and of what is not a number. -/
def specialField : Nat := 0x7FF

/-- Whether the sign is a minus. A zero may have one, too. -/
def isNegative (x : Float) : Bool := decide (0x8000000000000000 ≤ x.toBits.toNat)

/-- How large a finite float is, whatever its sign. -/
def size (x : Float) : ℚ := (Binary.ofFloat x).mantissa * (2 : ℚ) ^ (Binary.ofFloat x).exponent

/-- The number that a float stands for. Infinities and what is not a number stand for none. -/
def number? (x : Float) : Option ℚ :=
  if exponentField x = specialField then none
  else some (if isNegative x then -size x else size x)

/-- The sign of a float. -/
def signOf (x : Float) : Sign := if isNegative x then .negative else .positive

variable {x : Float}

/-! Fields of a float -/

theorem toNat_unpackExponent (bits : BitVec Format.binary64.numBits) :
    (unpackExponent bits).toNat = bits.toNat / implicitBit % 0x800 := by
  rw [unpackExponent_def, BitVec.extractLsb'_toNat, Nat.shiftRight_eq_div_pow]
  rfl

theorem toNat_unpackMantissa (bits : BitVec Format.binary64.numBits) :
    (unpackMantissa bits).toNat = bits.toNat % implicitBit := by
  rw [unpackMantissa_def, BitVec.extractLsb'_toNat, Nat.shiftRight_zero]
  rfl

theorem ofBitVec_unpackSign (x : Float) :
    Sign.ofBitVec (@unpackSign Format.binary64 x.toModel.toBits.toBitVec) = signOf x := by
  have bound := x.toBits.toNat_lt
  have value : (@unpackSign Format.binary64 x.toModel.toBits.toBitVec).toNat =
      x.toBits.toNat / 0x8000000000000000 % 2 := by
    rw [unpackSign_def, BitVec.extractLsb'_toNat, Nat.shiftRight_eq_div_pow]
    rfl
  have zero : @unpackSign Format.binary64 x.toModel.toBits.toBitVec = 0#1 ↔
      ¬0x8000000000000000 ≤ x.toBits.toNat := by
    rw [← BitVec.toNat_inj, value]
    simp only [BitVec.toNat_ofNat, Nat.zero_mod]
    omega
  simp only [Sign.ofBitVec, signOf, isNegative, zero, decide_eq_true_eq, ite_not]

/-- An infinity, or not a number. -/
theorem isFinite_of_special (special : exponentField x = specialField) : x.isFinite = false := by
  have ones : @unpackExponent Format.binary64 x.toModel.toBits.toBitVec = -1#_ := by
    rw [← BitVec.toNat_inj, toNat_unpackExponent]
    exact special
  simp only [Float.isFinite, Float.Model.isFinite, Float.Model.unpack, UnpackedFloat.unpack, ones,
    ↓reduceIte]
  split <;> rfl

theorem ofFloat_mantissa (x : Float) :
    (Binary.ofFloat x).mantissa =
      if exponentField x = 0 then x.toBits.toNat % implicitBit
      else implicitBit + x.toBits.toNat % implicitBit := by
  simp only [Binary.ofFloat, exponentField]
  exact apply_ite Binary.mantissa _ _ _

theorem ofFloat_exponent (x : Float) :
    (Binary.ofFloat x).exponent =
      if exponentField x = 0 then -1074 else (exponentField x : Int) - 1075 := by
  simp only [Binary.ofFloat, exponentField]
  exact apply_ite Binary.exponent _ _ _

theorem ofFloat_mantissa_lt (x : Float) : (Binary.ofFloat x).mantissa < 2 * implicitBit := by
  have fraction : x.toBits.toNat % implicitBit < implicitBit := Nat.mod_lt _ (by decide)
  rw [ofFloat_mantissa]
  split <;> omega

/-- Only the smallest floats do without a leading bit. -/
theorem implicitBit_le_mantissa (large : -1074 < (Binary.ofFloat x).exponent) :
    implicitBit ≤ (Binary.ofFloat x).mantissa := by
  rw [ofFloat_exponent] at large
  rw [ofFloat_mantissa]
  split
  · rename_i subnormal
    rw [if_pos subnormal] at large
    omega
  · exact Nat.le_add_right _ _

/-- The leading bit of a number that is not too small is left out where it is stored. -/
theorem toNat_leading_append (stored : BitVec 52) :
    (1#1 ++ stored).toNat = implicitBit + stored.toNat := by
  rw [BitVec.toNat_append, ← Nat.shiftLeft_add_eq_or_of_lt stored.isLt, Nat.shiftLeft_eq]
  rfl

/-- Any other float is a zero or a whole number of powers of two. -/
theorem unpack_of_finite (finite : exponentField x ≠ specialField) :
    x.toModel.unpack =
      if some_ : 0 < (Binary.ofFloat x).mantissa then
        .finite (signOf x) (Binary.ofFloat x).mantissa (Binary.ofFloat x).exponent some_
      else .zero (signOf x) := by
  have exponent : (@unpackExponent Format.binary64 x.toModel.toBits.toBitVec).toNat =
      exponentField x := toNat_unpackExponent _
  have mantissa : (@unpackMantissa Format.binary64 x.toModel.toBits.toBitVec).toNat =
      x.toBits.toNat % implicitBit := toNat_unpackMantissa _
  have ones : @unpackExponent Format.binary64 x.toModel.toBits.toBitVec ≠ -1#_ := by
    rw [Ne, ← BitVec.toNat_inj, exponent]
    exact finite
  have zeros : @unpackExponent Format.binary64 x.toModel.toBits.toBitVec = 0#_ ↔
      exponentField x = 0 := by
    rw [← BitVec.toNat_inj, exponent]
    rfl
  have nothing : @unpackMantissa Format.binary64 x.toModel.toBits.toBitVec = 0#_ ↔
      x.toBits.toNat % implicitBit = 0 := by
    rw [← BitVec.toNat_inj, mantissa]
    rfl
  simp only [Float.Model.unpack, UnpackedFloat.unpack, if_neg ones, ofBitVec_unpackSign, zeros,
    nothing, ofFloat_mantissa, ofFloat_exponent]
  by_cases subnormal : exponentField x = 0
  · by_cases none_ : x.toBits.toNat % implicitBit = 0
    · simp [subnormal, none_]
    · simp only [subnormal, none_, mantissa, exponent, ↓reduceIte, ↓reduceDIte,
        Nat.pos_of_ne_zero none_]
      rfl
  · have leading : (1#1 ++ @unpackMantissa Format.binary64 x.toModel.toBits.toBitVec).toNat =
        implicitBit + x.toBits.toNat % implicitBit :=
      (toNat_leading_append _).trans (congrArg (implicitBit + ·) mantissa)
    have positive : 0 < implicitBit + x.toBits.toNat % implicitBit := Nat.add_pos_left (by decide) _
    simp only [subnormal, leading, exponent, ↓reduceIte, positive, ↓reduceDIte]
    rfl

theorem isFinite_of_finite (finite : exponentField x ≠ specialField) : x.isFinite = true := by
  simp only [Float.isFinite, Float.Model.isFinite, unpack_of_finite finite]
  split <;> rfl

theorem number?_eq_some_iff {number : ℚ} :
    number? x = some number ↔ exponentField x ≠ specialField ∧
      (if isNegative x then -size x else size x) = number := by
  unfold number?
  split <;> simp [*]

/-- The finite floats are those that stand for a number. -/
theorem isFinite_iff : x.isFinite = true ↔ ∃ number, number? x = some number := by
  by_cases special : exponentField x = specialField
  · simp [isFinite_of_special special, number?, special]
  · simp [isFinite_of_finite special, number?, special]

/-! The order of floats -/

theorem le_iff_unpack (x y : Float) : x ≤ y ↔ x.toModel.unpack.le y.toModel.unpack = true := by
  change decide _ = true ↔ _
  rw [decide_eq_true_eq]
  exact Iff.rfl

theorem unpack_zero : (0 : Float).toModel.unpack = .zero .positive := rfl

theorem unpack_one :
    (1 : Float).toModel.unpack = .finite .positive implicitBit (-52) (by decide) := rfl

/-- A number is equal to itself. What is not a number is not. -/
theorem beq_self_of_number {number : ℚ} (stands : number? x = some number) : (x == x) = true := by
  refine Float.beq_self_iff.mpr ?_
  rintro rfl
  obtain ⟨finite, -⟩ := number?_eq_some_iff.mp stands
  exact finite rfl

theorem size_pos (some_ : 0 < (Binary.ofFloat x).mantissa) : 0 < size x := by
  have := Nat.cast_pos (α := ℚ).mpr some_
  unfold size
  positivity

theorem size_eq_zero (nothing : ¬0 < (Binary.ofFloat x).mantissa) : size x = 0 := by
  simp [size, Nat.eq_zero_of_not_pos nothing]

theorem implicitBit_cast : (implicitBit : ℚ) = 2 ^ (52 : ℤ) := by
  norm_num [implicitBit]

/-- A float is at most one if its exponent is below that of one, or if it is the same and nothing
comes after the leading bit. -/
theorem size_le_one_iff (x : Float) :
    size x ≤ 1 ↔ (Binary.ofFloat x).exponent < -52 ∨
      (Binary.ofFloat x).exponent = -52 ∧ (Binary.ofFloat x).mantissa ≤ implicitBit := by
  have below := ofFloat_mantissa_lt x
  have leading := implicitBit_le_mantissa (x := x)
  unfold size
  generalize (Binary.ofFloat x).mantissa = mantissa at below leading ⊢
  generalize (Binary.ofFloat x).exponent = exponent at leading ⊢
  have unit : (implicitBit : ℚ) * 2 ^ (-52 : ℤ) = 1 := by
    rw [implicitBit_cast, ← zpow_add₀ (by norm_num)]
    norm_num
  rcases lt_trichotomy exponent (-52) with low | rfl | high
  · refine iff_of_true ?_ (.inl low)
    have scale : (2 : ℚ) ^ exponent ≤ 2 ^ (-53 : ℤ) := zpow_le_zpow_right₀ (by norm_num) (by omega)
    have few : (mantissa : ℚ) ≤ 2 * implicitBit := by exact_mod_cast below.le
    calc (mantissa : ℚ) * 2 ^ exponent
        ≤ (2 * implicitBit) * 2 ^ (-53 : ℤ) := by gcongr
      _ = implicitBit * (2 * 2 ^ (-53 : ℤ)) := by ring
      _ = implicitBit * 2 ^ (-52 : ℤ) := by norm_num
      _ = 1 := unit
  · rw [← unit, mul_le_mul_iff_left₀ (by positivity), Nat.cast_le]
    simp
  · refine iff_of_false ?_ (by omega)
    have scale : (2 : ℚ) ^ (-51 : ℤ) ≤ 2 ^ exponent := zpow_le_zpow_right₀ (by norm_num) (by omega)
    have many : (implicitBit : ℚ) ≤ mantissa := by exact_mod_cast leading (by omega)
    rw [not_le]
    calc (1 : ℚ) < 2 := by norm_num
      _ = 2 * (implicitBit * 2 ^ (-52 : ℤ)) := by rw [unit, mul_one]
      _ = implicitBit * (2 * 2 ^ (-52 : ℤ)) := by ring
      _ = implicitBit * 2 ^ (-51 : ℤ) := by norm_num
      _ ≤ mantissa * 2 ^ exponent := by gcongr

theorem zero_le_iff (stands : number? x = some number) : 0 ≤ x ↔ 0 ≤ number := by
  obtain ⟨finite, rfl⟩ := number?_eq_some_iff.mp stands
  rw [le_iff_unpack, unpack_zero, unpack_of_finite finite]
  by_cases some_ : 0 < (Binary.ofFloat x).mantissa
  · have positive := size_pos some_
    rw [dif_pos some_, signOf]
    cases isNegative x with
    | true => simp [UnpackedFloat.le, UnpackedFloat.compare, positive]
    | false => simp [UnpackedFloat.le, UnpackedFloat.compare, positive.le]
  · rw [dif_neg some_, size_eq_zero some_]
    simp [UnpackedFloat.le, UnpackedFloat.compare]

theorem le_one_iff (stands : number? x = some number) : x ≤ 1 ↔ number ≤ 1 := by
  obtain ⟨finite, rfl⟩ := number?_eq_some_iff.mp stands
  rw [le_iff_unpack, unpack_one, unpack_of_finite finite]
  by_cases some_ : 0 < (Binary.ofFloat x).mantissa
  · have positive := size_pos some_
    rw [dif_pos some_, signOf]
    cases isNegative x with
    | true =>
      have below : -size x ≤ 1 := by linarith
      simp [UnpackedFloat.le, UnpackedFloat.compare, below]
    | false =>
      simp only [Bool.false_eq_true, ↓reduceIte, UnpackedFloat.le, UnpackedFloat.compare,
        Option.any_some, Ordering.isLE_then_iff_or, size_le_one_iff]
      rw [compare_lt_iff_lt, compare_eq_iff_eq, Nat.isLE_compare]
  · rw [dif_neg some_, size_eq_zero some_]
    simp [UnpackedFloat.le, UnpackedFloat.compare]

end Fusebox.Decimal
