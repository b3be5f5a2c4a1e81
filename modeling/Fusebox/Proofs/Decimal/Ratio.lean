import Fusebox.Breaker.Tally
import Fusebox.Proofs.Decimal.Number

/-! The share of requests that failed as a float. Both counters can be written as floats without
loss, and the quotient of two floats without a sign has none, so that no ratio is below zero. -/
namespace Fusebox.Decimal

open Float.Model UnpackedFloat

/-- A number with a plus for its sign, or an infinity. -/
def Unsigned : UnpackedFloat → Prop
  | .infinity sign | .zero sign | .finite sign _ _ _ => sign = .positive
  | .notANumber => False

/-- A plus that is stored is read back. The other bits only have to be those of a number. -/
theorem unpack_unsigned {exponent : BitVec Format.binary64.exponentBits}
    {mantissa : BitVec Format.binary64.mantissaBitsWithoutImplicit}
    (number : exponent ≠ -1#_ ∨ mantissa = 0#_) :
    Unsigned (.unpack Format.binary64
      (packComponents Format.binary64 .positive exponent mantissa)) := by
  simp only [UnpackedFloat.unpack, unpackExponent_packComponents, unpackMantissa_packComponents,
    unpackSign_packComponents, Sign.ofBitVec_toBitVec]
  split
  · rename_i ones
    rw [if_pos (number.resolve_left (not_not_intro ones))]
    rfl
  · split
    · split <;> rfl
    · rfl

/-- To store a float does not give it a sign, even if it is too large or too small to be kept. -/
theorem unpack_pack_unsigned {value : UnpackedFloat} (unsigned : Unsigned value) :
    Unsigned (UnpackedFloat.unpack Format.binary64 (pack Format.binary64 value)) := by
  cases value with
  | notANumber => cases unsigned
  | infinity sign =>
    cases unsigned
    rw [UnpackedFloat.pack, packedInfinity]
    exact unpack_unsigned (.inr rfl)
  | zero sign =>
    cases unsigned
    rw [UnpackedFloat.pack, unpack_packedZero]
    rfl
  | finite sign mantissa exponent positive =>
    cases unsigned
    rw [UnpackedFloat.pack]
    split
    · rw [packedInfinity]
      exact unpack_unsigned (.inr rfl)
    · rename_i below
      split
      · refine unpack_unsigned (.inl ?_)
        rw [Ne, ← BitVec.toNat_inj, BitVec.toNat_ofNat]
        generalize (exponent + _ + _).toNat = biased at below ⊢
        have range : ¬2048 ≤ biased + 1 := below
        have ones : (-1#_ : BitVec Format.binary64.exponentBits).toNat = 2047 := rfl
        have size : 2 ^ Format.binary64.exponentBits = 2048 := rfl
        rw [ones, size]
        omega
      · exact unpack_unsigned (.inl (by decide))

/-- A shift moves the leading bit of a number. -/
theorem log2_shiftLeft {number : Nat} (some_ : 0 < number) (places : Nat) :
    (number <<< places).log2 = number.log2 + places := by
  rw [Nat.log2_eq_iff (Nat.ne_of_gt (Nat.shiftLeft_pos_iff.mpr some_)), Nat.shiftLeft_eq]
  obtain ⟨low, high⟩ := (Nat.log2_eq_iff (Nat.ne_of_gt some_)).mp rfl
  constructor
  · rw [Nat.pow_add]
    exact Nat.mul_le_mul_right _ low
  · rw [Nat.add_right_comm, Nat.pow_add]
    exact Nat.mul_lt_mul_of_pos_right high (Nat.two_pow_pos _)

/-- Nothing is lost where the exponent is that of the format already. -/
theorem roundWithAccuracy_exact {mantissa : Nat} {exponent : Int} (some_ : 0 < mantissa)
    (fits : Format.binary64.targetExponent (totalExponent mantissa exponent) = exponent) :
    roundWithAccuracy Format.binary64 .positive mantissa exponent .exact =
      .finite .positive mantissa exponent some_ := by
  have still : shiftToTargetExponent Format.binary64 mantissa exponent .exact =
      (⟨mantissa, false, false⟩, exponent) := by
    simp only [shiftToTargetExponent, shiftToExponent, fits, Int.sub_self]
    exact Prod.ext rfl (Int.add_zero exponent)
  simp only [roundWithAccuracy, still, ExtendedMantissa.roundedMantissa,
    ExtendedMantissa.accuracy, Accuracy.roundToNearestEven, Nat.ne_of_gt some_, ↓reduceDIte]

/-- A number that fits into a mantissa is not rounded when it is made a float. -/
theorem ofNat_exact {number : Nat} (some_ : 0 < number) (small : number.log2 ≤ 52) :
    UnpackedFloat.ofNat Format.binary64 number =
      .finite .positive (number <<< (52 - number.log2)) ((number.log2 : Int) - 52)
        (Nat.shiftLeft_pos_iff.mpr some_) := by
  have positive : compare (number : Int) 0 = .gt := Int.compare_eq_gt.mpr (by omega)
  have target : Format.binary64.targetExponent (totalExponent number 0) =
      (number.log2 : Int) - 52 := by
    simp only [Format.targetExponent, totalExponent, Format.mantissaBits, Format.minExponent]
    omega
  have moved : decreaseExponent number 0 ((number.log2 : Int) - 52) =
      (number <<< (52 - number.log2), (number.log2 : Int) - 52) := by
    have places : (0 - ((number.log2 : Int) - 52)).toNat = 52 - number.log2 := by omega
    simp only [decreaseExponent, places, Prod.mk.injEq, true_and]
    omega
  have fits : Format.binary64.targetExponent
      (totalExponent (number <<< (52 - number.log2)) ((number.log2 : Int) - 52)) =
      (number.log2 : Int) - 52 := by
    simp only [Format.targetExponent, totalExponent, log2_shiftLeft some_, Format.mantissaBits,
      Format.minExponent]
    omega
  simp only [UnpackedFloat.ofNat, UnpackedFloat.ofInt, UnpackedFloat.normalize, positive,
    UnpackedFloat.round, Int.toNat_natCast, target, moved]
  exact roundWithAccuracy_exact (Nat.shiftLeft_pos_iff.mpr some_) fits

/-- What is stored with an exponent of its own is read back as a number above zero. -/
theorem unpack_normal {biased : Nat} (low : 0 < biased) (high : biased < 2047)
    (mantissa : BitVec Format.binary64.mantissaBitsWithoutImplicit) :
    ∃ number exponent some_,
      UnpackedFloat.unpack Format.binary64
        (packComponents Format.binary64 .positive (BitVec.ofNat _ biased) mantissa) =
          .finite .positive number exponent some_ := by
  have field : (BitVec.ofNat Format.binary64.exponentBits biased).toNat = biased := by
    rw [BitVec.toNat_ofNat]
    apply Nat.mod_eq_of_lt
    exact high.trans (by decide)
  have ones : BitVec.ofNat Format.binary64.exponentBits biased ≠ -1#_ := by
    rw [Ne, ← BitVec.toNat_inj, field]
    exact Nat.ne_of_lt high
  have zeros : BitVec.ofNat Format.binary64.exponentBits biased ≠ 0#_ := by
    rw [Ne, ← BitVec.toNat_inj, field]
    exact Nat.ne_of_gt low
  simp only [UnpackedFloat.unpack, unpackExponent_packComponents, unpackMantissa_packComponents,
    unpackSign_packComponents, Sign.ofBitVec_toBitVec, if_neg ones, if_neg zeros]
  have some_ : 0 < (1#1 ++ mantissa).toNat := by
    rw [toNat_leading_append]
    exact Nat.add_pos_left (by decide) _
  exact ⟨_, _, some_, rfl⟩

/-- A counter that is not zero becomes a number above zero. -/
theorem unpack_toFloat {counter : UInt32} (some_ : counter ≠ 0) :
    ∃ number exponent positive,
      counter.toFloat.toModel.unpack = .finite .positive number exponent positive := by
  have above : 0 < counter.toNat := by
    apply Nat.pos_of_ne_zero
    intro zero
    exact some_ (UInt32.toNat_inj.mp zero)
  have below : counter.toNat.log2 < 32 :=
    (Nat.log2_lt (Nat.ne_of_gt above)).mpr counter.toNat_lt
  have leading : (counter.toNat <<< (52 - counter.toNat.log2)).log2 + 1 =
      Format.binary64.mantissaBits := by
    rw [log2_shiftLeft above, show Format.binary64.mantissaBits = 53 from rfl]
    omega
  have biased : ((counter.toNat.log2 : Int) - 52 + (Format.binary64.exponentBias : Int) +
      (Format.binary64.mantissaBitsWithoutImplicit : Int)).toNat =
      counter.toNat.log2 + 1023 := by
    rw [show Format.binary64.exponentBias = 1023 from rfl,
      show Format.binary64.mantissaBitsWithoutImplicit = 52 from rfl]
    omega
  have kept : ¬2 ^ Format.binary64.exponentBits ≤ counter.toNat.log2 + 1023 + 1 := by
    rw [show 2 ^ Format.binary64.exponentBits = 2048 from rfl]
    omega
  have stored : counter.toFloat.toModel.unpack = UnpackedFloat.unpack Format.binary64
      (UnpackedFloat.pack Format.binary64
        (UnpackedFloat.ofNat Format.binary64 counter.toNat)) := rfl
  rw [stored, ofNat_exact above (by omega), UnpackedFloat.pack, biased, if_neg kept,
    if_pos leading]
  exact unpack_normal (by omega) (by omega) _

/-- No counter becomes a number below zero. -/
theorem unsigned_toFloat (counter : UInt32) : Unsigned counter.toFloat.toModel.unpack := by
  by_cases some_ : counter = 0
  · subst some_
    rfl
  · obtain ⟨number, exponent, positive, stored⟩ := unpack_toFloat some_
    rw [stored]
    rfl

/-- What is left of the division of an unsigned number is unsigned, however it is rounded. -/
theorem unsigned_div {value : UnpackedFloat} (unsigned : Unsigned value) {number : Nat}
    {exponent : Int} (some_ : 0 < number) :
    Unsigned (UnpackedFloat.div Format.binary64 value
      (.finite .positive number exponent some_)) := by
  cases value with
  | notANumber => cases unsigned
  | infinity sign =>
    cases unsigned
    rfl
  | zero sign =>
    cases unsigned
    rfl
  | finite sign mantissa scale positive =>
    cases unsigned
    simp only [UnpackedFloat.div, roundWithAccuracy]
    split <;> rfl

/-- A ratio is not below zero. -/
theorem unsigned_ratio (part : UInt32) {whole : UInt32} (some_ : whole ≠ 0) :
    Unsigned (part.toFloat / whole.toFloat).toModel.unpack := by
  obtain ⟨number, exponent, positive, stored⟩ := unpack_toFloat some_
  have quotient : (part.toFloat / whole.toFloat).toModel.unpack =
      UnpackedFloat.unpack Format.binary64 (UnpackedFloat.pack Format.binary64
        (UnpackedFloat.div Format.binary64 part.toFloat.toModel.unpack
          whole.toFloat.toModel.unpack)) := rfl
  rw [quotient, stored]
  exact unpack_pack_unsigned (unsigned_div (unsigned_toFloat part) positive)

/-- A zero of either sign is at most what is not below zero. -/
theorem le_of_unsigned {x y : Float} (zero : (x == 0) = true)
    (unsigned : Unsigned y.toModel.unpack) : x ≤ y := by
  have nothing : ∃ sign, x.toModel.unpack = .zero sign := by
    have same : x.toModel.unpack.beq (0 : Float).toModel.unpack = true := zero
    rw [beq_iff_ne_notANumber_and_eq, unpack_zero] at same
    rcases same with ⟨-, -, equal | ⟨-, other⟩ | ⟨negative, -⟩⟩
    · exact ⟨_, equal⟩
    · cases other
    · exact ⟨_, negative⟩
  obtain ⟨sign, nothing⟩ := nothing
  rw [le_iff_unpack, nothing]
  cases read : y.toModel.unpack with
  | notANumber =>
    rw [read] at unsigned
    cases unsigned
  | infinity other =>
    rw [read] at unsigned
    cases unsigned
    rfl
  | zero other => rfl
  | finite other mantissa exponent positive =>
    rw [read] at unsigned
    cases unsigned
    rfl

end Fusebox.Decimal

namespace Fusebox.Tally

/-- A threshold of zero is reached by any counts, even if nothing has failed. -/
theorem zero_le_failureRatio {threshold : Float} (zero : (threshold == 0) = true)
    (counts : Tally) : threshold ≤ counts.failureRatio := by
  apply Decimal.le_of_unsigned zero
  unfold failureRatio
  split
  · rfl
  · rename_i some_
    exact Decimal.unsigned_ratio counts.failures some_

end Fusebox.Tally
