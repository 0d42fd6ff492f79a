import Rostering.Proofs.Model.Key

/-!
# Cells that are the same

Cells of a column are compared by what they stand for: truth values and whole numbers by what they
count, floats by their number, moments by their instant. One cell can be the same as another of
another kind, and among the cells that are given this is an equivalence, so that the rows of a table
fall into classes by the cell of one column.

Whole numbers and floats make this a question about bits: floats that are one whole number have to
be equal.

## The architecture

* **`unitsOf_injective`** — a float without its sign is given by how often the smallest float goes
  into it.
* **`beq_of_floatToInt?`** — hence floats that are one whole number are equal, zero with both signs.
* **`Value.IsKeyCell.cases`** — a given cell is a text or a day, counts something, or is a fraction,
  and each of these says what the cell is the same as.
* **`Value.IsKeyCell.same_self`**, **`same_symm`**, **`same_trans`** — the equivalence.
-/

namespace Rostering

/-! ## Sizes of floats -/

/-- The smallest float is a half, as often multiplied by itself. -/
def leastExponent : Nat := 1074

/-- The size of a finite float in units of the smallest one, from its exponent and fraction. -/
def unitsOf (biased fraction : Nat) : Nat :=
  if biased = 0 then fraction else (2 ^ 52 + fraction) * 2 ^ (biased - 1)

/-- A float with a larger exponent is larger, whatever the fractions are. -/
theorem unitsOf_lt {b b' f f' : Nat} (hf : f < 2 ^ 52) (hb : b < b') :
    unitsOf b f < unitsOf b' f' := by
  have hleast : 2 ^ 52 * 2 ^ (b' - 1) ≤ unitsOf b' f' := by
    unfold unitsOf
    rw [if_neg (by omega)]
    exact Nat.mul_le_mul_right _ (Nat.le_add_right _ f')
  refine Nat.lt_of_lt_of_le ?_ hleast
  unfold unitsOf
  split
  · exact hf.trans_le (Nat.le_mul_of_pos_right _ (Nat.two_pow_pos _))
  -- one more in the exponent is worth a factor of two, and a mantissa is below that
  · have hpower : 2 ^ (b - 1) * 2 ≤ 2 ^ (b' - 1) := by
      rw [← Nat.pow_succ]
      exact Nat.pow_le_pow_right (by decide) (by omega)
    calc (2 ^ 52 + f) * 2 ^ (b - 1)
        < (2 ^ 52 + 2 ^ 52) * 2 ^ (b - 1) :=
          Nat.mul_lt_mul_of_pos_right (by omega) (Nat.two_pow_pos _)
      _ = 2 ^ 52 * (2 ^ (b - 1) * 2) := by ring
      _ ≤ 2 ^ 52 * 2 ^ (b' - 1) := Nat.mul_le_mul_left _ hpower

/-- Floats of one size have one exponent and one fraction. -/
theorem unitsOf_injective {b b' f f' : Nat} (hf : f < 2 ^ 52) (hf' : f' < 2 ^ 52)
    (h : unitsOf b f = unitsOf b' f') : b = b' ∧ f = f' := by
  rcases Nat.lt_trichotomy b b' with hb | rfl | hb
  · exact absurd h (unitsOf_lt hf hb).ne
  · refine ⟨rfl, ?_⟩
    unfold unitsOf at h
    split at h
    · exact h
    · have hsize := Nat.eq_of_mul_eq_mul_right (Nat.two_pow_pos _) h
      omega
  · exact absurd h (unitsOf_lt hf' hb).ne'

/-- A whole number has the size of the float that it is, and its sign. -/
theorem FloatParts.toInt?_finite {negative : Bool} {mantissa : Nat} {exponent n : Int}
    (h : (FloatParts.finite negative mantissa exponent).toInt? = some n) :
    mantissa * 2 ^ exponent.toNat = n.natAbs * 2 ^ (-exponent).toNat
      ∧ (negative = true → n ≤ 0) ∧ (negative = false → 0 ≤ n) := by
  -- the powers are named, so that no step computes them
  obtain ⟨size, hsize⟩ : ∃ size, mantissa * 2 ^ exponent.toNat = size := ⟨_, rfl⟩
  obtain ⟨d, hd⟩ : ∃ d, 2 ^ (-exponent).toNat = d := ⟨_, rfl⟩
  have hpos : 0 < d := hd ▸ Nat.two_pow_pos _
  unfold FloatParts.toInt? FloatParts.quotient? at h
  simp only [twoTo, Nat.pow_eq, hsize, hd, Option.ite_none_right_eq_some, Option.some.injEq,
    Int.ofNat_eq_natCast] at h
  obtain ⟨hdivides, hn⟩ := h
  have hwhole : n * d = if negative then -(size : Int) else size :=
    hn ▸ Int.ediv_mul_cancel (Int.dvd_of_emod_eq_zero hdivides)
  have hsizes := congrArg Int.natAbs hwhole
  rw [Int.natAbs_mul, Int.natAbs_natCast] at hsizes
  rw [hsize, hd]
  cases negative with
  | true =>
      rw [if_pos rfl] at hwhole hsizes
      rw [Int.natAbs_neg, Int.natAbs_natCast] at hsizes
      refine ⟨hsizes.symm, fun _ => ?_, nofun⟩
      nlinarith
  | false =>
      rw [if_neg Bool.false_ne_true] at hwhole hsizes
      rw [Int.natAbs_natCast] at hsizes
      refine ⟨hsizes.symm, nofun, fun _ => ?_⟩
      nlinarith

/-- The size in units, from the size as a mantissa and an exponent. -/
theorem unitsOf_normal {biased fraction size : Nat} (hbiased : biased ≠ 0)
    (hsize : (2 ^ 52 + fraction) * 2 ^ (Int.ofNat biased - 1075).toNat
      = size * 2 ^ (-(Int.ofNat biased - 1075)).toNat) :
    unitsOf biased fraction = size * 2 ^ leastExponent := by
  -- the exponent is split into its positive and its negative part, of which one is zero
  have hexponents : (Int.ofNat biased - 1075).toNat + leastExponent
      = biased - 1 + (-(Int.ofNat biased - 1075)).toNat := by
    rw [Int.ofNat_eq_natCast, leastExponent]
    omega
  generalize (Int.ofNat biased - 1075).toNat = up at *
  generalize (-(Int.ofNat biased - 1075)).toNat = down at *
  unfold unitsOf
  rw [if_neg hbiased]
  refine Nat.eq_of_mul_eq_mul_right (Nat.two_pow_pos down) ?_
  calc (2 ^ 52 + fraction) * 2 ^ (biased - 1) * 2 ^ down
      = (2 ^ 52 + fraction) * 2 ^ up * 2 ^ leastExponent := by
        rw [Nat.mul_assoc, ← Nat.pow_add, ← hexponents, Nat.pow_add, Nat.mul_assoc]
    _ = size * 2 ^ leastExponent * 2 ^ down := by rw [hsize, Nat.mul_right_comm]

/-- The parts of a float, one case for each way to read its bits. -/
theorem FloatParts.of_cases (x : Float) :
    (FloatParts.of x).quotient? = none
      ∨ (x.toBits.toNat / twoTo 52 % 2048 = 0 ∧ FloatParts.of x
        = .finite (x.toBits.toNat / twoTo 63 == 1) (x.toBits.toNat % twoTo 52) (-1074))
      ∨ (x.toBits.toNat / twoTo 52 % 2048 ≠ 0 ∧ FloatParts.of x
        = .finite (x.toBits.toNat / twoTo 63 == 1) (twoTo 52 + x.toBits.toNat % twoTo 52)
          (Int.ofNat (x.toBits.toNat / twoTo 52 % 2048) - 1075)) := by
  unfold FloatParts.of
  simp only
  by_cases hspecial : x.toBits.toNat / twoTo 52 % 2048 = 2047
  · left
    rw [if_pos hspecial]
    split <;> rfl
  · rw [if_neg hspecial]
    by_cases hzero : x.toBits.toNat / twoTo 52 % 2048 = 0
    · exact Or.inr (Or.inl ⟨hzero, if_pos hzero⟩)
    · exact Or.inr (Or.inr ⟨hzero, if_neg hzero⟩)

/-- What the bits of a float that is a whole number say. The size is counted in units of the
smallest float, where every float is a whole number. -/
theorem bits_of_floatToInt? {x : Float} {n : Int} (hx : floatToInt? x = some n) :
    unitsOf (x.toBits.toNat / twoTo 52 % 2048) (x.toBits.toNat % twoTo 52)
        = n.natAbs * 2 ^ leastExponent
      ∧ (x.toBits.toNat / twoTo 63 = 1 → n ≤ 0) ∧ (x.toBits.toNat / twoTo 63 ≠ 1 → 0 ≤ n) := by
  unfold floatToInt? at hx
  -- not finite, too small for a leading bit, and all the rest
  rcases FloatParts.of_cases x with hparts | ⟨hzero, hparts⟩ | ⟨hnormal, hparts⟩
  · unfold FloatParts.toInt? at hx
    rw [hparts] at hx
    cases hx
  · rw [hparts] at hx
    obtain ⟨hsize, hsign⟩ := FloatParts.toInt?_finite hx
    refine ⟨?_, by simpa using hsign⟩
    unfold unitsOf
    rw [if_pos hzero]
    have hscale : (-(-1074 : Int)).toNat = leastExponent := rfl
    have hwhole : (-1074 : Int).toNat = 0 := rfl
    rwa [hscale, hwhole, Nat.pow_zero, Nat.mul_one] at hsize
  · rw [hparts] at hx
    obtain ⟨hsize, hsign⟩ := FloatParts.toInt?_finite hx
    exact ⟨unitsOf_normal hnormal hsize, by simpa using hsign⟩

/-- The float that is the whole number zero is zero, with one sign or the other. -/
theorem eq_zero_of_floatToInt? {x : Float} (hx : floatToInt? x = some 0) : x = 0 ∨ x = -0 := by
  obtain ⟨hsize, -⟩ := bits_of_floatToInt? hx
  have hnone : unitsOf 0 0 = 0 := rfl
  rw [Int.natAbs_zero, Nat.zero_mul, ← hnone] at hsize
  obtain ⟨hbiased, hfraction⟩ := unitsOf_injective (Nat.mod_lt _ (twoTo_pos 52)) (by decide) hsize
  have hrange := x.toBits.toNat_lt
  simp only [twoTo, Nat.pow_eq, Nat.reducePow] at hbiased hfraction
  -- nothing but the sign is left
  have hbits : x.toBits = 0 ∨ x.toBits = 0x8000000000000000 := by
    simp only [← UInt64.toNat_inj, UInt64.reduceToNat]
    omega
  rw [← Float.ofBits_toBits x]
  rcases hbits with h | h <;> rw [h]
  · left
    decide +kernel
  · right
    decide +kernel

/-- Floats that are one whole number are equal. The bits of such a float are given by its size and
its sign, and only zero has both signs. -/
theorem beq_of_floatToInt? {x y : Float} {n : Int} (hx : floatToInt? x = some n)
    (hy : floatToInt? y = some n) : (x == y) = true := by
  by_cases hn : n = 0
  · subst hn
    rcases eq_zero_of_floatToInt? hx with rfl | rfl <;>
      rcases eq_zero_of_floatToInt? hy with rfl | rfl <;> decide +kernel
  · -- the signs are equal as well
    obtain ⟨hsize, hsign⟩ := bits_of_floatToInt? hx
    obtain ⟨hsize', hsign'⟩ := bits_of_floatToInt? hy
    obtain ⟨hbiased, hfraction⟩ := unitsOf_injective (Nat.mod_lt _ (twoTo_pos 52))
      (Nat.mod_lt _ (twoTo_pos 52)) (hsize.trans hsize'.symm)
    have hrange := x.toBits.toNat_lt
    have hrange' := y.toBits.toNat_lt
    simp only [twoTo, Nat.pow_eq, Nat.reducePow] at hbiased hfraction hsign hsign'
    have hbits : x.toBits = y.toBits := by
      rw [← UInt64.toNat_inj]
      omega
    rw [Float.toBits_inj.mp hbits, Float.beq_self_iff]
    rintro rfl
    have hnone : floatToInt? Float.nan = none := by decide +kernel
    rw [hnone] at hy
    cases hy

/-- Floats that are equal are one whole number, or none. -/
theorem floatToInt?_congr {x y : Float} (h : (x == y) = true) : floatToInt? x = floatToInt? y := by
  obtain ⟨-, -, rfl | ⟨rfl, rfl⟩ | ⟨rfl, rfl⟩⟩ := Float.beq_iff_ne_nan_and_eq.mp h
  · rfl
  · decide +kernel
  · decide +kernel

/-! ## Cells -/

namespace Value

/-- What a number counts; truth values count as zero and one. -/
def countOf? : Value → Option Int
  | .bool b => some (if b then 1 else 0)
  | .int n => some n
  | .float x => floatToInt? x
  | _ => none

/-- The same as a whole number is what counts the same. -/
theorem same_iff_countOf? {u v : Value} {n : Int} (hu : u.countOf? = some n) :
    u.same v = true ↔ v.countOf? = some n := by
  -- the right side, whatever is on the left
  have hint : sameInt n v = true ↔ v.countOf? = some n := by
    cases v with
    | bool b =>
        rw [sameInt, countOf?, beq_iff_eq, Option.some.injEq]
        exact eq_comm
    | int m =>
        rw [sameInt, countOf?, beq_iff_eq, Option.some.injEq]
        exact eq_comm
    | float x => rw [sameInt, countOf?, sameNumber, beq_iff_eq]
    | _ => simp [sameInt, countOf?]
  cases u with
  | bool b =>
      cases hu
      rw [Value.same]
      exact hint
  | int m =>
      cases hu
      rw [Value.same]
      exact hint
  | float x =>
      have hx : floatToInt? x = some n := hu
      cases v with
      | float y =>
          rw [Value.same]
          exact ⟨fun h => (floatToInt?_congr h).symm.trans hx, beq_of_floatToInt? hx⟩
      | bool b =>
          rw [Value.same, sameNumber, countOf?, beq_iff_eq, hx, Option.some.injEq, Option.some.injEq]
          exact eq_comm
      | int m =>
          rw [Value.same, sameNumber, countOf?, beq_iff_eq, hx, Option.some.injEq, Option.some.injEq]
          exact eq_comm
      | _ => simp [Value.same, countOf?]
  | _ => cases hu

/-- The same as a fraction is only itself. -/
theorem same_iff_of_fraction {x : Float} {v : Value} (hx : floatToInt? x = none)
    (hnan : x.isNaN = false) : (Value.float x).same v = true ↔ v = .float x := by
  cases v with
  | float y =>
      rw [Value.same, Value.float.injEq]
      constructor
      · intro h
        -- floats that are equal are one float, but for the two zeros, which are whole
        obtain ⟨-, -, rfl | ⟨rfl, -⟩ | ⟨rfl, -⟩⟩ := Float.beq_iff_ne_nan_and_eq.mp h
        · rfl
        · exact absurd hx (by decide +kernel)
        · exact absurd hx (by decide +kernel)
      · rintro rfl
        rw [Float.isNaN_eq_decide_eq_nan] at hnan
        exact Float.beq_self_iff.mpr (of_decide_eq_false hnan)
  | bool b => simp [Value.same, sameNumber, hx]
  | int m => simp [Value.same, sameNumber, hx]
  | _ => simp [Value.same]

/-- Cells of one value that is not missing. -/
def IsKeyCell : Value → Prop
  | .bool _ | .int _ | .str _ | .day _ => True
  | .float x => x.isNaN = false
  | _ => False

namespace IsKeyCell

variable {u v w : Value}

/-- The three ways in which a cell is compared. -/
theorem cases (hv : v.IsKeyCell) : v.IsMember ∨ (∃ n, v.countOf? = some n)
    ∨ ∃ x, v = .float x ∧ floatToInt? x = none ∧ x.isNaN = false := by
  cases v with
  | str _ | day _ => exact Or.inl trivial
  | bool _ | int _ => exact Or.inr (Or.inl ⟨_, rfl⟩)
  | float x =>
      cases hx : floatToInt? x with
      | none => exact Or.inr (Or.inr ⟨x, rfl, hx, hv⟩)
      | some n => exact Or.inr (Or.inl ⟨n, hx⟩)
  | _ => exact absurd hv id

theorem same_self (hv : v.IsKeyCell) : v.same v = true := by
  rcases hv.cases with hmember | ⟨n, hn⟩ | ⟨x, rfl, hx, hnan⟩
  · exact hmember.same_self
  · exact (same_iff_countOf? hn).mpr hn
  · exact (same_iff_of_fraction hx hnan).mpr rfl

theorem same_symm (hu : u.IsKeyCell) (h : u.same v = true) : v.same u = true := by
  rcases hu.cases with hmember | ⟨n, hn⟩ | ⟨x, rfl, hx, hnan⟩
  · exact (hmember.of_same h).same_symm h
  · exact (same_iff_countOf? ((same_iff_countOf? hn).mp h)).mpr hn
  · have hv := (same_iff_of_fraction hx hnan).mp h
    rw [hv] at h ⊢
    exact h

theorem same_trans (hu : u.IsKeyCell) (huv : u.same v = true) (hvw : v.same w = true) :
    u.same w = true := by
  rcases hu.cases with hmember | ⟨n, hn⟩ | ⟨x, rfl, hx, hnan⟩
  · exact hmember.same_trans huv hvw
  · have hv := (same_iff_countOf? hn).mp huv
    exact (same_iff_countOf? hn).mpr ((same_iff_countOf? hv).mp hvw)
  · rwa [(same_iff_of_fraction hx hnan).mp huv] at hvw

end IsKeyCell

end Value

end Rostering
