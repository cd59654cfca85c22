import DetectionFlow.Proofs.RoundingTheorems

/-!
# Shortest decimals

The decimal that `Decimal.shortest` chooses lies in the interval of its double (`shortest_within`), so
it is read as the double that it was written for. Every candidate is tested for that; what is to be
shown is that some candidate passes, at the latest one of 17 digits (`candidate?_seventeen`), since the
decimals of 17 digits lie closer than the doubles.
-/

namespace DetectionFlow
namespace Decimal

open Double

/-! ## The test of a candidate -/

/-- The denominator of numbers on a grid. -/
def scale (place : Int) : Nat := if 0 ≤ place then 1 else 10 ^ (-place).toNat

lemma scale_pos (place : Int) : 0 < scale place := by
  unfold scale
  split
  · exact Nat.one_pos
  · exact Nat.pow_pos (by omega)

/-- One step of the grid, times the scale. -/
def step (place : Int) : Nat := if 0 ≤ place then unit * 10 ^ place.toNat else unit

lemma step_pos (place : Int) : 0 < step place := by
  unfold step
  split
  · exact Nat.mul_pos unit_pos (Nat.pow_pos (by omega))
  · exact unit_pos

lemma onGrid_eq (units : Nat) (place : Int) :
    onGrid units place = (units * scale place, step place) := by
  unfold onGrid scale step
  split <;> simp

/-- The value of a decimal, by the steps of its grid. -/
lemma unitsOf_eq (c : Nat) (place : Int) :
    unitsOf c place = ((c * step place : Nat) : ℚ) / (scale place : Nat) := by
  by_cases hplace : 0 ≤ place
  · obtain ⟨n, rfl⟩ := Int.eq_ofNat_of_zero_le hplace
    rw [unitsOf_natCast, step, scale, if_pos hplace, if_pos hplace, Int.toNat_natCast,
      Nat.mul_assoc, Nat.mul_comm (10 ^ n)]
  · obtain ⟨n, rfl⟩ : ∃ n : Nat, place = -n := ⟨(-place).toNat, by omega⟩
    rw [unitsOf_neg, step, scale, if_neg hplace, if_neg hplace, Int.neg_neg, Int.toNat_natCast]

/-- A candidate passes exactly if it is between the ends of the interval, or at one that belongs to the
double. -/
lemma readsBack_iff {units c : Nat} {place : Int} (hpos : 0 < units) :
    readsBack units place c = true ↔
      4 * (units * scale place) ≤ 4 * (c * step place) + (halfGaps units).1 * scale place ∧
      4 * (c * step place) ≤ 4 * (units * scale place) + (halfGaps units).2 * scale place ∧
      (4 * (units * scale place) = 4 * (c * step place) + (halfGaps units).1 * scale place ∨
        4 * (c * step place) = 4 * (units * scale place) + (halfGaps units).2 * scale place →
          units / spacing units % 2 = 0) := by
  have hgap : (halfGaps units).1 ≤ 4 * units := by
    have hle := spacing_le hpos
    rcases halfGaps_low units with hg | ⟨hg, -⟩ <;> omega
  have hgap' := Nat.mul_le_mul_right (scale place) hgap
  have hsub : (4 * units - (halfGaps units).1) * scale place =
      4 * (units * scale place) - (halfGaps units).1 * scale place := by
    rw [Nat.sub_mul, Nat.mul_assoc]
  have hadd : (4 * units + (halfGaps units).2) * scale place =
      4 * (units * scale place) + (halfGaps units).2 * scale place := by
    rw [Nat.add_mul, Nat.mul_assoc]
  have hnumber : 4 * c * step place = 4 * (c * step place) := Nat.mul_assoc _ _ _
  have hends : readsBack units place c = if units / spacing units % 2 = 0 then
      decide ((4 * units - (halfGaps units).1) * scale place ≤ 4 * c * step place) &&
        decide (4 * c * step place ≤ (4 * units + (halfGaps units).2) * scale place)
      else decide ((4 * units - (halfGaps units).1) * scale place < 4 * c * step place) &&
        decide (4 * c * step place < (4 * units + (halfGaps units).2) * scale place) := by
    unfold readsBack
    rw [onGrid_eq]
    rfl
  rw [Nat.mul_assoc] at hgap'
  rw [hends, hsub, hadd, hnumber]
  split <;> simp only [Bool.and_eq_true, decide_eq_true_eq] <;> omega

/-- A candidate that passes lies in the interval of the double. -/
lemma within_of_readsBack {units c : Nat} {place : Int} (hpos : 0 < units)
    (h : readsBack units place c = true) : Within units (unitsOf c place) := by
  obtain ⟨hlow, hhigh, htie⟩ := (readsBack_iff hpos).mp h
  rw [unitsOf_eq]
  exact within_of_cross (scale_pos place) hlow hhigh htie

/-- A candidate strictly inside the interval passes. -/
lemma readsBack_of_inside {units c : Nat} {place : Int} (hpos : 0 < units)
    (hlow : 4 * (units * scale place) < 4 * (c * step place) + (halfGaps units).1 * scale place)
    (hhigh : 4 * (c * step place) < 4 * (units * scale place) + (halfGaps units).2 * scale place) :
    readsBack units place c = true :=
  (readsBack_iff hpos).mpr ⟨hlow.le, hhigh.le, by omega⟩

/-! ## Some candidate passes -/

/-- The leading place counts the digits in front of 400 places. -/
lemma le_div_unit {units : Nat} (hpos : 0 < units) : 1 ≤ units * 10 ^ 400 / unit := by
  obtain ⟨k, hk, hbits⟩ := unit_eq_pow
  obtain ⟨m, hm⟩ : ∃ m, m = 400 := ⟨400, rfl⟩
  have hk' : k ≤ 3 * m := by
    have : limitBits = 2098 := rfl
    omega
  rw [Nat.le_div_iff_mul_le unit_pos, Nat.one_mul, hk, ← hm]
  calc 2 ^ k ≤ 2 ^ (3 * m) := Nat.pow_le_pow_right (by omega) hk'
    _ = (2 ^ 3) ^ m := pow_mul 2 3 m
    _ ≤ 10 ^ m := Nat.pow_le_pow_left (by omega) m
    _ ≤ units * 10 ^ m := Nat.le_mul_of_pos_left _ hpos

lemma digitCount_pos (n : Nat) : 0 < digitCount n := Nat.length_toDigits_pos

lemma pow_digitCount_le {n : Nat} (hpos : 0 < n) : 10 ^ (digitCount n - 1) ≤ n := by
  have hcount := digitCount_pos n
  by_contra hlt
  by_cases hlarge : 1 < digitCount n
  · have hfew := (Nat.length_toDigits_le_iff (b := 10) (n := n) (k := digitCount n - 1)
      (by omega) (by omega)).mpr (by omega)
    change digitCount n ≤ _ at hfew
    omega
  · rw [show digitCount n - 1 = 0 by omega, pow_zero] at hlt
    omega

lemma lt_pow_digitCount (n : Nat) : n < 10 ^ digitCount n :=
  (Nat.length_toDigits_le_iff (by omega) (digitCount_pos n)).mp le_rfl

section Grid

variable {units count m d : Nat} {place : Int} (hplace : place = (count : Int) - (m + d + 1))

include hplace

/-- A number of so many digits in front of `m` places is large against the grid `d` places below its
first digit. -/
lemma step_fine_of_count (hcount : 0 < count) (hpow : 10 ^ (count - 1) * unit ≤ units * 10 ^ m) :
    10 ^ d * step place ≤ units * scale place := by
  unfold step scale
  by_cases hsign : 0 ≤ place
  · rw [if_pos hsign, if_pos hsign, Nat.mul_one]
    obtain ⟨n, hn⟩ : ∃ n, count - 1 = n + d + m := ⟨count - 1 - d - m, by omega⟩
    rw [show place.toNat = n by omega]
    rw [hn, pow_add, Nat.mul_right_comm] at hpow
    have hle := Nat.le_of_mul_le_mul_right hpow (Nat.pow_pos (by omega))
    rw [pow_add] at hle
    calc 10 ^ d * (unit * 10 ^ n) = 10 ^ n * 10 ^ d * unit := by
          generalize unit = w
          ring
      _ ≤ units := hle
  · rw [if_neg hsign, if_neg hsign]
    obtain ⟨n, hn⟩ : ∃ n, n + (count - 1) = m + d := ⟨m + d - (count - 1), by omega⟩
    rw [show (-place).toNat = n by omega]
    refine Nat.le_of_mul_le_mul_right (c := 10 ^ (count - 1)) ?_ (Nat.pow_pos (by omega))
    calc 10 ^ d * unit * 10 ^ (count - 1) = 10 ^ d * (10 ^ (count - 1) * unit) := by
          generalize unit = w
          ring
      _ ≤ 10 ^ d * (units * 10 ^ m) := Nat.mul_le_mul_left _ hpow
      _ = units * 10 ^ (m + d) := by ring
      _ = units * 10 ^ n * 10 ^ (count - 1) := by rw [← hn, pow_add, Nat.mul_assoc]

/-- It has no more than `d + 1` digits on that grid. -/
lemma lt_step_of_count (hpow : units * 10 ^ m < 10 ^ count * unit) :
    units * scale place < 10 ^ (d + 1) * step place := by
  unfold step scale
  by_cases hsign : 0 ≤ place
  · rw [if_pos hsign, if_pos hsign, Nat.mul_one]
    obtain ⟨n, hn⟩ : ∃ n, count = n + (d + 1) + m := ⟨count - (d + 1) - m, by omega⟩
    rw [show place.toNat = n by omega]
    rw [hn, pow_add _ _ m, Nat.mul_right_comm] at hpow
    have hlt := Nat.lt_of_mul_lt_mul_right hpow
    calc units < 10 ^ (n + (d + 1)) * unit := hlt
      _ = 10 ^ (d + 1) * (unit * 10 ^ n) := by
          rw [pow_add]
          generalize unit = w
          ring
  · rw [if_neg hsign, if_neg hsign]
    obtain ⟨n, hn⟩ : ∃ n, n + count = m + (d + 1) := ⟨m + (d + 1) - count, by omega⟩
    rw [show (-place).toNat = n by omega]
    refine Nat.lt_of_mul_lt_mul_right (a := 10 ^ count) ?_
    calc units * 10 ^ n * 10 ^ count = 10 ^ (d + 1) * (units * 10 ^ m) := by
          rw [Nat.mul_assoc, ← pow_add, hn, pow_add]
          ring
      _ < 10 ^ (d + 1) * (10 ^ count * unit) :=
          Nat.mul_lt_mul_of_pos_left hpow (Nat.pow_pos (by omega))
      _ = 10 ^ (d + 1) * unit * 10 ^ count := by
          generalize unit = w
          ring

end Grid

/-- The place of the first digit counts the digits in front of 400 places. -/
lemma leadingPlace_bounds {units : Nat} (hpos : 0 < units) :
    ∃ count m : Nat, leadingPlace units = (count : Int) - (m + 1) ∧ 0 < count ∧
      10 ^ (count - 1) * unit ≤ units * 10 ^ m ∧ units * 10 ^ m < 10 ^ count * unit := by
  have hplace := leadingPlace_eq units
  obtain ⟨m, hm⟩ : ∃ m, m = 400 := ⟨400, rfl⟩
  have hone := le_div_unit hpos
  have hhigh := lt_pow_digitCount (units * 10 ^ 400 / unit)
  rw [← hm] at hplace hone hhigh
  have hlow := pow_digitCount_le hone
  rw [Nat.le_div_iff_mul_le unit_pos] at hlow
  rw [Nat.div_lt_iff_lt_mul unit_pos] at hhigh
  exact ⟨_, m, by omega, digitCount_pos _, hlow, hhigh⟩

/-- Seventeen digits lie on a grid that is fine against the number. -/
lemma step_fine {units : Nat} (hpos : 0 < units) :
    10 ^ 16 * step (leadingPlace units - (17 : Nat) + 1) ≤
      units * scale (leadingPlace units - (17 : Nat) + 1) := by
  obtain ⟨count, m, hplace, hcount, hlow, -⟩ := leadingPlace_bounds hpos
  exact step_fine_of_count (d := 16) (by omega) hcount hlow

/-- A double has at most 53 bits. -/
lemma lt_spacing (units : Nat) : units < 2 ^ 53 * spacing units := by
  refine Nat.lt_log2_self.trans_le ?_
  rw [spacing, ← pow_add]
  exact Nat.pow_le_pow_right (by omega) (by omega)

/-- One of the two neighbours on a fine grid passes. -/
lemma readsBack_neighbour {units : Nat} {place : Int} (hpos : 0 < units)
    (hfine : 10 ^ 16 * step place ≤ units * scale place) :
    readsBack units place (units * scale place / step place) = true ∨
      readsBack units place (units * scale place / step place + 1) = true := by
  have hscale := scale_pos place
  have hdiv : step place * (units * scale place / step place) +
      units * scale place % step place = units * scale place := Nat.div_add_mod _ _
  have hmod := Nat.mod_lt (units * scale place) (step_pos place)
  have hbits := Nat.mul_lt_mul_of_pos_right (lt_spacing units) hscale
  rw [Nat.mul_assoc] at hbits
  have hhigh : (halfGaps units).2 * scale place = 2 * (spacing units * scale place) := by
    rw [show (halfGaps units).2 = 2 * spacing units from rfl, Nat.mul_assoc]
  have hbelow : ∀ b, b * step place = step place * b := fun b => Nat.mul_comm _ _
  rcases halfGaps_low units with hgap | ⟨hgap, hpower, -⟩
  · have hlow : (halfGaps units).1 * scale place = 2 * (spacing units * scale place) := by
      rw [hgap, Nat.mul_assoc]
    by_cases hnear : 2 * (units * scale place % step place) < spacing units * scale place
    · left
      refine readsBack_of_inside hpos ?_ ?_ <;> rw [hbelow]
      · omega
      · omega
    · right
      refine readsBack_of_inside hpos ?_ ?_ <;> rw [hbelow, Nat.mul_add, Nat.mul_one]
      · omega
      · omega
  · -- Above a power of two there is room for the upper neighbour in any case.
    have hlow : (halfGaps units).1 * scale place = spacing units * scale place := by rw [hgap]
    have hunits : units * scale place = 2 ^ 52 * (spacing units * scale place) := by
      conv_lhs => rw [hpower]
      ring
    right
    refine readsBack_of_inside hpos ?_ ?_ <;> rw [hbelow, Nat.mul_add, Nat.mul_one]
    · omega
    · omega

/-! ## The choice -/

/-- The rounded quotient is one of the neighbours. -/
lemma readsBack_roundQuotient {units num den : Nat} {place : Int}
    (hbelow : readsBack units place (num / den) = true)
    (habove : readsBack units place (num / den + 1) = true) :
    readsBack units place (roundQuotient num den) = true := by
  have hnear : roundQuotient num den = num / den ∨ roundQuotient num den = num / den + 1 := by
    unfold roundQuotient
    dsimp only
    generalize num / den = q
    generalize num % den = r
    split
    · exact .inl rfl
    · split
      · exact .inr rfl
      · omega
  rcases hnear with h | h <;> rw [h]
  · exact hbelow
  · exact habove

lemma choose?_isSome (place : Int) (below nearer : Nat) (b a : Bool) :
    (choose? place below nearer b a).isSome = (b || a) := by
  cases b <;> cases a <;> rfl

/-- What is chosen passes. -/
lemma of_choose? {P : Decimal → Prop} {place : Int} {below nearer : Nat} {b a : Bool} {d : Decimal}
    (h : choose? place below nearer b a = some d) (hbelow : b = true → P ⟨below, place⟩)
    (habove : a = true → P ⟨below + 1, place⟩)
    (hnearer : b = true → a = true → P ⟨nearer, place⟩) : P d := by
  cases b <;> cases a <;> simp only [choose?, Option.some.injEq, reduceCtorEq] at h <;> subst h
  · exact habove rfl
  · exact hbelow rfl
  · exact hnearer rfl rfl

/-- A candidate lies in the interval. -/
lemma within_of_candidate {units count : Nat} {d : Decimal} (hpos : 0 < units)
    (h : candidate? units count = some d) : Within units (unitsOf d.coefficient d.exponent) := by
  unfold candidate? at h
  dsimp only at h
  generalize leadingPlace units - (count : Int) + 1 = place at h
  refine of_choose? (P := fun d => Within units (unitsOf d.coefficient d.exponent)) h ?_ ?_ ?_
  · exact within_of_readsBack hpos
  · exact within_of_readsBack hpos
  · intro hbelow habove
    exact within_of_readsBack hpos (readsBack_roundQuotient hbelow habove)

lemma candidate?_isSome {units count : Nat} {place : Int}
    (hplace : leadingPlace units - (count : Int) + 1 = place) :
    (candidate? units count).isSome =
      (readsBack units place (units * scale place / step place) ||
        readsBack units place (units * scale place / step place + 1)) := by
  unfold candidate?
  dsimp only
  rw [hplace, choose?_isSome, onGrid_eq]

/-- Seventeen digits suffice. -/
lemma candidate?_seventeen {units : Nat} (hpos : 0 < units) :
    (candidate? units 17).isSome = true := by
  rw [candidate?_isSome rfl, Bool.or_eq_true]
  exact readsBack_neighbour hpos (step_fine hpos)

/-- The decimal written for a double is read as that double. -/
theorem shortest_within {units : Nat} (hpos : 0 < units) :
    Within units (unitsOf (shortest units).coefficient (shortest units).exponent) := by
  unfold shortest
  cases hfound : (List.range 17).findSome? fun n => candidate? units (n + 1) with
  | none =>
    have hnone := List.findSome?_eq_none_iff.mp hfound 16 (by simp)
    have hsome := candidate?_seventeen hpos
    rw [hnone] at hsome
    cases hsome
  | some d =>
    obtain ⟨n, -, hn⟩ := List.exists_of_findSome?_eq_some hfound
    exact within_of_candidate hpos hn

end Decimal
end DetectionFlow
