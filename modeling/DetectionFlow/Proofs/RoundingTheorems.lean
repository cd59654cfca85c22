import DetectionFlow.Decimal.Shortest
import Mathlib

/-!
# Rounding to doubles

Which numbers are rounded to a given double. They form an interval around it, `Double.Within`, which
reaches half way to the doubles on both sides; its ends belong to it if the significand is even. That
`Double.nearest` rounds all of the interval to the double is `nearest_of_within`, and for decimals it
is `ofDecimal_of_within`.

Numbers are rational and count units, as doubles do.
-/

namespace DetectionFlow
namespace Double

/-! ## Quotients -/

/-- A quotient is rounded to an integer that is at most a half away, where of two such integers the
even one counts. -/
lemma roundQuotient_eq {n d m : Nat} (hd : 0 < d) (hlow : 2 * (m * d) ≤ 2 * n + d)
    (hhigh : 2 * n ≤ 2 * (m * d) + d) (hlowTie : 2 * (m * d) = 2 * n + d → m % 2 = 0)
    (hhighTie : 2 * n = 2 * (m * d) + d → m % 2 = 0) : roundQuotient n d = m := by
  have hdiv : d * (n / d) + n % d = n := Nat.div_add_mod n d
  have hmod : n % d < d := Nat.mod_lt n hd
  unfold roundQuotient
  dsimp only
  generalize n / d = q at *
  generalize n % d = r at *
  have hcomm : d * q = q * d := Nat.mul_comm d q
  -- The integer is the one below the quotient or the next one.
  have hnear : m = q ∨ m = q + 1 := by
    by_contra hne
    rcases Nat.lt_or_ge m q with hlt | hge
    · have : (m + 1) * d ≤ q * d := Nat.mul_le_mul_right d hlt
      rw [Nat.add_mul] at this
      omega
    · have : (q + 2) * d ≤ m * d := Nat.mul_le_mul_right d (by omega)
      rw [Nat.add_mul] at this
      omega
  rcases hnear with rfl | rfl
  · by_cases hhalf : 2 * r < d
    · rw [if_pos hhalf]
    · rw [if_neg hhalf, if_neg (by omega), hhighTie (by omega), Nat.add_zero]
  · rw [Nat.add_mul] at hlow hhigh hlowTie hhighTie
    rw [if_neg (by omega)]
    by_cases hhalf : d < 2 * r
    · rw [if_pos hhalf]
    · have heven := hlowTie (by omega)
      rw [if_neg hhalf]
      omega

/-! ## The interval of a double -/

/-- How far apart the doubles around a count of units are. -/
def spacing (units : Nat) : Nat := 2 ^ (units.log2 - 52)

lemma spacing_pos (units : Nat) : 0 < spacing units := Nat.two_pow_pos _

/-- One is a power of two, whose exponent is kept apart so that the power is never computed. -/
lemma unit_eq_pow : ∃ k, unit = 2 ^ k ∧ k + 1024 = limitBits :=
  ⟨unitBits, unit_eq, rfl⟩

lemma lt_of_representable {units : Nat} (h : Representable units) : units < 2 ^ limitBits := by
  have hlimit := h.1
  rwa [limitUnits_eq] at hlimit

lemma unit_pos : 0 < unit := by
  obtain ⟨k, hk, -⟩ := unit_eq_pow
  rw [hk]
  exact Nat.two_pow_pos k

/-- The number lies in the interval of the double. -/
structure Within (units : Nat) (q : ℚ) : Prop where
  low : 4 * (units : ℚ) - (Decimal.halfGaps units).1 ≤ 4 * q
  high : 4 * q ≤ 4 * (units : ℚ) + (Decimal.halfGaps units).2
  tie : 4 * q = 4 * (units : ℚ) - (Decimal.halfGaps units).1 ∨
    4 * q = 4 * (units : ℚ) + (Decimal.halfGaps units).2 → units / spacing units % 2 = 0

/-- The double lies in its own interval. -/
lemma within_self (units : Nat) : Within units units := by
  have hpos := spacing_pos units
  have hlow : 0 < (Decimal.halfGaps units).1 := by
    unfold Decimal.halfGaps
    dsimp only
    split
    · exact hpos
    · exact Nat.mul_pos (by omega) hpos
  have hhigh : 0 < (Decimal.halfGaps units).2 := Nat.mul_pos (by omega) hpos
  have hlow' : (0 : ℚ) < (Decimal.halfGaps units).1 := by exact_mod_cast hlow
  have hhigh' : (0 : ℚ) < (Decimal.halfGaps units).2 := by exact_mod_cast hhigh
  refine ⟨by linarith, by linarith, ?_⟩
  rintro (h | h) <;> linarith

/-- The interval in whole numbers, for a fraction. -/
lemma Within.cross {units num den : Nat} (hden : 0 < den) (h : Within units ((num : ℚ) / den)) :
    4 * (units * den) ≤ 4 * num + (Decimal.halfGaps units).1 * den ∧
      4 * num ≤ 4 * (units * den) + (Decimal.halfGaps units).2 * den ∧
      (4 * (units * den) = 4 * num + (Decimal.halfGaps units).1 * den ∨
        4 * num = 4 * (units * den) + (Decimal.halfGaps units).2 * den →
          units / spacing units % 2 = 0) := by
  obtain ⟨hlow, hhigh, htie⟩ := h
  have hden' : (0 : ℚ) < den := by exact_mod_cast hden
  have hcancel : (num : ℚ) / den * den = num := div_mul_cancel₀ _ hden'.ne'
  refine ⟨?_, ?_, ?_⟩
  · have := mul_le_mul_of_nonneg_right hlow hden'.le
    have hq : 4 * ((units : ℚ) * den) ≤ 4 * num + (Decimal.halfGaps units).1 * den := by
      linarith
    exact_mod_cast hq
  · have := mul_le_mul_of_nonneg_right hhigh hden'.le
    have hq : 4 * (num : ℚ) ≤ 4 * (units * den) + (Decimal.halfGaps units).2 * den := by
      linarith
    exact_mod_cast hq
  · rintro (h | h)
    · refine htie (.inl ?_)
      have hq : 4 * ((units : ℚ) * den) = 4 * num + (Decimal.halfGaps units).1 * den := by
        exact_mod_cast h
      field_simp
      linarith
    · refine htie (.inr ?_)
      have hq : 4 * (num : ℚ) = 4 * (units * den) + (Decimal.halfGaps units).2 * den := by
        exact_mod_cast h
      field_simp
      linarith

/-- The interval again, from whole numbers. -/
lemma within_of_cross {units num den : Nat} (hden : 0 < den)
    (hlow : 4 * (units * den) ≤ 4 * num + (Decimal.halfGaps units).1 * den)
    (hhigh : 4 * num ≤ 4 * (units * den) + (Decimal.halfGaps units).2 * den)
    (htie : 4 * (units * den) = 4 * num + (Decimal.halfGaps units).1 * den ∨
      4 * num = 4 * (units * den) + (Decimal.halfGaps units).2 * den →
        units / spacing units % 2 = 0) : Within units ((num : ℚ) / den) := by
  have hden' : (0 : ℚ) < den := by exact_mod_cast hden
  have hlow' : 4 * ((units : ℚ) * den) ≤ 4 * num + (Decimal.halfGaps units).1 * den := by
    exact_mod_cast hlow
  have hhigh' : 4 * (num : ℚ) ≤ 4 * (units * den) + (Decimal.halfGaps units).2 * den := by
    exact_mod_cast hhigh
  refine ⟨?_, ?_, ?_⟩
  · rw [← mul_div_assoc, le_div_iff₀ hden']
    linarith
  · rw [← mul_div_assoc, div_le_iff₀ hden']
    linarith
  · rintro (h | h) <;> rw [← mul_div_assoc, div_eq_iff hden'.ne'] at h <;> refine htie ?_
    · left
      have hq : 4 * ((units : ℚ) * den) = 4 * num + (Decimal.halfGaps units).1 * den := by
        linarith
      exact_mod_cast hq
    · right
      have hq : 4 * (num : ℚ) = 4 * (units * den) + (Decimal.halfGaps units).2 * den := by
        linarith
      exact_mod_cast hq

/-! ## Rounding of the interval -/

lemma eq_mul_spacing {units : Nat} (h : Representable units) :
    units = units / spacing units * spacing units :=
  (Nat.div_mul_cancel (Nat.dvd_of_mod_eq_zero h.2)).symm

/-- The lower gap is the upper one, or half of that below a power of two. -/
lemma halfGaps_low (units : Nat) :
    (Decimal.halfGaps units).1 = 2 * spacing units ∨
      (Decimal.halfGaps units).1 = spacing units ∧ units = spacing units * 2 ^ 52 ∧
        1 < spacing units := by
  unfold Decimal.halfGaps
  dsimp only
  split
  next h => exact .inr ⟨rfl, h⟩
  · exact .inl rfl

/-- The quotient rounded on the grid of the double itself. -/
lemma round_of_same_grid {units num den : Nat} (hden : 0 < den) (hrep : Representable units)
    (h : Within units ((num : ℚ) / den)) :
    roundQuotient num (den * spacing units) = units / spacing units := by
  have hgrid : units / spacing units * (den * spacing units) = units * den := by
    conv_rhs => rw [eq_mul_spacing hrep]
    ring
  obtain ⟨hlow, hhigh, htie⟩ := h.cross hden
  have hgap : (Decimal.halfGaps units).2 = 2 * spacing units := rfl
  have hcomm : den * spacing units = spacing units * den := Nat.mul_comm _ _
  rw [hgap, Nat.mul_assoc] at hhigh htie
  refine roundQuotient_eq (Nat.mul_pos hden (spacing_pos units)) ?_ ?_ ?_ ?_ <;> rw [hgrid, hcomm]
  · rcases halfGaps_low units with hg | ⟨hg, -, -⟩ <;> rw [hg] at hlow
    · rw [Nat.mul_assoc] at hlow
      omega
    · omega
  · omega
  · intro heq
    have hpos : 0 < spacing units * den := Nat.mul_pos (spacing_pos units) hden
    rcases halfGaps_low units with hg | ⟨hg, -, -⟩ <;> rw [hg] at hlow htie
    · rw [Nat.mul_assoc] at htie
      exact htie (.inl (by omega))
    · omega
  · intro heq
    exact htie (.inr (by omega))

/-- Below a power of two the grid is twice as fine. -/
lemma round_of_finer_grid {units num den s : Nat} (hden : 0 < den) (hs : 0 < s)
    (hspacing : spacing units = 2 * s) (hpower : units = spacing units * 2 ^ 52)
    (hbelow : num < units * den) (h : Within units ((num : ℚ) / den)) :
    roundQuotient num (den * s) = units / s := by
  have hunits : units = 2 ^ 53 * s := by
    rw [hpower, hspacing]
    ring
  have hquotient : units / s = 2 ^ 53 := by rw [hunits, Nat.mul_div_cancel _ hs]
  have hgrid : units / s * (den * s) = units * den := by
    rw [hquotient, hunits]
    ring
  obtain ⟨hlow, -, -⟩ := h.cross hden
  have hgap : (Decimal.halfGaps units).1 = 2 * s := by
    rcases halfGaps_low units with hg | ⟨hg, -, -⟩
    · unfold Decimal.halfGaps at hg ⊢
      dsimp only at hg ⊢
      have hcoarse : 1 < 2 ^ (units.log2 - 52) := by
        show 1 < spacing units
        omega
      rw [if_pos ⟨hpower, hcoarse⟩]
      exact hspacing
    · rw [hg, hspacing]
  rw [hgap, Nat.mul_assoc] at hlow
  have hcomm : den * s = s * den := Nat.mul_comm _ _
  have heven : units / s % 2 = 0 := by rw [hquotient]; rfl
  refine roundQuotient_eq (Nat.mul_pos hden hs) ?_ ?_ (fun _ => heven) (fun _ => heven) <;>
    rw [hgrid, hcomm]
  · omega
  · omega

/-- The bits of a quotient. -/
lemma log2_div {num den k : Nat} (hden : 0 < den) (hle : 2 ^ k * den ≤ num)
    (hlt : num < 2 ^ (k + 1) * den) : (num / den).log2 = k := by
  have hlow : 2 ^ k ≤ num / den := (Nat.le_div_iff_mul_le hden).mpr hle
  have hne : num / den ≠ 0 := by
    have := Nat.two_pow_pos k
    omega
  exact (Nat.log2_eq_iff hne).mpr ⟨hlow, (Nat.div_lt_iff_lt_mul hden).mpr hlt⟩

/-- On the finest grid there is nothing but the numbers around zero. -/
lemma spacing_of_finest {units num den : Nat} (hden : 0 < den) (hsmall : units.log2 ≤ 52)
    (hhigh : 4 * num ≤ 4 * (units * den) + 2 * (spacing units * den)) :
    spacing (num / den) = spacing units := by
  have hone : spacing units = 1 := by
    rw [spacing, Nat.sub_eq_zero_of_le hsmall, pow_zero]
  have hunits : units + 1 ≤ 2 ^ 53 :=
    Nat.lt_log2_self.trans_le (Nat.pow_le_pow_right (by omega) (by omega))
  have hscaled := Nat.mul_le_mul_right den hunits
  rw [Nat.add_mul, Nat.one_mul] at hscaled
  rw [hone, Nat.one_mul] at hhigh
  have hquotient : num / den < 2 ^ 53 := (Nat.div_lt_iff_lt_mul hden).mpr (by omega)
  have hlog : (num / den).log2 ≤ 52 := by
    rcases Nat.eq_zero_or_pos (num / den) with hzero | hpos
    · simp [hzero]
    · exact Nat.lt_succ_iff.mp ((Nat.log2_lt hpos.ne').mpr hquotient)
  rw [hone, spacing, Nat.sub_eq_zero_of_le hlog, pow_zero]

section CoarseGrid

variable {units : Nat} (hlarge : 52 < units.log2)

include hlarge

lemma two_pow_log2 : 2 ^ units.log2 = spacing units * 2 ^ 52 := by
  rw [spacing, ← pow_add]
  congr 1
  omega

lemma two_pow_log2_succ : 2 ^ (units.log2 + 1) = spacing units * 2 ^ 53 := by
  rw [pow_succ, two_pow_log2 hlarge]
  ring

/-- Above the finest grid a significand has 53 bits. -/
lemma exists_significand (hpos : 0 < units) (hrep : Representable units) :
    ∃ m, units = m * spacing units ∧ 2 ^ 52 ≤ m ∧ m + 1 ≤ 2 ^ 53 := by
  have hlow : 2 ^ units.log2 ≤ units := Nat.log2_self_le hpos.ne'
  have hhigh : units < 2 ^ (units.log2 + 1) := Nat.lt_log2_self
  rw [two_pow_log2 hlarge] at hlow
  rw [two_pow_log2_succ hlarge] at hhigh
  obtain ⟨m, hm⟩ : ∃ m, units = m * spacing units := ⟨_, eq_mul_spacing hrep⟩
  have hspacing := spacing_pos units
  refine ⟨m, hm, ?_, ?_⟩
  · by_contra hlt
    have := Nat.mul_le_mul_right (spacing units) (show m + 1 ≤ 2 ^ 52 by omega)
    rw [Nat.add_mul] at this
    omega
  · by_contra hge
    have := Nat.mul_le_mul_right (spacing units) (show 2 ^ 53 ≤ m by omega)
    omega

/-- A number of the interval below the power of two that the double has as its first bit. The double is
that power, and the number lies on the finer grid below. -/
lemma finer_of_below {num den : Nat} (hden : 0 < den) (hpos : 0 < units) (hrep : Representable units)
    (hlow : 4 * (units * den) ≤ 4 * num + (Decimal.halfGaps units).1 * den)
    (hbelow : num < 2 ^ units.log2 * den) :
    spacing units = 2 * spacing (num / den) ∧ units = spacing units * 2 ^ 52 ∧
      num < units * den := by
  obtain ⟨m, hm, hmlow, -⟩ := exists_significand hlarge hpos hrep
  have hunits : units * den = m * (spacing units * den) := by
    conv_lhs => rw [hm]
    exact Nat.mul_assoc _ _ _
  have hgrid : 0 < spacing units * den := Nat.mul_pos (spacing_pos units) hden
  have hnum : num < 2 ^ 52 * (spacing units * den) := by
    rwa [two_pow_log2 hlarge, Nat.mul_comm (spacing units), Nat.mul_assoc] at hbelow
  -- The gap below a double is at most the spacing.
  have hgap : 4 * (m * (spacing units * den)) ≤ 4 * num + 2 * (spacing units * den) := by
    rw [hunits] at hlow
    rcases halfGaps_low units with hgap | ⟨hgap, -⟩ <;> rw [hgap] at hlow
    · rwa [Nat.mul_assoc 2] at hlow
    · omega
  have hpower : m = 2 ^ 52 := by
    by_contra hne
    have hbig := Nat.mul_le_mul_right (spacing units * den) (show 2 ^ 52 + 1 ≤ m by omega)
    rw [Nat.add_mul] at hbig
    omega
  have hprev : 2 ^ units.log2 = 2 * 2 ^ (units.log2 - 1) := by
    rw [← pow_succ']
    congr 1
    omega
  have hhalf : 2 * (2 ^ (units.log2 - 1) * den) = 2 ^ 52 * (spacing units * den) := by
    rw [← Nat.mul_assoc, ← hprev, two_pow_log2 hlarge, Nat.mul_comm (spacing units), Nat.mul_assoc]
  have hlog : (num / den).log2 = units.log2 - 1 := by
    refine log2_div hden ?_ ?_
    · rw [hpower] at hgap
      omega
    · rwa [pow_succ', ← hprev]
  refine ⟨?_, ?_, ?_⟩
  · rw [spacing, spacing, hlog, ← pow_succ']
    congr 1
    omega
  · rwa [hpower, Nat.mul_comm] at hm
  · rwa [hunits, hpower]

end CoarseGrid

/-- The grid that a number of the interval is rounded on: the one of the double, or the finer one
below a power of two. -/
lemma spacing_of_within {units num den : Nat} (hden : 0 < den) (hpos : 0 < units)
    (hrep : Representable units) (h : Within units ((num : ℚ) / den)) :
    spacing (num / den) = spacing units ∨
      spacing units = 2 * spacing (num / den) ∧ units = spacing units * 2 ^ 52 ∧
        num < units * den := by
  obtain ⟨hlow, hhigh, -⟩ := h.cross hden
  have hgap : (Decimal.halfGaps units).2 = 2 * spacing units := rfl
  rw [hgap, Nat.mul_assoc] at hhigh
  rcases Nat.lt_or_ge 52 units.log2 with hlarge | hsmall
  · rcases Nat.lt_or_ge num (2 ^ units.log2 * den) with hbelow | habove
    · exact .inr (finer_of_below hlarge hden hpos hrep hlow hbelow)
    · obtain ⟨m, hm, -, hmhigh⟩ := exists_significand hlarge hpos hrep
      have hunits : units * den = m * (spacing units * den) := by
        conv_lhs => rw [hm]
        exact Nat.mul_assoc _ _ _
      have hgrid : 0 < spacing units * den := Nat.mul_pos (spacing_pos units) hden
      have htop := Nat.mul_le_mul_right (spacing units * den) hmhigh
      rw [Nat.add_mul] at htop
      have hlog : (num / den).log2 = units.log2 := by
        refine log2_div hden habove ?_
        rw [two_pow_log2_succ hlarge, Nat.mul_right_comm]
        omega
      exact .inl (by rw [spacing, hlog, spacing])
  · exact .inl (spacing_of_finest hden hsmall hhigh)

/-- All numbers in the interval of a double are rounded to it. -/
theorem nearest_of_within {units num den : Nat} (hden : 0 < den) (hpos : 0 < units)
    (hrep : Representable units) (h : Within units ((num : ℚ) / den)) (negative : Bool) :
    nearest negative num den = finite negative units hrep := by
  have hnearest : nearest negative num den = ofUnits negative
      (roundQuotient num (den * spacing (num / den)) * spacing (num / den)) := rfl
  have hunits : roundQuotient num (den * spacing (num / den)) * spacing (num / den) = units := by
    rcases spacing_of_within hden hpos hrep h with hsame | ⟨hfiner, hpower, hbelow⟩
    · rw [hsame, round_of_same_grid hden hrep h, ← eq_mul_spacing hrep]
    · rw [round_of_finer_grid hden (spacing_pos _) hfiner hpower hbelow h]
      refine Nat.div_mul_cancel ⟨2 ^ 53, ?_⟩
      rw [hpower, hfiner]
      ring
  rw [hnearest, hunits, ofUnits, dif_pos hrep]

/-! ## Decimals -/

lemma spacing_le {units : Nat} (hpos : 0 < units) : spacing units ≤ units :=
  (Nat.pow_le_pow_right (by omega) (by omega)).trans (Nat.log2_self_le hpos.ne')

/-- All of the interval is of the size of the double. -/
lemma Within.bounds {units num den : Nat} (hden : 0 < den) (hpos : 0 < units)
    (h : Within units ((num : ℚ) / den)) :
    units * den ≤ 2 * num ∧ num ≤ 2 * (units * den) := by
  obtain ⟨hlow, hhigh, -⟩ := h.cross hden
  have hspacing := Nat.mul_le_mul_right den (spacing_le hpos)
  have hgap : (Decimal.halfGaps units).2 = 2 * spacing units := rfl
  rw [hgap, Nat.mul_assoc] at hhigh
  refine ⟨?_, by omega⟩
  rcases halfGaps_low units with hg | ⟨hg, -, -⟩ <;> rw [hg] at hlow
  · rw [Nat.mul_assoc] at hlow
    omega
  · omega

/-- The value of a decimal in units. -/
def unitsOf (coefficient : Nat) (exponent : Int) : ℚ := coefficient * 10 ^ exponent * unit

lemma unitsOf_natCast (c n : Nat) : unitsOf c n = ((c * 10 ^ n * unit : Nat) : ℚ) / (1 : Nat) := by
  rw [unitsOf, zpow_natCast]
  generalize unit = w
  push_cast
  ring

lemma unitsOf_neg (c n : Nat) : unitsOf c (-n) = ((c * unit : Nat) : ℚ) / (10 ^ n : Nat) := by
  rw [unitsOf, zpow_neg, zpow_natCast]
  generalize unit = w
  push_cast
  field_simp

/-- A decimal with its power of ten. -/
lemma unitsOf_mul_pow (c k : Nat) (e : Int) : unitsOf (c * 10 ^ k) (e - k) = unitsOf c e := by
  unfold unitsOf
  push_cast
  rw [zpow_sub₀ (by norm_num), zpow_natCast]
  field_simp

/-- The exponents of decimals near a double are not large: no double lies beyond them. -/
lemma exponent_le_of_near {units c n : Nat} (hc : c ≠ 0) (hrep : Representable units)
    (hhigh : c * 10 ^ n * unit ≤ 2 * units) : n ≤ 1100 := by
  by_contra hlarge
  obtain ⟨k, hk, hlimit⟩ := unit_eq_pow
  have hten : 2 ^ (limitBits + 2 - k) ≤ 10 ^ n := by
    refine (Nat.pow_le_pow_right (by omega) (show limitBits + 2 - k ≤ n by omega)).trans ?_
    exact Nat.pow_le_pow_left (by omega) n
  have hscaled := Nat.mul_le_mul_right unit hten
  have hval : 10 ^ n * unit ≤ c * 10 ^ n * unit :=
    Nat.mul_le_mul_right _ (Nat.le_mul_of_pos_left _ (Nat.pos_of_ne_zero hc))
  have hunits : units < 2 ^ limitBits := lt_of_representable hrep
  rw [hk, ← pow_add, Nat.sub_add_cancel (by omega), pow_add] at hscaled
  rw [hk] at hval hhigh
  omega

/-- Nor are they small: no positive double lies below them. -/
lemma exponent_ge_of_near {units c n : Nat} (hpos : 0 < units)
    (hlow : units * 10 ^ n ≤ 2 * (c * unit)) : 3 * n ≤ c.log2 + 1200 := by
  by_contra hsmall
  have hcoefficient : c < 2 ^ (c.log2 + 1) := Nat.lt_log2_self
  obtain ⟨k, hk, hlimit⟩ := unit_eq_pow
  have hbits : k = 1074 := by
    have : limitBits = 2098 := rfl
    omega
  have hten : 2 ^ (2 + (c.log2 + 1 + k)) ≤ 10 ^ n := by
    refine (Nat.pow_le_pow_right (by omega) (show _ ≤ 3 * n by omega)).trans ?_
    rw [pow_mul]
    exact Nat.pow_le_pow_left (by omega) n
  have hval : c * unit < 2 ^ (c.log2 + 1) * unit :=
    Nat.mul_lt_mul_of_pos_right hcoefficient unit_pos
  have hunits := Nat.mul_le_mul_right (10 ^ n) (show 1 ≤ units by omega)
  rw [pow_add 2 2, pow_add 2 (c.log2 + 1), ← hk] at hten
  omega

/-- A decimal in the interval of a double is read as that double. -/
theorem ofDecimal_of_within {units c : Nat} {e : Int} (hpos : 0 < units)
    (hrep : Representable units) (h : Within units (unitsOf c e)) (negative : Bool) :
    ofDecimal negative c e = finite negative units hrep := by
  unfold ofDecimal
  dsimp only
  obtain ⟨n, rfl | rfl⟩ := Int.eq_nat_or_neg e
  · rw [unitsOf_natCast] at h
    obtain ⟨hlow, hhigh⟩ := h.bounds Nat.one_pos hpos
    rw [Nat.mul_one] at hlow hhigh
    have hc : c ≠ 0 := by
      rintro rfl
      omega
    have hexponent := exponent_le_of_near hc hrep hhigh
    rw [if_neg hc, if_pos (Int.natCast_nonneg n), if_neg (by omega), Int.toNat_natCast]
    exact nearest_of_within Nat.one_pos hpos hrep h negative
  · rw [unitsOf_neg] at h
    have hden : 0 < 10 ^ n := Nat.pow_pos (by omega)
    obtain ⟨hlow, -⟩ := h.bounds hden hpos
    have hc : c ≠ 0 := by
      rintro rfl
      have := Nat.mul_pos hpos hden
      omega
    have hexponent := exponent_ge_of_near hpos hlow
    rw [if_neg hc]
    by_cases hn : n = 0
    · subst hn
      simp only [Int.natCast_zero, Int.neg_zero, le_refl, if_true]
      rw [if_neg (by omega)]
      simpa using nearest_of_within hden hpos hrep h negative
    · rw [if_neg (by omega), if_neg (by omega), Int.neg_neg, Int.toNat_natCast]
      exact nearest_of_within hden hpos hrep h negative

/-! ## Integers -/

/-- The integer is the value of a double. -/
def Exact (n : Int) : Prop := Representable (n.natAbs * unit)

lemma representable_mul_two_pow {m k : Nat} (hm : m < 2 ^ 53) (hlimit : m * 2 ^ k < limitUnits) :
    Representable (m * 2 ^ k) := by
  refine ⟨hlimit, ?_⟩
  rcases Nat.eq_zero_or_pos m with rfl | hpos
  · simp
  · have hlog : (m * 2 ^ k).log2 < k + 53 := by
      refine (Nat.log2_lt (Nat.mul_pos hpos (Nat.two_pow_pos k)).ne').mpr ?_
      rw [pow_add, Nat.mul_comm]
      exact Nat.mul_lt_mul_of_pos_left hm (Nat.two_pow_pos k)
    refine Nat.mod_eq_zero_of_dvd (Nat.dvd_mul_left_of_dvd ?_ m)
    exact Nat.pow_dvd_pow 2 (by omega)

/-- Integers of at most 53 bits are values of doubles, and so is the next one. -/
lemma exact_of_le {n : Int} (h : n.natAbs ≤ 2 ^ 53) : Exact n := by
  obtain ⟨k, hk, hbits⟩ := unit_eq_pow
  have hlimit : 2 ^ (53 + k) < limitUnits := by
    rw [limitUnits_eq]
    exact Nat.pow_lt_pow_right (by omega) (by omega)
  rw [Exact, hk]
  rcases Nat.lt_or_eq_of_le h with hlt | heq
  · refine representable_mul_two_pow hlt ?_
    rw [pow_add] at hlimit
    exact (Nat.mul_le_mul_right (2 ^ k) h).trans_lt hlimit
  · rw [heq, ← pow_add, ← Nat.one_mul (2 ^ (53 + k))]
    refine representable_mul_two_pow (by omega) ?_
    rwa [Nat.one_mul]

lemma ofInt?_of_nearest {n : Int} {x : Double}
    (h : nearest (decide (n < 0)) (n.natAbs * unit) 1 = x) (hfinite : x.isFinite = true) :
    ofInt? n = some x := by
  rw [ofInt?, h]
  cases x with
  | finite negative units hrep => rfl
  | _ => simp [isFinite] at hfinite

/-- An integer that is the value of a double is read as it. -/
lemma ofInt?_of_exact {n : Int} (h : Representable (n.natAbs * unit)) :
    ofInt? n = some (finite (decide (n < 0)) (n.natAbs * unit) h) := by
  have hnearest : nearest (decide (n < 0)) (n.natAbs * unit) 1 =
      finite (decide (n < 0)) (n.natAbs * unit) h := by
    rcases Nat.eq_zero_or_pos n.natAbs with hzero | hpos
    · have hround : nearest (decide (n < 0)) (n.natAbs * unit) 1 =
          ofUnits (decide (n < 0)) (n.natAbs * unit) := by
        rw [hzero, Nat.zero_mul, nearest]
        simp [roundQuotient]
      rw [hround, ofUnits, dif_pos h]
    · have hunits : 0 < n.natAbs * unit := Nat.mul_pos hpos unit_pos
      refine nearest_of_within Nat.one_pos hunits h ?_ _
      rw [Nat.cast_one, div_one]
      exact within_self (n.natAbs * unit)
  exact ofInt?_of_nearest hnearest rfl

@[simp] lemma toInt?_finite (n : Int) (h : Representable (n.natAbs * unit)) :
    (finite (decide (n < 0)) (n.natAbs * unit) h).toInt? = some n := by
  rw [toInt?, if_pos (Nat.mul_mod_left _ _), Nat.mul_div_cancel _ unit_pos, signed,
    Option.some.injEq]
  by_cases hneg : n < 0
  · rw [if_pos (by simpa using hneg)]
    omega
  · rw [if_neg (by simpa using hneg)]
    omega

lemma natAbs_signed (negative : Bool) (m : Nat) : (signed negative m).natAbs = m := by
  cases negative <;> simp [signed]

/-- The integer part of a double is the value of a double. -/
lemma representable_truncate {units : Nat} (h : Representable units) :
    Representable (units / unit * unit) := by
  obtain ⟨k, hk, -⟩ := unit_eq_pow
  rw [hk]
  by_cases hlarge : 2 ^ 53 ≤ units / 2 ^ k
  · -- A double so large is an integer.
    have hunits : 2 ^ (53 + k) ≤ units := by
      rw [pow_add]
      exact (Nat.mul_le_mul_right _ hlarge).trans (Nat.div_mul_le_self _ _)
    have hne : units ≠ 0 := by
      rintro rfl
      simp at hlarge
    have hlog : 53 + k ≤ units.log2 := (Nat.le_log2 hne).mpr hunits
    have hdvd : 2 ^ k ∣ units :=
      (Nat.pow_dvd_pow 2 (by omega)).trans (Nat.dvd_of_mod_eq_zero h.2)
    rwa [Nat.div_mul_cancel hdvd]
  · refine representable_mul_two_pow (by omega) ?_
    exact (Nat.div_mul_le_self units (2 ^ k)).trans_lt h.1

/-- An integer that a double equals is the value of a double. -/
lemma exact_of_toInt? {x : Double} {n : Int} (h : x.toInt? = some n) : Exact n := by
  cases x with
  | finite negative units hrep =>
    simp only [toInt?] at h
    split at h
    · obtain rfl := Option.some.inj h
      rw [Exact, natAbs_signed]
      exact representable_truncate hrep
    · simp at h
  | _ => simp [toInt?] at h

end Double
end DetectionFlow
