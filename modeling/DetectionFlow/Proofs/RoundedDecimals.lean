import DetectionFlow.Proofs.ShortestTheorems

/-!
# What decimals are rounded to

The double nearest to a decimal depends on its value alone (`Double.ofDecimal_congr`), and the decimals that
are rounded to a double are those of its interval (`Double.within_of_ofDecimal`). Of the decimals of six
significant digits, the one nearest to a double is rounded to the double if any is
(`Decimal.within_significant`).
-/

namespace DetectionFlow

open Decimal

namespace Double

/-! ## Quotients -/

lemma roundQuotient_le {n d t : Nat} (hd : 0 < d) (h : n ≤ t * d) : roundQuotient n d ≤ t := by
  have hdiv : d * (n / d) + n % d = n := Nat.div_add_mod n d
  have hle : n / d ≤ t := Nat.div_le_of_le_mul (Nat.mul_comm t d ▸ h)
  have hcomm : d * (n / d) = n / d * d := Nat.mul_comm _ _
  unfold roundQuotient
  dsimp only
  generalize n / d = q at *
  generalize n % d = r at *
  rcases Nat.lt_or_eq_of_le hle with hlt | rfl
  · split
    · exact hle
    · split
      · exact hlt
      · omega
  · rw [if_pos (by omega)]

lemma le_roundQuotient {n d t : Nat} (hd : 0 < d) (h : t * d ≤ n) : t ≤ roundQuotient n d := by
  have hle : t ≤ n / d := (Nat.le_div_iff_mul_le hd).mpr h
  unfold roundQuotient
  dsimp only
  split
  · exact hle
  · split <;> omega

/-- The rounded quotient is at most a half away, and even if it is a half away. -/
lemma roundQuotient_near {n d : Nat} (hd : 0 < d) :
    2 * (roundQuotient n d * d) ≤ 2 * n + d ∧ 2 * n ≤ 2 * (roundQuotient n d * d) + d ∧
      (2 * (roundQuotient n d * d) = 2 * n + d ∨ 2 * n = 2 * (roundQuotient n d * d) + d →
        roundQuotient n d % 2 = 0) := by
  have hdiv : n / d * d + n % d = n := Nat.div_add_mod' n d
  have hmod : n % d < d := Nat.mod_lt n hd
  unfold roundQuotient
  dsimp only
  generalize n / d = q at *
  generalize n % d = r at *
  split
  · omega
  · split
    · rw [Nat.add_mul]
      omega
    · rcases Nat.mod_two_eq_zero_or_one q with heven | hodd
      · rw [heven, Nat.add_zero]
        omega
      · rw [hodd, Nat.add_mul]
        omega

/-- What is less than a half above an integer is not rounded to more. -/
lemma roundQuotient_le_of_lt {n d t : Nat} (hd : 0 < d) (h : 2 * n < (2 * t + 1) * d) :
    roundQuotient n d ≤ t := by
  obtain ⟨hlow, -, -⟩ := roundQuotient_near (n := n) hd
  rw [Nat.add_mul, Nat.mul_assoc] at h
  refine Nat.lt_succ_iff.mp (Nat.lt_of_mul_lt_mul_right (a := d) ?_)
  rw [Nat.succ_mul]
  omega

/-- If some integer is so near to a quotient, the rounded quotient is. -/
lemma roundQuotient_nearest {n d k b : Nat} (hd : 0 < d) (hlow : 2 * n ≤ 2 * (k * d) + b)
    (hhigh : 2 * (k * d) ≤ 2 * n + b) :
    2 * n ≤ 2 * (roundQuotient n d * d) + b ∧ 2 * (roundQuotient n d * d) ≤ 2 * n + b := by
  obtain ⟨hnearLow, hnearHigh, -⟩ := roundQuotient_near (n := n) hd
  generalize roundQuotient n d = m at *
  rcases lt_trichotomy k m with hlt | rfl | hgt
  · have hnext := Nat.mul_le_mul_right d (show k + 1 ≤ m from hlt)
    rw [Nat.add_mul] at hnext
    omega
  · exact ⟨hlow, hhigh⟩
  · have hnext := Nat.mul_le_mul_right d (show m + 1 ≤ k from hgt)
    rw [Nat.add_mul] at hnext
    omega

lemma roundQuotient_mul_right {n d k : Nat} (hk : 0 < k) :
    roundQuotient (n * k) (d * k) = roundQuotient n d := by
  have hlow : 2 * (n % d * k) < d * k ↔ 2 * (n % d) < d := by
    rw [← Nat.mul_assoc, Nat.mul_lt_mul_right hk]
  have hhigh : d * k < 2 * (n % d * k) ↔ d < 2 * (n % d) := by
    rw [← Nat.mul_assoc, Nat.mul_lt_mul_right hk]
  unfold roundQuotient
  simp only [Nat.mul_div_mul_right _ _ hk, Nat.mul_mod_mul_right, hlow, hhigh]

/-! ## The nearest double -/

lemma nearest_mul_right {num den k : Nat} (hk : 0 < k) (negative : Bool) :
    nearest negative (num * k) (den * k) = nearest negative num den := by
  unfold nearest
  simp only [Nat.mul_div_mul_right _ _ hk, Nat.mul_right_comm den k, roundQuotient_mul_right hk]

/-- The nearest double depends on the value of the fraction alone. -/
lemma nearest_congr {num den num' den' : Nat} (hden : 0 < den) (hden' : 0 < den')
    (h : num * den' = num' * den) (negative : Bool) :
    nearest negative num den = nearest negative num' den' := by
  rw [← nearest_mul_right hden', ← @nearest_mul_right num' den' den hden, h, Nat.mul_comm den']

lemma nearest_eq (negative : Bool) (num den : Nat) : nearest negative num den =
    ofUnits negative (roundQuotient num (den * spacing (num / den)) * spacing (num / den)) := rfl

/-- The rounded quotient has at most 53 bits, or is the power of two behind them. -/
lemma roundQuotient_spacing_le {num den : Nat} (hden : 0 < den) :
    roundQuotient num (den * spacing (num / den)) ≤ 2 ^ 53 := by
  refine roundQuotient_le (Nat.mul_pos hden (spacing_pos _)) ?_
  have hlt := Nat.lt_mul_of_div_lt (lt_spacing (num / den)) hden
  calc num ≤ 2 ^ 53 * spacing (num / den) * den := hlt.le
    _ = 2 ^ 53 * (den * spacing (num / den)) := by ring

/-- What is up to a double is not rounded to more than the double. -/
lemma nearest_le {num den u : Nat} (hden : 0 < den) (hu : Representable u) (h : num ≤ u * den)
    (negative : Bool) :
    ∃ units, ∃ hrep : Representable units, units ≤ u ∧
      nearest negative num den = finite negative units hrep := by
  have hdiv : spacing (num / den) ∣ u := by
    refine (Nat.pow_dvd_pow 2 ?_).trans (Nat.dvd_of_mod_eq_zero hu.2)
    have hle : num / den ≤ u := Nat.div_le_of_le_mul (Nat.mul_comm _ den ▸ h)
    rcases Nat.eq_zero_or_pos (num / den) with hzero | hpos
    · simp [hzero]
    · have hlog := (Nat.le_log2 (by omega)).mpr ((Nat.log2_self_le hpos.ne').trans hle)
      omega
  obtain ⟨t, ht⟩ := hdiv
  have hround : roundQuotient num (den * spacing (num / den)) ≤ t := by
    refine roundQuotient_le (Nat.mul_pos hden (spacing_pos _)) (h.trans_eq ?_)
    conv_lhs => rw [ht]
    ring
  have hle : roundQuotient num (den * spacing (num / den)) * spacing (num / den) ≤ u := by
    calc roundQuotient num (den * spacing (num / den)) * spacing (num / den)
        ≤ t * spacing (num / den) := Nat.mul_le_mul_right _ hround
      _ = u := by rw [Nat.mul_comm]; exact ht.symm
  have hrep : Representable (roundQuotient num (den * spacing (num / den)) * spacing (num / den)) := by
    rcases Nat.lt_or_eq_of_le (@roundQuotient_spacing_le num den hden) with hlt | heq
    · exact representable_mul_two_pow hlt (hle.trans_lt hu.1)
    · have hpower : 2 ^ 53 * spacing (num / den) = 1 * 2 ^ (53 + ((num / den).log2 - 52)) := by
        rw [Nat.one_mul, pow_add, spacing]
      rw [heq] at hle ⊢
      rw [hpower] at hle ⊢
      exact representable_mul_two_pow (by omega) (hle.trans_lt hu.1)
  refine ⟨_, hrep, hle, ?_⟩
  rw [nearest_eq, ofUnits, dif_pos hrep]

/-- From the limit on everything is rounded to infinity. -/
lemma nearest_of_large {num den : Nat} (hden : 0 < den) (h : limitUnits * den ≤ num)
    (negative : Bool) : nearest negative num den = infinity negative := by
  have hquotient : limitUnits ≤ num / den := (Nat.le_div_iff_mul_le hden).mpr h
  rw [limitUnits_eq] at hquotient
  have hne : num / den ≠ 0 := by
    have := Nat.two_pow_pos limitBits
    omega
  have hlog : limitBits ≤ (num / den).log2 := (Nat.le_log2 hne).mpr hquotient
  have hlarge : 52 < (num / den).log2 := by
    have : limitBits = 2098 := rfl
    omega
  have hpower := two_pow_log2 hlarge
  have hround : 2 ^ 52 ≤ roundQuotient num (den * spacing (num / den)) := by
    refine le_roundQuotient (Nat.mul_pos hden (spacing_pos _)) ?_
    calc 2 ^ 52 * (den * spacing (num / den)) = spacing (num / den) * 2 ^ 52 * den := by ring
      _ = 2 ^ (num / den).log2 * den := by rw [hpower]
      _ ≤ num / den * den := Nat.mul_le_mul_right _ (Nat.log2_self_le hne)
      _ ≤ num := Nat.div_mul_le_self _ _
  have hbeyond : limitUnits ≤ roundQuotient num (den * spacing (num / den)) * spacing (num / den) := by
    rw [limitUnits_eq]
    calc 2 ^ limitBits ≤ 2 ^ (num / den).log2 := Nat.pow_le_pow_right (by omega) hlog
      _ = 2 ^ 52 * spacing (num / den) := by rw [hpower, Nat.mul_comm]
      _ ≤ _ := Nat.mul_le_mul_right _ hround
  rw [nearest_eq, ofUnits, dif_neg fun hrep => absurd hrep.1 (by omega)]

/-- What is less than a half unit is rounded to zero. -/
lemma nearest_of_small {num den : Nat} (h : 2 * num < den) (negative : Bool) :
    nearest negative num den = ofUnits negative 0 := by
  have hquotient : num / den = 0 := Nat.div_eq_of_lt (by omega)
  have hspacing : spacing 0 = 1 := by simp [spacing]
  have hround : roundQuotient num den = 0 := by
    refine roundQuotient_eq (by omega) ?_ ?_ ?_ ?_ <;> omega
  rw [nearest_eq, hquotient, hspacing, Nat.mul_one, Nat.mul_one, hround]

/-! ## Decimals -/

lemma ten_pow_ge (n : Nat) : 2 ^ (3 * n) ≤ 10 ^ n := by
  rw [pow_mul]
  exact Nat.pow_le_pow_left (by omega) n

/-- The double of a decimal is the one nearest to it, and the shortcuts for large and small exponents make
no difference. -/
lemma ofDecimal_eq_nearest (negative : Bool) (c : Nat) (e : Int) :
    ofDecimal negative c e = nearest negative (c * step e) (scale e) := by
  obtain ⟨k, hk, hbits⟩ := unit_eq_pow
  have hlimit : limitBits = 2098 := rfl
  unfold ofDecimal step scale
  dsimp only
  by_cases hc : c = 0
  · rw [if_pos hc, hc, Nat.zero_mul]
    refine (nearest_of_small ?_ negative).symm
    exact scale_pos e
  · rw [if_neg hc]
    by_cases he : 0 ≤ e
    · rw [if_pos he, if_pos he, if_pos he]
      split
      next hlarge =>
        refine (nearest_of_large Nat.one_pos ?_ negative).symm
        have hten : 2 ^ (limitBits - k) ≤ 10 ^ e.toNat :=
          (Nat.pow_le_pow_right (by omega) (by omega)).trans (ten_pow_ge e.toNat)
        rw [Nat.mul_one, limitUnits_eq]
        calc 2 ^ limitBits = 2 ^ k * 2 ^ (limitBits - k) := by
              rw [← pow_add]
              congr 1
              omega
          _ ≤ unit * 10 ^ e.toNat := by rw [hk]; exact Nat.mul_le_mul_left _ hten
          _ ≤ c * (unit * 10 ^ e.toNat) := Nat.le_mul_of_pos_left _ (Nat.pos_of_ne_zero hc)
      next => rw [Nat.mul_assoc, Nat.mul_comm (10 ^ e.toNat)]
    · rw [if_neg he, if_neg he, if_neg he]
      split
      next hsmall =>
        refine (nearest_of_small ?_ negative).symm
        have hcoefficient : c < 2 ^ (c.log2 + 1) := Nat.lt_log2_self
        have hten : 2 ^ (1 + (c.log2 + 1) + k) ≤ 10 ^ (-e).toNat :=
          (Nat.pow_le_pow_right (by omega) (by omega)).trans (ten_pow_ge _)
        refine Nat.lt_of_lt_of_le ?_ hten
        rw [hk, pow_add, pow_add, pow_one, ← Nat.mul_assoc]
        exact Nat.mul_lt_mul_of_pos_right (by omega) (Nat.two_pow_pos k)
      next => rfl

/-- The double of a decimal depends on its value alone. -/
theorem ofDecimal_congr {c c' : Nat} {e e' : Int} (h : unitsOf c e = unitsOf c' e')
    (negative : Bool) : ofDecimal negative c e = ofDecimal negative c' e' := by
  have hscale := scale_pos e
  have hscale' := scale_pos e'
  rw [unitsOf_eq, unitsOf_eq, div_eq_div_iff (by exact_mod_cast hscale.ne')
    (by exact_mod_cast hscale'.ne')] at h
  rw [ofDecimal_eq_nearest, ofDecimal_eq_nearest]
  exact nearest_congr hscale hscale' (by exact_mod_cast h) negative

/-! ## The interval of a rounded number -/

section Rounded

variable {num den m k : Nat}

/-- A quotient above the finest grid is at least the power of two that its first bit stands for. -/
lemma pow_mul_le (hk : (num / den).log2 - 52 = k) (hcoarse : 0 < k) :
    2 ^ 52 * 2 ^ k * den ≤ num := by
  have hne : num / den ≠ 0 := by
    intro hzero
    rw [hzero, Nat.log2_zero] at hk
    omega
  calc 2 ^ 52 * 2 ^ k * den = 2 ^ (num / den).log2 * den := by
        rw [← pow_add]
        congr 2
        omega
    _ ≤ num / den * den := Nat.mul_le_mul_right _ (Nat.log2_self_le hne)
    _ ≤ num := Nat.div_mul_le_self _ _

/-- The spacing around the nearest double is the one that was rounded with, or twice as wide if the double
is a power of two and lies above the quotient. -/
lemma spacing_rounded (hden : 0 < den) (hpos : 0 < m)
    (hm : roundQuotient num (den * spacing (num / den)) = m) :
    spacing (m * spacing (num / den)) = spacing (num / den) ∧
        (m = 2 ^ 52 → 1 < spacing (num / den) → m * spacing (num / den) * den ≤ num) ∨
      m = 2 ^ 53 ∧ spacing (m * spacing (num / den)) = 2 * spacing (num / den) := by
  have hgrid : 0 < den * spacing (num / den) := Nat.mul_pos hden (spacing_pos _)
  have hle : m ≤ 2 ^ 53 := hm ▸ roundQuotient_spacing_le hden
  obtain ⟨k, hk⟩ : ∃ k, (num / den).log2 - 52 = k := ⟨_, rfl⟩
  have hspacing : spacing (num / den) = 2 ^ k := by rw [spacing, hk]
  have hpower : 0 < k → 2 ^ 52 * 2 ^ k * den ≤ num := pow_mul_le hk
  rw [hspacing] at hm hgrid ⊢
  rcases Nat.lt_or_eq_of_le hle with hlt | rfl
  · refine .inl ⟨?_, ?_⟩
    · have hlog : (m * 2 ^ k).log2 - 52 = k := by
        have hunits : 0 < m * 2 ^ k := Nat.mul_pos hpos (Nat.two_pow_pos k)
        have hhigh : (m * 2 ^ k).log2 < 53 + k := by
          refine (Nat.log2_lt hunits.ne').mpr ?_
          rw [pow_add]
          exact Nat.mul_lt_mul_of_pos_right hlt (Nat.two_pow_pos k)
        rcases Nat.eq_zero_or_pos k with rfl | hcoarse
        · omega
        · have hlow : 2 ^ 52 ≤ m := by
            rw [← hm]
            refine le_roundQuotient hgrid ((hpower hcoarse).trans_eq' ?_)
            ring
          have : 52 + k ≤ (m * 2 ^ k).log2 := by
            refine (Nat.le_log2 hunits.ne').mpr ?_
            rw [pow_add]
            exact Nat.mul_le_mul_right _ hlow
          omega
      rw [spacing, hlog]
    · rintro rfl hcoarse
      refine hpower (Nat.pos_of_ne_zero ?_)
      rintro rfl
      omega
  · refine .inr ⟨rfl, ?_⟩
    rw [← pow_add, spacing, Nat.log2_two_pow, ← pow_succ']
    congr 1
    omega

section Near

variable {s : Nat} (hden : 0 < den) (hs : 0 < s) (hlow : 2 * (m * s * den) ≤ 2 * num + s * den)
  (hup : 2 * num ≤ 2 * (m * s * den) + s * den)

include hden hs hlow hup

/-- What is at most half a spacing away from a double lies in its interval. Below a power of two the interval
is shorter, and there is nothing below it. -/
lemma within_of_near (heven : 2 * (m * s * den) = 2 * num + s * den ∨
      2 * num = 2 * (m * s * den) + s * den → m % 2 = 0)
    (hspacing : spacing (m * s) = s) (habove : m = 2 ^ 52 → 1 < s → m * s * den ≤ num) :
    Within (m * s) ((num : ℚ) / den) := by
  have hcellPos : 0 < s * den := Nat.mul_pos hs hden
  have hquotient : m * s / spacing (m * s) = m := by rw [hspacing, Nat.mul_div_cancel _ hs]
  have hhigh : (halfGaps (m * s)).2 * den = 2 * (s * den) := by
    rw [show (halfGaps (m * s)).2 = 2 * spacing (m * s) from rfl, hspacing, Nat.mul_assoc]
  have hgap := halfGaps_low (m * s)
  rw [hspacing] at hgap
  rcases hgap with hgap | ⟨hgap, hpower, hcoarse⟩
  · have hgap' : (halfGaps (m * s)).1 * den = 2 * (s * den) := by rw [hgap, Nat.mul_assoc]
    refine within_of_cross hden (by omega) (by omega) ?_
    rw [hquotient]
    exact fun htie => heven (by omega)
  · have hgap' : (halfGaps (m * s)).1 * den = s * den := by rw [hgap]
    have hm : m = 2 ^ 52 := Nat.eq_of_mul_eq_mul_right hs (hpower.trans (Nat.mul_comm _ _))
    have hle := habove hm hcoarse
    refine within_of_cross hden (by omega) (by omega) ?_
    rw [hquotient]
    exact fun htie => heven (by omega)

/-- At a power of two above the grid the interval is wider than what is rounded to it. -/
lemma within_of_near_power (hpower : m = 2 ^ 53) (hspacing : spacing (m * s) = 2 * s) :
    Within (m * s) ((num : ℚ) / den) := by
  have hcellPos : 0 < s * den := Nat.mul_pos hs hden
  have hquotient : m * s / spacing (m * s) = 2 ^ 52 := by
    rw [hspacing, hpower, show 2 ^ 53 * s = 2 ^ 52 * (2 * s) by ring,
      Nat.mul_div_cancel _ (by omega)]
  have hhigh : (halfGaps (m * s)).2 * den = 4 * (s * den) := by
    rw [show (halfGaps (m * s)).2 = 2 * spacing (m * s) from rfl, hspacing]
    ring
  have hgap : 2 * (s * den) ≤ (halfGaps (m * s)).1 * den := by
    have hgap := halfGaps_low (m * s)
    rw [hspacing] at hgap
    rw [← Nat.mul_assoc]
    exact Nat.mul_le_mul_right den (by omega)
  refine within_of_cross hden (by omega) (by omega) ?_
  rw [hquotient]
  exact fun _ => rfl

end Near

/-- A fraction lies in the interval of the double nearest to it. -/
theorem within_of_nearest {units : Nat} {negative negative' : Bool} {hrep : Representable units}
    (hden : 0 < den) (hpos : 0 < units)
    (h : nearest negative num den = finite negative' units hrep) :
    negative = negative' ∧ Within units ((num : ℚ) / den) := by
  obtain ⟨m, hm⟩ : ∃ m, roundQuotient num (den * spacing (num / den)) = m := ⟨_, rfl⟩
  obtain ⟨s, hs⟩ : ∃ s, spacing (num / den) = s := ⟨_, rfl⟩
  rw [nearest_eq, hm, hs, ofUnits] at h
  split at h
  next =>
    obtain ⟨rfl, rfl⟩ := Double.finite.inj h
    have hmpos : 0 < m := Nat.pos_of_mul_pos_right hpos
    have hspos : 0 < s := hs ▸ spacing_pos _
    have hnear := roundQuotient_near (n := num) (Nat.mul_pos hden (spacing_pos (num / den)))
    have hrounded := spacing_rounded hden hmpos hm
    rw [hs] at hrounded
    rw [hm, hs, show m * (den * s) = m * s * den by ring, Nat.mul_comm den s] at hnear
    obtain ⟨hlow, hup, heven⟩ := hnear
    refine ⟨rfl, ?_⟩
    rcases hrounded with ⟨hsame, habove⟩ | ⟨hpower, hwide⟩
    · exact within_of_near hden hspos hlow hup heven hsame habove
    · exact within_of_near_power hden hspos hlow hup hpower hwide
  next => cases h

end Rounded

/-- A decimal lies in the interval of the double that it is read as. -/
theorem within_of_ofDecimal {c units : Nat} {e : Int} {negative negative' : Bool}
    {hrep : Representable units} (hpos : 0 < units)
    (h : ofDecimal negative c e = finite negative' units hrep) :
    negative = negative' ∧ Within units (unitsOf c e) := by
  rw [ofDecimal_eq_nearest] at h
  rw [unitsOf_eq]
  exact within_of_nearest (scale_pos e) hpos h

/-- What lies between a number of the interval and the double above it is in the interval too. -/
lemma Within.raise {units : Nat} {v w : ℚ} (h : Within units v) (hvw : v ≤ w) (hw : w ≤ units) :
    Within units w := by
  have hhigh : (0 : ℚ) < (halfGaps units).2 := by
    have hpos : 0 < (halfGaps units).2 := Nat.mul_pos (by omega) (spacing_pos units)
    exact_mod_cast hpos
  refine ⟨by linarith [h.low], by linarith, ?_⟩
  rintro (htie | htie)
  · exact h.tie (.inl (by linarith [h.low]))
  · linarith

end Double

namespace Decimal

open Double

variable {units count : Nat}

/-- The significant digits on their grid. The definition is opened as a function, since at arguments its
match would compute the place of the first digit. -/
lemma significant_eq {place : Int} (hplace : leadingPlace units - (count : Int) + 1 = place) :
    significant units count = ⟨roundQuotient (units * scale place) (step place), place⟩ := by
  obtain ⟨f, hf, hvalue⟩ : ∃ f : Nat → Nat → Decimal, significant = f ∧
      f units count = ⟨roundQuotient (units * scale place) (step place), place⟩ := by
    refine ⟨_, by delta significant; rfl, ?_⟩
    rw [hplace]
    dsimp only
    rw [onGrid_eq]
  rw [hf, hvalue]

/-- On the grid of so many significant digits the number has so many. -/
lemma significant_bounds (hpos : 0 < units) (hcount : 0 < count) :
    10 ^ (count - 1) * step (leadingPlace units - count + 1) ≤
        units * scale (leadingPlace units - count + 1) ∧
      units * scale (leadingPlace units - count + 1) <
        10 ^ count * step (leadingPlace units - count + 1) := by
  obtain ⟨digits, m, hplace, hdigits, hlow, hhigh⟩ := leadingPlace_bounds hpos
  obtain ⟨d, rfl⟩ : ∃ d, count = d + 1 := ⟨count - 1, by omega⟩
  have hgrid : leadingPlace units - ((d + 1 : Nat) : Int) + 1 = (digits : Int) - (m + d + 1) := by
    rw [hplace]
    push_cast
    omega
  exact ⟨step_fine_of_count hgrid hdigits hlow, lt_step_of_count hgrid hhigh⟩

lemma significant_coefficient_pos (hpos : 0 < units) (hcount : 0 < count) :
    0 < (significant units count).coefficient := by
  obtain ⟨place, hplace⟩ : ∃ place, leadingPlace units - (count : Int) + 1 = place := ⟨_, rfl⟩
  obtain ⟨hlow, -⟩ := significant_bounds hpos hcount
  rw [hplace] at hlow
  rw [significant_eq hplace]
  exact (Nat.pow_pos (by omega)).trans_le (le_roundQuotient (step_pos place) hlow)

lemma unitsOf_mono {c c' : Nat} {e e' : Int} (hc : c ≤ c') (he : e ≤ e') :
    unitsOf c e ≤ unitsOf c' e' := by
  have hc' : (c : ℚ) ≤ c' := by exact_mod_cast hc
  have hten : (10 : ℚ) ^ e ≤ 10 ^ e' := zpow_le_zpow_right₀ (by norm_num) he
  have hunit : (0 : ℚ) ≤ unit := Nat.cast_nonneg _
  unfold unitsOf
  gcongr

/-- If a decimal of so many digits lies in the interval of a double, one on the grid of its significant
digits does. -/
lemma exists_within_grid (hpos : 0 < units) (hcount : 0 < count) {c : Nat} {e : Int}
    (hc : c < 10 ^ count) (h : Within units (unitsOf c e)) :
    ∃ k, Within units (unitsOf k (leadingPlace units - count + 1)) := by
  obtain ⟨hlow, -⟩ := significant_bounds hpos hcount
  generalize leadingPlace units - (count : Int) + 1 = place at *
  by_cases he : place ≤ e
  · refine ⟨c * 10 ^ (e - place).toNat, ?_⟩
    have hvalue := unitsOf_mul_pow c (e - place).toNat e
    rw [Int.toNat_of_nonneg (by omega), Int.sub_sub_self] at hvalue
    rwa [hvalue]
  · -- The decimal is below all numbers with so many digits in front of the grid, and they reach the double.
    refine ⟨10 ^ (count - 1), h.raise ?_ ?_⟩
    · calc unitsOf c e ≤ unitsOf (10 ^ (count - 1) * 10 ^ 1) (place - (1 : Nat)) := by
            refine unitsOf_mono ?_ (by push_cast; omega)
            rw [← pow_add, Nat.sub_add_cancel hcount]
            exact hc.le
        _ = unitsOf (10 ^ (count - 1)) place := unitsOf_mul_pow _ 1 place
    · have hscale : (0 : ℚ) < scale place := by exact_mod_cast scale_pos place
      rw [unitsOf_eq, div_le_iff₀ hscale]
      exact_mod_cast hlow

section Grid

variable {k : Nat} {place : Int} (h : Within units (unitsOf k place))

include h

/-- On the finest grid of doubles intervals are symmetric. So of the decimals of a grid, the one nearest to a
double is in its interval if any is. -/
lemma within_round_of_finest (hsmall : units.log2 < 52) :
    Within units (unitsOf (roundQuotient (units * scale place) (step place)) place) := by
  have hscale := scale_pos place
  have hone : spacing units = 1 := by rw [spacing, Nat.sub_eq_zero_of_le hsmall.le, pow_zero]
  have hgapHigh : (halfGaps units).2 = 2 := by
    rw [show (halfGaps units).2 = 2 * spacing units from rfl, hone]
  have hgapLow : (halfGaps units).1 = 2 := by
    rcases halfGaps_low units with hgap | ⟨-, -, hcoarse⟩ <;> omega
  rw [unitsOf_eq] at h ⊢
  obtain ⟨hlow, hhigh, htie⟩ := h.cross hscale
  rw [hgapLow] at hlow htie
  rw [hgapHigh] at hhigh htie
  have hnear := roundQuotient_nearest (n := units * scale place) (k := k) (b := scale place)
    (step_pos place) (by omega) (by omega)
  -- Rounding does not lead from the inside of the interval to its end: a tie of the nearest is one of `k`.
  have hnearer := roundQuotient_nearest (n := units * scale place) (k := k) (b := scale place - 1)
    (step_pos place)
  generalize roundQuotient (units * scale place) (step place) = m at *
  refine within_of_cross hscale ?_ ?_ ?_
  · rw [hgapLow]
    omega
  · rw [hgapHigh]
    omega
  · rw [hgapLow, hgapHigh]
    exact fun heven => htie (by omega)

/-- An interval that is shorter than a step of a grid holds one decimal of the grid only. -/
lemma round_of_within (hfine : spacing units * scale place < step place) :
    roundQuotient (units * scale place) (step place) = k := by
  rw [unitsOf_eq] at h
  obtain ⟨hlow, hhigh, -⟩ := h.cross (scale_pos place)
  have hgapLow : (halfGaps units).1 ≤ 2 * spacing units := by
    rcases halfGaps_low units with hgap | ⟨hgap, -⟩ <;> omega
  have hgapLow' := Nat.mul_le_mul_right (scale place) hgapLow
  rw [show (halfGaps units).2 = 2 * spacing units from rfl, Nat.mul_assoc 2] at hhigh
  rw [Nat.mul_assoc 2] at hgapLow'
  refine roundQuotient_eq (step_pos place) ?_ ?_ ?_ ?_ <;> omega

end Grid

/-- If a decimal of so few digits lies in the interval of a double, the nearest one does. -/
theorem within_significant (hpos : 0 < units) (hcount : 0 < count) (hfew : 10 ^ count ≤ 2 ^ 52)
    {c : Nat} {e : Int} (hc : c < 10 ^ count) (h : Within units (unitsOf c e)) :
    Within units (unitsOf (significant units count).coefficient
      (significant units count).exponent) := by
  obtain ⟨k, hk⟩ := exists_within_grid hpos hcount hc h
  obtain ⟨-, hmost⟩ := significant_bounds hpos hcount
  obtain ⟨place, hplace⟩ : ∃ place, leadingPlace units - (count : Int) + 1 = place := ⟨_, rfl⟩
  rw [significant_eq hplace]
  rw [hplace] at hk hmost
  dsimp only
  rcases Nat.lt_or_ge units.log2 52 with hsmall | hlarge
  · exact within_round_of_finest hk hsmall
  · have hpower : spacing units * 2 ^ 52 ≤ units := by
      calc spacing units * 2 ^ 52 = 2 ^ units.log2 := by
            rw [spacing, ← pow_add]
            congr 1
            omega
        _ ≤ units := Nat.log2_self_le hpos.ne'
    have hfine : spacing units * scale place < step place := by
      refine Nat.lt_of_mul_lt_mul_left (a := 2 ^ 52) ?_
      calc 2 ^ 52 * (spacing units * scale place) = spacing units * 2 ^ 52 * scale place := by ring
        _ ≤ units * scale place := Nat.mul_le_mul_right _ hpower
        _ < 10 ^ count * step place := hmost
        _ ≤ 2 ^ 52 * step place := Nat.mul_le_mul_right _ hfew
    rwa [round_of_within hk hfine]

end Decimal
end DetectionFlow
