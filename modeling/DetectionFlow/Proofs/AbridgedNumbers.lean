import DetectionFlow.Proofs.DeclaredPayloads
import DetectionFlow.Proofs.GreatestNumbers
import DetectionFlow.Proofs.RoundedDecimals

/-!
# Numbers with six significant digits

Numbers are offered for editing with six significant digits. What such a text is read as again is another
number in general, `Double.abridged`. It is the number itself exactly if the number is read from some decimal
of at most six digits (`Double.abridged_eq_iff`). A number from zero to one stays there
(`Double.abridged_le_one`), and a finite one stays finite (`Double.isFinite_abridged`).

Integers are brought to doubles first, so they may change even where no digit is lost. An integer or a double
stays the same number exactly if it equals a double of at most six digits (`Number.same_abridged_iff`).
-/

namespace DetectionFlow
namespace Double

open Decimal

/-- The double of the six significant digits of a number. -/
def abridged : Double → Double
  | finite negative units h =>
    if units = 0 then finite negative units h
    else ofDecimal negative (significant units 6).coefficient (significant units 6).exponent
  | x => x

/-- Some decimal of at most six digits is read as the number. -/
def IsBrief (x : Double) : Prop := ∃ negative c e, c < 10 ^ 6 ∧ ofDecimal negative c e = x

variable {units : Nat} {negative : Bool} {h : Representable units}

lemma abridged_zero (h : Representable 0) : (finite negative 0 h).abridged = finite negative 0 h := by
  rw [abridged, if_pos rfl]

lemma abridged_of_pos (hpos : 0 < units) : (finite negative units h).abridged =
    ofDecimal negative (significant units 6).coefficient (significant units 6).exponent := by
  rw [abridged, if_neg hpos.ne']

/-! ## Numbers that stay -/

/-- Six digits after rounding, or the power of ten behind them, which is a shorter decimal. -/
lemma isBrief_significant (hpos : 0 < units) (negative : Bool) :
    (ofDecimal negative (significant units 6).coefficient (significant units 6).exponent).IsBrief := by
  obtain ⟨place, hplace⟩ : ∃ place, leadingPlace units - ((6 : Nat) : Int) + 1 = place := ⟨_, rfl⟩
  obtain ⟨-, hmost⟩ := @significant_bounds units 6 hpos (by omega)
  rw [hplace] at hmost
  rw [significant_eq hplace]
  dsimp only
  have hle := roundQuotient_le (step_pos place) hmost.le
  rcases Nat.lt_or_eq_of_le hle with hlt | heq
  · exact ⟨negative, _, _, hlt, rfl⟩
  · refine ⟨negative, 10 ^ 5, place + (1 : Nat), by omega, ofDecimal_congr ?_ negative⟩
    have hvalue := unitsOf_mul_pow (10 ^ 5) 1 (place + (1 : Nat))
    rw [Int.add_sub_cancel, ← pow_add] at hvalue
    rw [heq, hvalue]

theorem abridged_eq_iff {x : Double} (hx : x.isFinite = true) : x.abridged = x ↔ x.IsBrief := by
  cases x with
  | finite negative units h =>
    rcases Nat.eq_zero_or_pos units with rfl | hpos
    · refine iff_of_true (abridged_zero h) ⟨negative, 0, 0, by omega, ?_⟩
      rw [ofDecimal, if_pos rfl, ofUnits, dif_pos h]
    · constructor
      · intro hkept
        rw [← hkept, abridged_of_pos hpos]
        exact isBrief_significant hpos negative
      · rintro ⟨negative', c, e, hc, hread⟩
        obtain ⟨rfl, hwithin⟩ := within_of_ofDecimal hpos hread
        rw [abridged_of_pos hpos]
        exact ofDecimal_of_within hpos h (within_significant hpos (by omega) (by norm_num) hc hwithin) _
  | _ => cases hx

lemma isBrief_abridged {x : Double} (hx : x.isFinite = true) : x.abridged.IsBrief := by
  cases x with
  | finite negative units h =>
    rcases Nat.eq_zero_or_pos units with rfl | hpos
    · exact (abridged_eq_iff hx).mp (abridged_zero h)
    · rw [abridged_of_pos hpos]
      exact isBrief_significant hpos negative
  | _ => cases hx

/-! ## Signs and the frame -/

lemma place?_one : Double.one.place? = some (unit : Int) := by
  have hexact : Representable ((1 : Int).natAbs * unit) := exact_of_le (by decide)
  have hone : Double.one.toInt? = some 1 := by
    rw [one, ofInt, ofInt?_of_exact hexact, Option.getD_some, toInt?_finite 1 hexact]
  rw [place?_of_toInt? hone, Int.one_mul]

lemma le_one_iff {x : Double} : x.le Double.one = true ↔ ∃ p, x.place? = some p ∧ p ≤ unit := by
  rw [Double.le, place?_one]
  cases x.place? <;> simp

/-- Infinity does not lie in the frame. -/
lemma isFinite_of_le_one {x : Double} (hlow : Double.zero.le x = true) (hx : x.le Double.one = true) :
    x.isFinite = true := by
  obtain ⟨p, hp, hle⟩ := le_one_iff.mp hx
  obtain ⟨q, hq, hge⟩ := Reader.zero_le_iff.mp hlow
  cases x with
  | finite => rfl
  | nan => cases hp
  | infinity negative =>
    have hlarge : unit < limitUnits := by
      obtain ⟨k, hk, hbits⟩ := unit_eq_pow
      rw [hk, limitUnits_eq]
      exact Nat.pow_lt_pow_right (by omega) (by omega)
    have hpos := unit_pos
    obtain rfl := Option.some.inj hp
    obtain rfl := Option.some.inj hq
    cases negative <;> simp only [signed, if_true, if_false, Bool.false_eq_true] at hge hle <;> omega

lemma zero_le_ofUnits (units : Nat) : Double.zero.le (ofUnits false units) = true := by
  rw [Reader.zero_le_iff]
  unfold ofUnits
  split
  · exact ⟨_, rfl, Int.natCast_nonneg _⟩
  · exact ⟨_, rfl, Int.natCast_nonneg _⟩

/-- A number that is not below zero stays so. -/
lemma zero_le_abridged {x : Double} (hx : Double.zero.le x = true) :
    Double.zero.le x.abridged = true := by
  cases x with
  | finite negative units h =>
    rcases Nat.eq_zero_or_pos units with rfl | hpos
    · rwa [abridged_zero h]
    · obtain ⟨p, hp, hle⟩ := Reader.zero_le_iff.mp hx
      obtain rfl := Option.some.inj hp
      cases negative with
      | true =>
        simp only [signed, if_true] at hle
        omega
      | false =>
        rw [abridged_of_pos hpos, ofDecimal_eq_nearest, nearest_eq]
        exact zero_le_ofUnits _
  | _ => exact hx

/-- Up to one, the grid of the significant digits lies below the point. -/
lemma significant_exponent_neg (hle : units ≤ unit) :
    leadingPlace units - ((6 : Nat) : Int) + 1 < 0 := by
  have hplace := leadingPlace_eq units
  obtain ⟨m, hm⟩ : ∃ m, m = 400 := ⟨400, rfl⟩
  rw [← hm] at hplace
  have hquotient : units * 10 ^ m / unit ≤ 10 ^ m := by
    refine Nat.div_le_of_le_mul ?_
    exact Nat.mul_le_mul_right _ hle
  have hcount : digitCount (units * 10 ^ m / unit) ≤ m + 1 := by
    refine (Nat.length_toDigits_le_iff (by omega) (by omega)).mpr (hquotient.trans_lt ?_)
    exact Nat.pow_lt_pow_right (by omega) (by omega)
  omega

/-- A number up to one stays up to one: one itself lies on the grid. -/
lemma abridged_le_one {x : Double} (hlow : Double.zero.le x = true) (hx : x.le Double.one = true) :
    x.abridged.le Double.one = true := by
  cases x with
  | finite negative units h =>
    rcases Nat.eq_zero_or_pos units with rfl | hpos
    · rwa [abridged_zero h]
    · obtain ⟨p, hp, hle⟩ := le_one_iff.mp hx
      obtain rfl := Option.some.inj hp
      cases negative with
      | true =>
        obtain ⟨p, hp, hsign⟩ := Reader.zero_le_iff.mp hlow
        obtain rfl := Option.some.inj hp
        simp only [signed, if_true] at hsign
        omega
      | false =>
        have hunits : units ≤ unit := Int.ofNat_le.mp hle
        have hneg := significant_exponent_neg hunits
        obtain ⟨place, hplace⟩ : ∃ place, leadingPlace units - ((6 : Nat) : Int) + 1 = place := ⟨_, rfl⟩
        rw [hplace] at hneg
        have hone : Representable unit := by
          have hexact : Exact 1 := exact_of_le (by decide)
          rwa [Exact, Int.natAbs_one, Nat.one_mul] at hexact
        have hstep : step place = unit := if_neg (by omega)
        -- One is on the grid, so the quotient is not rounded past it.
        have hround : roundQuotient (units * scale place) unit ≤ scale place := by
          refine roundQuotient_le unit_pos ?_
          rw [Nat.mul_comm]
          exact Nat.mul_le_mul_left _ hunits
        have hgrid : roundQuotient (units * scale place) (step place) * step place ≤ unit * scale place := by
          rw [hstep, Nat.mul_comm]
          exact Nat.mul_le_mul_left _ hround
        obtain ⟨units', hrep, hle', hnearest⟩ := nearest_le (scale_pos place) hone hgrid false
        rw [abridged_of_pos hpos, significant_eq hplace, ofDecimal_eq_nearest, hnearest, le_one_iff]
        exact ⟨_, rfl, Int.ofNat_le.mpr hle'⟩
  | _ => exact hx

/-! ## The greatest numbers -/

lemma lt_of_representable_unit (h : Representable units) : units < 2 ^ 1024 * unit := by
  obtain ⟨k, hk, hbits⟩ := unit_eq_pow
  refine h.1.trans_eq ?_
  rw [limitUnits_eq, ← hbits, hk, Nat.add_comm, pow_add]

/-- All bits of a significand at the last place. -/
lemma representable_greatest : Representable ((2 ^ 53 - 1) * 2 ^ 971 * unit) := by
  obtain ⟨k, hk, hbits⟩ := unit_eq_pow
  have hpower : (2 ^ 53 - 1) * 2 ^ 971 * unit = (2 ^ 53 - 1) * 2 ^ (971 + k) := by
    rw [hk, pow_add, Nat.mul_assoc]
  rw [hpower]
  refine representable_mul_two_pow (by omega) ?_
  rw [limitUnits_eq, ← hbits, show k + 1024 = 53 + (971 + k) by omega, pow_add 2 53]
  exact Nat.mul_lt_mul_of_pos_right (by omega) (Nat.two_pow_pos _)

/-- No finite number begins behind the place of the greatest ones. -/
lemma leadingPlace_le (h : Representable units) : leadingPlace units ≤ 308 := by
  have hplace := leadingPlace_eq units
  obtain ⟨m, hm⟩ : ∃ m, m = 400 := ⟨400, rfl⟩
  rw [← hm] at hplace
  have hquotient : units * 10 ^ m / unit < 10 ^ (309 + m) := by
    rw [Nat.div_lt_iff_lt_mul unit_pos, pow_add]
    calc units * 10 ^ m < 2 ^ 1024 * unit * 10 ^ m :=
          Nat.mul_lt_mul_of_pos_right (lt_of_representable_unit h) (Nat.pow_pos (by omega))
      _ = 2 ^ 1024 * (unit * 10 ^ m) := Nat.mul_assoc _ _ _
      _ ≤ 10 ^ 309 * (unit * 10 ^ m) := Nat.mul_le_mul_right _ (by decide +kernel)
      _ = 10 ^ 309 * 10 ^ m * unit := by rw [Nat.mul_comm unit, Nat.mul_assoc]
  have hcount : digitCount (units * 10 ^ m / unit) ≤ 309 + m :=
    (Nat.length_toDigits_le_iff (by omega) (by omega)).mpr hquotient
  omega

/-- Six digits in front of the last place of the greatest numbers do not reach them. -/
lemma six_digits_le_greatest {k : Nat} {place : Int} (hk : k ≤ 10 ^ 6) (hplace : place ≤ 302) :
    k * step place ≤ (2 ^ 53 - 1) * 2 ^ 971 * unit * scale place := by
  have hstep : step place ≤ 10 ^ 302 * unit := by
    unfold step
    split
    · rw [Nat.mul_comm]
      gcongr
      · exact Nat.one_le_ofNat
      · exact Int.toNat_le.mpr hplace
    · exact Nat.le_mul_of_pos_left _ (by positivity)
  calc k * step place ≤ 10 ^ 6 * (10 ^ 302 * unit) := Nat.mul_le_mul hk hstep
    _ = 10 ^ 6 * 10 ^ 302 * unit := (Nat.mul_assoc _ _ _).symm
    _ ≤ (2 ^ 53 - 1) * 2 ^ 971 * unit := Nat.mul_le_mul_right _ (by decide +kernel)
    _ ≤ (2 ^ 53 - 1) * 2 ^ 971 * unit * scale place := Nat.le_mul_of_pos_right _ (scale_pos place)

/-- At the last place of the greatest numbers their digits are `179769`, since what follows them is rounded
down. -/
lemma last_digits_le_greatest (h : Representable units) :
    roundQuotient (units * scale 303) (step 303) * step 303 ≤
      (2 ^ 53 - 1) * 2 ^ 971 * unit * scale 303 := by
  have hlast : 2 * 2 ^ 1024 ≤ (2 * 179769 + 1) * 10 ^ 303 := by decide +kernel
  have hpower : 179769 * 10 ^ 303 ≤ (2 ^ 53 - 1) * 2 ^ 971 := by decide +kernel
  have hscale : scale 303 = 1 := rfl
  have hstep : step 303 = 10 ^ 303 * unit := by
    rw [step, if_pos (by omega), show Int.toNat 303 = 303 from rfl, Nat.mul_comm]
  have hround : roundQuotient (units * scale 303) (step 303) ≤ 179769 := by
    refine roundQuotient_le_of_lt (step_pos 303) ?_
    rw [hscale, hstep, Nat.mul_one]
    calc 2 * units < 2 * (2 ^ 1024 * unit) :=
          Nat.mul_lt_mul_of_pos_left (lt_of_representable_unit h) (by omega)
      _ = 2 * 2 ^ 1024 * unit := (Nat.mul_assoc _ _ _).symm
      _ ≤ (2 * 179769 + 1) * 10 ^ 303 * unit := Nat.mul_le_mul_right _ hlast
      _ = (2 * 179769 + 1) * (10 ^ 303 * unit) := Nat.mul_assoc _ _ _
  rw [hstep] at hround ⊢
  calc roundQuotient (units * scale 303) (10 ^ 303 * unit) * (10 ^ 303 * unit)
      ≤ 179769 * (10 ^ 303 * unit) := Nat.mul_le_mul_right _ hround
    _ = 179769 * 10 ^ 303 * unit := (Nat.mul_assoc _ _ _).symm
    _ ≤ (2 ^ 53 - 1) * 2 ^ 971 * unit := Nat.mul_le_mul_right _ hpower
    _ = (2 ^ 53 - 1) * 2 ^ 971 * unit * scale 303 := by rw [hscale, Nat.mul_one]

/-- The significant digits of a number are not beyond the greatest number. -/
lemma significant_le_greatest (hpos : 0 < units) (h : Representable units) {place : Int}
    (hplace : leadingPlace units - ((6 : Nat) : Int) + 1 = place) :
    roundQuotient (units * scale place) (step place) * step place ≤
      (2 ^ 53 - 1) * 2 ^ 971 * unit * scale place := by
  have hplaces := leadingPlace_le h
  obtain ⟨-, hmost⟩ := @significant_bounds units 6 hpos (by omega)
  rw [hplace] at hmost
  have hdigits := roundQuotient_le (step_pos place) hmost.le
  rcases (show place ≤ 302 ∨ place = 303 by omega) with hsmall | rfl
  · exact six_digits_le_greatest hdigits hsmall
  · exact last_digits_le_greatest h

/-- A finite number is not rounded to infinity. -/
lemma isFinite_abridged {x : Double} (hx : x.isFinite = true) : x.abridged.isFinite = true := by
  cases x with
  | finite negative units h =>
    rcases Nat.eq_zero_or_pos units with rfl | hpos
    · rw [abridged_zero h]
      rfl
    · obtain ⟨place, hplace⟩ : ∃ place, leadingPlace units - ((6 : Nat) : Int) + 1 = place := ⟨_, rfl⟩
      obtain ⟨units', hrep, -, hnearest⟩ := nearest_le (scale_pos place) representable_greatest
        (significant_le_greatest hpos h hplace) negative
      rw [abridged_of_pos hpos, significant_eq hplace, ofDecimal_eq_nearest, hnearest]
      rfl
  | _ => cases hx

end Double

/-! ## Integers and doubles -/

namespace Number

open Double

/-- The double of a number. Integers beyond all doubles have none. -/
def toDouble? : Number → Option Double
  | int n => Double.ofInt? n
  | float x => some x

/-- What is read again of a number that is offered for editing. -/
def abridged? (a : Number) : Option Number := a.toDouble?.map fun x => ofDouble x.abridged

/-- The number is neither infinite nor none at all. -/
def IsFinite : Number → Prop
  | int _ => True
  | float x => x.isFinite = true

variable {a b : Number} {x y : Double} {p : Int}

lemma rank?_ofDouble (x : Double) : (ofDouble x).rank? = (float x).rank? := by
  unfold ofDouble
  cases hint : x.toInt? with
  | none => rfl
  | some n =>
    have hplace := place?_of_toInt? hint
    cases x with
    | finite negative units h => exact congrArg (·.map finiteRank) hplace.symm
    | _ => cases hint

lemma IsFinite.exists_rank (ha : a.IsFinite) : ∃ p, a.rank? = some (finiteRank p) := by
  cases a with
  | int n => exact ⟨_, rfl⟩
  | float x =>
    cases x with
    | finite negative units h => exact ⟨_, rfl⟩
    | _ => cases ha

/-- A double with a finite rank is a number of its own. -/
lemma exists_finite_of_rank (hx : (float x).rank? = some (finiteRank p)) :
    ∃ negative units h, x = .finite negative units h ∧ signed negative units = p := by
  cases x with
  | nan => cases hx
  | infinity negative =>
    cases negative
    · exact absurd (Option.some.inj hx) (finiteRank_lt_top p).ne'
    · exact absurd (Option.some.inj hx) (bot_lt_finiteRank p).ne
  | finite negative units h => exact ⟨_, _, h, rfl, finiteRank_inj.mp (Option.some.inj hx)⟩

lemma isFinite_of_toDouble? (ha : a.IsFinite) (hx : a.toDouble? = some x) : x.isFinite = true := by
  cases a with
  | float y => exact Option.some.inj hx ▸ ha
  | int n =>
    have hbounded : (nearest (decide (n < 0)) (n.natAbs * unit) 1).bounded? = some x := hx
    rw [nearest_eq, ofUnits] at hbounded
    split at hbounded
    · obtain rfl := Option.some.inj hbounded
      rfl
    · cases hbounded

/-- What is not below zero has a double that is not. -/
lemma NonNegative.zero_le_of_toDouble? (ha : a.NonNegative) (hx : a.toDouble? = some x) :
    Double.zero.le x = true := by
  cases a with
  | float y => exact Option.some.inj hx ▸ ha
  | int n =>
    have hbounded : (nearest (decide (n < 0)) (n.natAbs * unit) 1).bounded? = some x := hx
    have hsign : decide (n < 0) = false := decide_eq_false (Int.not_lt.mpr ha)
    rw [hsign, nearest_eq] at hbounded
    have hle := zero_le_ofUnits (roundQuotient (n.natAbs * unit)
      (1 * spacing (n.natAbs * unit / 1)) * spacing (n.natAbs * unit / 1))
    generalize ofUnits false _ = y at *
    cases y with
    | infinity => cases hbounded
    | _ => exact Option.some.inj hbounded ▸ hle

lemma IsFinite.abridged (ha : a.IsFinite) (hb : a.abridged? = some b) : b.IsFinite := by
  obtain ⟨x, hx, rfl⟩ := Option.map_eq_some_iff.mp hb
  unfold ofDouble
  split
  · exact trivial
  · exact isFinite_abridged (isFinite_of_toDouble? ha hx)

lemma nonNegative_ofDouble (h : Double.zero.le x = true) : (ofDouble x).NonNegative := by
  unfold ofDouble
  cases hint : x.toInt? with
  | none => exact h
  | some n =>
    obtain ⟨p, hp, hsign⟩ := Reader.zero_le_iff.mp h
    rw [place?_of_toInt? hint] at hp
    obtain rfl := Option.some.inj hp
    exact nonneg_of_mul_nonneg_left hsign (by exact_mod_cast unit_pos)

lemma NonNegative.abridged (ha : a.NonNegative) (hb : a.abridged? = some b) : b.NonNegative := by
  obtain ⟨x, hx, rfl⟩ := Option.map_eq_some_iff.mp hb
  exact nonNegative_ofDouble (zero_le_abridged (ha.zero_le_of_toDouble? hx))

/-- If some double is the same number as an integer, the double of the integer is. -/
lemma rank?_of_toDouble? (hx : a.toDouble? = some x) (ha : a.rank? = some (finiteRank p))
    (hy : (float y).rank? = some (finiteRank p)) : (float x).rank? = some (finiteRank p) := by
  cases a with
  | float z =>
    obtain rfl := Option.some.inj hx
    exact ha
  | int n =>
    obtain rfl := finiteRank_inj.mp (Option.some.inj ha)
    obtain ⟨negative, units, h, rfl, hplace⟩ := exists_finite_of_rank hy
    have hunits : units = n.natAbs * unit := by
      have habs := congrArg Int.natAbs hplace
      rwa [natAbs_signed, Int.natAbs_mul, Int.natAbs_natCast] at habs
    subst hunits
    have hdouble : Double.ofInt? n = some x := hx
    rw [ofInt?_of_exact h] at hdouble
    obtain rfl := Option.some.inj hdouble
    exact congrArg (·.map finiteRank) (place?_of_toInt? (toInt?_finite n h))

/-- A number that is the same as a brief one is not changed. -/
lemma abridged_of_rank (hx : (float x).rank? = some (finiteRank p))
    (hy : (float y).rank? = some (finiteRank p)) (hbrief : y.IsBrief) : x.abridged = x := by
  obtain ⟨negative, units, h, rfl, hplace⟩ := exists_finite_of_rank hx
  obtain ⟨negative', units', h', rfl, hplace'⟩ := exists_finite_of_rank hy
  rcases Nat.eq_zero_or_pos units with rfl | hpos
  · exact abridged_zero h
  · obtain ⟨rfl, rfl⟩ : negative' = negative ∧ units' = units := by
      subst hplace
      cases negative <;> cases negative' <;>
        simp only [signed, if_true, if_false, reduceCtorEq, true_and] at hplace' ⊢ <;> omega
    exact (abridged_eq_iff rfl).mpr hbrief

/-- A number stays the same if it is the same as some brief one. -/
theorem same_abridged_iff (ha : a.IsFinite) (hb : a.abridged? = some b) :
    b.same a = true ↔ ∃ x : Double, x.IsBrief ∧ (float x).same a = true := by
  obtain ⟨p, hp⟩ := ha.exists_rank
  obtain ⟨x, hx, rfl⟩ := Option.map_eq_some_iff.mp hb
  simp only [same_iff hp, rank?_ofDouble]
  constructor
  · exact fun hrank => ⟨x.abridged, isBrief_abridged (isFinite_of_toDouble? ha hx), hrank⟩
  · rintro ⟨y, hbrief, hy⟩
    have hrank := rank?_of_toDouble? hx hp hy
    rwa [abridged_of_rank hrank hy hbrief]

end Number
end DetectionFlow
