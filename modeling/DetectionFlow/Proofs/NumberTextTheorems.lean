import DetectionFlow.Json.Reader
import DetectionFlow.Json.Writer
import DetectionFlow.Proofs.ShortestTheorems

/-!
# Numbers in JSON texts

What the writer writes for an integer or for a finite double, the reader reads as that integer
(`scanScalar_int`) or as that double (`scanScalar_render`), if what follows cannot belong to a number
(`Ends`). A double is written in one of several forms, and all of them stand for the decimal of its digits
(`exists_form`).
-/

namespace DetectionFlow
namespace Json

open Text Numeral Decimal Double

/-! ## Digits -/

/-- Nothing but decimal digits. -/
def Digits (cs : List Char) : Prop := ∀ c ∈ cs, c.isDigit = true

/-- No digit comes next. -/
def NoDigit (cs : List Char) : Prop := ∀ c ∈ cs.head?, c.isDigit = false

/-- Nothing that belongs to a number comes next. -/
def Ends (cs : List Char) : Prop :=
  ∀ c ∈ cs.head?, c.isDigit = false ∧ c ≠ '.' ∧ c ≠ 'e' ∧ c ≠ 'E'

lemma Ends.noDigit {cs : List Char} (h : Ends cs) : NoDigit cs := fun c hc => (h c hc).1

/-- The number that a digit stands for. -/
def digitOf (c : Char) : Nat := c.toNat - '0'.toNat

lemma asciiDigit?_eq (c : Char) :
    asciiDigit? c = if c.isDigit = true then some (digitOf c) else none := by
  have hiff : ('0' ≤ c ∧ c ≤ '9') ↔ c.isDigit = true := by
    simp only [Char.isDigit, Bool.and_eq_true, decide_eq_true_eq]
    exact Iff.rfl
  rw [asciiDigit?]
  by_cases h : c.isDigit = true
  · rw [if_pos h, if_pos (hiff.mpr h)]
    rfl
  · rw [if_neg h, if_neg (fun hc => h (hiff.mp hc))]

/-- The digits in front are read up to the first other character. -/
lemma spanDigits_append {cs rest : List Char} (hcs : Digits cs) (hrest : NoDigit rest) :
    spanDigits (cs ++ rest) = (cs.map digitOf, rest) := by
  induction cs with
  | nil =>
    cases rest with
    | nil => rfl
    | cons c rest =>
      have hc : c.isDigit = false := hrest c rfl
      simp [spanDigits, asciiDigit?_eq, hc]
  | cons c cs ih =>
    have hc : c.isDigit = true := hcs c List.mem_cons_self
    rw [List.cons_append, spanDigits, asciiDigit?_eq, if_pos hc,
      ih fun d hd => hcs d (List.mem_cons_of_mem _ hd)]
    rfl

lemma digitsValue_map (cs : List Char) :
    digitsValue (cs.map digitOf) = Nat.ofDigitChars 10 cs 0 := by
  rw [digitsValue, List.foldl_map, Nat.ofDigitChars_eq_foldl]
  rfl

lemma digits_digitsOf (n : Nat) : Digits (digitsOf n) := fun _ hc =>
  Nat.isDigit_of_mem_toDigits (by omega) (by omega) hc

lemma digitsOf_ne_nil (n : Nat) : digitsOf n ≠ [] := Nat.toDigits_ne_nil

lemma digits_append {cs ds : List Char} : Digits (cs ++ ds) ↔ Digits cs ∧ Digits ds := by
  simp only [Digits, List.mem_append]
  exact ⟨fun h => ⟨fun c hc => h c (.inl hc), fun c hc => h c (.inr hc)⟩,
    fun h c hc => hc.elim (h.1 c) (h.2 c)⟩

lemma digits_replicate (n : Nat) : Digits (List.replicate n '0') := by
  intro c hc
  rw [List.eq_of_mem_replicate hc]
  rfl

/-- A positive number begins with no zero. -/
lemma head?_digitsOf {n : Nat} (hpos : 0 < n) : (digitsOf n).head? ≠ some '0' := by
  induction n using Nat.strongRecOn with
  | ind n ih =>
    rw [digitsOf, Nat.toDigits_eq_if (by omega)]
    split
    next hsmall =>
      have hall : ∀ n : Fin 10, n.val ≠ 0 → [n.val.digitChar].head? ≠ some '0' := by decide
      exact hall ⟨n, hsmall⟩ (by simpa using hpos.ne')
    next hlarge =>
      rw [List.head?_append_of_ne_nil _ Nat.toDigits_ne_nil]
      exact ih (n / 10) (by omega) (by omega)

/-! ## The parts of a number -/

lemma scanWhole?_append {cs rest : List Char} (hcs : Digits cs) (hne : cs ≠ [])
    (hzero : cs.head? = some '0' → cs = ['0']) (hrest : NoDigit rest) :
    scanWhole? (cs ++ rest) = some (cs.map digitOf, rest) := by
  by_cases hhead : cs.head? = some '0'
  · rw [hzero hhead]
    rfl
  · have hspan := spanDigits_append hcs hrest
    unfold scanWhole?
    split
    next rest' heq =>
      cases cs with
      | nil => exact absurd rfl hne
      | cons c cs =>
        obtain ⟨rfl, -⟩ := List.cons.inj heq
        exact absurd rfl hhead
    · rw [hspan]
      split
      next heq =>
        cases cs with
        | nil => exact absurd rfl hne
        | cons c cs => simp at heq
      · rfl

lemma scanFraction_point {cs rest : List Char} (hcs : Digits cs) (hne : cs ≠ [])
    (hrest : NoDigit rest) : scanFraction ('.' :: (cs ++ rest)) = (some (cs.map digitOf), rest) := by
  rw [scanFraction, spanDigits_append hcs hrest]
  cases cs with
  | nil => exact absurd rfl hne
  | cons c cs => rfl

lemma scanFraction_none {rest : List Char} (hrest : rest.head? ≠ some '.') :
    scanFraction rest = (none, rest) := by
  unfold scanFraction
  split
  · exact absurd rfl hrest
  · rfl

lemma scanExponent_none {rest : List Char} (hrest : Ends rest) :
    scanExponent rest = (none, rest) := by
  cases rest with
  | nil => rfl
  | cons c rest =>
    obtain ⟨-, -, hsmall, hcapital⟩ := hrest c rfl
    rw [scanExponent, if_neg]
    rintro (h | h)
    · exact hsmall h
    · exact hcapital h

/-- A power of ten is written as its sign and some digits. -/
lemma exponentText_eq (place : Int) : ∃ ds, Digits ds ∧ ds ≠ [] ∧
    Nat.ofDigitChars 10 ds 0 = place.natAbs ∧
      Layout.exponentText place = 'e' :: (if place < 0 then '-' else '+') :: ds := by
  have hvalue : Nat.ofDigitChars 10 (digitsOf place.natAbs) 0 = place.natAbs :=
    Nat.ofDigitChars_ten_toDigits
  by_cases hshort : (digitsOf place.natAbs).length < 2
  · refine ⟨'0' :: digitsOf place.natAbs, ?_, by simp, ?_, ?_⟩
    · exact digits_append.mpr ⟨digits_replicate 1, digits_digitsOf _⟩
    · rw [Nat.ofDigitChars_cons]
      exact hvalue
    · rw [Layout.exponentText]
      simp only [if_pos hshort]
  · refine ⟨digitsOf place.natAbs, digits_digitsOf _, digitsOf_ne_nil _, hvalue, ?_⟩
    rw [Layout.exponentText]
    simp only [if_neg hshort]

lemma splitSign_sign (place : Int) (cs : List Char) :
    splitSign ((if place < 0 then '-' else '+') :: cs) = (decide (place < 0), cs) := by
  by_cases hneg : place < 0
  · rw [if_pos hneg, decide_eq_true hneg]
    rfl
  · rw [if_neg hneg, decide_eq_false hneg]
    rfl

lemma natAbs_signed_eq (place : Int) :
    (if decide (place < 0) = true then -(place.natAbs : Int) else place.natAbs) = place := by
  by_cases hneg : place < 0
  · rw [if_pos (decide_eq_true hneg)]
    omega
  · rw [if_neg (by simpa using hneg)]
    omega

/-- A written power of ten is read back. -/
lemma scanExponent_text (place : Int) {rest : List Char} (hrest : NoDigit rest) :
    scanExponent (Layout.exponentText place ++ rest) = (some place, rest) := by
  obtain ⟨ds, hds, hne, hvalue, htext⟩ := exponentText_eq place
  rw [htext, List.cons_append, List.cons_append, scanExponent, if_pos (.inl rfl),
    splitSign_sign]
  dsimp only
  rw [spanDigits_append hds hrest]
  cases ds with
  | nil => exact absurd rfl hne
  | cons d ds =>
    rw [List.map_cons]
    dsimp only
    rw [← List.map_cons, digitsValue_map, hvalue, natAbs_signed_eq]

/-- So it is where nothing follows it. -/
lemma readExponent?_text (place : Int) : readExponent? (Layout.exponentText place) = some place := by
  obtain ⟨ds, hds, hne, hvalue, htext⟩ := exponentText_eq place
  have hspan : spanDigits (ds ++ []) = (ds.map digitOf, []) := spanDigits_append hds (by simp [NoDigit])
  rw [List.append_nil] at hspan
  rw [htext, readExponent?, if_pos (.inl rfl), splitSign_sign]
  dsimp only
  rw [hspan]
  cases ds with
  | nil => exact absurd rfl hne
  | cons d ds =>
    rw [List.map_cons]
    dsimp only
    rw [← List.map_cons, digitsValue_map, hvalue, natAbs_signed_eq]

/-! ## Numbers -/

/-- A number with a fraction is a double. -/
lemma scanNumber_fraction (negative : Bool) {whole fraction tail rest : List Char}
    {exponent : Option Int} (hwhole : Digits whole) (hne : whole ≠ [])
    (hzero : whole.head? = some '0' → whole = ['0']) (hfraction : Digits fraction)
    (hfractionNe : fraction ≠ []) (htail : NoDigit tail)
    (hexponent : scanExponent tail = (exponent, rest)) :
    scanNumber negative (whole ++ '.' :: (fraction ++ tail)) =
      .ok (.float (ofDecimal negative (Nat.ofDigitChars 10 (whole ++ fraction) 0)
        (exponent.getD 0 - fraction.length)), rest) := by
  have hpoint : NoDigit ('.' :: (fraction ++ tail)) := by
    rintro c ⟨rfl⟩
    rfl
  unfold scanNumber
  rw [scanWhole?_append hwhole hne hzero hpoint]
  dsimp only
  rw [scanFraction_point hfraction hfractionNe htail]
  dsimp only
  rw [hexponent]
  dsimp only
  rw [Option.getD_some, ← List.map_append, digitsValue_map, List.length_map]

/-- So is a number with a power of ten. -/
lemma scanNumber_exponent (negative : Bool) {whole tail rest : List Char} {place : Int}
    (hwhole : Digits whole) (hne : whole ≠ []) (hzero : whole.head? = some '0' → whole = ['0'])
    (htail : NoDigit tail) (hpoint : tail.head? ≠ some '.')
    (hexponent : scanExponent tail = (some place, rest)) :
    scanNumber negative (whole ++ tail) =
      .ok (.float (ofDecimal negative (Nat.ofDigitChars 10 whole 0) place), rest) := by
  unfold scanNumber
  rw [scanWhole?_append hwhole hne hzero htail]
  dsimp only
  rw [scanFraction_none hpoint]
  dsimp only
  rw [hexponent]
  dsimp only
  rw [Option.getD_none, Option.getD_some, List.append_nil, digitsValue_map, List.length_nil,
    Int.natCast_zero, Int.sub_zero]

/-- Digits alone are an integer. -/
lemma scanNumber_digitsOf {negative : Bool} {n : Nat} {rest : List Char} (hrest : Ends rest)
    (hlong : Fault.isLong n = false) :
    scanNumber negative (digitsOf n ++ rest) =
      .ok (.int (if negative = true then -(n : Int) else n), rest) := by
  have hzero : (digitsOf n).head? = some '0' → digitsOf n = ['0'] := by
    intro hhead
    rcases Nat.eq_zero_or_pos n with rfl | hpos
    · rfl
    · exact absurd hhead (head?_digitsOf hpos)
  have hpoint : rest.head? ≠ some '.' := fun h => (hrest '.' h).2.1 rfl
  have hcount : ¬ Fault.digitLimit < ((digitsOf n).map digitOf).length := by
    have hlt : n < 10 ^ Fault.digitLimit := by simpa [Fault.isLong] using hlong
    have hpos : 0 < Fault.digitLimit := by decide
    rw [List.length_map, not_lt]
    exact (Nat.length_toDigits_le_iff (by omega) hpos).mpr hlt
  have hvalue : digitsValue ((digitsOf n).map digitOf) = n := by
    rw [digitsValue_map]
    exact Nat.ofDigitChars_ten_toDigits
  unfold scanNumber
  rw [scanWhole?_append (digits_digitsOf n) (digitsOf_ne_nil n) hzero hrest.noDigit]
  dsimp only
  rw [scanFraction_none hpoint]
  dsimp only
  rw [scanExponent_none hrest]
  dsimp only
  rw [if_neg hcount, hvalue]

/-! ## Words -/

/-- What begins with a digit is no word. -/
lemma scanScalar_digit {c : Char} (hc : c.isDigit = true) (rest : List Char) :
    scanScalar (c :: rest) = scanNumber false (c :: rest) := by
  have hne : ∀ d : Char, d.isDigit = false → d ≠ c := by
    rintro d hd rfl
    rw [hc] at hd
    cases hd
  have hwords : words.findSome? (fun w => (dropWord? w.1.toList (c :: rest)).map (w.2, ·)) = none := by
    simp [words, dropWord?, hne 'n' rfl, hne 't' rfl, hne 'f' rfl, hne 'N' rfl, hne 'I' rfl,
      hne '-' rfl]
  have hminus : c ≠ '-' := (hne '-' rfl).symm
  unfold scanScalar
  rw [hwords]
  dsimp only
  split
  next heq => exact absurd (List.cons.inj heq).1 hminus
  · rfl

/-- What begins with a minus sign and a digit is no word either. -/
lemma scanScalar_minus {c : Char} (hc : c.isDigit = true) (rest : List Char) :
    scanScalar ('-' :: c :: rest) = scanNumber true (c :: rest) := by
  have hne : 'I' ≠ c := by
    rintro rfl
    cases hc
  have hwords : words.findSome? (fun w => (dropWord? w.1.toList ('-' :: c :: rest)).map (w.2, ·)) =
      none := by
    simp [words, dropWord?, hne]
  unfold scanScalar
  rw [hwords]
  rfl

/-- The sign in front of a number that begins with a digit. -/
def signedText (negative : Bool) (cs : List Char) : List Char :=
  if negative = true then '-' :: cs else cs

lemma Digits.head {cs : List Char} (hcs : Digits cs) (hne : cs ≠ []) :
    ∃ c ∈ cs.head?, c.isDigit = true := by
  cases cs with
  | nil => exact absurd rfl hne
  | cons c cs => exact ⟨c, rfl, hcs c List.mem_cons_self⟩

lemma scanScalar_signed {negative : Bool} {cs rest : List Char}
    (hhead : ∃ c ∈ cs.head?, c.isDigit = true) :
    scanScalar (signedText negative cs ++ rest) = scanNumber negative (cs ++ rest) := by
  obtain ⟨c, hc, hdigit⟩ := hhead
  cases cs with
  | nil => simp at hc
  | cons d cs =>
    obtain rfl : d = c := Option.some.inj hc
    cases negative with
    | true => exact scanScalar_minus hdigit (cs ++ rest)
    | false => exact scanScalar_digit hdigit (cs ++ rest)

lemma toList_toString (n : Int) :
    (toString n).toList = signedText (decide (n < 0)) (digitsOf n.natAbs) := by
  cases n with
  | ofNat m =>
    have hsign : decide (Int.ofNat m < 0) = false :=
      decide_eq_false (Int.not_lt.mpr (Int.natCast_nonneg m))
    rw [hsign]
    exact Nat.toList_repr
  | negSucc m =>
    rw [decide_eq_true (by omega)]
    show ("-" ++ (m + 1).repr).toList = _
    rw [String.toList_append, Nat.toList_repr]
    rfl

/-- A written integer is read back, unless it has too many digits to be written. -/
theorem scanScalar_int {n : Int} {rest : List Char} (hrest : Ends rest)
    (hlong : Fault.isLong n = false) :
    scanScalar ((toString n).toList ++ rest) = .ok (.int n, rest) := by
  have hvalue : (if decide (n < 0) = true then -(n.natAbs : Int) else n.natAbs) = n := by
    by_cases h : n < 0
    · rw [if_pos (decide_eq_true h)]
      omega
    · rw [if_neg (by simpa using h)]
      omega
  have hlong' : Fault.isLong n.natAbs = false := by
    rw [Fault.isLong, Int.natAbs_natCast]
    exact hlong
  rw [toList_toString, scanScalar_signed ((digits_digitsOf n.natAbs).head (digitsOf_ne_nil _)),
    scanNumber_digitsOf hrest hlong', hvalue]

/-! ## Doubles -/

/-! ### The forms of a written double -/

/-- Digits, a point with further digits, and a power of ten; the last two may be missing. -/
def numeralText (whole fraction : List Char) (exponent : Option Int) : List Char :=
  whole ++ ((if fraction.isEmpty then [] else '.' :: fraction) ++
    exponent.elim [] Layout.exponentText)

/-- Digits of which the first stands at a place are written as such a numeral, and the numeral has their
value. With a layout that keeps the point it is no integer. -/
structure Form (l : Layout) (ds : List Char) (place : Int) (whole fraction : List Char)
    (exponent : Option Int) : Prop where
  text : l.digitsText ds place = numeralText whole fraction exponent
  wholeDigits : Digits whole
  wholeNe : whole ≠ []
  zero : whole.head? = some '0' → whole = ['0']
  fractionDigits : Digits fraction
  value : unitsOf (Nat.ofDigitChars 10 (whole ++ fraction) 0) (exponent.getD 0 - fraction.length) =
    unitsOf (Nat.ofDigitChars 10 ds 0) (place + 1 - ds.length)
  point : l.keepsPoint = true → fraction ≠ [] ∨ exponent.isSome = true

section Forms

variable (l : Layout) {ds : List Char} {place : Int} (hds : Digits ds) (hne : ds ≠ [])
  (hhead : ds.head? ≠ some '0')

include hds hne

/-- Below one, zeros stand between the point and the digits. -/
lemma form_small (hplain : l.leastPlain ≤ place ∧ place < l.firstScientific) (hneg : place < 0) :
    Form l ds place ['0'] (List.replicate (place.natAbs - 1) '0' ++ ds) none where
  text := by
    unfold Layout.digitsText numeralText
    rw [if_pos hplain, if_pos hneg, if_neg (by simp [hne])]
    simp
  wholeDigits := digits_replicate 1
  wholeNe := by simp
  zero _ := rfl
  fractionDigits := digits_append.mpr ⟨digits_replicate (place.natAbs - 1), hds⟩
  value := by
    rw [Nat.ofDigitChars_append, Nat.ofDigitChars_append, Nat.ofDigitChars_replicate_zero]
    simp only [Nat.ofDigitChars_cons, Option.getD_none, List.length_append, List.length_replicate]
    congr 1
    push_cast
    omega
  point _ := .inl (by simp [hne])

include hhead

/-- Few digits are filled up with zeros. -/
lemma form_filled {w : Nat} (hplain : l.leastPlain ≤ (w : Int) ∧ (w : Int) < l.firstScientific)
    (hlong : ds.length ≤ w + 1) :
    Form l ds w (ds ++ List.replicate (w + 1 - ds.length) '0') (if l.keepsPoint then ['0'] else [])
      none where
  text := by
    unfold Layout.digitsText numeralText
    rw [if_pos hplain, if_neg (by omega)]
    simp only [Int.toNat_natCast, List.take_of_length_le hlong, List.drop_of_length_le hlong]
    cases l.keepsPoint <;> simp
  wholeDigits := digits_append.mpr ⟨hds, digits_replicate (w + 1 - ds.length)⟩
  wholeNe := by simp [hne]
  zero h := by
    rw [List.head?_append_of_ne_nil _ hne] at h
    exact absurd h hhead
  fractionDigits := by
    cases l.keepsPoint with
    | true => exact digits_replicate 1
    | false => exact fun c hc => absurd hc (by simp)
  value := by
    have hfilled := unitsOf_mul_pow (Nat.ofDigitChars 10 ds 0) (w + 1 - ds.length)
      ((w : Int) + 1 - ds.length)
    have hpointed := unitsOf_mul_pow (Nat.ofDigitChars 10 ds 0 * 10 ^ (w + 1 - ds.length)) 1 0
    have hzero : (w : Int) + 1 - ds.length - ((w + 1 - ds.length : Nat) : Int) = 0 := by omega
    rw [hzero] at hfilled
    rw [← hfilled, Nat.ofDigitChars_append, Nat.ofDigitChars_append, Nat.ofDigitChars_replicate_zero,
      Nat.mul_comm]
    cases l.keepsPoint with
    | true => exact (congrArg₂ unitsOf (by simp [Nat.ofDigitChars_cons, Nat.mul_comm]) rfl).trans hpointed
    | false => rfl
  point h := .inl (by simp [h])

/-- Many digits are parted by the point. -/
lemma form_parted {w : Nat} (hplain : l.leastPlain ≤ (w : Int) ∧ (w : Int) < l.firstScientific)
    (hshort : w + 1 < ds.length) : Form l ds w (ds.take (w + 1)) (ds.drop (w + 1)) none := by
  have hparts := digits_append.mp ((List.take_append_drop (w + 1) ds).symm ▸ hds)
  have hdropNe : ds.drop (w + 1) ≠ [] := by
    rw [Ne, List.drop_eq_nil_iff]
    omega
  refine ⟨?_, hparts.1, by simpa using hne, fun h => ?_, hparts.2, ?_, fun _ => .inl hdropNe⟩
  · unfold Layout.digitsText numeralText
    rw [if_pos hplain, if_neg (by omega), Int.toNat_natCast]
    dsimp only
    rw [if_neg (by simpa using hdropNe), if_neg (by simpa using hdropNe),
      Nat.sub_eq_zero_of_le hshort.le]
    simp
  · have hfirst : (ds.take (w + 1)).head? = ds.head? := by
      cases ds with
      | nil => rfl
      | cons d ds => rfl
    exact absurd (hfirst ▸ h) hhead
  · rw [List.take_append_drop]
    congr 1
    simp only [Option.getD_none, List.length_drop]
    omega

/-- Very small and very large numbers have one digit in front of the point, and a power of ten. -/
lemma form_scientific (hplain : ¬ (l.leastPlain ≤ place ∧ place < l.firstScientific)) :
    Form l ds place (ds.take 1) (ds.drop 1) (some place) := by
  cases ds with
  | nil => exact absurd rfl hne
  | cons d more =>
    have hparts : Digits [d] ∧ Digits more := digits_append.mp hds
    refine ⟨?_, hparts.1, by simp, fun h => absurd h hhead, hparts.2, ?_, fun _ => .inr rfl⟩
    · unfold Layout.digitsText numeralText
      rw [if_neg hplain]
      cases more <;> simp
    · congr 1
      simp only [Option.getD_some, List.drop_one, List.tail_cons, List.length_cons]
      omega

/-- Digits are written in one of these forms, whatever the layout. -/
lemma exists_form (place : Int) : ∃ whole fraction exponent, Form l ds place whole fraction exponent := by
  by_cases hplain : l.leastPlain ≤ place ∧ place < l.firstScientific
  · by_cases hneg : place < 0
    · exact ⟨_, _, _, form_small l hds hne hplain hneg⟩
    · obtain ⟨w, rfl⟩ : ∃ w : Nat, place = (w : Int) := ⟨place.toNat, by omega⟩
      rcases Nat.lt_or_ge (w + 1) ds.length with hshort | hlong
      · exact ⟨_, _, _, form_parted l hds hne hhead hplain hshort⟩
      · exact ⟨_, _, _, form_filled l hds hne hhead hplain hlong⟩
  · exact ⟨_, _, _, form_scientific l hds hne hhead hplain⟩

end Forms

lemma exponentText_head (place : Int) (rest : List Char) :
    NoDigit (Layout.exponentText place ++ rest) ∧
      (Layout.exponentText place ++ rest).head? ≠ some '.' := by
  have hhead : (Layout.exponentText place ++ rest).head? = some 'e' := rfl
  constructor
  · intro c hc
    rw [hhead] at hc
    obtain rfl := Option.some.inj hc
    rfl
  · rw [hhead]
    simp

/-- A numeral begins with a digit. -/
lemma Form.head {l : Layout} {ds : List Char} {place : Int} {whole fraction : List Char}
    {exponent : Option Int} (h : Form l ds place whole fraction exponent) :
    ∃ c ∈ (l.digitsText ds place).head?, c.isDigit = true := by
  obtain ⟨c, hc, hdigit⟩ := h.wholeDigits.head h.wholeNe
  refine ⟨c, ?_, hdigit⟩
  rw [h.text, numeralText, List.head?_append_of_ne_nil _ h.wholeNe]
  exact hc

/-- In the layout of records a numeral is read as the double of its digits. -/
lemma Form.scanNumber {ds : List Char} {place : Int} {whole fraction : List Char}
    {exponent : Option Int} (h : Form Layout.record ds place whole fraction exponent) (negative : Bool)
    {rest : List Char} (hrest : Ends rest) :
    ∃ c e, Json.scanNumber negative (Layout.record.digitsText ds place ++ rest) =
        .ok (.float (ofDecimal negative c e), rest) ∧
      unitsOf c e = unitsOf (Nat.ofDigitChars 10 ds 0) (place + 1 - ds.length) := by
  -- What follows the digits is a power of ten, or nothing that belongs to the number.
  have htail : NoDigit (exponent.elim [] Layout.exponentText ++ rest) ∧
      (exponent.elim [] Layout.exponentText ++ rest).head? ≠ some '.' ∧
      scanExponent (exponent.elim [] Layout.exponentText ++ rest) = (exponent, rest) := by
    cases exponent with
    | none => exact ⟨hrest.noDigit, fun h => (hrest '.' h).2.1 rfl, scanExponent_none hrest⟩
    | some e =>
      obtain ⟨hdigit, hpoint⟩ := exponentText_head e rest
      exact ⟨hdigit, hpoint, scanExponent_text e hrest.noDigit⟩
  refine ⟨_, _, ?_, h.value⟩
  rw [h.text, numeralText]
  by_cases hfraction : fraction = []
  · obtain ⟨e, rfl⟩ := Option.isSome_iff_exists.mp ((h.point rfl).resolve_left (not_not.mpr hfraction))
    have hscan := scanNumber_exponent negative h.wholeDigits h.wholeNe h.zero htail.1 htail.2.1 htail.2.2
    subst hfraction
    simpa using hscan
  · have hscan := scanNumber_fraction negative h.wholeDigits h.wholeNe h.zero h.fractionDigits hfraction htail.1
      htail.2.2
    rw [if_neg (by simpa using hfraction)]
    simpa using hscan

/-- The digits of a coefficient are those without the zeros at its end, and these zeros. -/
lemma strippedDigits_append (c : Nat) :
    ∃ k, digitsOf c = strippedDigits c ++ List.replicate k '0' := by
  refine ⟨((digitsOf c).reverse.takeWhile (· = '0')).length, ?_⟩
  have hzeros : ((digitsOf c).reverse.takeWhile (· = '0')).reverse =
      List.replicate ((digitsOf c).reverse.takeWhile (· = '0')).length '0' := by
    rw [List.eq_replicate_iff]
    refine ⟨List.length_reverse, fun d hd => ?_⟩
    simpa using List.mem_takeWhile_imp (List.mem_reverse.mp hd)
  rw [← hzeros, strippedDigits, ← List.reverse_append, List.takeWhile_append_dropWhile,
    List.reverse_reverse]

/-- The digits of a positive decimal are read as the decimal. -/
lemma unitsOf_leading {d : Decimal} (hpos : 0 < d.coefficient) :
    Digits d.leading.1 ∧ d.leading.1 ≠ [] ∧ d.leading.1.head? ≠ some '0' ∧
      unitsOf (Nat.ofDigitChars 10 d.leading.1 0) (d.leading.2 + 1 - d.leading.1.length) =
        unitsOf d.coefficient d.exponent := by
  obtain ⟨k, hk⟩ := strippedDigits_append d.coefficient
  have hhead := head?_digitsOf hpos
  have hdigits := digits_digitsOf d.coefficient
  have hvalue : Nat.ofDigitChars 10 (digitsOf d.coefficient) 0 = d.coefficient :=
    Nat.ofDigitChars_ten_toDigits
  have hcount : digitCount d.coefficient = (strippedDigits d.coefficient).length + k := by
    rw [digitCount, hk, List.length_append, List.length_replicate]
  have hne : strippedDigits d.coefficient ≠ [] := by
    intro hnil
    rw [hnil, List.nil_append] at hk
    have hkpos : k ≠ 0 := by
      rintro rfl
      exact digitsOf_ne_nil _ hk
    obtain ⟨j, rfl⟩ := Nat.exists_eq_succ_of_ne_zero hkpos
    rw [hk] at hhead
    exact hhead rfl
  -- The zeros that were stripped from the digits are what the exponent gained.
  rw [hk] at hhead hdigits hvalue
  rw [List.head?_append_of_ne_nil _ hne] at hhead
  rw [Nat.ofDigitChars_append, Nat.ofDigitChars_replicate_zero, Nat.mul_comm] at hvalue
  unfold leading
  rw [if_neg hpos.ne']
  refine ⟨(digits_append.mp hdigits).1, hne, hhead, ?_⟩
  dsimp only
  rw [hcount]
  have hexponent := unitsOf_mul_pow (Nat.ofDigitChars 10 (strippedDigits d.coefficient) 0) k
    (d.exponent + k)
  conv_rhs => rw [← hvalue]
  rw [Int.add_sub_cancel] at hexponent
  rw [hexponent]
  congr 1
  push_cast
  omega

lemma coefficient_pos {units : Nat} (hpos : 0 < units) : 0 < (shortest units).coefficient := by
  by_contra hzero
  have hlow := (shortest_within hpos).low
  have hunits : unitsOf 0 (shortest units).exponent = 0 := by
    unfold unitsOf
    rw [Nat.cast_zero, zero_mul, zero_mul]
  rw [Nat.eq_zero_of_not_pos hzero, hunits] at hlow
  have hgap : (halfGaps units).1 ≤ 2 * units := by
    have hspacing := spacing_le hpos
    rcases halfGaps_low units with h | ⟨h, -⟩ <;> omega
  have hgap' : ((halfGaps units).1 : ℚ) ≤ 2 * units := by exact_mod_cast hgap
  have hpos' : (0 : ℚ) < units := by exact_mod_cast hpos
  linarith

/-- The digits of a positive decimal are written in one of the forms. -/
lemma exists_form_leading (l : Layout) {d : Decimal} (hpos : 0 < d.coefficient) :
    ∃ whole fraction exponent, Form l d.leading.1 d.leading.2 whole fraction exponent := by
  obtain ⟨hdigits, hne, hhead, -⟩ := unitsOf_leading hpos
  exact exists_form l hdigits hne hhead d.leading.2

lemma render_finite (l : Layout) (negative : Bool) {units : Nat} (h : Representable units)
    (hpos : 0 < units) : (l.render (.finite negative units h)).toList = signedText negative
      (l.digitsText (l.decimal units).leading.1 (l.decimal units).leading.2) := by
  unfold Layout.render
  dsimp only
  rw [if_neg hpos.ne', String.toList_ofList]
  rfl

lemma render_zero (l : Layout) (negative : Bool) (h : Representable 0) :
    (l.render (.finite negative 0 h)).toList = signedText negative (l.digitsText ['0'] 0) := by
  unfold Layout.render
  dsimp only
  rw [if_pos rfl, String.toList_ofList]
  rfl

lemma digitsText_zero : Layout.record.digitsText ['0'] 0 = ['0', '.', '0'] := rfl

lemma decimal_record (units : Nat) : Layout.record.decimal units = shortest units := rfl

lemma toList_render (negative : Bool) {units : Nat} (h : Representable units) :
    ∃ body, (Layout.record.render (.finite negative units h)).toList = signedText negative body ∧
      ∃ c ∈ body.head?, c.isDigit = true := by
  rcases Nat.eq_zero_or_pos units with rfl | hpos
  · exact ⟨_, render_zero Layout.record negative h, '0', rfl, rfl⟩
  · obtain ⟨_, _, _, hform⟩ := exists_form_leading Layout.record (coefficient_pos hpos)
    exact ⟨_, render_finite Layout.record negative h hpos, hform.head⟩

/-- A finite double is written so that it is read back. -/
theorem scanScalar_render (negative : Bool) {units : Nat} (h : Representable units)
    {rest : List Char} (hrest : Ends rest) :
    scanScalar ((Layout.record.render (.finite negative units h)).toList ++ rest) =
      .ok (.float (.finite negative units h), rest) := by
  rcases Nat.eq_zero_or_pos units with rfl | hpos
  · have hscan := scanNumber_fraction negative (digits_replicate 1) (by simp) (fun _ => rfl)
      (digits_replicate 1) (by simp) hrest.noDigit (scanExponent_none hrest)
    rw [render_zero, digitsText_zero, scanScalar_signed ⟨'0', rfl, rfl⟩]
    refine hscan.trans ?_
    have hvalue : Nat.ofDigitChars 10 (List.replicate 1 '0' ++ List.replicate 1 '0') 0 = 0 := rfl
    rw [hvalue, ofDecimal, if_pos rfl, ofUnits, dif_pos h]
  · obtain ⟨-, -, -, hunits⟩ := unitsOf_leading (coefficient_pos hpos)
    obtain ⟨_, _, _, hform⟩ := exists_form_leading Layout.record (coefficient_pos hpos)
    obtain ⟨c, e, hscan, hvalue⟩ := hform.scanNumber negative hrest
    rw [render_finite Layout.record negative h hpos, decimal_record, scanScalar_signed hform.head, hscan]
    have hwithin := shortest_within hpos
    rw [← hunits, ← hvalue] at hwithin
    rw [ofDecimal_of_within hpos h hwithin]

end Json
end DetectionFlow
