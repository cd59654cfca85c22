import DetectionFlow.Typed
import DetectionFlow.Proofs.AbridgedNumbers
import DetectionFlow.Proofs.NumberTextTheorems

/-!
# Texts that are offered for editing

A number that is offered for editing is written in few characters (`Numeral.characters`), and nothing of what
a person may type besides occurs among them: no blank, no underscore and no digit of another script. So the
text is read as the double of its six significant digits (`Numeral.readTyped?_brief`), and the text of some
points as the points with such coordinates (`Typed.points_pointsText`). Whatever text points are read from, they
are in the frame (`Typed.points_inFrame`).
-/

namespace DetectionFlow

open Text Decimal Double Json

/-! ## Characters -/

namespace Numeral

/-- The decimal digits. -/
def digits : List Char := ['0', '1', '2', '3', '4', '5', '6', '7', '8', '9']

/-- The characters that finite numbers are written in. -/
def characters : List Char := digits ++ ['+', '-', '.', 'e']

/-- None of them is a blank, a digit of another script, an underscore or a separator of points. -/
lemma characters_plain : ∀ c ∈ characters, isBlank c = false ∧ plainDigits [c] = [c] ∧
    c ≠ '_' ∧ c ≠ ',' ∧ c ≠ ';' :=
  List.forall_mem_iff_forall_getElem.mpr (by decide)

/-- No sign is among the digits, and no letter that a word begins with. -/
lemma digits_apart : ∀ c ∈ digits, c ≠ '-' ∧ c ≠ '+' ∧ c.toLower ≠ 'i' ∧ c.toLower ≠ 'n' := by
  simp [digits]

lemma mem_digits_of_isDigit {c : Char} (h : c.isDigit = true) : c ∈ digits := by
  have hall : ∀ n ∈ List.range' 48 10, Char.ofNat n ∈ digits := by decide
  have hbounds : 48 ≤ c.toNat ∧ c.toNat ≤ 57 := by
    simpa [Char.isDigit, UInt32.le_iff_toNat_le] using h
  rw [← Char.ofNat_toNat c]
  exact hall _ (List.mem_range'_1.mpr ⟨hbounds.1, by omega⟩)

/-- A text of a finite number. -/
def IsPlain (cs : List Char) : Prop := ∀ c ∈ cs, c ∈ characters

lemma isPlain_append {cs ds : List Char} : IsPlain (cs ++ ds) ↔ IsPlain cs ∧ IsPlain ds := by
  simp only [IsPlain, List.forall_mem_append]

lemma isPlain_of_digits {cs : List Char} (h : Digits cs) : IsPlain cs :=
  fun c hc => List.mem_append_left _ (mem_digits_of_isDigit (h c hc))

lemma isPlain_exponentText (place : Int) : IsPlain (Layout.exponentText place) := by
  obtain ⟨ds, hds, -, -, htext⟩ := exponentText_eq place
  have hmarks : 'e' ∈ characters ∧ '-' ∈ characters ∧ '+' ∈ characters := by decide
  rw [htext]
  refine List.forall_mem_cons.mpr ⟨hmarks.1, List.forall_mem_cons.mpr ⟨?_, isPlain_of_digits hds⟩⟩
  split
  · exact hmarks.2.1
  · exact hmarks.2.2

lemma isPlain_numeralText {whole fraction : List Char} {exponent : Option Int} (hwhole : Digits whole)
    (hfraction : Digits fraction) : IsPlain (numeralText whole fraction exponent) := by
  have hpoint : '.' ∈ characters := by decide
  refine isPlain_append.mpr ⟨isPlain_of_digits hwhole, isPlain_append.mpr ⟨?_, ?_⟩⟩
  · split
    · exact fun c hc => absurd hc List.not_mem_nil
    · exact List.forall_mem_cons.mpr ⟨hpoint, isPlain_of_digits hfraction⟩
  · cases exponent with
    | none => exact fun c hc => absurd hc List.not_mem_nil
    | some place => exact isPlain_exponentText place

lemma isPlain_signedText {negative : Bool} {cs : List Char} (h : IsPlain cs) :
    IsPlain (signedText negative cs) := by
  cases negative with
  | true => exact List.forall_mem_cons.mpr ⟨by decide, h⟩
  | false => exact h

end Numeral

/-! ## Readers -/

lemma List.dropWhile_none {α : Type} {p : α → Bool} {as : List α} (h : ∀ a ∈ as, p a = false) :
    as.dropWhile p = as :=
  List.dropWhile_eq_self_iff.mpr fun hl => by simp [h _ (List.getElem_mem hl)]

/-- Where no blank is, none is dropped. -/
lemma Text.trim_eq_self {cs : List Char} (h : ∀ c ∈ cs, isBlank c = false) : trim cs = cs := by
  have hreverse : ∀ c ∈ cs.reverse, isBlank c = false := fun c hc => h c (List.mem_reverse.mp hc)
  rw [trim, trimRight, trimLeft, List.dropWhile_none h, List.dropWhile_none hreverse, List.reverse_reverse]

namespace Numeral

variable {cs : List Char} {negative : Bool}

lemma trimNumber_eq_self (h : ∀ c ∈ cs, isBlank c = false) : trimNumber cs = cs := by
  have hnone : ∀ c ∈ cs, isNumberBlank c = false := fun c hc => by simp [isNumberBlank, h c hc]
  have hreverse : ∀ c ∈ cs.reverse, isNumberBlank c = false :=
    fun c hc => hnone c (List.mem_reverse.mp hc)
  rw [trimNumber, List.dropWhile_none hnone, List.dropWhile_none hreverse, List.reverse_reverse]

lemma dropBetweenDigits?_eq_self (h : '_' ∉ cs) : dropBetweenDigits? cs = some cs := by
  fun_induction dropBetweenDigits? cs with
  | case1 => rfl
  | case2 => simp at h
  | case3 => simp at h
  | case4 => simp at h
  | case5 => simp at h
  | case6 c rest _ _ ih =>
    rw [ih fun hmem => h (List.mem_cons_of_mem _ hmem)]
    rfl

/-- A person may type such a text, and nothing of it is dropped or replaced. -/
lemma readTyped?_of_isPlain (h : IsPlain cs) : readTyped? (String.ofList cs) = readPlain? cs := by
  have hdigits : plainDigits cs = cs :=
    (List.map_congr_left fun c hc => (List.cons.inj (characters_plain c (h c hc)).2.1).1).trans
      (List.map_id cs)
  have hseparator : '_' ∉ cs := fun hmem => (characters_plain _ (h _ hmem)).2.2.1 rfl
  rw [readTyped?, String.toList_ofList, trimNumber_eq_self fun c hc => (characters_plain c (h c hc)).1,
    hdigits, dropBetweenDigits?_eq_self hseparator, Option.bind_some]

/-- What begins with a digit behind its sign is no word. -/
lemma readPlain?_signedText (hhead : ∃ c ∈ cs.head?, c.isDigit = true) :
    readPlain? (signedText negative cs) = readUnsigned? negative cs := by
  obtain ⟨c, hc, hdigit⟩ := hhead
  cases cs with
  | nil => simp at hc
  | cons d cs =>
    obtain rfl : d = c := Option.some.inj hc
    obtain ⟨hminus, hplus, hi, hn⟩ := digits_apart d (mem_digits_of_isDigit hdigit)
    have hsign : splitSign (signedText negative (d :: cs)) = (negative, d :: cs) := by
      cases negative with
      | true => rfl
      | false =>
        show splitSign (d :: cs) = _
        unfold splitSign
        split
        next heq => exact absurd (List.cons.inj heq).1 hminus
        next heq => exact absurd (List.cons.inj heq).1 hplus
        next => rfl
    have hword : ∀ w : String, w.toList.head? = some 'i' ∨ w.toList.head? = some 'n' →
        String.ofList ((d :: cs).map Char.toLower) ≠ w := by
      rintro w hw rfl
      rw [String.toList_ofList] at hw
      rcases hw with hw | hw
      · exact hi (Option.some.inj hw)
      · exact hn (Option.some.inj hw)
    unfold readPlain?
    rw [hsign]
    dsimp only
    rw [if_neg (not_or.mpr ⟨hword "inf" (.inl rfl), hword "infinity" (.inl rfl)⟩),
      if_neg (hword "nan" (.inr rfl))]

/-! ## Numbers -/

section Parts

variable {ws fs : List Nat} {more tail : List Char} {e : Int}

lemma readUnsigned?_whole (hwhole : spanDigits cs = (ws, tail)) (hne : ws ≠ [])
    (hpoint : tail.head? ≠ some '.') (hexponent : readExponent? tail = some e) :
    readUnsigned? negative cs = some (ofDecimal negative (digitsValue ws) e) := by
  unfold readUnsigned?
  rw [hwhole]
  dsimp only
  split
  next => exact absurd rfl hpoint
  next => simp [hne, hexponent]

lemma readUnsigned?_point (hwhole : spanDigits cs = (ws, '.' :: more)) (hne : ws ≠ [])
    (hfraction : spanDigits more = (fs, tail)) (hexponent : readExponent? tail = some e) :
    readUnsigned? negative cs = some (ofDecimal negative (digitsValue (ws ++ fs)) (e - fs.length)) := by
  simp [readUnsigned?, hwhole, hne, hfraction, hexponent]

end Parts

/-- A numeral is read as the double of its digits, whatever its form. -/
lemma readUnsigned?_form {l : Layout} {ds : List Char} {place : Int} {whole fraction : List Char}
    {exponent : Option Int} (h : Form l ds place whole fraction exponent) (negative : Bool) :
    readUnsigned? negative (l.digitsText ds place) =
      some (ofDecimal negative (Nat.ofDigitChars 10 ds 0) (place + 1 - ds.length)) := by
  -- Behind the digits stands the exponent or nothing, and neither continues the digits.
  have htail : NoDigit (exponent.elim [] Layout.exponentText) ∧
      (exponent.elim [] Layout.exponentText).head? ≠ some '.' ∧
      readExponent? (exponent.elim [] Layout.exponentText) = some (exponent.getD 0) := by
    cases exponent with
    | none => exact ⟨by simp [NoDigit], by simp, rfl⟩
    | some e =>
      obtain ⟨hdigit, hpoint⟩ := exponentText_head e []
      rw [List.append_nil] at hdigit hpoint
      exact ⟨hdigit, hpoint, readExponent?_text e⟩
  obtain ⟨hdigit, hpoint, hexponent⟩ := htail
  have hwholeNe : whole.map digitOf ≠ [] := by simpa using h.wholeNe
  rw [h.text, numeralText, ← ofDecimal_congr h.value]
  generalize exponent.elim [] Layout.exponentText = tail at *
  by_cases hfraction : fraction = []
  · subst hfraction
    rw [List.append_nil, ← digitsValue_map, List.length_nil, Int.natCast_zero, Int.sub_zero]
    exact readUnsigned?_whole (spanDigits_append h.wholeDigits hdigit) hwholeNe hpoint hexponent
  · have hmark : NoDigit ('.' :: (fraction ++ tail)) := by
      rintro c ⟨rfl⟩
      rfl
    have hlength : fraction.length = (fraction.map digitOf).length := by rw [List.length_map]
    rw [if_neg (by simpa using hfraction), List.cons_append, ← digitsValue_map, List.map_append, hlength]
    exact readUnsigned?_point (spanDigits_append h.wholeDigits hmark) hwholeNe
      (spanDigits_append h.fractionDigits hdigit) hexponent

lemma decimal_brief (units : Nat) : Layout.brief.decimal units = significant units 6 := rfl

/-- The text of a finite number is a sign and a body of plain characters, which is read as the number with six
digits. -/
lemma brief_body (negative : Bool) {units : Nat} (h : Representable units) :
    ∃ body, (Layout.brief.render (.finite negative units h)).toList = signedText negative body ∧
      IsPlain body ∧ (∃ c ∈ body.head?, c.isDigit = true) ∧
      readUnsigned? negative body = some (abridged (.finite negative units h)) := by
  rcases Nat.eq_zero_or_pos units with rfl | hpos
  · refine ⟨['0'], render_zero Layout.brief negative h, isPlain_of_digits (digits_replicate 1),
      ⟨'0', rfl, rfl⟩, ?_⟩
    rw [abridged_zero h]
    have hzero : readUnsigned? negative ['0'] = some (ofDecimal negative 0 0) := rfl
    rw [hzero, ofDecimal, if_pos rfl, ofUnits, dif_pos h]
  · have hcoefficient := @significant_coefficient_pos units 6 hpos (by omega)
    obtain ⟨_, _, _, hform⟩ := exists_form_leading Layout.brief hcoefficient
    obtain ⟨-, -, -, hvalue⟩ := unitsOf_leading hcoefficient
    refine ⟨_, render_finite Layout.brief negative h hpos, ?_, hform.head, ?_⟩
    · rw [decimal_brief, hform.text]
      exact isPlain_numeralText hform.wholeDigits hform.fractionDigits
    · rw [decimal_brief, readUnsigned?_form hform, ofDecimal_congr hvalue, abridged_of_pos hpos]

lemma isPlain_brief {x : Double} (hx : x.isFinite = true) : IsPlain (Layout.brief.render x).toList := by
  cases x with
  | finite negative units h =>
    obtain ⟨body, htext, hplain, -, -⟩ := brief_body negative h
    rw [htext]
    exact isPlain_signedText hplain
  | _ => cases hx

/-- A number that is offered for editing is read as its six significant digits. -/
theorem readTyped?_brief (x : Double) : readTyped? (Layout.brief.render x) = some x.abridged := by
  cases x with
  | nan => decide
  | infinity negative => cases negative <;> decide
  | finite negative units h =>
    obtain ⟨body, htext, hplain, hhead, hread⟩ := brief_body negative h
    rw [← String.ofList_toList (s := Layout.brief.render _), htext,
      readTyped?_of_isPlain (isPlain_signedText hplain), readPlain?_signedText hhead, hread]

end Numeral

lemma Value.toDouble_text {s : String} {x : Double} (h : Numeral.readTyped? s = some x) :
    (Value.text s).toDouble = .ok x := by
  have hnumeral : (text s).numeral?.bind Numeral.readTyped? = some x := h
  unfold toDouble
  rw [hnumeral]

lemma Typed.secondsComplaint_eq_none {s : String} :
    secondsComplaint s = none ↔ ∃ x, Numeral.readTyped? s = some x ∧ Double.zero.le x = true := by
  unfold secondsComplaint
  cases Numeral.readTyped? s with
  | none => simp
  | some x => simp

/-! ## Points -/

namespace Text

variable {sep : Char} {cs rest : List Char}

lemma splitAt_append (h : sep ∉ cs) (rest : List Char) :
    splitAt sep (cs ++ sep :: rest) = cs :: splitAt sep rest := by
  induction cs with
  | nil => simp [splitAt]
  | cons c cs ih =>
    obtain ⟨hc, hcs⟩ := List.ne_and_not_mem_of_not_mem_cons h
    rw [List.cons_append, splitAt, if_neg hc.symm, ih hcs]

lemma splitAt_of_not_mem (h : sep ∉ cs) : splitAt sep cs = [cs] := by
  induction cs with
  | nil => rfl
  | cons c cs ih =>
    obtain ⟨hc, hcs⟩ := List.ne_and_not_mem_of_not_mem_cons h
    rw [splitAt, if_neg hc.symm, ih hcs]

/-- A blank in front of a text is in front of its first part, and is not kept there. -/
lemma map_trim_splitAt_blank {c : Char} (hc : isBlank c = true) (hne : c ≠ sep) (cs : List Char) :
    (splitAt sep (c :: cs)).map trim = (splitAt sep cs).map trim := by
  obtain ⟨first, more, hsplit⟩ := List.exists_cons_of_ne_nil (splitAt_ne_nil sep cs)
  have htrim : trim (c :: first) = trim first := by
    rw [trim, trimLeft, List.dropWhile_cons_of_pos hc]
    rfl
  rw [splitAt, if_neg hne, hsplit, List.map_cons, List.map_cons, htrim]

/-- Parts behind semicolons and blanks are found again. -/
lemma map_trim_splitAt_intercalate {parts : List (List Char)} (hne : parts ≠ [])
    (h : ∀ t ∈ parts, ';' ∉ t ∧ trim t = t) :
    (splitAt ';' ([';', ' '].intercalate parts)).map trim = parts := by
  induction parts with
  | nil => exact absurd rfl hne
  | cons t parts ih =>
    obtain ⟨⟨hsep, htrim⟩, hparts⟩ := List.forall_mem_cons.mp h
    cases parts with
    | nil => rw [List.intercalate_singleton, splitAt_of_not_mem hsep, List.map_singleton, htrim]
    | cons u parts =>
      rw [List.intercalate_cons_cons, List.append_assoc, List.cons_append, List.cons_append,
        List.nil_append, splitAt_append hsep, List.map_cons, htrim,
        map_trim_splitAt_blank (by decide) (by decide), ih (List.cons_ne_nil u parts) hparts]

end Text

namespace Point

/-- The point with six significant digits of both coordinates. -/
def abridged (p : Point) : Point := ⟨p.x.abridged, p.y.abridged⟩

/-- Some decimals of at most six digits are read as the coordinates. -/
def IsBrief (p : Point) : Prop := p.x.IsBrief ∧ p.y.IsBrief

lemma InFrame.abridged {p : Point} (h : p.InFrame) : p.abridged.InFrame where
  left := zero_le_abridged h.left
  right := abridged_le_one h.left h.right
  top := zero_le_abridged h.top
  bottom := abridged_le_one h.top h.bottom

lemma InFrame.abridged_eq_iff {p : Point} (h : p.InFrame) : p.abridged = p ↔ p.IsBrief := by
  rw [Point.abridged, Point.mk.injEq, Double.abridged_eq_iff (isFinite_of_le_one h.left h.right),
    Double.abridged_eq_iff (isFinite_of_le_one h.top h.bottom), IsBrief]

/-- Points in the frame stay exactly if all of them are brief. -/
lemma map_abridged_eq_iff {ps : List Point} (h : ∀ p ∈ ps, p.InFrame) :
    ps.map Point.abridged = ps ↔ ∀ p ∈ ps, p.IsBrief := by
  have hself := List.map_inj_left (l := ps) (f := Point.abridged) (g := id)
  rw [List.map_id] at hself
  rw [hself]
  exact forall₂_congr fun p hp => (h p hp).abridged_eq_iff

end Point

namespace Typed

open Numeral

/-- The text of a point. -/
def pointText (p : Point) : String := Layout.brief.render p.x ++ "," ++ Layout.brief.render p.y

lemma coordinate_brief (x : Double) : coordinate (Layout.brief.render x).toList = .ok x.abridged := by
  rw [coordinate, String.ofList_toList]
  exact Value.toDouble_text (readTyped?_brief x)

variable {p : Point} {ps : List Point}

lemma toList_pointText (p : Point) : (pointText p).toList =
    (Layout.brief.render p.x).toList ++ ',' :: (Layout.brief.render p.y).toList := by
  rw [pointText, String.toList_append, String.toList_append, List.append_assoc]
  rfl

/-- Both coordinates of a point are written in plain characters. -/
lemma isPlain_coordinates (h : p.InFrame) :
    IsPlain (Layout.brief.render p.x).toList ∧ IsPlain (Layout.brief.render p.y).toList :=
  ⟨isPlain_brief (isFinite_of_le_one h.left h.right), isPlain_brief (isFinite_of_le_one h.top h.bottom)⟩

/-- The text of a point holds no separator of points, and no blanks around it. -/
lemma pointText_plain (h : p.InFrame) :
    ';' ∉ (pointText p).toList ∧ trim (pointText p).toList = (pointText p).toList := by
  obtain ⟨hx, hy⟩ := isPlain_coordinates h
  have hall : ∀ c ∈ (pointText p).toList, isBlank c = false ∧ c ≠ ';' := by
    rw [toList_pointText]
    simp only [List.forall_mem_append, List.forall_mem_cons]
    have hplain := fun c hc => characters_plain c hc
    exact ⟨fun c hc => ⟨(hplain c (hx c hc)).1, (hplain c (hx c hc)).2.2.2.2⟩, by decide,
      fun c hc => ⟨(hplain c (hy c hc)).1, (hplain c (hy c hc)).2.2.2.2⟩⟩
  exact ⟨fun hmem => (hall _ hmem).2 rfl, trim_eq_self fun c hc => (hall c hc).1⟩

lemma point_pointText (h : p.InFrame) : point (pointText p).toList = .ok p.abridged := by
  obtain ⟨hx, hy⟩ := isPlain_coordinates h
  have hcomma : ∀ {cs : List Char}, IsPlain cs → ',' ∉ cs :=
    fun hcs hmem => (characters_plain _ (hcs _ hmem)).2.2.2.1 rfl
  have htrim : ∀ {cs : List Char}, IsPlain cs → trim cs = cs :=
    fun hcs => trim_eq_self fun c hc => (characters_plain c (hcs c hc)).1
  have hframe := h.abridged
  have hinside : (inFrame p.x.abridged && inFrame p.y.abridged) = true := by
    simp only [inFrame, Bool.and_eq_true]
    exact ⟨⟨hframe.left, hframe.right⟩, hframe.top, hframe.bottom⟩
  rw [point, toList_pointText, splitAt_append (hcomma hx), splitAt_of_not_mem (hcomma hy)]
  dsimp only
  rw [htrim hx, htrim hy, coordinate_brief, coordinate_brief]
  exact if_pos hinside

/-- The text of points in the frame is read as the points with six digits. -/
theorem points_pointsText (h : ∀ p ∈ ps, p.InFrame) :
    points (pointsText ps) = .ok (ps.map Point.abridged) := by
  have htext : (pointsText ps).toList = [';', ' '].intercalate (ps.map fun p => (pointText p).toList) := by
    rw [pointsText, String.toList_intercalate, List.map_map]
    rfl
  have hparts : ((splitAt ';' (pointsText ps).toList).map trim).filter (!·.isEmpty) =
      ps.map fun p => (pointText p).toList := by
    cases ps with
    | nil => rfl
    | cons p ps =>
      rw [htext, map_trim_splitAt_intercalate (by simp)
        (List.forall_mem_map.mpr fun p hp => pointText_plain (h p hp))]
      refine List.filter_eq_self.mpr (List.forall_mem_map.mpr fun p _ => ?_)
      simp [toList_pointText]
  rw [points, hparts]
  refine Except.mapM_eq_ok.mpr ?_
  rw [List.forall₂_map_left_iff, List.forall₂_map_right_iff]
  exact List.forall₂_same.mpr fun p hp => point_pointText (h p hp)

/-! ## What is accepted -/

lemma point_inFrame {cs : List Char} (h : point cs = .ok p) : p.InFrame := by
  unfold point at h
  split at h
  · obtain ⟨x, -, h⟩ := Except.bind_eq_ok.mp h
    obtain ⟨y, -, h⟩ := Except.bind_eq_ok.mp h
    split at h
    next hinside =>
      obtain rfl := Except.ok.inj h
      simp only [inFrame, Bool.and_eq_true] at hinside
      exact ⟨hinside.1.1, hinside.1.2, hinside.2.1, hinside.2.2⟩
    next => cases h
  · cases h

/-- Points that are read are in the frame. -/
lemma points_inFrame {s : String} (h : points s = .ok ps) : ∀ p ∈ ps, p.InFrame := by
  intro p hp
  obtain ⟨cs, -, hcs⟩ := exists_of_forall₂ (Except.mapM_eq_ok.mp h).flip hp
  exact point_inFrame hcs

lemma pointsComplaint_eq_none {least : Nat} {most : Option Nat} {s : String} :
    pointsComplaint least most s = none ↔
      ∃ ps, points s = .ok ps ∧ least ≤ ps.length ∧ ∀ n ∈ most, ps.length ≤ n := by
  unfold pointsComplaint
  cases points s with
  | error f => simp
  | ok ps =>
    by_cases hfew : ps.length < least
    · simp [hfew, Nat.not_le.mpr hfew]
    · have hleast := Nat.not_lt.mp hfew
      cases most with
      | none => simp [hfew, hleast]
      | some n => by_cases hmany : n < ps.length <;> simp [hfew, hleast, hmany, not_le_of_gt, le_of_not_gt]

end Typed
end DetectionFlow
