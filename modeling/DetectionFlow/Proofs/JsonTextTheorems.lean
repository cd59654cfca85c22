import DetectionFlow.Json.Reader
import DetectionFlow.Json.Writer
import DetectionFlow.Proofs.TextUnitTheorems

/-!
# Texts between double quotes

What `Json.textToken` writes, `Json.scanCodes?` reads as the units of the text
(`scanCodes?_escaped`), so that a written text is read as its `Text.rejoin`. Nothing but the units of a
text shows in its written form (`textToken_rejoin`).
-/

namespace DetectionFlow
namespace Json

open Text Text.Half

/-! ## Hexadecimal digits -/

lemma hexDigits_one {n : Nat} (h : n < 16) : hexDigits 1 n = [n.digitChar] := by
  rw [hexDigits, Nat.toDigits_of_lt_base h]
  rfl

/-- The last digit and those in front of it. -/
lemma hexDigits_succ {width n : Nat} (hwidth : 0 < width) :
    hexDigits (width + 1) n = hexDigits width (n / 16) ++ [(n % 16).digitChar] := by
  unfold hexDigits
  by_cases h : n < 16
  · have hzero : n / 16 = 0 := Nat.div_eq_of_lt h
    obtain ⟨k, rfl⟩ : ∃ k, width = k + 1 := ⟨width - 1, by omega⟩
    rw [Nat.toDigits_of_lt_base h, hzero, Nat.toDigits_zero, Nat.mod_eq_of_lt h]
    simp [List.replicate_succ']
  · rw [Nat.toDigits_of_base_le (by omega) (by omega)]
    simp only [List.length_append, List.length_singleton, Nat.reduceSubDiff, List.append_assoc]

lemma hexDigits_four {n : Nat} (h : n < 0x10000) :
    hexDigits 4 n = [(n / 16 / 16 / 16).digitChar, (n / 16 / 16 % 16).digitChar,
      (n / 16 % 16).digitChar, (n % 16).digitChar] := by
  rw [hexDigits_succ (by omega), hexDigits_succ (by omega), hexDigits_succ (by omega),
    hexDigits_one (by omega)]
  rfl

lemma hexDigit?_digitChar {n : Nat} (h : n < 16) : hexDigit? n.digitChar = some n := by
  have hall : ∀ n : Fin 16, hexDigit? n.val.digitChar = some n.val := by decide
  exact hall ⟨n, h⟩

/-- Four digits are read as the number that they were written for. -/
lemma hexFour?_digits {n : Nat} (h : n < 0x10000) :
    hexFour? (n / 16 / 16 / 16).digitChar (n / 16 / 16 % 16).digitChar (n / 16 % 16).digitChar
      (n % 16).digitChar = some n := by
  unfold hexFour?
  rw [hexDigit?_digitChar (by omega), hexDigit?_digitChar (by omega),
    hexDigit?_digitChar (by omega), hexDigit?_digitChar (by omega)]
  show some _ = some n
  rw [Option.some.injEq]
  omega

/-! ## Escapes -/

/-- Codes in front of what is read from the rest. -/
def putCodes (codes : List Nat) (r : List Nat × List Char) : List Nat × List Char :=
  (codes ++ r.1, r.2)

lemma scanCodes?_unitEscape {n : Nat} (h : n < 0x10000) (rest : List Char) :
    scanCodes? (unitEscape n ++ rest) = (scanCodes? rest).map (putCodes [n]) := by
  rw [unitEscape, hexDigits_four h]
  simp only [List.cons_append, List.nil_append]
  rw [scanCodes?, hexFour?_digits h]
  rfl

/-- A character that is written as it is. -/
lemma scanCodes?_plain {c : Char} (hquote : c ≠ '"') (hslash : c ≠ '\\') (h : 0x20 ≤ c.toNat)
    (rest : List Char) :
    scanCodes? (c :: rest) = (scanCodes? rest).map (putCodes [c.toNat]) := by
  rw [scanCodes?.eq_def]
  split
  · simp at *
  · simp_all
  · simp_all
  · simp_all
  next c' rest' _ _ _ heq =>
    obtain ⟨rfl, rfl⟩ := List.cons.inj heq
    rw [if_neg (by omega)]
    rfl

/-- A character with a short escape. -/
lemma scanCodes?_short {e c : Char} (h : shortEscape? e = some c) (rest : List Char) :
    scanCodes? ('\\' :: e :: rest) = (scanCodes? rest).map (putCodes [c.toNat]) := by
  have hnotUnit : e ≠ 'u' := by
    rintro rfl
    simp [shortEscape?] at h
  rw [scanCodes?.eq_def]
  split
  · simp at *
  · simp at *
  next heq => simp_all
  next e' rest' _ heq =>
    obtain ⟨rfl, rfl⟩ : e = e' ∧ rest = rest' := by simpa using heq
    rw [h]
    rfl
  next c' rest' _ _ hslash heq =>
    obtain ⟨rfl, rfl⟩ := List.cons.inj heq
    exact (hslash e rest rfl rfl).elim

lemma units_of_lt {c : Char} (h : Half.code c < 0x10000) : units c = [Half.code c] := by
  rw [units, if_pos h]

lemma units_of_toNat_lt {c : Char} (h : c.toNat < 0x10000) : units c = [c.toNat] := by
  rw [units, code_of_none (code?_of_lt h), if_pos h]

/-- A written character is read as its units. -/
lemma scanCodes?_escaped (c : Char) (rest : List Char) :
    scanCodes? (escaped c ++ rest) = (scanCodes? rest).map (putCodes (units c)) := by
  unfold escaped
  split
  iterate 7
    · rw [units_of_toNat_lt (by decide)]
      exact scanCodes?_short rfl rest
  next hquote hslash _ _ _ _ _ =>
    dsimp only
    by_cases hplain : 0x20 ≤ Half.code c ∧ Half.code c < 0x7f
    · -- A code in this range is that of the character itself.
      have hcode : Half.code c = c.toNat := by
        refine code_of_none ?_
        by_contra hne
        obtain ⟨n, hn⟩ := Option.ne_none_iff_exists'.mp hne
        have hhalf := isHalf_iff.mp (code?_eq_some hn).1
        have : Half.code c = n := by rw [Half.code, hn]; rfl
        omega
      rw [if_pos hplain, List.singleton_append, units_of_lt (by omega), hcode]
      exact scanCodes?_plain (by simpa using hquote) (by simpa using hslash) (by omega) rest
    · rw [if_neg hplain]
      by_cases hone : Half.code c < 0x10000
      · rw [if_pos hone, units_of_lt hone]
        exact scanCodes?_unitEscape hone rest
      · have hlt := fun u (hu : u ∈ units c) => mem_units_lt hu
        rw [units, if_neg hone] at hlt ⊢
        rw [if_neg hone, List.append_assoc, scanCodes?_unitEscape (hlt _ (by simp)),
          scanCodes?_unitEscape (hlt _ (by simp)), Option.map_map]
        rfl

/-- What is read of the characters of a text and the quote behind them. -/
theorem scanCodes?_flatMap_escaped (cs rest : List Char) :
    scanCodes? (cs.flatMap escaped ++ '"' :: rest) = some (cs.flatMap units, rest) := by
  induction cs with
  | nil =>
    rw [List.flatMap_nil, List.nil_append, scanCodes?]
    rfl
  | cons c cs ih =>
    rw [List.flatMap_cons, List.append_assoc, scanCodes?_escaped, ih, List.flatMap_cons]
    rfl

/-! ## Written texts and their units -/

/-- A character beyond ASCII is written as its code, or as the halves of that. -/
lemma escaped_of_le {c : Char} (h : 0x7f ≤ Half.code c) :
    escaped c = if Half.code c < 0x10000 then unitEscape (Half.code c)
      else unitEscape (Half.split (Half.code c)).1 ++ unitEscape (Half.split (Half.code c)).2 := by
  unfold escaped
  split
  iterate 7
    · rw [code_of_none (code?_of_lt (by decide))] at h
      exact absurd h (by decide)
  · dsimp only
    rw [if_neg (by omega)]

/-- The two units of a character are halves. -/
lemma isHalf_split {c : Char} (h : 0x10000 ≤ Half.code c) :
    isHalf (Half.split (Half.code c)).1 = true ∧ isHalf (Half.split (Half.code c)).2 = true := by
  have hlt := toNat_lt c
  have hcode := code_le_toNat c
  simp only [isHalf_iff, Half.split, Half.first, Half.firstOfSecond]
  omega

/-- A character is written as its units are. -/
lemma escaped_eq_units (c : Char) : escaped c = (units c).flatMap fun u => escaped (Half.char u) := by
  by_cases hone : Half.code c < 0x10000
  · rw [units_of_lt hone, List.flatMap_cons, char_code, List.flatMap_nil, List.append_nil]
  · -- The character is written as two halves, and so is each of its units.
    have hhalf : ∀ n, isHalf n = true → escaped (Half.char n) = unitEscape n := by
      intro n hn
      have hbounds := isHalf_iff.mp hn
      rw [escaped_of_le (by rw [code_char (by omega)]; omega), code_char (by omega),
        if_pos (by omega)]
    obtain ⟨hhigh, hlow⟩ := isHalf_split (c := c) (by omega)
    rw [escaped_of_le (by omega), if_neg hone, units, if_neg hone, List.flatMap_cons,
      List.flatMap_cons, hhalf _ hhigh, hhalf _ hlow, List.flatMap_nil, List.append_nil]

/-- Texts with the same units are written alike. -/
theorem textToken_rejoin (s : String) : textToken (rejoin s) = textToken s := by
  have hunits : ∀ t : String, t.toList.flatMap escaped =
      (t.toList.flatMap units).flatMap fun u => escaped (Half.char u) := by
    intro t
    rw [List.flatMap_assoc]
    exact List.flatMap_congr fun c _ => escaped_eq_units c
  rw [textToken, textToken, hunits, units_rejoin, ← hunits]

end Json
end DetectionFlow
