import DetectionFlow.Text.Half
import Mathlib

/-!
# Texts as units

In a format of 16 bits a text is a list of units: one for most characters and for each half, two for
a character beyond the first 65536. `Text.units` lists the units of a character, and
`Text.joinPairs` makes characters of units again.

Units come back from the characters that were made of them (`flatMap_units_joinPairs`), and so do the
characters of a text without halves (`joinPairs_flatMap_units`). A text with two halves next to each
other may come back with one character for both: as `Text.rejoin`, which has the same units.
-/

namespace DetectionFlow
namespace Text

open Half

/-- The units of a character, or the one of the half that it stands for. -/
def units (c : Char) : List Nat :=
  if code c < 0x10000 then [code c] else [(split (code c)).1, (split (code c)).2]

/-! ## Codes -/

lemma toNat_lt (c : Char) : c.toNat < 0x110000 := by
  rcases c.valid with h | h
  · show c.val.toNat < 0x110000
    have : c.val.toNat < 0xd800 := h
    omega
  · exact h.2

lemma isHalf_iff {n : Nat} : isHalf n = true ↔ 0xd800 ≤ n ∧ n < 0xe000 := by
  rw [isHalf, Bool.and_eq_true, decide_eq_true_iff, decide_eq_true_iff]
  exact Iff.rfl

lemma isPair_iff {high low : Nat} :
    isPair high low = true ↔ 0xd800 ≤ high ∧ high < 0xdc00 ∧ 0xdc00 ≤ low ∧ low < 0xe000 ∧
      code? (join high low) = none := by
  simp only [isPair, Bool.and_eq_true, decide_eq_true_iff, and_assoc, Option.isNone_iff_eq_none]
  exact Iff.rfl

lemma code?_eq_some {c : Char} {n : Nat} (h : code? c = some n) :
    isHalf n = true ∧ c.toNat = n + 0xd0000 := by
  unfold code? at h
  split at h
  next hc =>
    obtain rfl := Option.some.inj h
    rw [Bool.and_eq_true, decide_eq_true_iff] at hc
    exact ⟨hc.1, (Nat.sub_add_cancel hc.2).symm⟩
  · simp at h

/-- No character is a half itself. -/
lemma isHalf_toNat (c : Char) : isHalf c.toNat = false := by
  by_contra hne
  have h := isHalf_iff.mp (by simpa using hne)
  rcases c.valid with hc | hc
  · have : c.toNat < 0xd800 := hc
    omega
  · have : 0xdfff < c.toNat := hc.1
    omega

lemma code?_of_lt {c : Char} (h : c.toNat < 0x10000) : code? c = none := by
  by_contra hne
  obtain ⟨n, hn⟩ := Option.ne_none_iff_exists'.mp hne
  have := (code?_eq_some hn).2
  omega

lemma code_of_none {c : Char} (h : code? c = none) : code c = c.toNat := by
  rw [code, h]
  rfl

/-- A stand-in lies above its half. -/
lemma code_le_toNat (c : Char) : code c ≤ c.toNat := by
  cases hhalf : code? c with
  | none => rw [code_of_none hhalf]
  | some n =>
    have := (code?_eq_some hhalf).2
    rw [code, hhalf, Option.getD_some]
    omega

/-- A character that is no stand-in is the one of its code. -/
lemma char_toNat (c : Char) : char c.toNat = c := by
  rw [char, isHalf_toNat, if_neg (by simp), Char.ofNat_toNat]

/-- A character is the one of its code. -/
lemma char_code (c : Char) : char (code c) = c := by
  cases hhalf : code? c with
  | none =>
    rw [code_of_none hhalf]
    exact char_toNat c
  | some n =>
    obtain ⟨hn, hc⟩ := code?_eq_some hhalf
    have hcode : code c = n := by rw [code, hhalf]; rfl
    rw [hcode]
    apply Char.ext
    apply UInt32.toNat_inj.mp
    exact (toNat_char hn).trans hc.symm

lemma code_char {n : Nat} (h : n < 0x10000) : code (char n) = n := by
  by_cases hhalf : isHalf n = true
  · rw [code, code?_char hhalf]
    rfl
  · have hvalid : n.isValidChar := by
      rw [isHalf_iff] at hhalf
      unfold Nat.isValidChar
      omega
    have hnat : (char n).toNat = n := by
      rw [char, if_neg hhalf, Char.ofNat, dif_pos hvalid]
      rfl
    rw [code_of_none (code?_of_lt (by omega)), hnat]

/-! ## Pairs -/

lemma toNat_join {high low : Nat} (h : isPair high low = true) :
    (join high low).toNat = 0x10000 + (high - first) * 0x400 + (low - firstOfSecond) := by
  rw [isPair_iff] at h
  have hvalid : (0x10000 + (high - first) * 0x400 + (low - firstOfSecond)).isValidChar := by
    simp only [first, firstOfSecond]
    right
    omega
  rw [join, Char.ofNat, dif_pos hvalid]
  rfl

/-- Both halves of a pair come back from its character. -/
lemma units_join {high low : Nat} (h : isPair high low = true) :
    units (join high low) = [high, low] := by
  have hnat := toNat_join h
  obtain ⟨hfirst, hhigh, hlow, hlimit, hnone⟩ := isPair_iff.mp h
  simp only [first, firstOfSecond] at hnat
  rw [units, code_of_none hnone, if_neg (by omega), hnat, split]
  simp only [first, firstOfSecond, List.cons.injEq, and_true]
  omega

/-- A character beyond the first 65536 is a pair that makes the character. -/
lemma isPair_split {c : Char} (hcode : code? c = none) (h : 0x10000 ≤ c.toNat) :
    isPair (split c.toNat).1 (split c.toNat).2 = true ∧
      join (split c.toNat).1 (split c.toNat).2 = c := by
  have hlt := toNat_lt c
  have hjoin : join (split c.toNat).1 (split c.toNat).2 = c := by
    rw [join, split]
    simp only [first, firstOfSecond]
    rw [show 0x10000 + (0xd800 + (c.toNat - 0x10000) / 0x400 - 0xd800) * 0x400 +
      (0xdc00 + (c.toNat - 0x10000) % 0x400 - 0xdc00) = c.toNat by omega]
    exact Char.ofNat_toNat c
  refine ⟨?_, hjoin⟩
  rw [isPair_iff, hjoin, hcode]
  simp only [split, first, firstOfSecond, and_true]
  omega

/-! ## Lists of units -/

lemma mem_units_lt {c : Char} {u : Nat} (h : u ∈ units c) : u < 0x10000 := by
  unfold units at h
  split at h
  · rwa [List.mem_singleton.mp h]
  next hcode =>
    have hlt := toNat_lt c
    have hle := code_le_toNat c
    simp only [split, first, firstOfSecond, List.mem_cons, List.not_mem_nil, or_false] at h
    omega

/-- Characters have the units that they were made of. -/
theorem flatMap_units_joinPairs {us : List Nat} (h : ∀ u ∈ us, u < 0x10000) :
    (joinPairs us).flatMap units = us := by
  have hsingle : ∀ u < 0x10000, units (char u) = [u] := by
    intro u hu
    rw [units, code_char hu, if_pos hu]
  fun_induction joinPairs us with
  | case1 high low rest hpair ih =>
    rw [List.flatMap_cons, units_join hpair, ih fun u hu => h u (by simp [hu])]
    rfl
  | case2 high low rest hpair ih =>
    rw [List.flatMap_cons, hsingle high (h high (by simp)), ih fun u hu => h u (by simp at hu; simp [hu])]
    rfl
  | case3 u =>
    rw [List.flatMap_cons, hsingle u (h u (by simp))]
    rfl
  | case4 => rfl

lemma isPair_of_not_half {high low : Nat} (h : isHalf high = false) : isPair high low = false := by
  by_contra hne
  have hpair := isPair_iff.mp (by simpa using hne)
  rw [isHalf_iff.mpr (by omega)] at h
  simp at h

/-- A text without halves comes back from its units. -/
theorem joinPairs_flatMap_units {cs : List Char} (h : ∀ c ∈ cs, code? c = none) :
    joinPairs (cs.flatMap units) = cs := by
  induction cs with
  | nil => rfl
  | cons c rest ih =>
    have hc := h c List.mem_cons_self
    have hrest := ih fun d hd => h d (List.mem_cons_of_mem _ hd)
    rw [List.flatMap_cons, units, code_of_none hc]
    split
    · rw [List.singleton_append]
      -- One unit that is no half makes its character, whatever follows.
      have hstep : ∀ us, joinPairs (c.toNat :: us) = char c.toNat :: joinPairs us := by
        intro us
        cases us with
        | nil => rfl
        | cons low us => rw [joinPairs, if_neg (by simp [isPair_of_not_half (isHalf_toNat c)])]
      rw [hstep, hrest, char_toNat]
    next hbig =>
      obtain ⟨hpair, hjoin⟩ := isPair_split hc (by omega)
      rw [List.cons_append, List.singleton_append, joinPairs, if_pos hpair, hjoin, hrest]

/-! ## Texts -/

lemma Half.isIn_eq_false {s : String} : isIn s = false ↔ ∀ c ∈ s.toList, code? c = none := by
  simp [isIn]

/-- The text that is read from the units of a text. -/
def rejoin (s : String) : String := String.ofList (joinPairs (s.toList.flatMap units))

lemma units_rejoin (s : String) : (rejoin s).toList.flatMap units = s.toList.flatMap units := by
  rw [rejoin, String.toList_ofList]
  refine flatMap_units_joinPairs fun u hu => ?_
  obtain ⟨c, -, hc⟩ := List.mem_flatMap.mp hu
  exact mem_units_lt hc

/-- A text without halves is read as it is. -/
lemma rejoin_of_whole {s : String} (h : isIn s = false) : rejoin s = s := by
  rw [rejoin, joinPairs_flatMap_units (isIn_eq_false.mp h), String.ofList_toList]

end Text
end DetectionFlow
