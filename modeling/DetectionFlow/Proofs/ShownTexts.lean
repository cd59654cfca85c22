import DetectionFlow.Proofs.NumberTextTheorems
import DetectionFlow.Proofs.RecordReading
import DetectionFlow.Proofs.TextUnitTheorems

/-!
# Values as texts

A value that is no text is shown without halves (`Value.isIn_shown`): halves inside of quotes are not
printable and get an escape (`Text.isIn_quoted`), and numbers are digits, signs and points.
-/

namespace DetectionFlow

open Text.Half

namespace Text

namespace Half

@[simp] lemma isIn_append (s t : String) : isIn (s ++ t) = (isIn s || isIn t) := by
  simp [isIn, String.toList_append]

@[simp] lemma isIn_ofList (cs : List Char) :
    isIn (String.ofList cs) = false ↔ ∀ c ∈ cs, code? c = none := by
  rw [isIn_eq_false, String.toList_ofList]

/-- Parts without halves make a whole without halves. -/
lemma isIn_intercalate {sep : String} (hsep : isIn sep = false) {parts : List String}
    (h : ∀ s ∈ parts, isIn s = false) : isIn (String.intercalate sep parts) = false := by
  induction parts with
  | nil => rfl
  | cons s rest ih =>
    obtain ⟨hs, hrest⟩ := List.forall_mem_cons.mp h
    cases rest with
    | nil => simpa using hs
    | cons t rest =>
      rw [String.intercalate_cons_cons, isIn_append, isIn_append, hs, hsep, ih hrest]
      rfl

end Half

/-! ## Characters that are not printable -/

/-! The equations of the search are stated because the ones that are made for it would unfold the table. -/

lemma rangeBefore_zero (code low high : Nat) :
    rangeBefore code 0 low high = unprintableRanges[low]? := rfl

set_option maxRecDepth 8000 in
lemma rangeBefore_succ (code steps low high : Nat) :
    rangeBefore code (steps + 1) low high =
      if high ≤ low + 1 then unprintableRanges[low]?
      else match unprintableRanges[(low + high) / 2]? with
        | some r =>
          if r.1 ≤ code then rangeBefore code steps ((low + high) / 2) high
          else rangeBefore code steps low ((low + high) / 2)
        | none => none := rfl

/-- The search depends only on which of the ranges begin before the code. -/
lemma rangeBefore_congr {a b : Nat} (h : ∀ r ∈ unprintableRanges, r.1 ≤ a ↔ r.1 ≤ b)
    (steps low high : Nat) : rangeBefore a steps low high = rangeBefore b steps low high := by
  induction steps generalizing low high with
  | zero => rw [rangeBefore_zero, rangeBefore_zero]
  | succ steps ih =>
    rw [rangeBefore_succ, rangeBefore_succ]
    cases hmiddle : unprintableRanges[(low + high) / 2]? with
    | none => rfl
    | some r =>
      have hiff := h r (Array.mem_of_getElem? hmiddle)
      simp only [hiff, ih]

/-- The stand-ins of halves lie inside of one range. -/
lemma isPrintable_of_code? {c : Char} {n : Nat} (h : code? c = some n) : isPrintable c = false := by
  obtain ⟨hhalf, hc⟩ := code?_eq_some h
  have hbounds := isHalf_iff.mp hhalf
  have htable : ∀ r ∈ unprintableRanges.toList, r.1 ≤ 0xdd800 ↔ r.1 ≤ 0xdffff := by
    decide +kernel
  have hfirst : rangeBefore 0xdd800 12 0 unprintableRanges.size = some (0x3134b, 0xe00ff) := by
    decide +kernel
  have hrange : rangeBefore c.toNat 12 0 unprintableRanges.size = some (0x3134b, 0xe00ff) := by
    rw [← hfirst]
    refine rangeBefore_congr (fun r hr => ?_) _ _ _
    have := htable r (Array.mem_toList_iff.mpr hr)
    omega
  rw [isPrintable, if_neg (by omega), hrange]
  simp only [Bool.not_eq_false', Bool.and_eq_true, decide_eq_true_iff]
  omega

/-! ## Quoted texts -/

/-- A character below the first 65536 in front of a text without halves. -/
lemma code?_cons {c : Char} (hc : c.toNat < 0x10000) {cs : List Char} (hcs : ∀ d ∈ cs, code? d = none) :
    ∀ d ∈ c :: cs, code? d = none :=
  List.forall_mem_cons.mpr ⟨code?_of_lt hc, hcs⟩

lemma code?_digitChar {n : Nat} (h : n < 16) : code? n.digitChar = none := by
  have hall : ∀ n : Fin 16, code? n.val.digitChar = none := by decide
  exact hall ⟨n, h⟩

lemma code?_of_toDigits {n : Nat} : ∀ c ∈ Nat.toDigits 16 n, code? c = none := by
  induction n using Nat.strongRecOn with
  | ind n ih =>
    rcases Nat.lt_or_ge n 16 with h | h
    · rw [Nat.toDigits_of_lt_base h]
      exact fun c hc => List.mem_singleton.mp hc ▸ code?_digitChar h
    · rw [Nat.toDigits_of_base_le (by omega) h]
      intro c hc
      rcases List.mem_append.mp hc with hc | hc
      · exact ih _ (by omega) c hc
      · exact List.mem_singleton.mp hc ▸ code?_digitChar (by omega)

lemma code?_of_hexDigits {width n : Nat} : ∀ c ∈ hexDigits width n, code? c = none := by
  intro c hc
  rcases List.mem_append.mp hc with hc | hc
  · rw [(List.mem_replicate.mp hc).2]
    exact code?_of_lt (by decide)
  · exact code?_of_toDigits c hc

lemma code?_of_quotedCode {c : Char} : ∀ d ∈ quotedCode c, code? d = none := by
  have hescape : ∀ {letter : Char} {width n : Nat}, letter.toNat < 0x10000 →
      ∀ d ∈ '\\' :: letter :: hexDigits width n, code? d = none := fun hletter =>
    code?_cons (by decide) (code?_cons hletter code?_of_hexDigits)
  -- The function is opened before it is applied: `code?` of a variable would be evaluated otherwise.
  have hopen : quotedCode = quotedCode := rfl
  conv at hopen => rhs; delta quotedCode
  rw [hopen]
  dsimp only
  generalize code? c = half
  cases half with
  | some half => exact hescape (by decide)
  | none =>
    dsimp only
    split
    · exact hescape (by decide)
    · split
      · exact hescape (by decide)
      · exact hescape (by decide)

lemma code?_of_quotedShort? {quote c : Char} (hquote : code? quote = none) {escape : List Char}
    (h : quotedShort? quote c = some escape) : ∀ d ∈ escape, code? d = none := by
  have htwo : ∀ {d : Char}, code? d = none → ∀ e ∈ ['\\', d], code? e = none := fun hd =>
    code?_cons (by decide) (List.forall_mem_singleton.mpr hd)
  unfold quotedShort? at h
  split_ifs at h with hc
  · obtain rfl := Option.some.inj h
    rcases hc with rfl | rfl
    · exact htwo hquote
    · exact htwo (code?_of_lt (by decide))
  all_goals
    obtain rfl := Option.some.inj h
    exact htwo (code?_of_lt (by decide))

/-- A character that is shown as it is stands for no half. -/
lemma code?_of_quotedChar {quote c : Char} (hquote : code? quote = none) :
    ∀ d ∈ quotedChar quote c, code? d = none := by
  unfold quotedChar
  split
  next hshort => exact code?_of_quotedShort? hquote hshort
  next =>
    split
    next hprintable =>
      refine List.forall_mem_singleton.mpr ?_
      by_contra hne
      obtain ⟨n, hn⟩ := Option.ne_none_iff_exists'.mp hne
      simp [isPrintable_of_code? hn] at hprintable
    next => exact code?_of_quotedCode

/-- A quoted text holds no halves, whatever the text. -/
theorem isIn_quoted (s : String) : isIn (quoted s) = false := by
  have hquote : code? (quoteFor s.toList) = none := by
    unfold quoteFor
    split <;> exact code?_of_lt (by decide)
  rw [quoted, isIn_ofList, List.forall_mem_cons, List.forall_mem_append, List.forall_mem_singleton]
  refine ⟨hquote, fun d hd => ?_, hquote⟩
  obtain ⟨c, -, hc⟩ := List.mem_flatMap.mp hd
  exact code?_of_quotedChar hquote d hc

end Text

/-! ## Numbers -/

namespace Json

open Text Decimal

lemma Digits.whole {cs : List Char} (h : Digits cs) : ∀ c ∈ cs, code? c = none := by
  intro c hc
  have hdigit := h c hc
  rw [Char.isDigit, Bool.and_eq_true, decide_eq_true_iff, decide_eq_true_iff] at hdigit
  have hle : c.toNat ≤ '9'.toNat := hdigit.2
  rw [show '9'.toNat = 57 from rfl] at hle
  exact code?_of_lt (by omega)

lemma code?_of_signedText {negative : Bool} {cs : List Char} (h : ∀ c ∈ cs, code? c = none) :
    ∀ c ∈ signedText negative cs, code? c = none := by
  unfold signedText
  split
  · exact code?_cons (by decide) h
  · exact h

lemma isIn_toString (n : Int) : isIn (toString n) = false := by
  rw [isIn_eq_false, toList_toString]
  exact code?_of_signedText (digits_digitsOf _).whole

lemma code?_of_exponentText (place : Int) : ∀ c ∈ Layout.exponentText place, code? c = none := by
  have hdigits := (digits_digitsOf place.natAbs).whole
  unfold Layout.exponentText
  refine code?_cons (by decide) (code?_cons ?_ ?_)
  · split <;> decide
  · split
    · exact code?_cons (by decide) hdigits
    · exact hdigits

/-- The text of a number consists of digits, a point and an exponent. -/
lemma code?_of_digitsText {l : Layout} {ds : List Char} {place : Int} (h : Digits ds) :
    ∀ c ∈ l.digitsText ds place, code? c = none := by
  have hzeros : ∀ n, ∀ c ∈ List.replicate n '0', code? c = none := fun n => (digits_replicate n).whole
  have hpoint : ∀ {cs : List Char}, (∀ c ∈ cs, code? c = none) → ∀ c ∈ '.' :: cs, code? c = none :=
    code?_cons (by decide)
  unfold Layout.digitsText
  split
  · split
    · exact code?_cons (by decide) (hpoint (List.forall_mem_append.mpr ⟨hzeros _, h.whole⟩))
    · refine List.forall_mem_append.mpr ⟨List.forall_mem_append.mpr ⟨?_, hzeros _⟩, ?_⟩
      · exact fun c hc => h.whole c (List.mem_of_mem_take hc)
      · split
        · split
          · exact hpoint (hzeros 1)
          · simp
        · exact hpoint fun c hc => h.whole c (List.mem_of_mem_drop hc)
  · cases ds with
    | nil => simp
    | cons d ds =>
      obtain ⟨hd, hds⟩ := List.forall_mem_cons.mp h.whole
      have hexponent := code?_of_exponentText place
      cases ds with
      | nil => exact List.forall_mem_cons.mpr ⟨hd, hexponent⟩
      | cons e ds =>
        exact List.forall_mem_cons.mpr ⟨hd, hpoint (List.forall_mem_append.mpr ⟨hds, hexponent⟩)⟩

lemma isIn_render (x : Double) : isIn (Layout.plain.render x) = false := by
  cases x with
  | nan => decide
  | infinity negative => cases negative <;> decide
  | finite negative units h =>
    have hleading : Digits (if units = 0 then (['0'], 0) else (shortest units).leading).1 := by
      split
      · exact digits_replicate 1
      next hne => exact (unitsOf_leading (coefficient_pos (Nat.pos_of_ne_zero hne))).1
    unfold Layout.render
    exact isIn_ofList _ |>.mpr (code?_of_signedText (code?_of_digitsText hleading))

end Json

/-! ## Values -/

namespace Value

open Text Json

mutual

/-- A quoted value of a JSON text holds no halves. -/
theorem isIn_quotedAt (depth : Nat) : ∀ {v : Value}, v.IsJson → isIn (quotedAt depth v) = false
  | .null, _ => by
    rw [quotedAt]
    decide
  | .bool b, _ => by
    rw [quotedAt]
    cases b <;> decide
  | .int n, _ => isIn_toString n
  | .float x, _ => isIn_render x
  | .text s, _ => isIn_quoted s
  | .list items, h => by
    rw [quotedAt, isIn_append, isIn_append,
      isIn_intercalate (by decide) (isIn_quotedItems (depth + 1) (isJson_list.mp h))]
    decide
  | .object fields, h => by
    rw [quotedAt, isIn_append, isIn_append,
      isIn_intercalate (by decide) (isIn_quotedFields (depth + 1) (isJson_object.mp h))]
    decide

theorem isIn_quotedItems (depth : Nat) : ∀ {items : List Value}, (∀ v ∈ items, v.IsJson) →
    ∀ s ∈ quotedItems depth items, isIn s = false
  | [], _ => by simp [quotedItems]
  | v :: rest, h => by
    obtain ⟨hv, hrest⟩ := List.forall_mem_cons.mp h
    rw [quotedItems]
    exact List.forall_mem_cons.mpr ⟨isIn_quotedAt depth hv, isIn_quotedItems depth hrest⟩

theorem isIn_quotedFields (depth : Nat) : ∀ {fields : Fields}, (∀ f ∈ fields, f.2.IsJson) →
    ∀ s ∈ quotedFields depth fields, isIn s = false
  | [], _ => by simp [quotedFields]
  | (key, v) :: rest, h => by
    obtain ⟨hv, hrest⟩ := List.forall_mem_cons.mp h
    have hfield : isIn (Text.quoted key ++ ": " ++ quotedAt depth v) = false := by
      rw [isIn_append, isIn_append, isIn_quoted, isIn_quotedAt depth hv]
      decide
    rw [quotedFields]
    exact List.forall_mem_cons.mpr ⟨hfield, isIn_quotedFields depth hrest⟩

end

/-- A value of a JSON text that is no text is shown without halves. -/
theorem isIn_shown {v : Value} (h : v.IsJson) (htext : ∀ s, v ≠ .text s) : isIn v.shown = false := by
  cases h with
  | text s => exact absurd rfl (htext s)
  | _ => exact isIn_quotedAt 0 (by constructor <;> assumption)

end Value

end DetectionFlow
