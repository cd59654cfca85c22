import DetectionFlow.Dialog.Fields
import DetectionFlow.Proofs.DialogTheorems

/-!
# Typed conditions

A count condition is accepted exactly if it is a comparison and digits, with blanks around both and between
them (`Typed.Condition.exists_readable`, `Typed.Condition.Readable.accepted`), and a text can be taken apart in
this way in one way only (`Typed.Condition.Readable.eq_of_text`). Blanks are all blank characters and digits are
those of every script, but only the plain spaces are left out of what is kept. So what is kept of an accepted
text has the comparison and the digits of the text and is accepted again, but it is a comparison directly before
ASCII digits exactly if all blanks were plain spaces and all digits were ASCII ones (`AskFields.conditions_left`).
-/

namespace DetectionFlow

/-! ## Blanks and digits -/

namespace Text

/-- Blanks of a text. -/
def Blanks (cs : List Char) : Prop := ∀ c ∈ cs, isBlank c = true

/-- No blank is a digit. -/
lemma digit?_eq_none_of_isBlank {c : Char} (h : isBlank c = true) : digit? c = none := by
  have hapart : ∀ r ∈ blankRanges, ∀ z ∈ digitZeros, r.2 < z ∨ z + 9 < r.1 := by decide
  obtain ⟨r, hr, hc⟩ := List.any_eq_true.mp h
  simp only [Bool.and_eq_true, decide_eq_true_eq] at hc
  rw [digit?, Option.map_eq_none_iff, List.find?_eq_none]
  intro z hz
  have := hapart r hr z hz
  simp only [Bool.and_eq_true, decide_eq_true_eq]
  omega

lemma isBlank_eq_false_of_digit {c : Char} (h : (digit? c).isSome = true) : isBlank c = false := by
  by_contra hblank
  rw [digit?_eq_none_of_isBlank (by simpa using hblank)] at h
  cases h

lemma isSome_digit?_of_isDigit {c : Char} (h : c.isDigit = true) : (digit? c).isSome = true := by
  simp only [Char.isDigit, Bool.and_eq_true, decide_eq_true_eq, ge_iff_le, UInt32.le_iff_toNat_le] at h
  rw [digit?, Option.isSome_map, List.find?_isSome]
  exact ⟨0x30, by simp [digitZeros], by simpa using h⟩

/-! ## Trimmed texts -/

variable {cs before core after front rest : List Char} {c d : Char}

/-- The blanks around what begins and ends with other characters are trimmed. -/
lemma trim_append (hbefore : Blanks before) (hafter : Blanks after) (hfirst : core = c :: rest)
    (hlast : core = front ++ [d]) (hc : isBlank c = false) (hd : isBlank d = false) :
    trim (before ++ core ++ after) = core := by
  have hleft : trimLeft (before ++ core ++ after) = core ++ after := by
    rw [trimLeft, List.append_assoc, List.dropWhile_append_of_pos hbefore, hfirst, List.cons_append,
      List.dropWhile_cons_of_neg (by simp [hc])]
  have hafter' : ∀ a ∈ after.reverse, isBlank a = true := fun a ha => hafter a (List.mem_reverse.mp ha)
  rw [trim, hleft, trimRight, List.reverse_append, List.dropWhile_append_of_pos hafter', hlast,
    List.reverse_concat, List.dropWhile_cons_of_neg (by simp [hd]), ← List.reverse_concat,
    List.reverse_reverse]

lemma exists_trim (cs : List Char) :
    ∃ before after, Blanks before ∧ Blanks after ∧ cs = before ++ trim cs ++ after := by
  refine ⟨cs.takeWhile isBlank, ((trimLeft cs).reverse.takeWhile isBlank).reverse, ?_, ?_, ?_⟩
  · exact fun c hc => List.mem_takeWhile_imp hc
  · exact fun c hc => List.mem_takeWhile_imp (List.mem_reverse.mp hc)
  · rw [trim, trimRight, List.append_assoc, ← List.reverse_append, List.takeWhile_append_dropWhile,
      List.reverse_reverse, trimLeft, List.takeWhile_append_dropWhile]

/-- A trimmed text ends with no blank. -/
lemma isBlank_of_trim (h : trim cs = front ++ [c]) : isBlank c = false := by
  have hright : trimLeft (trimLeft cs).reverse = c :: front.reverse := by
    rw [trim, trimRight, List.reverse_eq_iff, List.reverse_concat] at h
    exact h
  exact head?_trimLeft _ c (by rw [hright]; rfl)

/-- Where characters of a class end is where the first other one stands. -/
lemma append_inj_of_span {p : Char → Bool} {as bs as' bs' : List Char} (has : ∀ c ∈ as, p c = true)
    (hbs : ∀ c ∈ bs.head?, p c = false) (has' : ∀ c ∈ as', p c = true)
    (hbs' : ∀ c ∈ bs'.head?, p c = false) (h : as ++ bs = as' ++ bs') : as = as' ∧ bs = bs' := by
  have htake : ∀ {as bs : List Char}, (∀ c ∈ as, p c = true) → (∀ c ∈ bs.head?, p c = false) →
      (as ++ bs).takeWhile p = as := by
    intro as bs has hbs
    rw [List.takeWhile_append_of_pos has]
    cases bs with
    | nil => simp
    | cons b bs => rw [List.takeWhile_cons_of_neg (by simp [hbs b rfl]), List.append_nil]
  have hsame : as = as' := by rw [← htake has hbs, h, htake has' hbs']
  subst hsame
  exact ⟨rfl, List.append_cancel_left h⟩

end Text

/-! ## The parts of a condition -/

namespace Typed

open Text

/-- How a count is compared. -/
inductive Comparison
  | atLeast
  | atMost
  | equal
  | unequal
  | above
  | below
  deriving DecidableEq

namespace Comparison

def sign : Comparison → List Char
  | atLeast => ['>', '=']
  | atMost => ['<', '=']
  | equal => ['=', '=']
  | unequal => ['!', '=']
  | above => ['>']
  | below => ['<']

/-- A sign begins with no blank. -/
lemma exists_head (op : Comparison) : ∃ c rest, op.sign = c :: rest ∧ isBlank c = false := by
  cases op <;> exact ⟨_, _, rfl, by decide⟩

/-- A sign holds neither blanks nor digits. -/
lemma sign_apart (op : Comparison) : ∀ c ∈ op.sign, isBlank c = false ∧ (digit? c).isSome = false := by
  cases op <;> exact List.forall_mem_iff_forall_getElem.mpr (by decide)

lemma sign_injective : Function.Injective sign := by
  intro op op' h
  cases op <;> cases op' <;> first | rfl | cases h

/-- What follows the sign is found, unless it makes another sign of it. -/
lemma afterComparison?_sign (op : Comparison) {cs : List Char} (h : cs.head? ≠ some '=') :
    afterComparison? (op.sign ++ cs) = some cs := by
  cases op with
  | above | below =>
    cases cs with
    | nil => rfl
    | cons c cs =>
      have hc : c ≠ '=' := by simpa using h
      simp [sign, afterComparison?, hc]
  | _ => rfl

lemma exists_sign {cs rest : List Char} (h : afterComparison? cs = some rest) :
    ∃ op : Comparison, cs = op.sign ++ rest := by
  unfold afterComparison? at h
  split at h
  · exact ⟨.atLeast, by simpa [sign] using h⟩
  · exact ⟨.atMost, by simpa [sign] using h⟩
  · exact ⟨.equal, by simpa [sign] using h⟩
  · exact ⟨.unequal, by simpa [sign] using h⟩
  · exact ⟨.above, by simpa [sign] using h⟩
  · exact ⟨.below, by simpa [sign] using h⟩
  · cases h

end Comparison

/-- A line of digits is nothing but digits and perhaps a line break. -/
lemma isDigitLine_iff {cs : List Char} : isDigitLine cs = true ↔
    ∃ digits tail, digits ≠ [] ∧ (∀ d ∈ digits, (digit? d).isSome = true) ∧ (tail = [] ∨ tail = ['\n']) ∧
      cs = digits ++ tail := by
  have hsplit := List.takeWhile_append_dropWhile (p := fun c => (digit? c).isSome) (l := cs)
  unfold isDigitLine
  simp only [Bool.and_eq_true, Bool.or_eq_true, decide_eq_true_eq]
  constructor
  · rintro ⟨hlength, htail⟩
    refine ⟨_, _, fun hnone => ?_, fun d hd => ?_, htail, hsplit.symm⟩
    · rw [hnone, List.nil_append] at hsplit
      rw [hsplit] at hlength
      exact lt_irrefl _ hlength
    · exact List.mem_takeWhile_imp (p := fun c => (digit? c).isSome) hd
  · rintro ⟨digits, tail, hne, hdigits, htail, rfl⟩
    have hrest : (digits ++ tail).dropWhile (fun c => (digit? c).isSome) = tail := by
      rw [List.dropWhile_append_of_pos hdigits]
      rcases htail with rfl | rfl
      · rfl
      · exact List.dropWhile_cons_of_neg (by decide)
    rw [hrest]
    refine ⟨?_, htail⟩
    have := List.length_pos_iff.mpr hne
    rw [List.length_append]
    omega

/-- A condition: a comparison and digits, with blanks around both and between them. -/
structure Condition where
  before : List Char
  comparison : Comparison
  between : List Char
  digits : List Char
  after : List Char

namespace Condition

/-- The comparison with the digits, without what is around both. -/
def core (c : Condition) : List Char := c.comparison.sign ++ (c.between ++ c.digits)

def text (c : Condition) : String := String.ofList (c.before ++ c.core ++ c.after)

/-- The number that the digits denote. -/
def number (c : Condition) : Nat := digitsValue (c.digits.filterMap digit?)

structure Readable (c : Condition) : Prop where
  before : Blanks c.before
  between : Blanks c.between
  after : Blanks c.after
  digits : ∀ d ∈ c.digits, (digit? d).isSome = true
  nonempty : c.digits ≠ []

variable {c c' : Condition}

namespace Readable

variable (h : c.Readable)

include h

lemma isBlank_digit : ∀ d ∈ c.digits, isBlank d = false := fun d hd =>
  isBlank_eq_false_of_digit (h.digits d hd)

/-- What follows the sign does not make another sign of it. -/
lemma head?_between (rest : List Char) : (c.between ++ (c.digits ++ rest)).head? ≠ some '=' := by
  intro hhead
  cases hbetween : c.between with
  | nil =>
    rw [hbetween, List.nil_append] at hhead
    obtain ⟨d, digits, hcons⟩ := List.exists_cons_of_ne_nil h.nonempty
    have hdigit := h.digits d (by simp [hcons])
    rw [hcons, List.cons_append, List.head?_cons, Option.some.injEq] at hhead
    rw [hhead] at hdigit
    exact absurd hdigit (by decide)
  | cons b blanks =>
    have hblank := h.between b (by simp [hbetween])
    rw [hbetween, List.cons_append, List.head?_cons, Option.some.injEq] at hhead
    rw [hhead] at hblank
    exact absurd hblank (by decide)

lemma toList_trimText : (trimText c.text).toList = c.core := by
  obtain ⟨s, rest, hsign, hs⟩ := c.comparison.exists_head
  obtain ⟨digits, d, hdigits⟩ := (List.eq_nil_or_concat' c.digits).resolve_left h.nonempty
  have hd : isBlank d = false := h.isBlank_digit d (by simp [hdigits])
  have hfirst : c.core = s :: (rest ++ (c.between ++ c.digits)) := by
    rw [core, hsign, List.cons_append]
  have hlast : c.core = (c.comparison.sign ++ (c.between ++ digits)) ++ [d] := by
    simp [core, hdigits]
  rw [trimText, String.toList_ofList, text, String.toList_ofList]
  exact trim_append h.before h.after hfirst hlast hs hd

/-- The comparison and the digits are found. -/
lemma isCondition_core : isCondition (String.ofList c.core) = true := by
  have hblanks : (c.between ++ c.digits).dropWhile isBlank = c.digits := by
    obtain ⟨d, digits, hcons⟩ := List.exists_cons_of_ne_nil h.nonempty
    have hd : isBlank d = false := h.isBlank_digit d (by simp [hcons])
    rw [List.dropWhile_append_of_pos h.between, hcons, List.dropWhile_cons_of_neg (by simp [hd])]
  rw [isCondition, String.toList_ofList, core,
    Comparison.afterComparison?_sign _ (by simpa using h.head?_between [])]
  dsimp only
  rw [hblanks, isDigitLine_iff]
  exact ⟨c.digits, [], h.nonempty, h.digits, .inl rfl, (List.append_nil _).symm⟩

lemma accepted : conditionComplaint c.text = none := by
  have htrim : trimText c.text = String.ofList c.core := by
    rw [← h.toList_trimText, String.ofList_toList]
  rw [conditionComplaint, htrim, if_pos h.isCondition_core]

end Readable

/-- What is accepted is a condition. -/
lemma exists_readable {s : String} (h : conditionComplaint s = none) :
    ∃ c : Condition, c.Readable ∧ c.text = s := by
  have hcore : isCondition (trimText s) = true := by
    by_contra hnot
    rw [conditionComplaint, if_neg hnot] at h
    cases h
  rw [isCondition, trimText, String.toList_ofList] at hcore
  obtain ⟨before, after, hbefore, hafter, hs⟩ := exists_trim s.toList
  cases hsign : afterComparison? (trim s.toList) with
  | none => simp [hsign] at hcore
  | some rest =>
    simp only [hsign] at hcore
    obtain ⟨op, hop⟩ := Comparison.exists_sign hsign
    obtain ⟨digits, tail, hne, hdigits, htail, hrest⟩ := isDigitLine_iff.mp hcore
    have hbetween := List.takeWhile_append_dropWhile (p := isBlank) (l := rest)
    rw [hrest] at hbetween
    rcases htail with rfl | rfl
    · refine ⟨⟨before, op, rest.takeWhile isBlank, digits, after⟩,
        ⟨hbefore, fun c hc => List.mem_takeWhile_imp hc, hafter, hdigits, hne⟩, ?_⟩
      rw [List.append_nil] at hbetween
      apply String.toList_injective
      rw [text, String.toList_ofList, core, hbetween, ← hop, ← hs]
    · -- A line break at the end would have been trimmed.
      have hend : trim s.toList = (op.sign ++ (rest.takeWhile isBlank ++ digits)) ++ ['\n'] := by
        rw [List.append_assoc, List.append_assoc, hbetween, hop]
      exact absurd (isBlank_of_trim hend) (by decide)

/-- A text is the condition of one comparison and one list of digits only, and of one list of blanks at each
place. -/
lemma Readable.eq_of_text (h : c.Readable) (h' : c'.Readable) (htext : c.text = c'.text) : c = c' := by
  have hchars : c.before ++ (c.core ++ c.after) = c'.before ++ (c'.core ++ c'.after) := by
    simpa [text] using congrArg String.toList htext
  have hsign : ∀ {c : Condition}, ∀ s ∈ (c.core ++ c.after).head?, isBlank s = false := by
    intro c
    obtain ⟨s, rest, hs, hblank⟩ := c.comparison.exists_head
    simp [core, hs, hblank]
  have hdigit : ∀ {c : Condition}, c.Readable → ∀ d ∈ (c.digits ++ c.after).head?, isBlank d = false := by
    intro c h
    obtain ⟨d, digits, hcons⟩ := List.exists_cons_of_ne_nil h.nonempty
    simp [hcons, h.isBlank_digit d (by simp [hcons])]
  have hafter : ∀ {c : Condition}, c.Readable → ∀ b ∈ c.after.head?, (digit? b).isSome = false := by
    intro c h b hb
    rw [digit?_eq_none_of_isBlank (h.after b (List.mem_of_head? hb)), Option.isSome_none]
  -- The parts are compared from left to right.
  obtain ⟨hbefore, hcore⟩ := append_inj_of_span h.before hsign h'.before hsign hchars
  simp only [core, List.append_assoc] at hcore
  have hrest := congrArg afterComparison? hcore
  rw [Comparison.afterComparison?_sign _ (h.head?_between _),
    Comparison.afterComparison?_sign _ (h'.head?_between _), Option.some.injEq] at hrest
  have hcomparison := Comparison.sign_injective (List.append_cancel_right (hrest ▸ hcore))
  obtain ⟨hbetween, hdigits⟩ :=
    append_inj_of_span h.between (hdigit h) h'.between (hdigit h') hrest
  obtain ⟨hdigits, hafter⟩ :=
    append_inj_of_span (p := fun c => (digit? c).isSome) h.digits (hafter h) h'.digits (hafter h') hdigits
  cases c
  cases c'
  exact Condition.mk.injEq .. ▸ ⟨hbefore, hcomparison, hbetween, hdigits, hafter⟩

/-! ## What is kept of a condition -/

/-- The condition without its plain spaces. -/
def unspaced (c : Condition) : Condition :=
  { c with before := c.before.filter (· ≠ ' '), between := c.between.filter (· ≠ ' '),
           after := c.after.filter (· ≠ ' ') }

lemma Readable.unspaced (h : c.Readable) : c.unspaced.Readable where
  before b hb := h.before b (List.mem_of_mem_filter hb)
  between b hb := h.between b (List.mem_of_mem_filter hb)
  after b hb := h.after b (List.mem_of_mem_filter hb)
  digits := h.digits
  nonempty := h.nonempty

/-- Nothing is lost of the sign and the digits. -/
lemma Readable.condition_text (h : c.Readable) : condition c.text = c.unspaced.text := by
  have hsign : c.comparison.sign.filter (· ≠ ' ') = c.comparison.sign := by
    cases c.comparison <;> rfl
  have hdigits : c.digits.filter (· ≠ ' ') = c.digits := by
    refine List.filter_eq_self.mpr fun d hd => decide_eq_true ?_
    rintro rfl
    exact absurd (h.digits _ hd) (by decide)
  rw [condition, text, String.toList_ofList, core]
  simp only [List.filter_append, hsign, hdigits]
  rfl

end Condition

/-- The text is a condition with this comparison and this number. -/
def Means (s : String) (op : Comparison) (n : Nat) : Prop :=
  ∃ c : Condition, c.Readable ∧ c.text = s ∧ c.comparison = op ∧ c.number = n

lemma Means.unique {s : String} {op op' : Comparison} {n n' : Nat} (h : Means s op n) (h' : Means s op' n') :
    op = op' ∧ n = n' := by
  obtain ⟨c, hc, rfl, rfl, rfl⟩ := h
  obtain ⟨c', hc', htext, rfl, rfl⟩ := h'
  rw [hc.eq_of_text hc' htext.symm]
  exact ⟨rfl, rfl⟩

/-- The text is a comparison and, directly after it, digits from 0 to 9. -/
def IsCanonical (s : String) : Prop :=
  ∃ (op : Comparison) (digits : List Char), digits ≠ [] ∧ (∀ d ∈ digits, d.isDigit = true) ∧
    s = String.ofList (op.sign ++ digits)

/-- The blanks of the text are plain spaces, and its digits are those from 0 to 9. -/
structure IsPlainText (s : String) : Prop where
  blanks : ∀ c ∈ s.toList, isBlank c = true → c = ' '
  digits : ∀ c ∈ s.toList, (digit? c).isSome = true → c.isDigit = true

namespace Condition

variable {c : Condition}

lemma toList_text (c : Condition) : c.text.toList =
    c.before ++ (c.comparison.sign ++ (c.between ++ c.digits)) ++ c.after := by
  rw [text, String.toList_ofList, core]

lemma Readable.isPlainText_iff (h : c.Readable) : IsPlainText c.text ↔
    ((∀ b ∈ c.before, b = ' ') ∧ (∀ b ∈ c.between, b = ' ') ∧ ∀ b ∈ c.after, b = ' ') ∧
      ∀ d ∈ c.digits, d.isDigit = true := by
  constructor
  · rintro ⟨hblanks, hdigits⟩
    simp only [toList_text, List.forall_mem_append] at hblanks hdigits
    obtain ⟨⟨hbefore, -, hbetween, -⟩, hafter⟩ := hblanks
    exact ⟨⟨fun b hb => hbefore b hb (h.before b hb), fun b hb => hbetween b hb (h.between b hb),
      fun b hb => hafter b hb (h.after b hb)⟩, fun d hd => hdigits.1.2.2.2 d hd (h.digits d hd)⟩
  · rintro ⟨⟨hbefore, hbetween, hafter⟩, hdigits⟩
    have hsign := c.comparison.sign_apart
    have hblank : ∀ {cs : List Char}, Blanks cs → ∀ b ∈ cs, (digit? b).isSome = true → b.isDigit = true := by
      intro cs hcs b hb hdigit
      rw [digit?_eq_none_of_isBlank (hcs b hb)] at hdigit
      cases hdigit
    constructor
    · simp only [toList_text, List.forall_mem_append]
      exact ⟨⟨fun b hb _ => hbefore b hb, fun s hs => by simp [(hsign s hs).1],
        fun b hb _ => hbetween b hb, fun d hd => by simp [h.isBlank_digit d hd]⟩,
        fun b hb _ => hafter b hb⟩
    · simp only [toList_text, List.forall_mem_append]
      exact ⟨⟨hblank h.before, fun s hs => by simp [(hsign s hs).2], hblank h.between,
        fun d hd _ => hdigits d hd⟩, hblank h.after⟩

/-- A condition of a comparison and digits alone. -/
lemma isCanonical_text_iff (h : c.Readable) : IsCanonical c.text ↔
    (c.before = [] ∧ c.between = [] ∧ c.after = []) ∧ ∀ d ∈ c.digits, d.isDigit = true := by
  constructor
  · rintro ⟨op, digits, hne, hdigits, htext⟩
    have hbare : (⟨[], op, [], digits, []⟩ : Condition).Readable :=
      ⟨List.forall_mem_nil _, List.forall_mem_nil _, List.forall_mem_nil _,
        fun d hd => isSome_digit?_of_isDigit (hdigits d hd), hne⟩
    obtain rfl := h.eq_of_text hbare (htext.trans (by simp [text, core]))
    exact ⟨⟨rfl, rfl, rfl⟩, hdigits⟩
  · rintro ⟨⟨hbefore, hbetween, hafter⟩, hdigits⟩
    exact ⟨c.comparison, c.digits, h.nonempty, hdigits, by simp [text, core, hbefore, hbetween, hafter]⟩

end Condition

/-- What is kept is canonical exactly if nothing but plain spaces has to be left out. -/
lemma isCanonical_condition_iff {s : String} (h : conditionComplaint s = none) :
    IsCanonical (condition s) ↔ IsPlainText s := by
  obtain ⟨c, hc, rfl⟩ := Condition.exists_readable h
  have hfilter : ∀ cs : List Char, cs.filter (· ≠ ' ') = [] ↔ ∀ b ∈ cs, b = ' ' := by
    simp [List.filter_eq_nil_iff]
  rw [hc.condition_text, Condition.isCanonical_text_iff hc.unspaced, hc.isPlainText_iff]
  simp only [Condition.unspaced, hfilter]

end Typed

namespace AskFields

open Dialog Typed

variable {o o' : Operator} {fields : Fields}

/-- The dialog about a Count keeps what is typed without its plain spaces. -/
lemma yields_count {current : Value} : Yields (count current) o (some fields) o' ↔
    ∃ s, Yields (askText "Count condition (e.g. >=3):" current conditionComplaint) o (some s) o' ∧
      fields = [("condition", .text (condition s))] := by
  rw [count, yields_map]
  constructor
  · rintro ⟨_ | s, hs, hfields⟩
    · cases hfields
    · exact ⟨s, hs, Option.some.inj hfields⟩
  · rintro ⟨s, hs, rfl⟩
    exact ⟨some s, hs, rfl⟩

/-- The dialog about a Count leaves what is kept of an accepted text, and nothing else. That is accepted again
and means the same comparison and the same number as the text, which means no other. It is a comparison with
ASCII digits directly after it exactly if the text has no blanks but plain spaces and no digits but these. -/
theorem conditions_left (current : Value) (fields : Fields) {s : String} (h : conditionComplaint s = none) :
    ((∃ o o', Yields (count current) o (some fields) o') ↔
      ∃ t, conditionComplaint t = none ∧ fields = [("condition", .text (condition t))]) ∧
    conditionComplaint (condition s) = none ∧
    (∃ op n, Means s op n ∧ Means (condition s) op n ∧ ∀ op' n', Means s op' n' → op' = op ∧ n' = n) ∧
    (IsCanonical (condition s) ↔ IsPlainText s) := by
  refine ⟨⟨?_, ?_⟩, ?_, ?_, isCanonical_condition_iff h⟩
  · rintro ⟨o, o', hyields⟩
    obtain ⟨t, ht, rfl⟩ := yields_count.mp hyields
    exact ⟨t, (promises_askText (F := False)).yields ht t rfl, rfl⟩
  · rintro ⟨t, ht, rfl⟩
    obtain ⟨said, hyields⟩ := yields_askText ht [] []
    exact ⟨_, _, yields_count.mpr ⟨t, hyields, rfl⟩⟩
  · obtain ⟨c, hc, rfl⟩ := Condition.exists_readable h
    rw [hc.condition_text]
    exact hc.unspaced.accepted
  · obtain ⟨c, hc, rfl⟩ := Condition.exists_readable h
    have hmeans : Means c.text c.comparison c.number := ⟨c, hc, rfl, rfl, rfl⟩
    exact ⟨_, _, hmeans, ⟨c.unspaced, hc.unspaced, hc.condition_text.symm, rfl, rfl⟩,
      fun op' n' h' => h'.unique hmeans⟩

/-- Spaces are left out. A tab is kept, and so is a digit of another script. -/
theorem spaced_left :
    (conditionComplaint " >= 12 " = none ∧ condition " >= 12 " = ">=12" ∧
      IsCanonical (condition " >= 12 ")) ∧
    (conditionComplaint "<\t5" = none ∧ ¬ IsCanonical (condition "<\t5")) ∧
    conditionComplaint ">\u0663" = none ∧ ¬ IsCanonical (condition ">\u0663") := by
  have hspaced : conditionComplaint " >= 12 " = none := by decide
  have htabbed : conditionComplaint "<\t5" = none := by decide
  have hthree : conditionComplaint ">\u0663" = none := by decide
  obtain ⟨-, -, -, hspace⟩ := conditions_left .null [] hspaced
  obtain ⟨-, -, -, htab⟩ := conditions_left .null [] htabbed
  obtain ⟨-, -, -, hscript⟩ := conditions_left .null [] hthree
  refine ⟨⟨hspaced, by decide, hspace.mpr ⟨?_, ?_⟩⟩, ⟨htabbed, fun h => ?_⟩, hthree,
    fun h => ?_⟩
  · exact List.forall_mem_iff_forall_getElem.mpr (by decide)
  · exact List.forall_mem_iff_forall_getElem.mpr (by decide)
  · exact absurd ((htab.mp h).blanks '\t' (by decide) (by decide)) (by decide)
  · exact absurd ((hscript.mp h).digits '\u0663' (by decide) (by decide)) (by decide)

end AskFields
end DetectionFlow
