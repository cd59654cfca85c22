import DetectionFlow.Proofs.JsonTextTheorems
import DetectionFlow.Proofs.RecordReading

/-!
# Texts that are read

A pair of halves that stands in a JSON text, as two escapes, is joined when it is read. So where the text
itself holds no halves, no text of the value that is read holds a pair that could still be joined: each is
its own `Text.rejoin` (`Value.IsJoined`, `Json.isJoined_of_read`). Halves alone may still be in it.

The texts are joined token by token. What the machine holds is joined at every step
(`Machine.isJoined_of_step`), because the rest of a text without halves is one as well.
-/

namespace DetectionFlow

/-! ## Codes of a text that is read -/

namespace Text

open Half

/-- The code of one unit, or of a whole character. -/
def IsScanned (code : Nat) : Prop := code < 0x10000 ∨ ∃ c, code? c = none ∧ c.toNat = code

/-- The character of such a code has that code as its only unit, or two units that make the character. -/
lemma IsScanned.units_char {n : Nat} (h : IsScanned n) :
    units (char n) = [n] ∨ ∃ high low, units (char n) = [high, low] ∧
      isPair high low = true ∧ join high low = char n := by
  rcases Nat.lt_or_ge n 0x10000 with hlt | hge
  · exact .inl (by rw [units, code_char hlt, if_pos hlt])
  · rcases h with hlt | ⟨c, hcode, rfl⟩
    · omega
    · obtain ⟨hpair, hjoin⟩ := isPair_split hcode hge
      refine .inr ⟨_, _, ?_, hpair, hjoin.trans (char_toNat c).symm⟩
      rw [char_toNat, units, code_of_none hcode, if_neg (by omega)]

/-- The first unit of what is made of some codes is the first code, or the first half of a pair. -/
lemma exists_unit_joinPairs {low : Nat} (rest : List Nat) (hlow : IsScanned low) :
    ∃ u more, (joinPairs (low :: rest)).flatMap units = u :: more ∧ (u = low ∨ u < firstOfSecond) := by
  have hchar : ∀ cs : List Char, ∃ u more, (char low :: cs).flatMap units = u :: more ∧
      (u = low ∨ u < firstOfSecond) := by
    intro cs
    rcases hlow.units_char with hunit | ⟨first, second, hunits, hpair, -⟩
    · exact ⟨low, _, by rw [List.flatMap_cons, hunit]; rfl, .inl rfl⟩
    · exact ⟨first, _, by rw [List.flatMap_cons, hunits]; rfl, .inr (isPair_iff.mp hpair).2.1⟩
  cases rest with
  | nil => exact hchar []
  | cons next rest =>
    rw [joinPairs]
    split
    next hpair => exact ⟨low, _, by rw [List.flatMap_cons, units_join hpair]; rfl, .inl rfl⟩
    next => exact hchar _

/-- Characters that are made of such codes come back from their units. A half that was left alone is not
joined with what follows it, since that was not done before. -/
theorem joinPairs_units_joinPairs {codes : List Nat} (h : ∀ n ∈ codes, IsScanned n) :
    joinPairs ((joinPairs codes).flatMap units) = joinPairs codes := by
  have hwhole : ∀ {high low : Nat} (us : List Nat), isPair high low = true →
      joinPairs ([high, low] ++ us) = join high low :: joinPairs us := by
    intro high low us hpair
    rw [List.cons_append, List.cons_append, List.nil_append, joinPairs, if_pos hpair]
  fun_induction joinPairs codes with
  | case1 high low rest hpair ih =>
    rw [List.flatMap_cons, units_join hpair, hwhole _ hpair, ih fun n hn => h n (by simp [hn])]
  | case2 high low rest hpair ih =>
    -- What follows a lone half now is what followed it before, or the first half of a whole character.
    have hrest := ih fun n hn => h n (List.mem_cons_of_mem _ hn)
    rw [List.flatMap_cons]
    rcases (h high List.mem_cons_self).units_char with hunit | ⟨first, second, hunits, hsplit, hjoin⟩
    · obtain ⟨u, more, hunits, hu⟩ := exists_unit_joinPairs rest (h low (by simp))
      have hnot : ¬ isPair high u = true := by
        rcases hu with rfl | hu
        · exact hpair
        · intro hne
          exact absurd (isPair_iff.mp hne).2.2.1 (Nat.not_le.mpr hu)
      rw [hunits] at hrest ⊢
      rw [hunit, List.singleton_append, joinPairs, if_neg hnot, hrest]
    · rw [hunits, hwhole _ hsplit, hjoin, hrest]
  | case3 code =>
    rw [List.flatMap_cons, List.flatMap_nil]
    rcases (h code List.mem_cons_self).units_char with hunit | ⟨first, second, hunits, hsplit, hjoin⟩
    · rw [hunit]
      rfl
    · rw [hunits, hwhole _ hsplit, hjoin]
      rfl
  | case4 => rfl

/-- A text that is made of such codes is its own `rejoin`. -/
lemma rejoin_joinPairs {codes : List Nat} (h : ∀ n ∈ codes, IsScanned n) :
    rejoin (String.ofList (joinPairs codes)) = String.ofList (joinPairs codes) := by
  rw [rejoin, String.toList_ofList, joinPairs_units_joinPairs h]

end Text

/-! ## What is left of a text -/

namespace Json

open Text Text.Half

lemma spanDigits_suffix (cs : List Char) : (Numeral.spanDigits cs).2 <:+ cs := by
  fun_induction Numeral.spanDigits cs with
  | case1 => exact List.suffix_rfl
  | case2 c rest d hdigit ds tail heq ih =>
    rw [heq] at ih
    exact ih.trans (List.suffix_cons c rest)
  | case3 => exact List.suffix_rfl

lemma splitSign_suffix (cs : List Char) : (Numeral.splitSign cs).2 <:+ cs := by
  unfold Numeral.splitSign
  split
  · exact List.suffix_cons _ _
  · exact List.suffix_cons _ _
  · exact List.suffix_rfl

lemma scanWhole?_suffix {cs : List Char} {r : List Nat × List Char} (h : scanWhole? cs = some r) :
    r.2 <:+ cs := by
  unfold scanWhole? at h
  split at h
  · obtain rfl := Option.some.inj h
    exact List.suffix_cons _ _
  · split at h
    · simp at h
    · obtain rfl := Option.some.inj h
      exact spanDigits_suffix cs

lemma scanFraction_suffix (cs : List Char) : (scanFraction cs).2 <:+ cs := by
  unfold scanFraction
  split
  next rest =>
    have htail := spanDigits_suffix rest
    split
    · exact List.suffix_rfl
    next heq => exact (heq ▸ htail).trans (List.suffix_cons _ _)
  · exact List.suffix_rfl

lemma scanExponent_suffix (cs : List Char) : (scanExponent cs).2 <:+ cs := by
  unfold scanExponent
  split
  · exact List.suffix_rfl
  next c rest =>
    have htail := (spanDigits_suffix (Numeral.splitSign rest).2).trans (splitSign_suffix rest)
    split
    · dsimp only
      split
      · exact List.suffix_rfl
      next heq => exact (heq ▸ htail).trans (List.suffix_cons _ _)
    · exact List.suffix_rfl

lemma scanNumber_suffix {negative : Bool} {cs : List Char} {r : Value × List Char}
    (h : scanNumber negative cs = .ok r) : r.2 <:+ cs := by
  unfold scanNumber at h
  split at h
  · simp at h
  next whole afterWhole hwhole =>
    have hrest : (scanExponent (scanFraction afterWhole).2).2 <:+ cs :=
      (scanExponent_suffix _).trans ((scanFraction_suffix _).trans (scanWhole?_suffix hwhole))
    dsimp only at h
    split at h
    · split at h
      · simp at h
      · obtain rfl := Except.ok.inj h
        exact hrest
    · obtain rfl := Except.ok.inj h
      exact hrest

lemma dropWord?_suffix {word cs rest : List Char} (h : dropWord? word cs = some rest) :
    rest <:+ cs := by
  fun_induction dropWord? word cs with
  | case1 cs => exact Option.some.inj h ▸ List.suffix_rfl
  | case2 => simp at h
  | case3 ws w cs ih => exact (ih h).trans (List.suffix_cons w cs)
  | case4 => simp at h

lemma scanScalar_suffix {cs : List Char} {r : Value × List Char} (h : scanScalar cs = .ok r) :
    r.2 <:+ cs := by
  unfold scanScalar at h
  split at h
  next found hword =>
    obtain rfl := Except.ok.inj h
    obtain ⟨w, -, hw⟩ := List.exists_of_findSome?_eq_some hword
    obtain ⟨rest, hrest, rfl⟩ := Option.map_eq_some_iff.mp hw
    exact dropWord?_suffix hrest
  next =>
    split at h
    · exact (scanNumber_suffix h).trans (List.suffix_cons _ _)
    · exact scanNumber_suffix h

lemma hexDigit?_lt {c : Char} {n : Nat} (h : hexDigit? c = some n) : n < 16 := by
  have hle : ∀ {c d : Char}, c ≤ d → c.toNat ≤ d.toNat := fun hcd => hcd
  unfold hexDigit? at h
  split at h
  next hc =>
    have := hle hc.2
    obtain rfl := Option.some.inj h
    rw [show '9'.toNat = 0x39 from rfl] at this
    omega
  next =>
    split at h
    next hc =>
      have := hle hc.2
      obtain rfl := Option.some.inj h
      rw [show 'f'.toNat = 0x66 from rfl] at this
      omega
    next =>
      split at h
      next hc =>
        have := hle hc.2
        obtain rfl := Option.some.inj h
        rw [show 'F'.toNat = 0x46 from rfl] at this
        omega
      next => simp at h

lemma hexFour?_lt {a b c d : Char} {n : Nat} (h : hexFour? a b c d = some n) : n < 0x10000 := by
  obtain ⟨w, hw, h⟩ := Option.bind_eq_some_iff.mp h
  obtain ⟨x, hx, h⟩ := Option.bind_eq_some_iff.mp h
  obtain ⟨y, hy, h⟩ := Option.bind_eq_some_iff.mp h
  obtain ⟨z, hz, h⟩ := Option.bind_eq_some_iff.mp h
  have := hexDigit?_lt hw
  have := hexDigit?_lt hx
  have := hexDigit?_lt hy
  have := hexDigit?_lt hz
  obtain rfl := Option.some.inj h
  omega

lemma shortEscape?_lt {c e : Char} (h : shortEscape? c = some e) : e.toNat < 0x10000 := by
  unfold shortEscape? at h
  split at h
  iterate 8
    · obtain rfl := Option.some.inj h
      decide
  · simp at h

/-- What is read up to a closing quote are codes of units and of whole characters. -/
lemma scanned_of_scanCodes? {cs : List Char} (hcs : ∀ c ∈ cs, code? c = none) {codes : List Nat}
    {tail : List Char} (h : scanCodes? cs = some (codes, tail)) :
    (∀ n ∈ codes, IsScanned n) ∧ tail <:+ cs := by
  -- One code in front of those of the rest.
  have hcons : ∀ {n : Nat} {rest : List Char} {codes : List Nat} {tail : List Char},
      (scanCodes? rest).map (putCodes [n]) = some (codes, tail) → IsScanned n →
      (∀ codes tail, scanCodes? rest = some (codes, tail) →
        (∀ n ∈ codes, IsScanned n) ∧ tail <:+ rest) →
      (∀ n ∈ codes, IsScanned n) ∧ tail <:+ rest := by
    intro n rest codes tail h hn ih
    obtain ⟨⟨more, tail'⟩, hmore, heq⟩ := Option.map_eq_some_iff.mp h
    obtain ⟨rfl, rfl⟩ := Prod.mk.inj heq
    obtain ⟨hcodes, htail⟩ := ih _ _ hmore
    exact ⟨List.forall_mem_cons.mpr ⟨hn, hcodes⟩, htail⟩
  fun_induction scanCodes? cs generalizing codes tail with
  | case1 => simp at h
  | case2 rest =>
    obtain ⟨rfl, rfl⟩ := Prod.mk.inj (Option.some.inj h)
    exact ⟨by simp, List.suffix_cons _ _⟩
  | case3 => simp at h
  | case4 a b c d rest code hcode ih =>
    obtain ⟨hcodes, htail⟩ := hcons h (.inl (hexFour?_lt hcode))
      fun _ _ => ih fun c hc => hcs c (by simp [hc])
    exact ⟨hcodes, htail.trans ⟨['\\', 'u', a, b, c, d], rfl⟩⟩
  | case5 => simp at h
  | case6 c rest _ e he ih =>
    obtain ⟨hcodes, htail⟩ := hcons h (.inl (shortEscape?_lt he))
      fun _ _ => ih fun c hc => hcs c (by simp [hc])
    exact ⟨hcodes, htail.trans ⟨['\\', c], rfl⟩⟩
  | case7 => simp at h
  | case8 c rest _ _ _ _ ih =>
    obtain ⟨hcodes, htail⟩ := hcons h (.inr ⟨c, hcs c List.mem_cons_self, rfl⟩)
      fun _ _ => ih fun c hc => hcs c (List.mem_cons_of_mem _ hc)
    exact ⟨hcodes, htail.trans (List.suffix_cons c rest)⟩

end Json

/-! ## Values that are read -/

/-- The values of a JSON text in which no text has a pair of halves left to join. -/
inductive Value.IsJoined : Value → Prop
  | null : IsJoined .null
  | bool (b : Bool) : IsJoined (.bool b)
  | int (n : Int) : IsJoined (.int n)
  | float (x : Double) : IsJoined (.float x)
  | text {s : String} (h : Text.rejoin s = s) : IsJoined (.text s)
  | list {items : List Value} (h : ∀ v ∈ items, IsJoined v) : IsJoined (.list items)
  | object {fields : Fields} (h : ∀ f ∈ fields, IsJoined f.2) : IsJoined (.object fields)

lemma Value.IsJoined.isJson {v : Value} (h : v.IsJoined) : v.IsJson := by
  induction h with
  | null => exact .null
  | bool b => exact .bool b
  | int n => exact .int n
  | float x => exact .float x
  | text => exact .text _
  | list _ ih => exact .list ih
  | object _ ih => exact .object ih

namespace Json

open Text Text.Half

/-- A scalar is joined; the other tokens hold no text. -/
def Token.IsJoined : Token → Prop
  | .scalar v => v.IsJoined
  | _ => True

def Frame.IsJoined : Frame → Prop
  | .list items => ∀ v ∈ items, v.IsJoined
  | .object fields _ => ∀ f ∈ fields, f.2.IsJoined

/-- All that the machine holds is joined. -/
structure Machine.IsJoined (m : Machine) : Prop where
  stack : ∀ f ∈ m.stack, f.IsJoined
  result : m.result.IsJoined

lemma isJoined_of_words : ∀ w ∈ words, w.2.IsJoined := by
  simp only [words, List.forall_mem_cons, List.not_mem_nil, false_implies, implies_true, and_true]
  exact ⟨.null, .bool _, .bool _, .float _, .float _, .float _⟩

lemma isJoined_of_scanNumber {negative : Bool} {cs : List Char} {r : Value × List Char}
    (h : scanNumber negative cs = .ok r) : r.1.IsJoined := by
  unfold scanNumber at h
  split at h
  · simp at h
  · dsimp only at h
    split at h
    · split at h
      · simp at h
      · obtain rfl := Except.ok.inj h
        exact .int _
    · obtain rfl := Except.ok.inj h
      exact .float _

lemma isJoined_of_scanScalar {cs : List Char} {r : Value × List Char} (h : scanScalar cs = .ok r) :
    r.1.IsJoined := by
  unfold scanScalar at h
  split at h
  next found hword =>
    obtain rfl := Except.ok.inj h
    obtain ⟨w, hw, hdrop⟩ := List.exists_of_findSome?_eq_some hword
    obtain ⟨rest, -, rfl⟩ := Option.map_eq_some_iff.mp hdrop
    exact isJoined_of_words w hw
  next =>
    split at h
    · exact isJoined_of_scanNumber h
    · exact isJoined_of_scanNumber h

/-- A token of a text without halves is joined, and what is left is a text without halves. -/
lemma isJoined_of_scanToken {c : Char} {rest tail : List Char} {token : Token}
    (hcs : ∀ d ∈ c :: rest, code? d = none) (h : scanToken c rest = .ok (token, tail)) :
    token.IsJoined ∧ ∀ d ∈ tail, code? d = none := by
  have hrest := (List.forall_mem_cons.mp hcs).2
  unfold scanToken at h
  split at h
  iterate 6
    · obtain ⟨rfl, rfl⟩ := Prod.mk.inj (Except.ok.inj h)
      exact ⟨trivial, hrest⟩
  · split at h
    next codes tail' hscan =>
      obtain ⟨rfl, rfl⟩ := Prod.mk.inj (Except.ok.inj h)
      obtain ⟨hcodes, htail⟩ := scanned_of_scanCodes? hrest hscan
      exact ⟨.text (rejoin_joinPairs hcodes), fun d hd => hrest d (htail.subset hd)⟩
    next => simp at h
  · cases hscan : scanScalar (c :: rest) with
    | error e => simp [hscan, Except.map] at h
    | ok r =>
      rw [hscan] at h
      obtain ⟨rfl, rfl⟩ := Prod.mk.inj (Except.ok.inj h)
      exact ⟨isJoined_of_scanScalar hscan, fun d hd => hcs d ((scanScalar_suffix hscan).subset hd)⟩

/-! ## The machine -/

lemma isJoined_put {fs : Fields} {key : String} {v : Value} (hfs : ∀ f ∈ fs, f.2.IsJoined)
    (hv : v.IsJoined) : ∀ f ∈ fs.put key v, f.2.IsJoined := by
  intro f hf
  unfold Fields.put at hf
  split at hf
  · obtain ⟨g, hg, rfl⟩ := List.mem_map.mp hf
    split
    · exact hv
    · exact hfs g hg
  · rcases List.mem_append.mp hf with hf | hf
    · exact hfs f hf
    · exact List.mem_singleton.mp hf ▸ hv

lemma isJoined_gather {fs : Fields} (hfs : ∀ f ∈ fs, f.2.IsJoined) :
    ∀ f ∈ gather fs, f.2.IsJoined := by
  have hfold : ∀ (fs acc : Fields), (∀ f ∈ fs, f.2.IsJoined) → (∀ f ∈ acc, f.2.IsJoined) →
      ∀ f ∈ fs.foldl (fun acc f => Fields.put acc f.1 f.2) acc, f.2.IsJoined := by
    intro fs
    induction fs with
    | nil => exact fun acc _ hacc => hacc
    | cons g fs ih =>
      intro acc hfs hacc
      obtain ⟨hg, hfs⟩ := List.forall_mem_cons.mp hfs
      exact ih _ hfs (isJoined_put hacc hg)
  exact hfold _ _ (fun f hf => hfs f (List.mem_reverse.mp hf)) (by simp)

namespace Machine

lemma isJoined_of_deliver {stack : List Frame} {v : Value} {m : Machine}
    (hstack : ∀ f ∈ stack, f.IsJoined) (hv : v.IsJoined) (h : deliver stack v = some m) :
    m.IsJoined := by
  unfold deliver at h
  split at h
  · obtain rfl := Option.some.inj h
    exact ⟨by simp, hv⟩
  next items below =>
    obtain ⟨hitems, hbelow⟩ := List.forall_mem_cons.mp hstack
    obtain rfl := Option.some.inj h
    exact ⟨List.forall_mem_cons.mpr ⟨List.forall_mem_cons.mpr ⟨hv, hitems⟩, hbelow⟩, .null⟩
  next fields key below =>
    obtain ⟨hfields, hbelow⟩ := List.forall_mem_cons.mp hstack
    obtain rfl := Option.some.inj h
    exact ⟨List.forall_mem_cons.mpr ⟨List.forall_mem_cons.mpr ⟨hv, hfields⟩, hbelow⟩, .null⟩
  · simp at h

/-- What the machine holds stays joined with each joined token. -/
theorem isJoined_of_step {m m' : Machine} {token : Token} (hm : m.IsJoined) (htoken : token.IsJoined)
    (h : m.step token = some m') : m'.IsJoined := by
  have hstack := hm.stack
  have htop : ∀ {f : Frame} {below : List Frame}, m.stack = f :: below →
      f.IsJoined ∧ ∀ g ∈ below, g.IsJoined := by
    intro f below heq
    exact List.forall_mem_cons.mp (heq ▸ hstack)
  have hcons : ∀ {f : Frame} {below : List Frame} {e : Expect}, f.IsJoined →
      (∀ g ∈ below, g.IsJoined) → some ⟨f :: below, e, .null⟩ = some m' → m'.IsJoined := by
    rintro f below e hf hbelow ⟨⟩
    exact ⟨List.forall_mem_cons.mpr ⟨hf, hbelow⟩, .null⟩
  unfold step at h
  split at h
  -- A scalar that is a value.
  iterate 2 exact isJoined_of_deliver hstack htoken h
  -- A list or an object that opens.
  iterate 4 exact hcons (by simp [Frame.IsJoined]) hstack h
  -- A list that closes.
  iterate 2
    next heq =>
      exact isJoined_of_deliver (htop heq).2 (.list fun v hv => (htop heq).1 v (List.mem_reverse.mp hv)) h
  -- An object that closes.
  iterate 2
    next heq => exact isJoined_of_deliver (htop heq).2 (.object (isJoined_gather (htop heq).1)) h
  -- A key.
  iterate 2
    next heq =>
      refine hcons ?_ (htop heq).2 h
      exact (htop heq).1
  · obtain rfl := Option.some.inj h
    exact ⟨hstack, .null⟩
  -- A comma.
  iterate 2
    next heq => exact hcons (htop heq).1 (htop heq).2 h
  · simp at h

/-- What is read of a text without halves is joined. -/
theorem isJoined_of_readWithin {m : Machine} {fuel : Nat} {cs : List Char} {v : Value}
    (hm : m.IsJoined) (hcs : ∀ c ∈ cs, code? c = none) (h : m.readWithin fuel cs = .ok v) :
    v.IsJoined := by
  fun_induction readWithin m fuel cs with
  | case1 m fuel result hresult =>
    obtain rfl := Except.ok.inj h
    unfold result? at hresult
    split at hresult
    · exact Option.some.inj hresult ▸ hm.result
    · simp at hresult
  | case2 => simp at h
  | case3 => simp at h
  | case4 m fuel c rest hspace ih => exact ih hm (List.forall_mem_cons.mp hcs).2 h
  | case5 => simp at h
  | case6 => simp at h
  | case7 m fuel c rest hspace token tail hscan m' hstep hdeep ih =>
    obtain ⟨htoken, htail⟩ := isJoined_of_scanToken hcs hscan
    exact ih (isJoined_of_step hm htoken hstep) htail h
  | case8 => simp at h

end Machine

/-- The value of a text without halves is joined. -/
theorem isJoined_of_read {s : String} {v : Value} (hs : Half.isIn s = false) (h : read s = .ok v) :
    v.IsJoined :=
  Machine.isJoined_of_readWithin ⟨by simp [Machine.start], .null⟩ (isIn_eq_false.mp hs) h

end Json

end DetectionFlow
