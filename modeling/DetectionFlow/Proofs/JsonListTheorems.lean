import DetectionFlow.Proofs.JsonTextTheorems
import DetectionFlow.Proofs.NumberTextTheorems

/-!
# Lists of objects in JSON texts

A list of objects with scalars in their fields is read as it was written (`read_compact_objects`), up to
its texts, which are read as their `Text.rejoin`. The reader is a machine that takes one token at a time:
`Machine.Reads` says that some characters lead it from one state to another, whatever follows them, and
the parts of the text are put together from the last one to the first.

Lists may stand inside each other up to a limit, and beyond it they are refused (`read_nested`).
-/

namespace DetectionFlow
namespace Json

open Text

/-! ## Scalars -/

/-- The text is that of a scalar: one token, whatever follows that cannot belong to a number. -/
def Scans (cs : List Char) (v : Value) : Prop :=
  ∃ c more, cs = c :: more ∧ isSpace c = false ∧
    ∀ rest, Ends rest → scanToken c (more ++ rest) = .ok (.scalar v, rest)

/-- A written text is read as its units. -/
lemma scanToken_text (s : String) (rest : List Char) :
    scanToken '"' (s.toList.flatMap escaped ++ '"' :: rest) =
      .ok (.scalar (.text (rejoin s)), rest) := by
  unfold scanToken
  dsimp only
  rw [scanCodes?_flatMap_escaped]
  rfl

lemma toList_textToken (s : String) :
    (textToken s).toList = '"' :: (s.toList.flatMap escaped ++ ['"']) := by
  rw [textToken, String.toList_ofList]

lemma scans_text (s : String) : Scans (textToken s).toList (.text (rejoin s)) := by
  refine ⟨_, _, toList_textToken s, rfl, fun rest _ => ?_⟩
  rw [List.append_assoc]
  exact scanToken_text s rest

/-- A number begins with a digit or with a minus sign, which begin no other token. -/
lemma scanToken_number {c : Char} (hc : c = '-' ∨ c.isDigit = true) (rest : List Char) :
    isSpace c = false ∧ scanToken c rest =
      (scanScalar (c :: rest)).map fun (v, tail) => (.scalar v, tail) := by
  have hne : ∀ d : Char, d ≠ '-' → d.isDigit = false → c ≠ d := by
    rintro d hminus hd rfl
    rcases hc with hc | hc
    · exact hminus hc
    · rw [hd] at hc
      cases hc
  constructor
  · simp [isSpace, hne ' ' (by decide) rfl, hne '\t' (by decide) rfl, hne '\n' (by decide) rfl,
      hne '\r' (by decide) rfl]
  · unfold scanToken
    split
    · exact absurd rfl (hne '[' (by decide) rfl)
    · exact absurd rfl (hne ']' (by decide) rfl)
    · exact absurd rfl (hne '\x7b' (by decide) rfl)
    · exact absurd rfl (hne '\x7d' (by decide) rfl)
    · exact absurd rfl (hne ',' (by decide) rfl)
    · exact absurd rfl (hne ':' (by decide) rfl)
    · exact absurd rfl (hne '"' (by decide) rfl)
    · rfl

lemma scans_number {negative : Bool} {body : List Char} {v : Value}
    (hhead : ∃ c ∈ body.head?, c.isDigit = true)
    (hscan : ∀ rest, Ends rest → scanScalar (signedText negative body ++ rest) = .ok (v, rest)) :
    Scans (signedText negative body) v := by
  obtain ⟨c, more, htext, hc⟩ : ∃ c more, signedText negative body = c :: more ∧
      (c = '-' ∨ c.isDigit = true) := by
    obtain ⟨d, hd, hdigit⟩ := hhead
    cases body with
    | nil => simp at hd
    | cons e body =>
      obtain rfl : e = d := Option.some.inj hd
      cases negative with
      | true => exact ⟨_, _, rfl, .inl rfl⟩
      | false => exact ⟨_, _, rfl, .inr hdigit⟩
  refine ⟨c, more, htext, (scanToken_number hc []).1, fun rest hrest => ?_⟩
  have hscan' := hscan rest hrest
  rw [htext, List.cons_append] at hscan'
  rw [(scanToken_number hc _).2, hscan']
  rfl

lemma scans_int {n : Int} (hlong : Fault.isLong n = false) : Scans (toString n).toList (.int n) := by
  have hscan := fun rest (hrest : Ends rest) => scanScalar_int hrest hlong
  rw [toList_toString] at hscan ⊢
  exact scans_number ((digits_digitsOf _).head (digitsOf_ne_nil _)) hscan

lemma scans_float {x : Double} (hx : x.isFinite = true) :
    Scans (Layout.record.render x).toList (.float x) := by
  cases x with
  | finite negative units h =>
    have hscan := fun rest (hrest : Ends rest) => scanScalar_render negative h hrest
    obtain ⟨body, htext, hhead⟩ := toList_render negative h
    rw [htext] at hscan ⊢
    exact scans_number hhead hscan
  | _ => cases hx

/-- A field as it is written, and what it is read as. -/
structure FieldReads (f g : String × Value) : Prop where
  name : g.1 = rejoin f.1
  scans : Scans (compact f.2).toList g.2

/-- An object with scalars in its fields, and what it is read as. -/
structure ObjectReads (fs gs : Fields) : Prop where
  fields : List.Forall₂ FieldReads fs gs
  names : (gs.map (·.1)).Nodup

/-! ## The machine -/

/-- From one state some characters lead to another one, whatever follows them that cannot belong to a
number. -/
def Machine.Reads (m : Machine) (cs : List Char) (m' : Machine) : Prop :=
  ∃ k ≤ cs.length, ∀ fuel rest, Ends rest →
    m.readWithin (k + fuel) (cs ++ rest) = m'.readWithin fuel rest

namespace Machine

lemma Reads.refl (m : Machine) : m.Reads [] m := by
  refine ⟨0, le_refl 0, fun fuel rest _ => ?_⟩
  rw [Nat.zero_add, List.nil_append]

/-- One token in front. -/
lemma readWithin_token {m m' : Machine} {c : Char} {more tail : List Char} {token : Token}
    {fuel : Nat} (hspace : isSpace c = false) (hscan : scanToken c more = .ok (token, tail))
    (hstep : m.step token = some m') (hdepth : m'.stack.length ≤ depthLimit) :
    m.readWithin (fuel + 1) (c :: more) = m'.readWithin fuel tail := by
  have hdeep : ¬ m'.isTooDeep = true := by
    rw [isTooDeep, decide_eq_true_iff]
    omega
  rw [readWithin, if_neg (by rw [hspace]; exact Bool.false_ne_true), hscan]
  dsimp only
  rw [hstep]
  dsimp only
  rw [if_neg hdeep]

variable {m m' m'' : Machine} {cs : List Char}

/-- A token of one character in front of what is read. -/
lemma Reads.cons {c : Char} {token : Token} (hspace : isSpace c = false)
    (hscan : ∀ rest, scanToken c rest = .ok (token, rest)) (hstep : m.step token = some m')
    (hdepth : m'.stack.length ≤ depthLimit) (h : m'.Reads cs m'') : m.Reads (c :: cs) m'' := by
  obtain ⟨k, hk, hreads⟩ := h
  refine ⟨k + 1, by simpa using hk, fun fuel rest hrest => ?_⟩
  rw [Nat.add_right_comm, List.cons_append, readWithin_token hspace (hscan _) hstep hdepth]
  exact hreads fuel rest hrest

/-- A scalar in front of what is read. -/
lemma Reads.scalar {text : List Char} {v : Value} (hscans : Scans text v)
    (hstep : m.step (.scalar v) = some m') (hdepth : m'.stack.length ≤ depthLimit)
    (hends : Ends cs) (h : m'.Reads cs m'') : m.Reads (text ++ cs) m'' := by
  obtain ⟨c, more, rfl, hspace, hscan⟩ := hscans
  obtain ⟨k, hk, hreads⟩ := h
  refine ⟨k + 1, ?_, fun fuel rest hrest => ?_⟩
  · simp only [List.cons_append, List.length_cons, List.length_append]
    omega
  · have hends' : Ends (cs ++ rest) := by
      cases cs with
      | nil => exact hrest
      | cons d ds => exact hends
    rw [Nat.add_right_comm, List.cons_append, List.cons_append, List.append_assoc,
      readWithin_token hspace (hscan _ hends') hstep hdepth]
    exact hreads fuel rest hrest

/-! ## Objects -/

/-- A part, a comma and further parts. -/
lemma toList_intercalate (s t : String) (l : List String) (rest : List Char) :
    (String.intercalate "," (s :: t :: l)).toList ++ rest =
      s.toList ++ ',' :: ((String.intercalate "," (t :: l)).toList ++ rest) := by
  rw [String.intercalate_cons_cons, String.toList_append, String.toList_append, List.append_assoc,
    List.append_assoc]
  rfl

/-- A field in front of what is read: its name, a colon and its value. -/
lemma reads_field {fields : Fields} {below : List Frame} {f g : String × Value} {e : Expect}
    (he : e = .keyOrClose ∨ e = .key) (hf : FieldReads f g) (hends : Ends cs)
    (hdepth : below.length < depthLimit)
    (h : Reads ⟨.object (g :: fields) none :: below, .commaOrClose, .null⟩ cs m'') :
    Reads ⟨.object fields none :: below, e, .null⟩
      ((textToken f.1 ++ ":" ++ compact f.2).toList ++ cs) m'' := by
  have hvalue : Reads ⟨.object fields (some g.1) :: below, .value, .null⟩
      ((compact f.2).toList ++ cs) m'' := Reads.scalar hf.scans rfl hdepth hends h
  have hcolon : Reads ⟨.object fields (some g.1) :: below, .colon, .null⟩
      (':' :: ((compact f.2).toList ++ cs)) m'' :=
    hvalue.cons rfl (fun _ => rfl) rfl hdepth
  have hstep : Machine.step ⟨.object fields none :: below, e, .null⟩ (.scalar (.text (rejoin f.1))) =
      some ⟨.object fields (some g.1) :: below, .colon, .null⟩ := by
    rw [hf.name]
    rcases he with rfl | rfl <;> rfl
  have hcolonEnds : Ends (':' :: ((compact f.2).toList ++ cs)) := by
    rintro c ⟨rfl⟩
    decide
  have hkey := Reads.scalar (scans_text f.1) hstep hdepth hcolonEnds hcolon
  rw [String.toList_append, String.toList_append, List.append_assoc, List.append_assoc]
  exact hkey

/-- The fields of an object up to its end. -/
lemma reads_fields {below : List Frame} {fs gs : Fields} (hfs : List.Forall₂ FieldReads fs gs)
    (hdepth : below.length < depthLimit) {fields : Fields} {e : Expect}
    (he : e = .keyOrClose ∨ e = .key) (hne : fs ≠ [])
    (hclose : deliver below (.object (gather (gs.reverse ++ fields))) = some m')
    (hstack : m'.stack.length ≤ depthLimit) (h : m'.Reads cs m'') :
    Reads ⟨.object fields none :: below, e, .null⟩
      ((String.intercalate "," (compactFields fs)).toList ++ '\x7d' :: cs) m'' := by
  -- The fields that were read already wait in the frame, so they are free in the induction.
  induction hfs generalizing fields e with
  | nil => exact absurd rfl hne
  | @cons f g fs gs hf hrest ih =>
    cases fs with
    | nil =>
      cases hrest
      have hend : Reads ⟨.object (g :: fields) none :: below, .commaOrClose, .null⟩
          ('\x7d' :: cs) m'' := h.cons rfl (fun _ => rfl) hclose hstack
      have hends : Ends ('\x7d' :: cs) := by
        rintro c ⟨rfl⟩
        decide
      rw [compactFields, compactFields, String.intercalate_singleton]
      exact reads_field he hf hends hdepth hend
    | cons f' fs =>
      have hclose' : deliver below (.object (gather (gs.reverse ++ g :: fields))) = some m' := by
        simpa using hclose
      have hnext := ih (.inr rfl) (by simp) hclose'
      have hcomma : Reads ⟨.object (g :: fields) none :: below, .commaOrClose, .null⟩
          (',' :: ((String.intercalate "," (compactFields (f' :: fs))).toList ++ '\x7d' :: cs)) m'' :=
        hnext.cons rfl (fun _ => rfl) rfl hdepth
      have hends : Ends (',' :: ((String.intercalate "," (compactFields (f' :: fs))).toList ++
          '\x7d' :: cs)) := by
        rintro c ⟨rfl⟩
        decide
      have hfield := reads_field he hf hends hdepth hcomma
      rw [compactFields, compactFields, toList_intercalate]
      exact hfield

/-- Fields of distinct names are gathered as they are. -/
lemma gather_reverse {fs : Fields} (hnames : (fs.map (·.1)).Nodup) : gather fs.reverse = fs := by
  have hfold : ∀ (fs acc : Fields), ((acc ++ fs).map (·.1)).Nodup →
      fs.foldl (fun acc f => Fields.put acc f.1 f.2) acc = acc ++ fs := by
    intro fs
    induction fs with
    | nil => simp
    | cons f rest ih =>
      intro acc hnodup
      have hnew : Fields.put acc f.1 f.2 = acc ++ [f] := by
        rw [Fields.put, if_neg]
        intro hhas
        obtain ⟨g, hg, hname⟩ := List.any_eq_true.mp hhas
        rw [List.map_append] at hnodup
        refine List.disjoint_of_nodup_append hnodup (List.mem_map_of_mem hg) ?_
        simp only [decide_eq_true_eq] at hname
        rw [hname]
        exact List.mem_cons_self
      rw [List.foldl_cons, hnew, ih _ (by simpa using hnodup)]
      simp
  rw [gather, List.reverse_reverse]
  exact hfold fs [] hnames

/-- An object in front of what is read. -/
lemma reads_object {below : List Frame} {fs gs : Fields} (hfs : ObjectReads fs gs)
    (hdepth : below.length < depthLimit) (hstep : m.step .openObject =
      some ⟨.object [] none :: below, .keyOrClose, .null⟩)
    (hclose : deliver below (.object gs) = some m') (hstack : m'.stack.length ≤ depthLimit)
    (h : m'.Reads cs m'') : m.Reads ((compact (.object fs)).toList ++ cs) m'' := by
  have hgather : gather gs.reverse = gs := gather_reverse hfs.names
  have hinside : Reads ⟨.object [] none :: below, .keyOrClose, .null⟩
      ((String.intercalate "," (compactFields fs)).toList ++ '\x7d' :: cs) m'' := by
    by_cases hne : fs = []
    · subst hne
      obtain rfl : gs = [] := by
        have hfields := hfs.fields
        cases hfields
        rfl
      exact h.cons rfl (fun _ => rfl) hclose hstack
    · refine reads_fields hfs.fields hdepth (.inl rfl) hne ?_ hstack h
      rw [List.append_nil, hgather]
      exact hclose
  have hopen := hinside.cons (c := '\x7b') rfl (fun _ => rfl) hstep hdepth
  rw [compact, String.toList_append, String.toList_append, List.append_assoc, List.append_assoc]
  exact hopen

/-! ## Lists -/

/-- The objects of a list up to its end. -/
lemma reads_objects {objects others : List Fields}
    (hobjects : List.Forall₂ ObjectReads objects others) {items : List Value} {e : Expect}
    (he : e = .valueOrClose ∨ e = .value) (hne : objects ≠ []) :
    Reads ⟨[.list items], e, .null⟩
      ((String.intercalate "," (compactItems (objects.map .object))).toList ++ [']'])
      ⟨[], .nothing, .list (items.reverse ++ others.map .object)⟩ := by
  induction hobjects generalizing items e with
  | nil => exact absurd rfl hne
  | @cons fs gs objects others hfs hrest ih =>
    have hstep : Machine.step ⟨[.list items], e, .null⟩ .openObject =
        some ⟨[.object [] none, .list items], .keyOrClose, .null⟩ := by
      rcases he with rfl | rfl <;> rfl
    have hone : [Frame.list items].length < depthLimit := show 1 < depthLimit by decide
    have hitems : (Value.object gs :: items).reverse ++ others.map .object =
        items.reverse ++ (gs :: others).map .object := by simp
    cases objects with
    | nil =>
      cases hrest
      have hend : Reads ⟨[.list (.object gs :: items)], .commaOrClose, .null⟩ [']']
          ⟨[], .nothing, .list (Value.object gs :: items).reverse⟩ :=
        (Reads.refl _).cons rfl (fun _ => rfl) rfl (Nat.zero_le _)
      rw [List.map_cons, List.map_nil, compactItems, compactItems, String.intercalate_singleton,
        ← hitems, List.map_nil, List.append_nil]
      exact reads_object hfs hone hstep rfl hone.le hend
    | cons fs' objects =>
      have hnext : Reads ⟨[.list (.object gs :: items)], .value, .null⟩ _ _ :=
        ih (.inr rfl) (by simp)
      rw [hitems] at hnext
      have hcomma := hnext.cons (m := ⟨[.list (.object gs :: items)], .commaOrClose, .null⟩)
        (c := ',') rfl (fun _ => rfl) rfl hone.le
      rw [List.map_cons, List.map_cons, compactItems, compactItems, toList_intercalate]
      exact reads_object hfs hone hstep rfl hone.le hcomma

/-- A list of objects. -/
lemma reads_list {objects others : List Fields}
    (hobjects : List.Forall₂ ObjectReads objects others) :
    start.Reads (compact (.list (objects.map .object))).toList
      ⟨[], .nothing, .list (others.map .object)⟩ := by
  have hinside : Reads ⟨[.list []], .valueOrClose, .null⟩
      ((String.intercalate "," (compactItems (objects.map .object))).toList ++ [']'])
      ⟨[], .nothing, .list (others.map .object)⟩ := by
    by_cases hne : objects = []
    · subst hne
      cases hobjects
      exact (Reads.refl _).cons rfl (fun _ => rfl) rfl (by decide)
    · exact reads_objects hobjects (.inl rfl) hne
  have hopen := hinside.cons (m := start) (c := '[') rfl (fun _ => rfl) rfl (by decide)
  rw [compact, String.toList_append, String.toList_append, List.append_assoc]
  exact hopen

end Machine

/-- A written list of objects is read as the list of what its objects are read as. -/
theorem read_compact_objects {objects others : List Fields}
    (hobjects : List.Forall₂ ObjectReads objects others) :
    read (compact (.list (objects.map .object))) = .ok (.list (others.map .object)) := by
  obtain ⟨k, hk, hreads⟩ := Machine.reads_list hobjects
  generalize compact (.list (objects.map .object)) = s at hk hreads
  obtain ⟨fuel, hfuel⟩ : ∃ fuel, s.length = k + fuel := by
    rw [← String.length_toList]
    exact ⟨s.toList.length - k, by omega⟩
  have hend := hreads fuel [] (by rintro c ⟨⟩)
  rw [List.append_nil] at hend
  rw [read, hfuel, hend]
  cases fuel <;> rfl

/-! ## Lists inside each other -/

/-- Where a value may come, too many lists that open are refused, whatever follows them. -/
lemma Machine.readWithin_nested {n : Nat} (rest : List Char) {m : Machine} {fuel : Nat}
    (hexpect : m.expect = .value ∨ m.expect = .valueOrClose) (hdepth : m.stack.length ≤ depthLimit)
    (hdeep : depthLimit < m.stack.length + n) (hfuel : n ≤ fuel) :
    m.readWithin fuel (List.replicate n '[' ++ rest) = .error .tooDeep := by
  induction n generalizing m fuel with
  | zero => omega
  | succ n ih =>
    obtain ⟨fuel, rfl⟩ : ∃ k, fuel = k + 1 := ⟨fuel - 1, by omega⟩
    rw [List.replicate_succ, List.cons_append]
    have hstep : m.step .openList = some ⟨.list [] :: m.stack, .valueOrClose, .null⟩ := by
      obtain ⟨stack, e, result⟩ := m
      rcases hexpect with h | h <;> cases h <;> rfl
    -- The list that opens here is refused, or there is room for it and for the next one.
    by_cases hlast : m.stack.length = depthLimit
    · have htop : (⟨.list [] :: m.stack, .valueOrClose, .null⟩ : Machine).isTooDeep = true := by
        simp [isTooDeep, hlast]
      rw [readWithin, if_neg (by decide), show scanToken '[' _ = .ok (.openList, _) from rfl]
      dsimp only
      rw [hstep]
      dsimp only
      rw [if_pos htop]
    · have hlength : (Frame.list [] :: m.stack).length = m.stack.length + 1 := List.length_cons
      rw [readWithin_token rfl rfl hstep (by dsimp only; omega)]
      exact ih (.inr rfl) (by dsimp only; omega) (by dsimp only; omega) (by omega)

/-- More lists inside each other than are read are refused as that. -/
theorem read_nested {n : Nat} (hn : depthLimit < n) (rest : List Char) :
    read (String.ofList (List.replicate n '[' ++ rest)) = .error .tooDeep := by
  rw [read, String.toList_ofList]
  refine Machine.readWithin_nested rest (.inl rfl) (Nat.zero_le _) ?_ ?_
  · rwa [Machine.start, List.length_nil, Nat.zero_add]
  · simp

end Json
end DetectionFlow
