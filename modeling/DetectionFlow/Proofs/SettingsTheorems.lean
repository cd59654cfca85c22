import DetectionFlow.Proofs.BackendRoots
import DetectionFlow.Proofs.DocumentFiles
import DetectionFlow.Proofs.GreatestNumbers

/-!
# Settings and where they come from

Each setting is what the environment states of it, else what the file states, else what is built in
(`Settings.Follows`). The environment is laid over the file first, and what that makes is read section by
section, so there is one lemma for each of the two steps (`Settings.override_eq_ok`,
`Settings.read_eq_ok`).
-/

namespace DetectionFlow

open Checked

/-! ## Fields that are set -/

namespace Fields

/-- A field that is set has its new value, and all others have theirs. -/
lemma get?_put (fs : Fields) (key name : String) (v : Value) :
    (fs.put key v).get? name = if name = key then some v else fs.get? name := by
  unfold put
  split
  next hhas =>
    -- The fields keep their names, and so the same one is found.
    have hnames : ((fun f : String × Value => decide (f.1 = name)) ∘
        fun f => if f.1 = key then (key, v) else f) = fun f => decide (f.1 = name) := by
      funext f
      by_cases hf : f.1 = key <;> simp [hf]
    rw [get?, List.find?_map, hnames]
    cases hfound : fs.find? (fun f => decide (f.1 = name)) with
    | none =>
      have hne : name ≠ key := by
        rintro rfl
        obtain ⟨f, hf, hkey⟩ : ∃ f ∈ fs, f.1 = name := by simpa [has] using hhas
        exact absurd hkey (by simpa using List.find?_eq_none.mp hfound f hf)
      simp [get?, hfound, hne]
    | some f =>
      have hf : f.1 = name := by simpa using List.find?_some hfound
      by_cases hname : name = key
      · simp [hf, hname]
      · simp [get?, hfound, hf, hname]
  next hnew =>
    rw [get?, List.find?_append, Option.map_or, ← get?]
    by_cases hname : name = key
    · subst hname
      have hnone : fs.get? name = none := by
        rw [get?, Option.map_eq_none_iff, List.find?_eq_none]
        intro f hf
        rw [has, List.any_eq_true] at hnew
        exact fun hkey => hnew ⟨f, hf, hkey⟩
      simp [hnone]
    · have hother : key ≠ name := fun h => hname h.symm
      simp [hname, hother]

end Fields

namespace Settings

/-! ## Sections -/

variable {fs fs' : Fields} {env : Environment} {f : Fault}

/-- The fields of a section, if there is such a mapping. -/
def part? (fs : Fields) (name : String) : Option Fields :=
  (fs.get? name).bind fun v => v.entries?.map Reader.fieldsIn

/-- What a file states of a field of a section. -/
def stated? (fs : Fields) (name key : String) : Option Value :=
  (part? fs name).bind (·.get? key)

/-- The fields of a mapping have a name exactly if some key is that text. -/
lemma has_fieldsIn (es : List (Value × Value)) (key : String) :
    (Reader.fieldsIn es).has key = es.any fun e => e.1.text? = some key := by
  induction es with
  | nil => rfl
  | cons e rest ih =>
    unfold Reader.fieldsIn Fields.has at ih ⊢
    cases htext : e.1.text? <;> simp [htext, ih]

/-- To set the entries of a key is to set the fields of that name. -/
lemma fieldsIn_map (es : List (Value × Value)) (key : String) (v : Value) :
    Reader.fieldsIn (es.map fun e => if e.1.text? = some key then (e.1, v) else e) =
      (Reader.fieldsIn es).map fun f => if f.1 = key then (key, v) else f := by
  induction es with
  | nil => rfl
  | cons e rest ih =>
    unfold Reader.fieldsIn at ih ⊢
    cases htext : e.1.text? with
    | none => simp [htext, ih]
    | some name => by_cases hname : name = key <;> simp [htext, hname, ih]

/-- A mapping that is set has the fields that it had, with one of them set. -/
lemma setEntry_eq_ok {w w' v : Value} {key : String} (h : setEntry w key v = .ok w') :
    ∃ es es', w.entries? = some es ∧ w'.entries? = some es' ∧
      Reader.fieldsIn es' = (Reader.fieldsIn es).put key v := by
  fun_induction setEntry w key v generalizing w' with
  | case1 fs =>
    cases h
    exact ⟨_, _, rfl, rfl, by rw [Reader.fieldsIn_object, Reader.fieldsIn_object]⟩
  | case2 entries hhas =>
    cases h
    refine ⟨_, _, rfl, rfl, ?_⟩
    rw [fieldsIn_map, Fields.put, has_fieldsIn, if_pos hhas]
  | case3 entries hnew =>
    cases h
    refine ⟨_, _, rfl, rfl, ?_⟩
    rw [Fields.put, has_fieldsIn, if_neg hnew, Reader.fieldsIn, List.filterMap_append]
    rfl
  | case4 levels w ih =>
    cases hset : setEntry w key v with
    | error f =>
      rw [hset] at h
      cases h
    | ok u =>
      rw [hset] at h
      cases h
      obtain ⟨es, es', hes, hes', hput⟩ := ih hset
      exact ⟨es, es', hes, hes', hput⟩
  | case5 => cases h

/-- Only what is no mapping cannot be set. -/
lemma setEntry_eq_error {w v : Value} {key : String} :
    setEntry w key v = .error f ↔ w.entries? = none ∧ f = .noReplacement w.typeName := by
  fun_induction setEntry w key v with
  | case4 levels w ih =>
    have hinner : (setEntry w key v).map (Value.again levels) = .error f ↔
        setEntry w key v = .error f := by
      cases setEntry w key v <;> simp [Except.map]
    rw [hinner, ih]
    rfl
  | case5 w hobject htable hagain =>
    have hnone : w.entries? = none := by
      cases w with
      | object fs => exact absurd rfl (hobject fs)
      | table es => exact absurd rfl (htable es)
      | again levels u => exact absurd rfl (hagain levels u)
      | _ => rfl
    simp [hnone, eq_comm]
  | _ => simp [Value.entries?]

/-! ## The environment -/

/-- The section of the backend with the field that a variable overrides, if it is set. -/
def overrideBy (given : Option String) (fs : Fields) (key : String) : Except Fault Fields :=
  match given with
  | some value => overrideField fs key value
  | none => .ok fs

lemma override_eq (env : Environment) (fs : Fields) :
    override env fs =
      overrideBy (value? env "PIPELINE_API_URL") fs "base_url" >>= fun fs =>
        overrideBy (value? env "PIPELINE_API_TOKEN") fs "token" := by
  rw [override, overriding, List.foldlM_cons]
  apply congrArg (_ >>= ·)
  funext fs
  rw [List.foldlM_cons]
  exact bind_pure _

/-- One field of the section is set, and no other part of the file. -/
lemma overrideField_eq_ok {key value : String} (hapi : key ≠ "api") (houtput : key ≠ "output")
    (h : overrideField fs key value = .ok fs') :
    part? fs' "api" = some (((part? fs "api").getD []).put key (.text value)) ∧
      fs'.get? "output" = fs.get? "output" := by
  obtain ⟨w, hset, h⟩ := Except.bind_eq_ok.mp h
  obtain ⟨es, es', hes, hes', hput⟩ := setEntry_eq_ok hset
  have hfields : (part? fs "api").getD [] = Reader.fieldsIn es := by
    unfold part?
    cases hget : fs.get? "api" with
    | none =>
      rw [hget] at hes
      cases hes
      rfl
    | some v =>
      rw [hget] at hes
      simp [show v.entries? = some es from hes]
  have hparts : fs'.get? "api" = some w ∧ fs'.get? "output" = fs.get? "output" := by
    split at h <;> cases h
    · simp [Fields.get?_put, hapi.symm, houtput.symm]
    · simp [Fields.get?_put]
  refine ⟨?_, hparts.2⟩
  rw [hfields, part?, hparts.1, ← hput]
  simp [hes']

/-- The section cannot be set exactly if it is there and no mapping. -/
lemma overrideField_eq_error {key value : String} :
    overrideField fs key value = .error f ↔
      ∃ v, fs.get? "api" = some v ∧ v.entries? = none ∧ f = .noReplacement v.typeName := by
  have hset : overrideField fs key value = .error f ↔
      setEntry ((fs.get? "api").getD (.object [])) key (.text value) = .error f := by
    rw [overrideField, Except.bind_eq_error]
    apply or_iff_left
    rintro ⟨w, -, h⟩
    split at h <;> cases h
  rw [hset, setEntry_eq_error]
  cases fs.get? "api" with
  | none => simp [Value.entries?]
  | some v => simp

variable {given : Option String} {key : String}

/-- What a variable states comes before what the file states. -/
lemma overrideBy_eq_ok (hapi : key ≠ "api") (houtput : key ≠ "output")
    (h : overrideBy given fs key = .ok fs') :
    (∀ name, stated? fs' "api" name =
        if name = key then (given.map .text).or (stated? fs "api" name) else stated? fs "api" name) ∧
      fs'.get? "output" = fs.get? "output" := by
  cases given with
  | none =>
    cases h
    simp
  | some value =>
    obtain ⟨hsection, hother⟩ := overrideField_eq_ok hapi houtput h
    refine ⟨fun name => ?_, hother⟩
    rw [stated?, hsection, Option.bind_some, Fields.get?_put, stated?]
    by_cases hname : name = key
    · simp [hname]
    · rw [if_neg hname, if_neg hname]
      cases part? fs "api" <;> rfl

lemma overrideBy_eq_error :
    overrideBy given fs key = .error f ↔ given.isSome = true ∧
      ∃ v, fs.get? "api" = some v ∧ v.entries? = none ∧ f = .noReplacement v.typeName := by
  cases given with
  | none => simp [overrideBy]
  | some value => simp [overrideBy, overrideField_eq_error]

/-- The environment overrides the root of the backend and the token, and nothing else. -/
lemma override_eq_ok (h : override env fs = .ok fs') :
    stated? fs' "api" "base_url" =
        ((value? env "PIPELINE_API_URL").map .text).or (stated? fs "api" "base_url") ∧
      stated? fs' "api" "token" =
        ((value? env "PIPELINE_API_TOKEN").map .text).or (stated? fs "api" "token") ∧
      stated? fs' "api" "timeout_seconds" = stated? fs "api" "timeout_seconds" ∧
      fs'.get? "output" = fs.get? "output" := by
  rw [override_eq] at h
  obtain ⟨fs₁, hurl, htoken⟩ := Except.bind_eq_ok.mp h
  obtain ⟨hstated₁, houtput₁⟩ := overrideBy_eq_ok (by decide) (by decide) hurl
  obtain ⟨hstated, houtput⟩ := overrideBy_eq_ok (by decide) (by decide) htoken
  refine ⟨?_, ?_, ?_, houtput.trans houtput₁⟩
  · rw [hstated, if_neg (by decide), hstated₁, if_pos rfl]
  · rw [hstated, if_pos rfl, hstated₁, if_neg (by decide)]
  · rw [hstated, if_neg (by decide), hstated₁, if_neg (by decide)]

lemma isOverridden_iff : isOverridden env = true ↔
    (value? env "PIPELINE_API_URL").isSome = true ∨ (value? env "PIPELINE_API_TOKEN").isSome = true := by
  simp [isOverridden, overriding]

/-- The environment cannot override a section that is no mapping. -/
lemma override_eq_error :
    override env fs = .error f ↔ isOverridden env = true ∧
      ∃ v, fs.get? "api" = some v ∧ v.entries? = none ∧ f = .noReplacement v.typeName := by
  rw [override_eq, Except.bind_eq_error, overrideBy_eq_error, isOverridden_iff]
  constructor
  · rintro (⟨hurl, hsection⟩ | ⟨fs₁, hurl, htoken⟩)
    · exact ⟨.inl hurl, hsection⟩
    · obtain ⟨hset, v, hv, hnone, rfl⟩ := overrideBy_eq_error.mp htoken
      refine ⟨.inr hset, ?_⟩
      cases hvalue : value? env "PIPELINE_API_URL" with
      | none =>
        rw [hvalue] at hurl
        cases hurl
        exact ⟨v, hv, hnone, rfl⟩
      | some value =>
        -- A section that was set is a mapping.
        rw [hvalue] at hurl
        obtain ⟨hsection, -⟩ := overrideField_eq_ok (by decide) (by decide) hurl
        simp [part?, hv, hnone] at hsection
  · rintro ⟨hset, hsection⟩
    by_cases hurl : (value? env "PIPELINE_API_URL").isSome = true
    · exact .inl ⟨hurl, hsection⟩
    · have hnone : value? env "PIPELINE_API_URL" = none := by simpa using hurl
      rw [hnone]
      exact .inr ⟨fs, rfl, overrideBy_eq_error.mpr ⟨hset.resolve_left hurl, hsection⟩⟩

/-! ## Reading -/

variable {α : Type}

/-- What a value is read as if there is one, and the default if there is none. -/
def Chosen (v : Option Value) (r : Reader α) (default a : α) : Prop :=
  match v with
  | some v => r v = ok a
  | none => a = default

lemma optional_eq_ok_iff {name : String} {r : Reader α} {default a : α} :
    Reader.optional fs name name default r = ok a ↔ Chosen (fs.get? name) r default a := by
  unfold Reader.optional Reader.lookup Chosen
  cases fs.get? name with
  | none => simp [eq_comm]
  | some v => simp

/-- A positive number of seconds. -/
def secondsReader : Reader Number := fun v => (Reader.positiveDouble v).map .float

/-- Where each setting comes from. -/
structure Follows (s : Settings) (env : Environment) (file : Fields) : Prop where
  url : Chosen (((value? env "PIPELINE_API_URL").map .text).or (stated? file "api" "base_url"))
    urlReader builtIn.baseUrl s.baseUrl
  timeout : Chosen (stated? file "api" "timeout_seconds") secondsReader builtIn.timeout s.timeout
  token : Chosen (((value? env "PIPELINE_API_TOKEN").map .text).or (stated? file "api" "token"))
    (Reader.nullable Reader.text) builtIn.token s.token
  folder : Chosen (stated? file "output" "graph_dir") Reader.text builtIn.graphFolder s.graphFolder

/-- The section of the backend is read field by field. -/
lemma apiSection_eq_ok {v : Value} {url : String} {timeout : Number} {token : Option String}
    (h : apiSection v = ok (url, timeout, token)) :
    ∃ es, v.entries? = some es ∧
      Chosen ((Reader.fieldsIn es).get? "base_url") urlReader builtIn.baseUrl url ∧
      Chosen ((Reader.fieldsIn es).get? "timeout_seconds") secondsReader builtIn.timeout timeout ∧
      Chosen ((Reader.fieldsIn es).get? "token") (Reader.nullable Reader.text) builtIn.token token := by
  obtain ⟨es, hes, hfields, -⟩ := Reader.strict_eq_ok h
  simp only [seq_eq_ok, map_eq_ok] at hfields
  obtain ⟨_, token', ⟨_, timeout', ⟨url', hurl, rfl⟩, htimeout, rfl⟩, htoken, heq⟩ := hfields
  obtain ⟨rfl, rfl, rfl⟩ : url' = url ∧ timeout' = timeout ∧ token' = token := by simpa using heq
  exact ⟨es, hes, optional_eq_ok_iff.mp hurl, optional_eq_ok_iff.mp htimeout,
    optional_eq_ok_iff.mp htoken⟩

/-- The other section has one field. -/
lemma outputSection_eq_ok {v : Value} {folder : String} (h : outputSection v = ok folder) :
    ∃ es, v.entries? = some es ∧
      Chosen ((Reader.fieldsIn es).get? "graph_dir") Reader.text builtIn.graphFolder folder ∧
      ∀ f ∈ Reader.fieldsIn es, f.1 = "graph_dir" := by
  obtain ⟨es, hes, hfield, hknown⟩ := Reader.strict_eq_ok h
  refine ⟨es, hes, optional_eq_ok_iff.mp hfield, fun f hf => ?_⟩
  obtain ⟨e, he, hname⟩ := List.mem_filterMap.mp hf
  obtain ⟨name, htext, rfl⟩ := Option.map_eq_some_iff.mp hname
  have hkey := hknown e he
  cases hvalue : e.1 with
  | text s =>
    rw [hvalue] at hkey htext
    obtain rfl := Option.some.inj htext
    by_contra hne
    simp [Reader.unknownKey?, hne] at hkey
  | _ =>
    rw [hvalue] at htext
    cases htext

/-- Settings are read section by section. -/
lemma read_eq_ok {s : Settings} (h : read (.object fs) = ok s) :
    Chosen (stated? fs "api" "base_url") urlReader builtIn.baseUrl s.baseUrl ∧
      Chosen (stated? fs "api" "timeout_seconds") secondsReader builtIn.timeout s.timeout ∧
      Chosen (stated? fs "api" "token") (Reader.nullable Reader.text) builtIn.token s.token ∧
      Chosen (stated? fs "output" "graph_dir") Reader.text builtIn.graphFolder s.graphFolder ∧
      ∀ es, part? fs "output" = some es → ∀ f ∈ es, f.1 = "graph_dir" := by
  obtain ⟨entries, hentries, hfields, -⟩ := Reader.strict_eq_ok h
  cases hentries
  rw [Reader.fieldsIn_object] at hfields
  simp only [seq_eq_ok, map_eq_ok] at hfields
  obtain ⟨_, folder, ⟨⟨url, timeout, token⟩, hapi, rfl⟩, houtput, rfl⟩ := hfields
  rw [optional_eq_ok_iff] at hapi houtput
  have hsection : ∀ {name : String} {v : Value} {es : List (Value × Value)},
      fs.get? name = some v → v.entries? = some es → part? fs name = some (Reader.fieldsIn es) := by
    intro name v es hv hes
    simp [part?, hv, hes]
  have hnone : ∀ {name : String}, fs.get? name = none → part? fs name = none := by
    intro name hname
    simp [part?, hname]
  have houtput' : Chosen (stated? fs "output" "graph_dir") Reader.text builtIn.graphFolder folder ∧
      ∀ es, part? fs "output" = some es → ∀ f ∈ es, f.1 = "graph_dir" := by
    cases hv : fs.get? "output" with
    | none =>
      rw [hv] at houtput
      rw [stated?, hnone hv]
      exact ⟨houtput, fun es hes => by cases hes⟩
    | some v =>
      rw [hv] at houtput
      obtain ⟨es, hes, hfolder, hnames⟩ := outputSection_eq_ok houtput
      rw [stated?, hsection hv hes]
      refine ⟨hfolder, fun es' hes' => ?_⟩
      cases hes'
      exact hnames
  -- Without the section nothing is stated of its fields, and what is built in counts.
  cases hv : fs.get? "api" with
  | none =>
    rw [hv] at hapi
    obtain ⟨rfl, rfl, rfl⟩ : url = builtIn.baseUrl ∧ timeout = builtIn.timeout ∧
      token = builtIn.token := by simpa [Chosen] using hapi
    simp only [stated?, hnone hv] at houtput' ⊢
    exact ⟨rfl, rfl, rfl, houtput'⟩
  | some v =>
    rw [hv] at hapi
    obtain ⟨es, hes, hurl, htimeout, htoken⟩ := apiSection_eq_ok hapi
    simp only [stated?, hsection hv hes] at houtput' ⊢
    exact ⟨hurl, htimeout, htoken, houtput'⟩

/-- The root comes of a text with a scheme, whether stated or built in. -/
lemma exists_stated_of_chosen {v : Option Value} {url : String}
    (h : Chosen v urlReader builtIn.baseUrl url) : ∃ s, HasScheme s ∧ url = withoutSlashes s := by
  cases v with
  | none =>
    have hscheme : HasScheme builtIn.baseUrl := by
      rw [HasScheme, String.startsWith_string_iff]
      exact .inl (by decide)
    exact ⟨builtIn.baseUrl, hscheme, h⟩
  | some v =>
    obtain ⟨s, -, hscheme, rfl⟩ := urlReader_eq_ok.mp h
    exact ⟨s, hscheme, rfl⟩

/-- A double is above zero whether that is an integer or a double. -/
lemma int_zero_lt (x : Double) : (Number.int 0).lt (.float x) = Double.zero.lt x := by
  have hrepresentable : Representable 0 := Double.representable_of_lt (by norm_num)
  have hzero : Double.zero = .finite false 0 hrepresentable := dif_pos hrepresentable
  have hrank : (Number.int 0).rank? = (Number.float Double.zero).rank? := by
    simp [hzero, Number.rank?, Double.signed]
  have hsame : (Number.int 0).lt (.float x) = (Number.float Double.zero).lt (.float x) := by
    rw [Bool.eq_iff_iff, Number.lt_iff, Number.lt_iff, hrank]
  rw [hsame, Bool.eq_iff_iff]
  simp only [Number.lt, Number.compare?, Double.lt]
  generalize Double.zero.place? = p
  generalize x.place? = q
  cases p <;> cases q <;> simp [compare_lt_iff_lt]

/-- The number of seconds is positive, whether stated or built in. -/
lemma positive_of_chosen {v : Option Value} {t : Number}
    (h : Chosen v secondsReader builtIn.timeout t) : (Number.int 0).lt t = true := by
  cases v with
  | none =>
    rw [show t = .int 10 from h]
    rfl
  | some v =>
    obtain ⟨x, hx, rfl⟩ := map_eq_ok.mp h
    obtain ⟨y, -, hy⟩ := andThen_eq_ok.mp hx
    split at hy
    next hpositive =>
      obtain rfl := ok_inj.mp hy
      exact (int_zero_lt y).trans hpositive
    next => exact absurd hy wrong_ne_ok

end Settings
end DetectionFlow
