import DetectionFlow.Proofs.SettingsTheorems

/-!
# Settings are loaded from files

Whatever the settings file holds and whatever the environment states, loading yields settings that follow
both (`Settings.Follows`), or a failure that is told as one of the settings, or one of a few that are not
(`Files.Unsettled`): a path that is too long to be looked for, a file without a value (`Files.Unread`), a
key that is no text, or a backend section that is no mapping while the environment overrides a field of it.
-/

namespace DetectionFlow

open Checked

namespace Files

variable {d : Disk} {home : Path} {env : Settings.Environment} {given : String} {e : Failure}

/-! ## The search -/

/-- The paths that settings are looked for at, in order. -/
def lookedFor (d : Disk) (home : Path) (given : String) : List Path :=
  if given.isEmpty then settingsPaths d home else [Path.ofString given]

lemma has_eq_error {p : Path} {x : DiskError} :
    d.has p = .error x ↔ d.placeOf p = .error .tooLong ∧ x = .tooLong := by
  unfold Disk.has
  cases d.placeOf p with
  | ok at_ => simp
  | error y => cases y <;> simp [eq_comm]

/-- What was looked for can be looked for. -/
lemma placeOf_ne_tooLong {p : Path} {found : Bool} (h : d.has p = .ok found) :
    d.placeOf p ≠ .error .tooLong := by
  intro hlong
  cases h.symm.trans (has_eq_error.mpr ⟨hlong, rfl⟩)

/-- The search ends at a path that is too long if nothing was found before. -/
lemma firstThere_eq_error {ps : List Path} :
    firstThere d ps = .error e ↔ e = .disk .tooLong ∧ ∃ before p after, ps = before ++ p :: after ∧
      (∀ q ∈ before, d.has q = .ok false) ∧ d.placeOf p = .error .tooLong := by
  induction ps with
  | nil => simp [firstThere]
  | cons p rest ih =>
    rw [firstThere, exists_first_cons]
    cases hp : d.has p with
    | error x =>
      obtain ⟨hplace, rfl⟩ := has_eq_error.mp hp
      show Except.error _ = Except.error e ↔ _
      simp [hplace, eq_comm]
    | ok found =>
      have hplace := placeOf_ne_tooLong hp
      cases found with
      | true =>
        show Except.ok _ = Except.error e ↔ _
        simp [hplace]
      | false =>
        show firstThere d rest = .error e ↔ _
        rw [ih]
        simp [hplace]

/-- The search fails with word of the settings, or at a path that is too long. -/
lemma settingsPath_escapes :
    (settingsPath d home given = .error e ∧ ¬ e.IsConfig) ↔ e = .disk .tooLong ∧
      ∃ before p after, lookedFor d home given = before ++ p :: after ∧
        (∀ q ∈ before, d.has q = .ok false) ∧ d.placeOf p = .error .tooLong := by
  unfold settingsPath lookedFor
  by_cases hgiven : given.isEmpty = true
  · rw [if_pos hgiven, if_pos hgiven, firstThere_eq_error, and_iff_left_of_imp]
    rintro ⟨rfl, -⟩
    exact Failure.not_isConfig_disk _
  · rw [if_neg hgiven, if_neg hgiven, exists_first_cons]
    dsimp only
    cases hp : d.has (Path.ofString given) with
    | error x =>
      obtain ⟨hplace, rfl⟩ := has_eq_error.mp hp
      show (Except.error _ = Except.error e ∧ _) ↔ _
      simp only [Except.error.injEq, hplace, true_or, and_true]
      constructor
      · exact fun h => h.1.symm
      · rintro rfl
        exact ⟨rfl, Failure.not_isConfig_disk _⟩
    | ok found =>
      have hplace := placeOf_ne_tooLong hp
      cases found with
      | true =>
        show (Except.ok _ = Except.error e ∧ _) ↔ _
        simp [hplace]
      | false =>
        show (Except.error (.config _) = Except.error e ∧ _) ↔ _
        refine iff_of_false ?_ (by simp [hplace])
        rintro ⟨h, hother⟩
        cases h
        exact hother (Failure.isConfig_config _)

/-! ## The settings of a file -/

variable {p : Option Path} {v : Value} {areOne : Bool} {s : Settings} {fs : Fields}

lemma fieldsOf_eq_ok : fieldsOf v = .ok fs ↔ v = .null ∧ fs = [] ∨ v = .object fs := by
  cases v <;> simp [fieldsOf, eq_comm]

lemma fieldsOf_escapes :
    (fieldsOf v = .error e ∧ ¬ e.IsConfig) ↔
      (∃ entries, v = .table entries) ∧ e = .fault .badFieldName := by
  have hconfig : ∀ c, Failure.config c = e → e.IsConfig := by
    rintro c rfl
    exact Failure.isConfig_config c
  cases v with
  | table entries =>
    simp only [fieldsOf, Except.error.injEq, Value.table.injEq, exists_eq', true_and]
    constructor
    · exact fun h => h.1.symm
    · rintro rfl
      exact ⟨rfl, Failure.not_isConfig_fault _⟩
  | null => simp [fieldsOf]
  | object fs => simp [fieldsOf]
  | _ =>
    simp only [fieldsOf, Except.error.injEq, reduceCtorEq, exists_false, false_and, iff_false,
      not_and, not_not]
    exact hconfig _

/-- Fields that cannot be overridden make no settings, and nothing else is told otherwise than as a fault
of the settings. -/
lemma settingsOf_escapes :
    (settingsOf env p areOne fs = .error e ∧ ¬ e.IsConfig) ↔ Settings.isOverridden env = true ∧
      ∃ v, fs.get? "api" = some v ∧ v.entries? = none ∧ e = .fault (.noReplacement v.typeName) := by
  unfold settingsOf
  cases h : Settings.override env fs with
  | error f =>
    obtain ⟨henv, v, hv, hnone, rfl⟩ := Settings.override_eq_error.mp h
    simp only [Except.error.injEq, henv, true_and]
    constructor
    · rintro ⟨rfl, -⟩
      exact ⟨v, hv, hnone, rfl⟩
    · rintro ⟨w, hw, -, rfl⟩
      obtain rfl := Option.some.inj (hv.symm.trans hw)
      exact ⟨rfl, Failure.not_isConfig_fault _⟩
  | ok fs' =>
    dsimp only
    refine iff_of_false ?_ ?_
    · rintro ⟨hread, hother⟩
      split at hread <;> cases hread
      exact hother (Failure.isConfig_config _)
    · rintro ⟨henv, v, hv, hnone, -⟩
      cases h.symm.trans (Settings.override_eq_error.mpr ⟨henv, v, hv, hnone, rfl⟩)

/-- Sections that are one mapping are refused once the environment has set a field of it. -/
lemma not_read_of_overridden {fs' : Fields} (henv : Settings.isOverridden env = true)
    (h : Settings.override env fs = .ok fs') :
    Settings.read (.object (fs'.put "output" ((fs'.get? "api").getD .null))) ≠ ok s := by
  intro hread
  obtain ⟨hurl, htoken, -, -⟩ := Settings.override_eq_ok h
  obtain ⟨-, -, -, -, hnames⟩ := Settings.read_eq_ok hread
  -- A field of the backend stands in the other section too, which does not know it.
  have hstated : ∀ {name : String}, name ≠ "graph_dir" → ∀ {v : Value},
      Settings.stated? fs' "api" name ≠ some v := by
    intro name hname v hv
    obtain ⟨es, hes, hget⟩ := Option.bind_eq_some_iff.mp hv
    obtain ⟨w, hw, hentries⟩ := Option.bind_eq_some_iff.mp hes
    have hpart : Settings.part? (fs'.put "output" ((fs'.get? "api").getD .null)) "output" =
        some es := by
      rw [Settings.part?, Fields.get?_put, if_pos rfl, hw]
      exact hentries
    exact hname (hnames es hpart _ (Fields.get?_eq_some hget))
  rcases Settings.isOverridden_iff.mp henv with hset | hset
  · obtain ⟨value, hvalue⟩ := Option.isSome_iff_exists.mp hset
    rw [hvalue] at hurl
    exact hstated (by decide) hurl
  · obtain ⟨value, hvalue⟩ := Option.isSome_iff_exists.mp hset
    rw [hvalue] at htoken
    exact hstated (by decide) htoken

/-- Settings follow the environment and the file. -/
lemma follows_of_settingsOf (h : settingsOf env p areOne fs = .ok s) : s.Follows env fs := by
  unfold settingsOf at h
  cases hoverride : Settings.override env fs with
  | error f =>
    rw [hoverride] at h
    cases h
  | ok fs' =>
    rw [hoverride] at h
    dsimp only at h
    split at h
    next s' hread =>
      cases h
      by_cases hboth : (areOne && Settings.isOverridden env) = true
      · rw [if_pos hboth] at hread
        rw [Bool.and_eq_true] at hboth
        exact absurd hread (not_read_of_overridden hboth.2 hoverride)
      · rw [if_neg hboth] at hread
        obtain ⟨hurl, htoken, htimeout, houtput⟩ := Settings.override_eq_ok hoverride
        obtain ⟨hreadUrl, hreadTimeout, hreadToken, hreadFolder, -⟩ := Settings.read_eq_ok hread
        rw [hurl] at hreadUrl
        rw [htoken] at hreadToken
        rw [htimeout] at hreadTimeout
        rw [Settings.stated?, Settings.part?, houtput] at hreadFolder
        exact ⟨hreadUrl, hreadTimeout, hreadToken, hreadFolder⟩
    next => cases h

/-! ## Loading -/

/-- The fields that the settings file states, if there is one. -/
inductive FileStates (d : Disk) (home : Path) (given : String) : Fields → Prop
  /-- Without a file none are stated. -/
  | absent (h : settingsPath d home given = .ok none) : FileStates d home given []
  /-- An empty file states none either. -/
  | empty {p : Path} (hpath : settingsPath d home given = .ok (some p))
      (hread : readDocument d p = .ok .null) : FileStates d home given []
  | fields {p : Path} {fs : Fields} (hpath : settingsPath d home given = .ok (some p))
      (hread : readDocument d p = .ok (.object fs)) : FileStates d home given fs

/-- The failures of loading settings that are not told as those of settings. -/
inductive Unsettled (d : Disk) (home : Path) (env : Settings.Environment) (given : String) :
    Failure → Prop
  /-- Nothing was found before a path that is too long to be looked for. -/
  | search {before after : List Path} {p : Path} (hsplit : lookedFor d home given = before ++ p :: after)
      (hbefore : ∀ q ∈ before, d.has q = .ok false) (h : d.placeOf p = .error .tooLong) :
      Unsettled d home env given (.disk .tooLong)
  /-- The file has no value. -/
  | unread {p : Path} {e : Failure} (hpath : settingsPath d home given = .ok (some p))
      (h : Unread d p e) : Unsettled d home env given e
  /-- Some key of the outermost mapping is no text. -/
  | keys {p : Path} {entries : List (Value × Value)} (hpath : settingsPath d home given = .ok (some p))
      (hread : readDocument d p = .ok (.table entries)) :
      Unsettled d home env given (.fault .badFieldName)
  /-- The environment overrides a field of a section that is no mapping. -/
  | backend {p : Path} {fs : Fields} {v : Value} (hpath : settingsPath d home given = .ok (some p))
      (hread : readDocument d p = .ok (.object fs)) (henv : Settings.isOverridden env = true)
      (hv : fs.get? "api" = some v) (h : v.entries? = none) :
      Unsettled d home env given (.fault (.noReplacement v.typeName))

lemma loadSettings_of_absent (hpath : settingsPath d home given = .ok none) :
    loadSettings d home env given = settingsOf env none false [] := by
  rw [loadSettings, hpath]
  rfl

lemma loadSettings_of_present {p : Path} (hpath : settingsPath d home given = .ok (some p)) :
    loadSettings d home env given =
      readDocument d p >>= fun v => fieldsOf v >>= settingsOf env (some p) (sectionsAreOne d p) := by
  rw [loadSettings, hpath]
  rfl

/-- Settings that were loaded follow the environment and what the file states. -/
lemma follows_of_loadSettings (h : loadSettings d home env given = .ok s) :
    ∃ file, FileStates d home given file ∧ s.Follows env file := by
  cases hpath : settingsPath d home given with
  | error e =>
    rw [loadSettings, hpath] at h
    cases h
  | ok found =>
    cases found with
    | none =>
      rw [loadSettings_of_absent hpath] at h
      exact ⟨[], .absent hpath, follows_of_settingsOf h⟩
    | some p =>
      rw [loadSettings_of_present hpath] at h
      obtain ⟨v, hread, h⟩ := Except.bind_eq_ok.mp h
      obtain ⟨fs, hfields, h⟩ := Except.bind_eq_ok.mp h
      refine ⟨fs, ?_, follows_of_settingsOf h⟩
      rcases fieldsOf_eq_ok.mp hfields with ⟨rfl, rfl⟩ | rfl
      · exact .empty hpath hread
      · exact .fields hpath hread

lemma Unsettled.not_isConfig (h : Unsettled d home env given e) : ¬ e.IsConfig := by
  cases h with
  | search => exact Failure.not_isConfig_disk _
  | unread hpath h => exact h.not_isConfig
  | keys => exact Failure.not_isConfig_fault _
  | backend => exact Failure.not_isConfig_fault _

/-- What is not settled by the file or the environment is a failure of loading. -/
lemma loadSettings_of_unsettled (h : Unsettled d home env given e) :
    loadSettings d home env given = .error e := by
  cases h with
  | search hsplit hbefore h =>
    have hpath := (settingsPath_escapes.mpr ⟨rfl, _, _, _, hsplit, hbefore, h⟩).1
    rw [loadSettings, hpath]
    rfl
  | unread hpath h =>
    rw [loadSettings_of_present hpath, readDocument_of_unread h]
    rfl
  | keys hpath hread =>
    rw [loadSettings_of_present hpath, hread]
    rfl
  | backend hpath hread henv hv h =>
    rw [loadSettings_of_present hpath, hread]
    exact (settingsOf_escapes.mpr ⟨henv, _, hv, h, rfl⟩).1

/-- The failures of loading are those of the search, of the file, of its value and of its fields. -/
lemma loadSettings_escapes :
    (loadSettings d home env given = .error e ∧ ¬ e.IsConfig) ↔ Unsettled d home env given e := by
  constructor
  · rintro ⟨h, hother⟩
    -- Loading stops at the first stage that fails: the search, the file, its fields, the settings.
    cases hpath : settingsPath d home given with
    | error e' =>
      rw [loadSettings, hpath] at h
      cases h
      obtain ⟨rfl, before, p, after, hsplit, hbefore, hlong⟩ := settingsPath_escapes.mp ⟨hpath, hother⟩
      exact .search hsplit hbefore hlong
    | ok found =>
      cases found with
      | none =>
        rw [loadSettings_of_absent hpath] at h
        obtain ⟨-, v, hv, -⟩ := settingsOf_escapes.mp ⟨h, hother⟩
        cases hv
      | some p =>
        rw [loadSettings_of_present hpath, Except.bind_eq_error] at h
        rcases h with hread | ⟨v, hread, h⟩
        · exact .unread hpath (readDocument_escapes.mp ⟨hread, hother⟩)
        rcases Except.bind_eq_error.mp h with hfields | ⟨fs, hfields, hmade⟩
        · obtain ⟨⟨entries, rfl⟩, rfl⟩ := fieldsOf_escapes.mp ⟨hfields, hother⟩
          exact .keys hpath hread
        · obtain ⟨henv, w, hw, hnone, rfl⟩ := settingsOf_escapes.mp ⟨hmade, hother⟩
          rcases fieldsOf_eq_ok.mp hfields with ⟨rfl, rfl⟩ | rfl
          · cases hw
          · exact .backend hpath hread henv hw hnone
  · exact fun h => ⟨loadSettings_of_unsettled h, h.not_isConfig⟩

/-- Loading settings, whatever the file and the environment state. Settings follow the environment, then
the file, then what is built in. The root of the backend ends with no slash and the number of seconds is
positive; the root has a scheme, and is read again as it is, unless a scheme with nothing but slashes
behind it was stated. A failure is told as one of the settings, unless it is one of `Unsettled`; and each
of these is met. -/
theorem loadSettings_answers (d : Disk) (home : Path) (env : Settings.Environment) (given : String) :
    (∀ s, loadSettings d home env given = .ok s →
      (∃ file, FileStates d home given file ∧ s.Follows env file) ∧
        s.baseUrl.toList.getLast? ≠ some '/' ∧ (Number.int 0).lt s.timeout = true ∧
        (Settings.HasScheme s.baseUrl ↔ s.baseUrl ∉ Settings.bareSchemes) ∧
        (Settings.urlReader (.text s.baseUrl) = ok s.baseUrl ↔ s.baseUrl ∉ Settings.bareSchemes)) ∧
      ∀ e, (loadSettings d home env given = .error e ∧ ¬ e.IsConfig) ↔ Unsettled d home env given e := by
  refine ⟨?_, fun e => loadSettings_escapes⟩
  intro s h
  obtain ⟨file, hfile, hfollows⟩ := follows_of_loadSettings h
  obtain ⟨t, hscheme, hurl⟩ := Settings.exists_stated_of_chosen hfollows.url
  have hbare : Settings.HasScheme s.baseUrl ↔ s.baseUrl ∉ Settings.bareSchemes := by
    rw [hurl]
    exact Settings.hasScheme_iff hscheme
  refine ⟨⟨file, hfile, hfollows⟩, ?_, Settings.positive_of_chosen hfollows.timeout, hbare, ?_⟩
  · rw [hurl]
    exact Settings.getLast?_withoutSlashes t
  · rw [← hbare, hurl]
    exact Settings.reread_iff

/-- A disk without files. -/
def bareDisk : Disk := ⟨⟨"/", ["w"]⟩, [], []⟩

/-- A scheme that is all of the root is stated, and what is left of it is no root. -/
theorem loadSettings_answers_bareScheme :
    loadSettings bareDisk ⟨"/", ["w", "home"]⟩ [("PIPELINE_API_URL", "http://")] "" =
        .ok { Settings.builtIn with baseUrl := "http:" } ∧
      ¬ Settings.HasScheme "http:" ∧ Settings.urlReader (.text "http:") ≠ ok "http:" := by
  have hpath : settingsPath bareDisk ⟨"/", ["w", "home"]⟩ "" = .ok none := by cbv
  have hmade : settingsOf [("PIPELINE_API_URL", "http://")] none false [] =
      .ok { Settings.builtIn with baseUrl := "http:" } := Except.eq_ok_of_toOption (by decide +kernel)
  have hloaded := (loadSettings_of_absent hpath).trans hmade
  obtain ⟨-, -, -, hscheme, hreread⟩ := (loadSettings_answers _ _ _ _).1 _ hloaded
  have hbare : "http:" ∈ Settings.bareSchemes := by decide
  exact ⟨hloaded, fun h => hscheme.mp h hbare, fun h => hreread.mp h hbare⟩

end Files
end DetectionFlow
