import DetectionFlow.Proofs.ReselectedObjects
import DetectionFlow.Session

/-!
# Classifiers of a label

A session offers the classifiers of each label of its app, and an app can be asked for the classifiers of a
label itself. Among several outputs with the same label the session takes the last and the app the first. So
the two agree on a label exactly if its first and its last output have the same classifiers
(`Session.lookups_agree_iff`), and on all labels if no label is repeated.
-/

namespace DetectionFlow

/-! ## What is on offer -/

/-- The classifiers that are on offer for a label, if the label is. -/
def AskFields.offered? (options : AskFields.Options) (label : String) : Option (List String) :=
  (options.find? (·.1 = label)).map (·.2)

/-- The outputs of an app that have a label. -/
def VisionApp.outputsOf (app : VisionApp) (label : String) : List AppOutput :=
  app.outputs.filter (·.label = label)

lemma VisionApp.classifiersFor_eq (app : VisionApp) (label : String) :
    app.classifiersFor label = ((app.outputsOf label).head?.map (·.classifiers)).getD [] := by
  rw [outputsOf, List.head?_filter, classifiersFor]

namespace Session

open AskFields

/-- The options after one more output. -/
def withOutput (options : Options) (o : AppOutput) : Options :=
  if options.any (·.1 = o.label) then
    options.map fun e => if e.1 = o.label then (e.1, o.classifiers) else e
  else options ++ [(o.label, o.classifiers)]

variable {options : Options} {o : AppOutput} {label : String}

/-- A new label comes last, and a known one keeps its place. -/
lemma keys_withOutput (options : Options) (o : AppOutput) :
    (withOutput options o).map (·.1) = if o.label ∈ options.map (·.1) then options.map (·.1)
      else options.map (·.1) ++ [o.label] := by
  have hknown : options.any (·.1 = o.label) = true ↔ o.label ∈ options.map (·.1) := by
    simp only [List.any_eq_true, decide_eq_true_eq, List.mem_map]
  unfold withOutput
  by_cases hlabel : o.label ∈ options.map (·.1)
  · rw [if_pos (hknown.mpr hlabel), if_pos hlabel, List.map_map]
    refine List.map_congr_left fun e _ => ?_
    by_cases he : e.1 = o.label <;> simp [he]
  · rw [if_neg (mt hknown.mp hlabel), if_neg hlabel, List.map_append, List.map_singleton]

/-- What is on offer for the label of the new output is what the output has. -/
lemma offered?_withOutput (options : Options) (o : AppOutput) (label : String) :
    offered? (withOutput options o) label =
      if o.label = label then some o.classifiers else offered? options label := by
  unfold withOutput offered?
  split
  next hknown =>
    have hkey : ((fun e => decide (e.1 = label)) ∘ fun e : String × List String =>
        if e.1 = o.label then (e.1, o.classifiers) else e) = fun e => decide (e.1 = label) := by
      funext e
      by_cases he : e.1 = o.label <;> simp [he]
    rw [List.find?_map, hkey]
    cases hfind : options.find? (·.1 = label) with
    | none =>
      -- The label of the output is among the others.
      have hother : o.label ≠ label := by
        rintro rfl
        obtain ⟨e, he, hlabel⟩ := List.any_eq_true.mp hknown
        exact List.find?_eq_none.mp hfind e he hlabel
      simp [hother]
    | some e =>
      have he : e.1 = label := by simpa using List.find?_some hfind
      by_cases hlabel : o.label = label
      · simp [hlabel, he]
      · simp [hlabel, Ne.symm hlabel, he]
  next hnew =>
    rw [List.find?_append]
    by_cases hlabel : o.label = label
    · subst hlabel
      have hnone : options.find? (·.1 = o.label) = none :=
        List.find?_eq_none.mpr fun e he hkey => hnew (List.any_eq_true.mpr ⟨e, he, hkey⟩)
      simp [hnone]
    · simp [hlabel]

/-! ## Loaded apps -/

/-- The options of a session are those of the outputs of its app, taken one after the other. -/
lemma options_eq (s : Session) :
    s.options = ((s.app.map (·.outputs)).getD []).foldl withOutput [] := rfl

lemma keys_outputs (outputs : List AppOutput) :
    (outputs.foldl withOutput []).map (·.1) = (outputs.map (·.label)).eraseDups := by
  induction outputs using List.reverseRecOn with
  | nil => rfl
  | append_singleton outputs o ih =>
    rw [List.foldl_append, List.foldl_cons, List.foldl_nil, keys_withOutput, ih, List.map_append,
      List.eraseDups_append]
    simp only [List.mem_eraseDups]
    generalize outputs.map (·.label) = labels
    by_cases hlabel : o.label ∈ labels <;> simp [List.removeAll, hlabel, List.eraseDups_cons]

lemma offered?_outputs (outputs : List AppOutput) (label : String) :
    offered? (outputs.foldl withOutput []) label =
      (outputs.filter (·.label = label)).getLast?.map (·.classifiers) := by
  induction outputs using List.reverseRecOn with
  | nil => rfl
  | append_singleton outputs o ih =>
    rw [List.foldl_append, List.foldl_cons, List.foldl_nil, offered?_withOutput, ih, List.filter_append]
    by_cases hlabel : o.label = label
    · simp [hlabel]
    · simp [hlabel]

variable {s : Session} {answer : Noted VisionApp} {app : VisionApp}

lemma options_loadApp (h : answer.result = .ok app) :
    (s.loadApp answer).1.options = app.outputs.foldl withOutput [] := by
  rw [loadApp, h, options_eq]
  rfl

/-- After an app was loaded its labels are on offer, each once and in their order. On offer are the
classifiers of the last output with a label, and those of the label itself are the classifiers of the
first. So the two agree on a label of the app exactly if these have the same classifiers, and on every label
if no label is repeated. -/
theorem lookups_agree_iff (h : answer.result = .ok app) (label : String) :
    ((s.loadApp answer).1.options.map (·.1) = (app.outputs.map (·.label)).eraseDups ∧
      (label ∈ (s.loadApp answer).1.options.map (·.1) ↔ ∃ o ∈ app.outputs, o.label = label)) ∧
    offered? (s.loadApp answer).1.options label = (app.outputsOf label).getLast?.map (·.classifiers) ∧
    app.classifiersFor label = ((app.outputsOf label).head?.map (·.classifiers)).getD [] ∧
    (offered? (s.loadApp answer).1.options label = some (app.classifiersFor label) ↔
      ∃ first last, (app.outputsOf label).head? = some first ∧ (app.outputsOf label).getLast? = some last ∧
        first.classifiers = last.classifiers) ∧
    ((app.outputs.map (·.label)).Nodup →
      (offered? (s.loadApp answer).1.options label).getD [] = app.classifiersFor label) := by
  rw [options_loadApp h, keys_outputs, offered?_outputs, app.classifiersFor_eq, ← VisionApp.outputsOf]
  refine ⟨⟨rfl, ?_⟩, rfl, rfl, ?_, fun hlabels => ?_⟩
  · rw [List.mem_eraseDups, List.mem_map]
  · cases hhead : (app.outputsOf label).head? with
    | none =>
      rw [List.head?_eq_none_iff] at hhead
      simp [hhead]
    | some first =>
      obtain ⟨last, hlast⟩ := Option.ne_none_iff_exists'.mp
        (mt List.getLast?_eq_none_iff.mp (List.ne_nil_of_mem (List.mem_of_head? hhead)))
      simp [hlast, eq_comm]
  · -- There is at most one output with the label.
    have hone : (app.outputsOf label).length ≤ 1 := length_filter_of_nodup hlabels label
    rcases Nat.le_one_iff_eq_zero_or_eq_one.mp hone with hnone | hsingle
    · rw [List.length_eq_zero_iff.mp hnone]
      rfl
    · obtain ⟨o, ho⟩ := List.length_eq_one_iff.mp hsingle
      rw [ho]
      rfl

/-- An app with two outputs for persons. -/
def twicePersons : VisionApp :=
  ⟨"app", "", "", [⟨"person", ["helmet"]⟩, ⟨"car", ["red"]⟩, ⟨"person", ["vest"]⟩]⟩

/-- The session offers vests for persons, and the app has helmets for them. They agree on cars. -/
theorem twicePersons_lookups :
    (Noted.done twicePersons).result = .ok twicePersons ∧
      (let options := ((blank ⟨Nat.repr, 0⟩).loadApp (.done twicePersons)).1.options
      options.map (·.1) = ["person", "car"] ∧
      offered? options "person" = some ["vest"] ∧ twicePersons.classifiersFor "person" = ["helmet"] ∧
      offered? options "car" = some (twicePersons.classifiersFor "car")) := by
  have hanswer : (Noted.done twicePersons).result = .ok twicePersons := rfl
  obtain ⟨⟨hkeys, -⟩, hoffered, hfirst, -⟩ :=
    lookups_agree_iff (s := blank ⟨Nat.repr, 0⟩) hanswer "person"
  obtain ⟨-, -, -, hagree, -⟩ := lookups_agree_iff (s := blank ⟨Nat.repr, 0⟩) hanswer "car"
  refine ⟨hanswer, hkeys.trans (by decide), hoffered.trans rfl, hfirst.trans rfl, ?_⟩
  exact hagree.mpr ⟨_, _, rfl, rfl, rfl⟩

end Session
end DetectionFlow
