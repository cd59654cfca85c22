import DetectionFlow.Dialog.Fields
import DetectionFlow.Proofs.DialogTheorems
import DetectionFlow.Proofs.FormedPayloads
import DetectionFlow.Proofs.ReplacedNodes
import DetectionFlow.Proofs.ResolvedTargets

/-!
# Classes that are chosen again

The dialog about an Object ticks the classes and the classifiers that the Object has. Whoever leaves the ticks
as they are chooses the same classes and classifiers, but in the order in which they are on offer: classes in
the order of the app, and classifiers by code points (`AskFields.reselected`). The first class of an Object is
what the areas below it detect, so they keep their target exactly if the first class of the Object is the
first one on offer too, and its classifiers are in order (`AskFields.reselects`).
-/

namespace DetectionFlow

/-- What is left of a list without its repetitions has none. -/
lemma List.nodup_eraseDups {α : Type} [DecidableEq α] (as : List α) : as.eraseDups.Nodup := by
  induction h : as.length using Nat.strongRecOn generalizing as with
  | ind n ih =>
    cases as with
    | nil => simp
    | cons a as =>
      have hshorter := List.length_filter_le (fun b => !b == a) as
      rw [List.eraseDups_cons, List.nodup_cons]
      exact ⟨by simp, ih _ (by rw [← h, List.length_cons]; omega) _ rfl⟩

namespace AskFields

open Dialog

/-! ## What is on offer -/

/-- The classes on offer. -/
def labels (options : Options) : List String :=
  if options.isEmpty then commonClasses else options.map (·.1)

/-- Classes and classifiers are on offer in the dialog about an Object, and each is there once. -/
structure Selected (options : Options) (cs ks : List String) : Prop where
  keys : (options.map (·.1)).Nodup
  classes : cs.Nodup
  classifiers : ks.Nodup
  offered : ∀ c ∈ cs, c ∈ labels options
  available : ∀ k ∈ ks, k ∈ classifiersOf options (cs.map .text)

/-- The classes in the order in which they are on offer. -/
def chosen (options : Options) (cs : List String) : List String :=
  (labels options).filter (· ∈ cs)

/-- The classifiers in the order in which they are on offer. -/
def picked (options : Options) (cs ks : List String) : List String :=
  (classifiersOf options ((chosen options cs).map .text)).filter (· ∈ ks)

/-- The payload with classes and classifiers in these orders. -/
def reselected (options : Options) (cs ks : List String) : Payload :=
  .object ((chosen options cs).map .text) ((picked options cs ks).map .text)

variable {options : Options} {cs ks : List String}

lemma nodup_classifiersOf (options : Options) (vs : List Value) : (classifiersOf options vs).Nodup :=
  (List.mergeSort_perm _ _).nodup_iff.mpr (List.nodup_eraseDups _)

lemma mem_classifiersOf {k : String} : k ∈ classifiersOf options (cs.map .text) ↔
    ∃ c ∈ cs, ∃ o, options.find? (·.1 = c) = some o ∧ k ∈ o.2 := by
  have hnamed : (cs.map Value.text).filterMap (fun v => v.text?.bind fun s => options.find? (·.1 = s)) =
      cs.filterMap fun s => options.find? (·.1 = s) := List.filterMap_map
  simp only [classifiersOf, hnamed, List.mem_mergeSort, List.mem_eraseDups, List.mem_flatMap,
    List.mem_filterMap]
  constructor
  · rintro ⟨o, ⟨c, hc, ho⟩, hk⟩
    exact ⟨c, hc, o, ho, hk⟩
  · rintro ⟨c, hc, o, ho, hk⟩
    exact ⟨o, ⟨c, hc, ho⟩, hk⟩

/-- Classifiers are on offer by code points. -/
lemma sorted_classifiersOf (options : Options) (vs : List Value) :
    (classifiersOf options vs).Pairwise (· < ·) := by
  have hsorted : (classifiersOf options vs).Pairwise fun a b => (!decide (b < a)) = true := by
    apply List.pairwise_mergeSort
    · intro a b c hab hbc
      simp only [Bool.not_eq_true', decide_eq_false_iff_not, not_lt] at hab hbc ⊢
      exact hab.trans hbc
    · intro a b
      simp only [Bool.or_eq_true, Bool.not_eq_true', decide_eq_false_iff_not, not_lt]
      exact le_total a b
  refine (hsorted.and (nodup_classifiersOf options vs)).imp fun ⟨hle, hne⟩ => lt_of_le_of_ne ?_ hne
  simpa only [Bool.not_eq_true', decide_eq_false_iff_not, not_lt] using hle

namespace Selected

variable (h : Selected options cs ks)

include h

lemma nodup_labels : (labels options).Nodup := by
  unfold labels
  split
  · decide
  · exact h.keys

lemma chosen_perm : (chosen options cs).Perm cs := by
  refine (List.perm_ext_iff_of_nodup (h.nodup_labels.filter _) h.classes).mpr fun c => ?_
  simp only [List.mem_filter, decide_eq_true_eq]
  exact and_iff_right_of_imp (h.offered c)

/-- The classes stay exactly if they are in the order in which they are on offer. -/
lemma chosen_eq_iff : chosen options cs = cs ↔ cs.Sublist (labels options) := by
  constructor
  · intro heq
    rw [← heq]
    exact List.filter_sublist
  · intro hsub
    -- The classes are left of themselves, so they are a sublist of what is left of the offer.
    have hall : cs.filter (· ∈ cs) = cs := List.filter_eq_self.mpr fun c hc => decide_eq_true hc
    have hfilter := hsub.filter (· ∈ cs)
    rw [hall] at hfilter
    exact (hfilter.eq_of_length h.chosen_perm.length_eq.symm).symm

lemma picked_perm : (picked options cs ks).Perm ks := by
  refine (List.perm_ext_iff_of_nodup ((nodup_classifiersOf _ _).filter _) h.classifiers).mpr fun k => ?_
  simp only [List.mem_filter, decide_eq_true_eq]
  refine and_iff_right_of_imp fun hk => ?_
  -- What is available depends on which classes are chosen, but not on their order.
  obtain ⟨c, hc, hfound⟩ := mem_classifiersOf.mp (h.available k hk)
  exact mem_classifiersOf.mpr ⟨c, h.chosen_perm.mem_iff.mpr hc, hfound⟩

lemma eq_nil_of_nil (hnone : cs = []) : ks = [] := by
  refine List.eq_nil_iff_forall_not_mem.mpr fun k hk => ?_
  obtain ⟨c, hc, -⟩ := mem_classifiersOf.mp (h.available k hk)
  rw [hnone] at hc
  exact List.not_mem_nil hc

/-- The classifiers stay exactly if they are in order. -/
lemma picked_eq_iff : picked options cs ks = ks ↔ ks.Pairwise (· < ·) := by
  have hsorted : (picked options cs ks).Pairwise (· < ·) :=
    (sorted_classifiersOf _ _).sublist List.filter_sublist
  constructor
  · intro heq
    exact heq ▸ hsorted
  · intro hks
    exact h.picked_perm.eq_of_pairwise (fun a b _ _ hab hba => absurd hba (String.lt_asymm hab)) hsorted hks

end Selected

/-! ## Taking what is ticked -/

/-- The texts that are ticked. -/
lemma ticked_texts (on texts : List String) :
    ticked (on.map .text) texts = texts.map fun s => .titled s (.text s) none (decide (s ∈ on)) := by
  refine List.map_congr_left fun s _ => congrArg _ ?_
  rw [Bool.eq_iff_iff, List.any_eq_true]
  simp [Value.text?]

lemma offer_ticked (message : String) (on texts : List String) :
    (Question.checkbox message (ticked (on.map .text) texts)).offer =
      .list ((texts.filter (· ∈ on)).map .text) := by
  rw [Question.offer, ticked_texts]
  congr 1
  induction texts with
  | nil => rfl
  | cons s rest ih =>
    by_cases hs : s ∈ on
    · simp [hs, ih]
    · simp [hs, ih]

lemma takes_askAny {message : String} {on texts : List String} :
    Takes (askAny message (ticked (on.map .text) texts)) (some ((texts.filter (· ∈ on)).map .text)) := by
  have hoffer := offer_ticked message on texts
  have hrefusal : (Question.checkbox message (ticked (on.map .text) texts)).refusal?
      (.list ((texts.filter (· ∈ on)).map .text)) = none := by
    refine if_pos (List.all_eq_true.mpr (List.forall_mem_map.mpr fun s hs => ?_))
    exact List.any_eq_true.mpr ⟨_, List.mem_map_of_mem (List.mem_of_mem_filter hs), decide_eq_true rfl⟩
  have h := (takes_ask (hoffer ▸ hrefusal)).map fun v => v.map fun v => v.items?.getD []
  rw [hoffer] at h
  exact h
/-- Whoever leaves the ticks as they are chooses the same in the order on offer. -/
lemma takes_object (options : Options) (cs ks : List String) :
    Takes (object (cs.map .text) (ks.map .text) options) (some (reselected options cs ks).fields) := by
  refine takes_askAny.bind ?_
  show Takes (if (classifiersOf options ((chosen options cs).map .text)).isEmpty then _ else _) _
  -- Without classifiers on offer there is no second question, and none are picked.
  by_cases hempty : (classifiersOf options ((chosen options cs).map .text)).isEmpty = true
  · have hpicked : picked options cs ks = [] := by
      rw [picked, List.isEmpty_iff.mp hempty, List.filter_nil]
    rw [if_pos hempty, reselected, hpicked]
    exact takes_pure _
  · rw [if_neg hempty]
    exact takes_askAny.map fun answer => answer.map fun p =>
      [("classes", Value.list ((chosen options cs).map .text)), ("classifiers", .list p)]

lemma Selected.update_eq (h : Selected options cs ks) (classes classifiers : List Value) :
    (Payload.object classes classifiers).update (reselected options cs ks).fields =
      .ok (reselected options cs ks) := by
  have hdistinct : ∀ {ss : List String}, ss.Nodup →
      (Value.list (ss.map .text)).toDistinct = .ok (ss.map .text) := fun hss =>
    Value.toDistinct_of_texts (List.forall_mem_map.mpr fun s _ => ⟨s, rfl⟩) (Value.distinct_texts hss)
  show (do
    return Payload.object (← (Value.list ((chosen options cs).map .text)).toDistinct)
      (← (Value.list ((picked options cs ks).map .text)).toDistinct)) = Except.ok _
  rw [hdistinct (h.chosen_perm.nodup_iff.mpr h.classes), hdistinct (h.picked_perm.nodup_iff.mpr h.classifiers)]
  rfl

end AskFields

/-! ## Targets -/

namespace Graph

open Checked AskFields

/-- What an Object with these classes and classifiers gives to the areas below it. -/
def given (cs ks : List String) : Checked (Option Target) :=
  match cs with
  | [] => ok none
  | c :: _ => (((Reader.name (.text c)).under (.field "label")).map
      (Target.mk · (if ks.isEmpty then none else some ks))).map some

variable {g : Graph} {n new o : Node} {id : String} {cs ks cs' ks' : List String}

lemma resolveTarget_eq_given (hancestry : g.ancestry id = .object o)
    (hpayload : o.payload = .object (cs.map .text) (ks.map .text)) : g.resolveTarget id = given cs ks := by
  cases cs with
  | nil => exact resolveTarget_of_nil hancestry hpayload
  | cons c rest =>
    exact resolveTarget_of_gives (t := ⟨c, _⟩) hancestry ⟨rest.map .text, ks, hpayload, rfl⟩

lemma given_cons {c : String} {rest : List String} (hne : c ≠ "") (hwhole : Text.Half.isIn c = false) :
    given (c :: rest) ks = ok (some ⟨c, if ks.isEmpty then none else some ks⟩) := by
  have hlabel := Reader.name_text.mpr ⟨rfl, by simpa using hne, hwhole⟩
  rw [given, hlabel]
  rfl

lemma required_eq_iff : (if ks'.isEmpty then none else some ks') = (if ks.isEmpty then none else some ks) ↔
    ks' = ks := by
  cases ks <;> cases ks' <;> simp

/-- The first class and all classifiers decide. -/
lemma given_eq_iff (hclasses : cs'.Perm cs) (hclassifiers : ks'.Perm ks) (hnone : cs = [] → ks = [])
    (hread : ∀ c ∈ cs, c ≠ "" ∧ Text.Half.isIn c = false) :
    given cs' ks' = given cs ks ↔ cs'.head? = cs.head? ∧ ks' = ks := by
  cases cs with
  | nil =>
    obtain rfl := hclasses.eq_nil
    obtain rfl := hnone rfl
    obtain rfl := hclassifiers.eq_nil
    simp
  | cons c rest =>
    cases cs' with
    | nil => cases hclasses.nil_eq
    | cons c' rest' =>
      obtain ⟨hne, hwhole⟩ := hread c List.mem_cons_self
      obtain ⟨hne', hwhole'⟩ := hread c' (hclasses.subset List.mem_cons_self)
      rw [given_cons hne hwhole, given_cons hne' hwhole', ok_inj, Option.some.injEq,
        Target.mk.injEq, required_eq_iff, List.head?_cons, List.head?_cons, Option.some.injEq]

/-- An update of a node with some fields makes the new node. The targets below the node were one, and are
the other then. All other targets stay. -/
structure Retargets (d : Draft) (n new : Node) (fields : Fields) (before after : Checked (Option Target)) :
    Prop where
  makes : (updateNode n.id (some new.label) fields d).Makes (d.graph.replaceNode new)
    ⟨.updateNode, n.id⟩ new
  below : ∀ id, d.graph.ancestry id = .object n → d.graph.resolveTarget id = before ∧
    (d.graph.replaceNode new).resolveTarget id = after
  elsewhere : ∀ id, d.graph.ancestry id ≠ .object n →
    (d.graph.replaceNode new).resolveTarget id = d.graph.resolveTarget id

lemma retargets_object {d : Draft} {fields : Fields} (hd : d.graph.Valid) (hn : n ∈ d.graph.nodes)
    (hpayload : n.payload = .object (cs.map .text) (ks.map .text)) (hfields : fields.isEmpty = false)
    (hupdate : n.payload.update fields = .ok (.object (cs'.map .text) (ks'.map .text))) (label : String) :
    Retargets d n { n with label := label, payload := .object (cs'.map .text) (ks'.map .text) } fields
      (given cs ks) (given cs' ks') := by
  have hkind : n.kind = .object := congrArg Payload.kind hpayload
  have hfits : d.graph.Fits { n with label := label, payload := .object (cs'.map .text) (ks'.map .text) } :=
    hd.fits hn rfl hkind
  refine ⟨updateNode_makes (hd.node?_eq_some_iff.mpr ⟨hn, rfl⟩) hfields hupdate, fun id hid => ?_,
    fun id hid => ?_⟩
  · have hafter := ancestry_replaceNode hfits id
    rw [hid, Ancestry.renewed, Node.renewed, if_pos rfl] at hafter
    exact ⟨resolveTarget_eq_given hid hpayload, resolveTarget_eq_given hafter rfl⟩
  · -- Another Object of this identifier would be the node itself, in a valid graph.
    refine resolveTarget_replaceNode_of_ne hfits fun m hm hsame => hid ?_
    rw [hm, hd.node_ext (object_of_ascend hm).1 hn hsame]

end Graph

namespace AskFields

open Dialog

variable {options : Options} {cs ks : List String}

/-- Whoever leaves the ticks as they are chooses the same classes and classifiers in the order on offer, so
the payload stays exactly if this is their order. The targets below the Object stay exactly if the first
class on offer is the first one of the Object, and the classifiers are in order. -/
theorem reselects (h : Selected options cs ks) :
    Takes (object (cs.map .text) (ks.map .text) options) (some (reselected options cs ks).fields) ∧
    ((chosen options cs).Perm cs ∧ (chosen options cs = cs ↔ cs.Sublist (labels options))) ∧
    ((picked options cs ks).Perm ks ∧ (picked options cs ks = ks ↔ ks.Pairwise (· < ·))) ∧
    (∀ (d : Draft) (n : Node) (label : String), d.graph.Valid → n ∈ d.graph.nodes →
      n.payload = .object (cs.map .text) (ks.map .text) →
      Graph.Retargets d n { n with label := label, payload := reselected options cs ks }
        (reselected options cs ks).fields (Graph.given cs ks)
        (Graph.given (chosen options cs) (picked options cs ks))) ∧
    ((∀ c ∈ cs, c ≠ "" ∧ Text.Half.isIn c = false) →
      (Graph.given (chosen options cs) (picked options cs ks) = Graph.given cs ks ↔
        (labels options).find? (· ∈ cs) = cs.head? ∧ ks.Pairwise (· < ·))) := by
  refine ⟨takes_object options cs ks, ⟨h.chosen_perm, h.chosen_eq_iff⟩, ⟨h.picked_perm, h.picked_eq_iff⟩,
    fun d n label hd hn hpayload => ?_, fun hread => ?_⟩
  · have hupdate : n.payload.update (reselected options cs ks).fields = .ok (reselected options cs ks) :=
      hpayload ▸ h.update_eq _ _
    exact Graph.retargets_object hd hn hpayload rfl hupdate label
  · rw [Graph.given_eq_iff h.chosen_perm h.picked_perm h.eq_nil_of_nil hread, chosen, List.head?_filter,
      h.picked_eq_iff]

/-- The Object detects cars first, and the app has persons first. -/
def carsFirst : Node := ⟨"o", "Object#1", Graph.origin, .object [.text "car", .text "person"] [.text "red"]⟩

/-- This Object above a zone. -/
def carsAbove : Draft := ⟨⟨[carsFirst, ⟨"z", "Zone#1", Graph.origin, .new .zone⟩], [⟨"1", "o", "z"⟩]⟩,
  ⟨Nat.repr, 0⟩⟩

/-- The classes and classifiers of the app. -/
def personsFirst : Options := [("person", ["red"]), ("car", [])]

/-- The zone detects cars, and persons after the same classes were chosen again. -/
theorem carsFirst_reselects :
    Selected personsFirst ["car", "person"] ["red"] ∧
      reselected personsFirst ["car", "person"] ["red"] =
        .object [.text "person", .text "car"] [.text "red"] ∧
      carsAbove.graph.resolveTarget "z" = Checked.ok (some ⟨"car", some ["red"]⟩) ∧
      (carsAbove.graph.replaceNode { carsFirst with
        payload := reselected personsFirst ["car", "person"] ["red"] }).resolveTarget "z" =
          Checked.ok (some ⟨"person", some ["red"]⟩) ∧
      Graph.given ["person", "car"] ["red"] ≠ Graph.given ["car", "person"] ["red"] := by
  have hselected : Selected personsFirst ["car", "person"] ["red"] := by
    refine ⟨by decide, by decide, by decide, by decide, ?_⟩
    rw [List.forall_mem_singleton]
    exact mem_classifiersOf.mpr ⟨"person", by simp, ("person", ["red"]), by decide, by simp⟩
  have hchosen : chosen personsFirst ["car", "person"] = ["person", "car"] := by decide
  have hread : ∀ c ∈ ["car", "person"], c ≠ "" ∧ Text.Half.isIn c = false := by decide
  have hvalid : carsAbove.graph.Valid :=
    (Graph.Reachable.empty.call (.extend carsAbove.graph.nodes carsAbove.graph.edges) carsAbove.ids).valid
  obtain ⟨-, -, ⟨hperm, -⟩, hedit, hsame⟩ := reselects hselected
  have hpicked := List.perm_singleton.mp hperm
  have hretargets := hedit carsAbove carsFirst "Object#1" hvalid List.mem_cons_self rfl
  have hsame := hsame hread
  rw [hchosen, hpicked] at hretargets hsame
  obtain ⟨hbefore, hafter⟩ := hretargets.below "z" rfl
  refine ⟨hselected, ?_, hbefore, hafter, fun h => ?_⟩
  · rw [reselected, hchosen, hpicked]
    rfl
  · exact absurd (hsame.mp h).1 (by decide)

end AskFields
end DetectionFlow
