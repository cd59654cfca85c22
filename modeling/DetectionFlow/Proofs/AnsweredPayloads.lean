import DetectionFlow.Proofs.AskedBindings
import DetectionFlow.Proofs.RejectedNodes
import DetectionFlow.Proofs.ResolvedTargets
import DetectionFlow.Proofs.RetypedMeasures

/-!
# Payloads that an operator answered

Whatever an operator answers about a node, the dialog leaves the fields of a sound body. Of an alarm it leaves
bindings that were typed, and in front of them those that were there or none (`Payload.Answered`). An update
takes such fields, and with no Object above the node compiles then, unless its identifier is no name or bindings
that were there before cannot be written (`AskFields.answers_compile`).
-/

namespace DetectionFlow

open Dialog AskFields

/-! ## What can be left of a payload -/

namespace Payload

/-- What an operator can make of a payload. -/
inductive Answered (p : Payload) : Payload → Prop
  | body {b : Body} (hsound : b.Sound) (hkind : b.kind = p.kind) (halarm : b.kind ≠ .alarm) :
    Answered p b.payload
  /-- Typed bindings, behind those that were kept. -/
  | alarm {bindings left : List SensorBinding} {ts : List TypedBinding} (hp : p = .alarm bindings)
    (hleft : left = [] ∨ left = bindings) (hts : ∀ t ∈ ts, t.Accepted) :
    Answered p (.alarm (left ++ ts.map TypedBinding.binding))

/-- The numbers that the dialog shows have texts. -/
def Shown : Payload → Prop
  | .timeout seconds => ∃ s, seconds.toBrief = .ok s
  | .alarm bindings => ∀ b ∈ bindings, ∃ s, b.duration.toBrief = .ok s
  | _ => True

/-- The fields are those of a payload that an operator can make of this one. -/
def Leaves (p : Payload) (fields : Fields) : Prop := ∃ q, p.Answered q ∧ fields = q.fields

variable {p q : Payload}

lemma Leaves.of_body {b : Body} (hsound : b.Sound) (hkind : b.kind = p.kind) (halarm : b.kind ≠ .alarm) :
    p.Leaves b.payload.fields :=
  ⟨_, .body hsound hkind halarm, rfl⟩

lemma Answered.kind_eq (h : p.Answered q) : p.kind = q.kind := by
  cases h with
  | body hsound hkind => rw [Body.kind_payload, hkind]
  | alarm hp => rw [hp]; rfl

lemma Answered.kind_ne_object (h : p.Answered q) : q.kind ≠ .object := by
  cases h with
  | @body b => cases b <;> exact Kind.noConfusion
  | alarm => exact Kind.noConfusion

lemma Answered.isEmpty_fields (h : p.Answered q) : q.fields.isEmpty = false := by
  cases h with
  | @body b => cases b <;> rfl
  | alarm => rfl

/-- What was typed can be written. -/
lemma Answered.writable (h : p.Answered q) (hp : p.Writable) : q.Writable := by
  cases h with
  | @body b _ _ halarm => cases b <;> first | exact trivial | exact absurd rfl halarm
  | alarm hbindings hleft hts =>
    subst hbindings
    refine Alarm.exists_encode_iff.mpr (List.forall_mem_append.mpr ⟨?_, List.forall_mem_map.mpr ?_⟩)
    · rcases hleft with rfl | rfl
      · simp
      · exact Alarm.exists_encode_iff.mp hp
    · exact fun t ht => Alarm.fault?_entry_of_legible (TypedBinding.legible (hts t ht))

end Payload

/-! ## What the dialogs promise -/

namespace AskFields

variable {F : Prop}

/-! ### Areas -/

lemma isMeantBy_text {title s : String} {v : Value} (h : (Choice.of title (.text s)).isMeantBy v = true) :
    v = .text s := by
  cases v <;> simp_all [Choice.of, Choice.isMeantBy]

lemma isMeantBy_int {title : String} {n : Int} {v : Value} (h : (Choice.of title (.int n)).isMeantBy v = true) :
    v = .int n := by
  cases v <;> simp_all [Choice.of, Choice.isMeantBy]

lemma promises_detectionPoint {current : Value} : Promises (detectionPoint current) F
    fun given => ∀ v ∈ given, OnOffer v := by
  refine promises_askSelect.mono fun given hgiven v hv => ?_
  have hchosen := hgiven v hv
  rw [detectionChoices, List.any_cons, Bool.or_eq_true, List.any_map, List.any_eq_true] at hchosen
  rcases hchosen with hempty | ⟨s, hs, hmeant⟩
  · exact .inr ⟨"", List.mem_cons_self, isMeantBy_text hempty⟩
  · exact .inr ⟨s, List.mem_cons_of_mem _ hs, isMeantBy_text hmeant⟩

/-- A chosen detection point is a text or none. -/
lemma OnOffer.exists_text {v : Value} (h : OnOffer v) :
    ∃ point, AskFields.pointChosen v = Value.ofText? point := by
  rcases h.pointChosen.isWhole with hnull | ⟨s, hs, -⟩
  · exact ⟨none, hnull⟩
  · exact ⟨some s, hs⟩

/-- Accepted points have a value. -/
lemma promises_pointsTyped {least : Nat} {most : Option Nat} {s : String}
    (h : Typed.pointsComplaint least most s = none) : Promises (pointsTyped s) F
    fun v => ∃ ps : List Point, v = Point.listToValue ps ∧ least ≤ ps.length ∧
      (∀ n ∈ most, ps.length ≤ n) ∧ ∀ p ∈ ps, p.InFrame := by
  obtain ⟨ps, hps, hleast, hmost⟩ := Typed.pointsComplaint_eq_none.mp h
  have hread : Promises (ofFault (Typed.points s)) F fun read => read = ps :=
    promises_ofFault (fun read hread => Except.ok.inj (hread.symm.trans hps))
      fun fault hfault => nomatch hfault.symm.trans hps
  exact hread.map fun read hread =>
    ⟨ps, by rw [hread], hleast, hmost, Typed.points_inFrame hps⟩

lemma promises_zone {points : List Point} {dp : Value} : Promises (zone points dp) F
    fun given => ∀ fields ∈ given, (Payload.zone points dp).Leaves fields := by
  refine (promises_print _).bind fun _ _ => ?_
  refine promises_askText.andThen rfl fun typed htyped => ?_
  refine promises_detectionPoint.andThen rfl fun chosen hchosen => ?_
  refine (promises_pointsTyped htyped).map fun v ⟨ps, hv, hleast, _, hframe⟩ fields hfields => ?_
  obtain ⟨point, hpoint⟩ := hchosen.exists_text
  obtain rfl := Option.some.inj hfields
  rw [hv, hpoint]
  exact .of_body (b := .zone ps none point) ⟨hleast, hframe, by simp⟩ rfl Kind.noConfusion

lemma isMeantBy_direction {v : Value}
    (h : (Direction.all.map fun d => Choice.ofText d.name).any (·.isMeantBy v) = true) :
    ∃ d : Direction, v = .text d.name := by
  rw [List.any_map, List.any_eq_true] at h
  obtain ⟨d, -, hd⟩ := h
  exact ⟨d, isMeantBy_text hd⟩

lemma promises_line {points : List Point} {direction : Direction} {dp : Value} :
    Promises (line points direction dp) F
      fun given => ∀ fields ∈ given, (Payload.line points direction dp).Leaves fields := by
  refine promises_askText.andThen rfl fun typed htyped => ?_
  refine promises_askSelect.andThen rfl fun way hway => ?_
  refine promises_detectionPoint.andThen rfl fun chosen hchosen => ?_
  refine (promises_pointsTyped htyped).map fun v ⟨ps, hv, hleast, hmost, hframe⟩ fields hfields => ?_
  obtain ⟨point, hpoint⟩ := hchosen.exists_text
  obtain ⟨d, rfl⟩ := isMeantBy_direction hway
  obtain rfl := Option.some.inj hfields
  have hcount : ps.length = 2 := le_antisymm (hmost 2 rfl) hleast
  rw [hv, hpoint]
  exact .of_body (b := .line ps d none point) ⟨hcount, hframe, by simp⟩ rfl Kind.noConfusion

/-! ### Conditions -/

lemma promises_count {current : Value} : Promises (count current) F
    fun given => ∀ fields ∈ given, (Payload.count current).Leaves fields := by
  refine promises_askText.map fun given _ fields hfields => ?_
  obtain ⟨s, -, rfl⟩ := Option.map_eq_some_iff.mp hfields
  exact .of_body (b := .count (Typed.condition s)) trivial rfl Kind.noConfusion

lemma promises_timeout {seconds : Value} : Promises (timeout seconds) (¬ (Payload.timeout seconds).Shown)
    fun given => ∀ fields ∈ given, (Payload.timeout seconds).Leaves fields := by
  refine (promises_ofFault_of_ok id).bind fun _ _ => ?_
  refine promises_askText.andThen rfl fun typed htyped => ?_
  refine (promises_secondsTyped htyped).map fun v ⟨x, _, hle, hv⟩ fields hfields => ?_
  obtain rfl := Option.some.inj hfields
  rw [hv]
  exact .of_body (b := .timeout (Number.ofDouble x)) (Number.nonNegative_ofDouble hle) rfl Kind.noConfusion

lemma promises_speed {turn : Value} : Promises (speed turn) F
    fun given => ∀ fields ∈ given, (Payload.speed turn).Leaves fields := by
  refine promises_askSelect.map fun given hgiven fields hfields => ?_
  obtain ⟨v, hv, rfl⟩ := Option.map_eq_some_iff.mp hfields
  have hchosen := hgiven v hv
  simp only [List.any_cons, List.any_nil, Bool.or_eq_true, Bool.false_eq_true, or_false] at hchosen
  rcases hchosen with hunset | hzero | hone
  · rw [isMeantBy_text hunset]
    exact .of_body (b := .speed none) trivial rfl Kind.noConfusion
  · rw [isMeantBy_int hzero]
    exact .of_body (b := .speed (some 0)) trivial rfl Kind.noConfusion
  · rw [isMeantBy_int hone]
    exact .of_body (b := .speed (some 1)) trivial rfl Kind.noConfusion

lemma promises_merge {inOrder : Value} : Promises (merge inOrder) F
    fun given => ∀ fields ∈ given, (Payload.merge inOrder).Leaves fields := by
  refine promises_askConfirm.map fun given _ fields hfields => ?_
  obtain ⟨answer, -, rfl⟩ := Option.map_eq_some_iff.mp hfields
  exact .of_body (b := .merge (some answer)) trivial rfl Kind.noConfusion

/-! ### Alarms -/

lemma exists_bindingLine {b : SensorBinding} (h : ∃ s, b.duration.toBrief = .ok s) :
    ∃ line, bindingLine b = .ok line := by
  obtain ⟨s, hs⟩ := h
  exact ⟨_, by rw [bindingLine, hs]; rfl⟩

/-- The bindings stay as they are, or none stays. -/
lemma promises_kept {bindings : List SensorBinding} :
    Promises (kept bindings) (¬ (Payload.alarm bindings).Shown) fun left => left = [] ∨ left = bindings := by
  unfold kept
  split
  · exact promises_pure (.inl rfl)
  · refine (promises_print _).bind fun _ _ => ?_
    refine (promises_forIn fun b hb => ?_).bind fun _ _ => ?_
    · exact (promises_ofFault_of_ok fun hshown => exists_bindingLine (hshown b hb)).bind
        fun line _ => (promises_print line).map fun _ _ => rfl
    · refine promises_askConfirm.bind fun answer _ => ?_
      split
      · exact promises_pure (.inr rfl)
      · exact promises_pure (.inl rfl)

/-- Typed bindings come behind those that are there already. -/
lemma promises_added (n : Nat) (bindings : List SensorBinding) : Promises (added n bindings) F
    fun all => ∃ ts : List TypedBinding, (∀ t ∈ ts, t.Accepted) ∧
      all = bindings ++ ts.map TypedBinding.binding := by
  -- By induction on the rounds, each of which puts one binding at the end.
  induction n generalizing bindings with
  | zero => exact promises_pure ⟨[], by simp, by simp⟩
  | succ n ih =>
    refine promises_askConfirm.bind fun answer _ => ?_
    split
    · refine promises_binding.bind fun given hgiven => ?_
      cases given with
      | none => exact promises_pure ⟨[], by simp, by simp⟩
      | some b =>
        obtain ⟨t, ht, rfl⟩ := hgiven b rfl
        refine (ih (bindings ++ [t.binding])).mono fun all ⟨ts, hts, hall⟩ => ?_
        exact ⟨t :: ts, List.forall_mem_cons.mpr ⟨ht, hts⟩, by simp [hall]⟩
    · exact promises_pure ⟨[], by simp, by simp⟩

lemma promises_alarm {bindings : List SensorBinding} :
    Promises (alarm bindings) (¬ (Payload.alarm bindings).Shown)
      fun given => ∀ fields ∈ given, (Payload.alarm bindings).Leaves fields := by
  refine promises_kept.bind fun left hleft => promises_rounds.bind fun n _ => ?_
  refine (promises_added n left).map fun all ⟨ts, hts, hall⟩ fields hfields => ?_
  obtain rfl := Option.some.inj hfields
  exact ⟨_, .alarm rfl hleft hts, by rw [hall]; rfl⟩

/-! ### Keeping all bindings -/

section Keeping

variable {bindings : List SensorBinding} (hshown : (Payload.alarm bindings).Shown)

include hshown

lemma takes_kept : Takes (kept bindings) bindings := by
  unfold kept
  split
  next hempty =>
    rw [List.isEmpty_iff.mp hempty]
    exact takes_pure []
  next =>
    refine (takes_print _).bind ((takes_forIn fun b hb => ?_).bind ((takes_askConfirm _).bind ?_))
    · obtain ⟨line, hline⟩ := exists_bindingLine (hshown b hb)
      exact (takes_ofFault hline).bind ((takes_print line).bind (takes_pure _))
    · exact takes_pure bindings

/-- Whoever takes the offers of the dialog about an alarm with bindings keeps these, and adds none. -/
lemma takes_alarm (hsome : bindings ≠ []) :
    Takes (alarm bindings) (some (Payload.alarm bindings).fields) := by
  have hoffer : bindings.isEmpty = false := by simpa using hsome
  have hadded : ∀ (n : Nat) (rest : List Answer) (said : List Utterance),
      Yields (added (n + 1) bindings) ⟨.value (.bool false) :: rest, said⟩ bindings ⟨rest, said ++
        [.asked (.confirm "Add a sensor binding?" false), .answered (some (.bool false))]⟩ := by
    intro n rest said
    have hask := yields_ask (q := .confirm "Add a sensor binding?" false) (v := .bool false) rfl rest said
    rw [added, hoffer]
    exact yields_bind.mpr ⟨some false, _, yields_map.mpr ⟨_, hask, rfl⟩, yields_pure.mpr ⟨rfl, rfl⟩⟩
  -- How many rounds there can be depends on the answers to come, but there is always a first one.
  refine (takes_kept hshown).bind ⟨[.value (.bool false)], fun rest said hsaid => ?_⟩
  exact ⟨_, hsaid.answered (.confirm "Add a sensor binding?" false),
    yields_bind.mpr ⟨_, _, rfl, yields_map.mpr ⟨_, hadded _ rest said, rfl⟩⟩⟩

end Keeping

end AskFields

/-! ## Compilation -/

namespace Payload

variable {p q : Payload}

/-- The dialog about a payload of a kind with records leaves fields of a payload that an operator can make of
it. It fails only if it cannot show what is there. -/
lemma promises_askFields (hemits : p.kind.emits = true) (options : Options) :
    ∃ dialog, p.askFields? options = some dialog ∧
      Promises dialog (¬ p.Shown) fun given => ∀ fields ∈ given, p.Leaves fields := by
  cases p with
  | object => exact absurd hemits Bool.false_ne_true
  | event => exact absurd hemits Bool.false_ne_true
  | zone => exact ⟨_, rfl, promises_zone⟩
  | line => exact ⟨_, rfl, promises_line⟩
  | count => exact ⟨_, rfl, promises_count⟩
  | timeout => exact ⟨_, rfl, promises_timeout⟩
  | speed => exact ⟨_, rfl, promises_speed⟩
  | merge => exact ⟨_, rfl, promises_merge⟩
  | alarm => exact ⟨_, rfl, promises_alarm⟩

end Payload

/-- The identifier of the node is a name: it is not empty, and it holds no halves of characters. -/
def Node.Named (n : Node) : Prop := n.id.isEmpty = false ∧ Text.Half.isIn n.id = false

namespace Graph

open Checked

variable {g : Graph} {d : Draft} {n : Node} {p q : Payload}

/-- A node with a payload that an operator made compiles exactly if it is named and its bindings can be
written. -/
lemma compileNode_answered_iff (h : p.Answered n.payload) (htarget : g.resolveTarget n.id = ok none) :
    (∃ r, g.compileNode n = .ok r) ↔ n.Named ∧ n.payload.Writable := by
  constructor
  · rintro ⟨r, hr⟩
    have hheads := heads_of_compileNode hr
    refine ⟨⟨hheads.nonempty, hheads.whole⟩, ?_⟩
    by_contra hunwritable
    obtain ⟨f, hf⟩ := compileNode_of_unwritable (g := g) hunwritable
    cases hr.symm.trans hf
  · rintro ⟨⟨hnonempty, hwhole⟩, hwritable⟩
    generalize hq : n.payload = q at h hwritable
    have hread : ∃ b, n.payload.ReadAs (g.resolveTarget n.id) b := by
      rw [hq, htarget]
      cases h with
      | body hsound => exact ⟨_, hsound.readAs⟩
      | alarm =>
        obtain ⟨ext, hext⟩ := hwritable
        exact ⟨_, .alarm hext⟩
    obtain ⟨b, hb⟩ := hread
    exact ⟨_, compileNode_of_readAs hnonempty hwhole hb⟩

/-- An update of a node makes the new node. That compiles exactly if it is named and its bindings can be
written, and they can be if those that there were could. -/
structure Adopts (d : Draft) (n new : Node) (label : Option String) (fields : Fields) : Prop where
  makes : (updateNode n.id label fields d).Makes (d.graph.replaceNode new) ⟨.updateNode, n.id⟩ new
  compiles : (∃ r, (d.graph.replaceNode new).compileNode new = .ok r) ↔ n.Named ∧ new.payload.Writable
  writable : n.payload.Writable → new.payload.Writable

lemma adopts_answered (hd : d.graph.Valid) (hn : n ∈ d.graph.nodes)
    (hobject : ∀ k o, ¬ d.graph.Climbs (k + 1) n o) (h : n.payload.Answered q) (label : Option String) :
    Adopts d n { n with label := label.getD n.label, payload := q } label q.fields where
  makes := updateNode_makes (hd.node?_eq_some_iff.mpr ⟨hn, rfl⟩) h.isEmpty_fields
    (Payload.update_fields h.kind_eq h.kind_ne_object)
  compiles := by
    have hfits : d.graph.Fits { n with label := label.getD n.label, payload := q } :=
      hd.fits hn rfl h.kind_eq
    have htarget : d.graph.resolveTarget n.id = ok none :=
      resolveTarget_of_ne_object fun o ho => by
        obtain ⟨k, hclimb⟩ := (hd.ancestry_eq_object_iff hn).mp ho
        exact hobject k o hclimb
    rw [compileNode_replaceNode hfits h.kind_ne_object]
    exact compileNode_answered_iff h htarget
  writable := h.writable

end Graph

namespace AskFields

/-- Whatever an operator answers about a node of a kind with records and with no Object above: the fields that
the dialog leaves are taken by an update, and then the node compiles exactly if its identifier is a name and its
bindings can be written. What was typed can be. The dialog itself fails only if it cannot show what is there.
Typed points are accepted exactly if they can be read and there are as many as there must be, and then all of
them are in the frame. -/
theorem answers_compile {d : Draft} {n : Node} (hd : d.graph.Valid) (hn : n ∈ d.graph.nodes)
    (hemits : n.kind.emits = true) (hobject : ∀ k o, ¬ d.graph.Climbs (k + 1) n o) (options : Options)
    (label : Option String) :
    (∃ dialog, n.payload.askFields? options = some dialog ∧
      Promises dialog (¬ n.payload.Shown) fun given => ∀ fields ∈ given, ∃ q,
        Graph.Adopts d n { n with label := label.getD n.label, payload := q } label fields) ∧
    ∀ (least : Nat) (most : Option Nat) (s : String), Typed.pointsComplaint least most s = none ↔
      ∃ ps, Typed.points s = .ok ps ∧ least ≤ ps.length ∧ (∀ m ∈ most, ps.length ≤ m) ∧
        ∀ p ∈ ps, p.InFrame := by
  refine ⟨?_, fun least most s => ?_⟩
  · obtain ⟨dialog, hdialog, hpromise⟩ := Payload.promises_askFields hemits options
    refine ⟨dialog, hdialog, hpromise.mono fun given hgiven fields hfields => ?_⟩
    obtain ⟨q, hq, rfl⟩ := hgiven fields hfields
    exact ⟨q, Graph.adopts_answered hd hn hobject hq label⟩
  · rw [Typed.pointsComplaint_eq_none]
    refine exists_congr fun ps => and_congr_right fun hps => ?_
    rw [and_iff_left (Typed.points_inFrame hps)]

/-- A graph of this node alone. -/
def alone (n : Node) : Draft := ⟨⟨[n], []⟩, ⟨Nat.repr, 0⟩⟩

lemma alone_reachable (n : Node) : (alone n).graph.Reachable :=
  Graph.Reachable.empty.call (.extend [n] []) ⟨Nat.repr, 0⟩

lemma alone_climbs (n : Node) : ∀ k o, ¬ (alone n).graph.Climbs (k + 1) n o := by
  intro k o hclimb
  cases hclimb with
  | above _ _ hfeeder => cases hfeeder

lemma exists_toBrief {a : Number} (h : a.toDouble?.isSome = true) : ∃ s, a.toValue.toBrief = .ok s := by
  obtain ⟨x, hx⟩ := Option.isSome_iff_exists.mp h
  exact ⟨_, by rw [toBrief_toValue, hx]; rfl⟩

/-- A Timeout as it is added. -/
def freshTimeout : Node := ⟨"t", "Timeout#1", Graph.origin, .new .timeout⟩

/-- A number of seconds beyond all doubles is accepted, and the Timeout compiles with it. So are points with
empty parts between them, a zero with a sign and a number that is next to nothing. -/
theorem freshTimeout_answers :
    (∃ o fields q, Yields (timeout (.int 5)) ⟨[.value (.text "1e999")], []⟩ (some fields) o ∧
      Graph.Adopts (alone freshTimeout) freshTimeout { freshTimeout with payload := q } none fields ∧
      ∃ r, ((alone freshTimeout).graph.replaceNode { freshTimeout with payload := q }).compileNode
        { freshTimeout with payload := q } = .ok r) ∧
    ∃ ps, Typed.points "-0,1;; 1e-400, .5 ;1,0;" = .ok ps ∧ 3 ≤ ps.length ∧ ∀ p ∈ ps, p.InFrame := by
  have hpoints : Typed.pointsComplaint 3 none "-0,1;; 1e-400, .5 ;1,0;" = none := by decide +kernel
  have hseconds : Typed.secondsComplaint "1e999" = none := by decide +kernel
  obtain ⟨x, hx, -⟩ := Typed.secondsComplaint_eq_none.mp hseconds
  obtain ⟨s, hs⟩ := exists_toBrief (a := .int 5) (by decide +kernel)
  obtain ⟨said, hasked⟩ : ∃ said, Yields (askText "Timeout (seconds):" (.text s) Typed.secondsComplaint)
      ⟨[.value (.text "1e999")], []⟩ (some "1e999") ⟨[], said⟩ := yields_askText hseconds [] []
  have hyields : Yields (timeout (.int 5)) ⟨[.value (.text "1e999")], []⟩
      (some [("seconds", (Number.ofDouble x).toValue)]) ⟨[], said⟩ := by
    refine yields_bind.mpr ⟨s, _, yields_ofFault.mpr ⟨hs, rfl⟩, yields_bind.mpr ⟨_, _, hasked, ?_⟩⟩
    exact yields_map.mpr ⟨_, by rw [secondsTyped_eq hx]; rfl, rfl⟩
  obtain ⟨⟨dialog, hdialog, hpromise⟩, haccepted⟩ := answers_compile (alone_reachable freshTimeout).valid
    List.mem_cons_self rfl (alone_climbs freshTimeout) [] none
  obtain rfl := Option.some.inj hdialog
  obtain ⟨q, hq⟩ := hpromise.yields hyields _ rfl
  obtain ⟨ps, hps, hleast, -, hframe⟩ := (haccepted 3 none _).mp hpoints
  have hcompiles := hq.compiles.mpr ⟨⟨by decide, by decide⟩, hq.writable trivial⟩
  exact ⟨⟨_, _, q, hyields, hq, hcompiles⟩, ps, hps, hleast, hframe⟩

/-- The kind of the node has records, and no Object stands above it, since it stands alone. Some answers about
it are taken by an update, but it cannot be compiled then. -/
def Stuck (n : Node) : Prop :=
  (alone n).graph.Reachable ∧ n.kind.emits = true ∧ (∀ k o, ¬ (alone n).graph.Climbs (k + 1) n o) ∧
  ∃ dialog o o' fields new, n.payload.askFields? [] = some dialog ∧ Yields dialog o (some fields) o' ∧
    (Graph.updateNode n.id none fields (alone n)).Makes ((alone n).graph.replaceNode new)
      ⟨.updateNode, n.id⟩ new ∧
    ¬ ∃ r, ((alone n).graph.replaceNode new).compileNode new = .ok r

lemma stuck_of_yields {n : Node} {q : Payload} {dialog : Dialog (Option Fields)} {o o' : Operator}
    (hemits : n.kind.emits = true) (hdialog : n.payload.askFields? [] = some dialog)
    (hq : n.payload.Answered q) (hyields : Yields dialog o (some q.fields) o')
    (hnot : ¬ (n.Named ∧ q.Writable)) : Stuck n := by
  have hreachable := alone_reachable n
  have hadopts := Graph.adopts_answered hreachable.valid List.mem_cons_self (alone_climbs n) hq none
  exact ⟨hreachable, hemits, alone_climbs n, dialog, o, o', _, _, hdialog, hyields, hadopts.makes,
    fun h => hnot (hadopts.compiles.mp h)⟩

/-- A condition with this identifier. -/
def countNamed (id : String) : Node := ⟨id, "Count#1", Graph.origin, .new .count⟩

lemma countNamed_stuck {id : String} (h : ¬ (countNamed id).Named) : Stuck (countNamed id) := by
  have hthree : Typed.conditionComplaint ">=3" = none := by decide
  obtain ⟨said, hasked⟩ : ∃ said, Yields (askText "Count condition (e.g. >=3):" (.text ">=1")
      Typed.conditionComplaint) ⟨[.value (.text ">=3")], []⟩ (some ">=3") ⟨[], said⟩ :=
    yields_askText hthree [] []
  have hanswered : (countNamed id).payload.Answered (.count (.text (Typed.condition ">=3"))) :=
    .body (b := .count (Typed.condition ">=3")) trivial rfl Kind.noConfusion
  exact stuck_of_yields rfl rfl hanswered (yields_map.mpr ⟨_, hasked, rfl⟩) fun hboth => h hboth.1

/-- Accepted answers are not enough for a condition without an identifier or with half a character as its
identifier, nor for an alarm that keeps a binding with too long an integer. -/
theorem answers_stuck :
    Stuck (countNamed "") ∧ Stuck (countNamed (String.singleton (Text.Half.char Text.Half.first))) ∧
      Stuck ⟨"a", "Alarm#1", Graph.origin, .alarm [Graph.urgentLamp]⟩ := by
  refine ⟨countNamed_stuck fun h => ?_, countNamed_stuck fun h => ?_, ?_⟩
  · exact absurd h.1 (by decide)
  · exact absurd h.2 (by decide)
  · have hshown : (Payload.alarm [Graph.urgentLamp]).Shown :=
      List.forall_mem_singleton.mpr (exists_toBrief (a := .int 0) (by decide +kernel))
    obtain ⟨answers, htakes⟩ := takes_alarm hshown (by simp)
    obtain ⟨said, -, hyields⟩ := htakes [] [] .nothing
    have hnone : ∀ t ∈ ([] : List TypedBinding), t.Accepted := by simp
    have hkept : (Payload.alarm [Graph.urgentLamp]).Answered (.alarm [Graph.urgentLamp]) :=
      .alarm rfl (.inr rfl) hnone
    exact stuck_of_yields rfl rfl hkept hyields fun h => Graph.urgentLamp_unwritable h.2

end AskFields
end DetectionFlow
