import DetectionFlow.Dialog.Fields
import DetectionFlow.Proofs.BriefTexts
import DetectionFlow.Proofs.DialogTheorems
import DetectionFlow.Proofs.FormedPayloads
import DetectionFlow.Proofs.ReachableGraphs
import DetectionFlow.Proofs.ReplacedNodes

/-!
# Measures that are offered for editing

The dialogs about zones, lines and timeouts offer the measures of the payload as texts of numbers, and these
texts are accepted as they are. What comes back are numbers of six significant digits (`Payload.retyped?`). So
a node that is edited by taking every offer keeps its payload exactly if all its measures are brief
(`Payload.IsBrief`), and what changes then is in its record too (`Payload.Measured.retypes`). For a timeout of an
integer beyond all doubles there is no offer at all.
-/

namespace DetectionFlow

open Dialog

/-! ## Taking the offers -/

namespace AskFields

lemma takes_askText {message s : String} {complaint : String → Option String}
    (h : complaint s = none) : Takes (askText message (.text s) complaint) (some s) :=
  (takes_ask (q := .text message (.text s) complaint) h).map (·.bind Value.text?)

lemma takes_askSelect {message : String} {choices : List Choice} {default : Value}
    (h : choices.any (·.isMeantBy default) = true) :
    Takes (askSelect message choices default) (some default) :=
  takes_ask (q := .select message choices default) (if_pos h)

/-- A detection point that is absent or on offer. -/
def OnOffer (v : Value) : Prop := v = .null ∨ ∃ s ∈ "" :: detectionPoints, v = .text s

namespace OnOffer

variable {v : Value}

lemma pointChosen (h : OnOffer v) : OnOffer (pointChosen v) := by
  unfold AskFields.pointChosen
  split
  · exact h
  · exact .inl rfl

/-- Only an empty detection point does not stay. -/
lemma pointChosen_eq_iff (h : OnOffer v) : AskFields.pointChosen v = v ↔ v ≠ .text "" := by
  rcases h with rfl | ⟨s, -, rfl⟩
  · exact iff_of_true rfl (by simp)
  · unfold AskFields.pointChosen
    by_cases hempty : s = ""
    · subst hempty
      simp [Value.isTruthy]
    · simp [Value.isTruthy, hempty]

lemma isWhole (h : OnOffer v) : v = .null ∨ v.IsWholeText := by
  have hwhole : ∀ s ∈ "" :: detectionPoints, Text.Half.isIn s = false := by decide
  exact h.imp_right fun ⟨s, hs, hv⟩ => ⟨s, hv, hwhole s hs⟩

end OnOffer

/-- The detection point stays, but an empty one becomes absent. -/
lemma takes_detectionPoint {v : Value} (h : OnOffer v) :
    ∃ chosen, Takes (detectionPoint v) (some chosen) ∧ pointChosen chosen = pointChosen v := by
  -- An absent point is offered as the empty text, and the empty text is chosen as an absent point.
  rcases h with rfl | ⟨s, hs, rfl⟩
  · exact ⟨.text "", takes_askSelect rfl, rfl⟩
  · refine ⟨.text s, ?_, rfl⟩
    have hchoice : detectionChoices.any (·.isMeantBy (.text s)) = true := by
      rcases List.mem_cons.mp hs with rfl | hs
      · rfl
      · refine List.any_eq_true.mpr ⟨.ofText s, List.mem_cons_of_mem _ (List.mem_map_of_mem hs), ?_⟩
        exact decide_eq_true rfl
    have hdefault : (if (Value.text s).isTruthy then Value.text s else .text "") = .text s := by
      by_cases hempty : s = ""
      · rw [hempty, ite_self]
      · exact if_pos (by simpa [Value.isTruthy] using hempty)
    rw [detectionPoint, hdefault]
    exact takes_askSelect hchoice

lemma takes_crossing (d : Direction) : Takes (crossing d) (some (.text d.name)) :=
  takes_askSelect (by cases d <;> rfl)

section Points

variable {points : List Point} {dp : Value} (hframe : ∀ p ∈ points, p.InFrame) (hpoint : OnOffer dp)

include hframe

/-- The text of enough points is accepted. -/
lemma pointsComplaint_pointsText {least : Nat} {most : Option Nat} (hleast : least ≤ points.length)
    (hmost : ∀ n ∈ most, points.length ≤ n) :
    Typed.pointsComplaint least most (Typed.pointsText points) = none := by
  refine Typed.pointsComplaint_eq_none.mpr ⟨_, Typed.points_pointsText hframe, ?_⟩
  rw [List.length_map]
  exact ⟨hleast, hmost⟩

lemma takes_pointsTyped : Takes (pointsTyped (Typed.pointsText points))
    (Point.listToValue (points.map Point.abridged)) :=
  (takes_ofFault (Typed.points_pointsText hframe)).map Point.listToValue

include hpoint

lemma takes_zone (hcount : 3 ≤ points.length) :
    Takes (zone points dp) (some (Payload.zone (points.map Point.abridged) (pointChosen dp)).fields) := by
  obtain ⟨chosen, hchosen, hsame⟩ := takes_detectionPoint hpoint
  rw [← hsame]
  exact (takes_print _).bind <|
    (takes_askText (pointsComplaint_pointsText hframe hcount (by simp))).bind <|
    hchosen.bind <| (takes_pointsTyped hframe).map fun v =>
      some [("points", v), ("detection_point", pointChosen chosen)]

lemma takes_line (hcount : points.length = 2) (direction : Direction) :
    Takes (line points direction dp)
      (some (Payload.line (points.map Point.abridged) direction (pointChosen dp)).fields) := by
  obtain ⟨chosen, hchosen, hsame⟩ := takes_detectionPoint hpoint
  rw [← hsame]
  exact (takes_askText (pointsComplaint_pointsText hframe hcount.ge (by simp [hcount]))).bind <|
    (takes_crossing direction).bind <| hchosen.bind <| (takes_pointsTyped hframe).map fun v =>
      some [("points", v), ("direction", .text direction.name), ("detection_point", pointChosen chosen)]

end Points

section Seconds

variable {a b : Number}

lemma toBrief_toValue (a : Number) : a.toValue.toBrief =
    a.toDouble?.elim (.error .tooLarge) fun x => .ok (Layout.brief.render x) := by
  cases a <;> rfl

lemma takes_timeout (ha : a.NonNegative) (hb : a.abridged? = some b) :
    Takes (timeout a.toValue) (some (Payload.timeout b.toValue).fields) := by
  obtain ⟨x, hx, rfl⟩ := Option.map_eq_some_iff.mp hb
  have hread := Numeral.readTyped?_brief x
  have hbrief : a.toValue.toBrief = .ok (Layout.brief.render x) := by
    rw [toBrief_toValue, hx]
    rfl
  have hcomplaint : Typed.secondsComplaint (Layout.brief.render x) = none :=
    Typed.secondsComplaint_eq_none.mpr
      ⟨_, hread, Double.zero_le_abridged (ha.zero_le_of_toDouble? hx)⟩
  have htyped : Takes (secondsTyped (Layout.brief.render x)) (Number.ofDouble x.abridged).toValue :=
    (takes_ofFault (Value.toDouble_text hread)).map fun y => (Number.ofDouble y).toValue
  exact (takes_ofFault hbrief).bind <| (takes_askText hcomplaint).bind <|
    htyped.map fun v => some [("seconds", v)]

/-- An integer beyond all doubles has no text to be offered. -/
lemma runWith_timeout_large (ha : a.abridged? = none) (o : Operator) :
    runWith (timeout a.toValue) o = (.error (.failure (.fault .tooLarge)), o) := by
  have hbrief : a.toValue.toBrief = .error .tooLarge := by
    rw [toBrief_toValue, Option.map_eq_none_iff.mp ha]
    rfl
  have hstop : runWith (ofFault a.toValue.toBrief) o = (.error (.failure (.fault .tooLarge)), o) := by
    rw [hbrief]
    rfl
  rw [timeout, runWith_bind, hstop]

end Seconds

end AskFields

/-! ## Payloads with measures -/

namespace Payload

open AskFields

/-- A payload with measures within their limits. -/
inductive Measured : Payload → Prop
  | zone {points : List Point} {dp : Value} (hcount : 3 ≤ points.length)
    (hframe : ∀ p ∈ points, p.InFrame) (hpoint : OnOffer dp) : Measured (.zone points dp)
  | line {points : List Point} {direction : Direction} {dp : Value} (hcount : points.length = 2)
    (hframe : ∀ p ∈ points, p.InFrame) (hpoint : OnOffer dp) : Measured (.line points direction dp)
  | timeout {a : Number} (hfinite : a.IsFinite) (hsign : a.NonNegative) : Measured (.timeout a.toValue)

/-- The payload that is left when every offer was taken. There is none for seconds that have no double. -/
def retyped? : Payload → Option Payload
  | .zone points dp => some (.zone (points.map Point.abridged) (pointChosen dp))
  | .line points direction dp => some (.line (points.map Point.abridged) direction (pointChosen dp))
  | .timeout v => (v.number?.bind Number.abridged?).map fun a => .timeout a.toValue
  | p => some p

/-- The measures are read from decimals of at most six digits, and a detection point is not empty. -/
def IsBrief : Payload → Prop
  | .zone points dp | .line points _ dp => (∀ p ∈ points, p.IsBrief) ∧ dp ≠ .text ""
  | .timeout v => ∃ x : Double, x.IsBrief ∧ (Value.float x).same v = true
  | _ => True

/-- Payloads are alike if they are equal, up to the form of a number of seconds. -/
def Alike : Payload → Payload → Prop
  | .timeout v, .timeout w => v.same w = true
  | p, q => p = q

variable {p q : Payload}

lemma retyped?_timeout (a : Number) :
    (timeout a.toValue).retyped? = a.abridged?.map fun b => timeout b.toValue := by
  have hnumber : a.toValue.number? = some a := by cases a <;> rfl
  rw [retyped?, hnumber, Option.bind_some]

/-- All offers of the dialog can be taken, and the fields are those of the payload that is left. -/
lemma Measured.takes (h : p.Measured) (hq : p.retyped? = some q) (options : Options) :
    ∃ dialog, p.askFields? options = some dialog ∧ Takes dialog (some q.fields) := by
  cases h with
  | zone hcount hframe hpoint =>
    obtain rfl := Option.some.inj hq
    exact ⟨_, rfl, takes_zone hframe hpoint hcount⟩
  | line hcount hframe hpoint =>
    obtain rfl := Option.some.inj hq
    exact ⟨_, rfl, takes_line hframe hpoint hcount _⟩
  | timeout hfinite hsign =>
    rw [retyped?_timeout] at hq
    obtain ⟨b, hb, rfl⟩ := Option.map_eq_some_iff.mp hq
    exact ⟨_, rfl, takes_timeout hsign hb⟩

/-- Without a text to be offered the dialog comes to an end at once. -/
lemma Measured.stops (h : p.Measured) (hp : p.retyped? = none) (options : Options) :
    ∃ dialog, p.askFields? options = some dialog ∧
      ∀ o, runWith dialog o = (.error (.failure (.fault .tooLarge)), o) := by
  cases h with
  | zone => cases hp
  | line => cases hp
  | timeout =>
    rw [retyped?_timeout, Option.map_eq_none_iff] at hp
    exact ⟨_, rfl, runWith_timeout_large hp⟩

/-- What is left has its measures within their limits too. -/
lemma Measured.retyped (h : p.Measured) (hq : p.retyped? = some q) : q.Measured := by
  have hframe' : ∀ {points : List Point}, (∀ p ∈ points, p.InFrame) →
      ∀ p ∈ points.map Point.abridged, p.InFrame :=
    fun hframe => List.forall_mem_map.mpr fun p hp => (hframe p hp).abridged
  cases h with
  | zone hcount hframe hpoint =>
    obtain rfl := Option.some.inj hq
    exact .zone (by rwa [List.length_map]) (hframe' hframe) hpoint.pointChosen
  | line hcount hframe hpoint =>
    obtain rfl := Option.some.inj hq
    exact .line (by rwa [List.length_map]) (hframe' hframe) hpoint.pointChosen
  | timeout hfinite hsign =>
    rw [retyped?_timeout] at hq
    obtain ⟨b, hb, rfl⟩ := Option.map_eq_some_iff.mp hq
    exact .timeout (hfinite.abridged hb) (hsign.abridged hb)

/-- Nothing has changed exactly if the measures are brief. -/
lemma Measured.alike_iff (h : p.Measured) (hq : p.retyped? = some q) : q.Alike p ↔ p.IsBrief := by
  cases h with
  | zone hcount hframe hpoint =>
    obtain rfl := Option.some.inj hq
    show Payload.zone _ _ = Payload.zone _ _ ↔ _
    rw [Payload.zone.injEq, Point.map_abridged_eq_iff hframe,
      hpoint.pointChosen_eq_iff, IsBrief]
  | line hcount hframe hpoint =>
    obtain rfl := Option.some.inj hq
    show Payload.line _ _ _ = Payload.line _ _ _ ↔ _
    rw [Payload.line.injEq, Point.map_abridged_eq_iff hframe,
      hpoint.pointChosen_eq_iff, IsBrief]
    exact and_congr_right fun _ => and_iff_right rfl
  | timeout hfinite hsign =>
    rw [retyped?_timeout] at hq
    obtain ⟨b, hb, rfl⟩ := Option.map_eq_some_iff.mp hq
    rw [Alike, Value.toValue_same, Number.same_abridged_iff hfinite hb, IsBrief]
    exact exists_congr fun x => and_congr_right fun _ => by rw [← Value.toValue_same]; rfl

/-- Measures have the types of their fields. -/
lemma Measured.declared (h : p.Measured) : p.Declared := by
  cases h with
  | zone _ _ hpoint => exact hpoint.isWhole
  | line _ _ hpoint => exact hpoint.isWhole
  | @timeout a hfinite =>
    cases a with
    | int n => exact .inl ⟨n, rfl⟩
    | float x => exact .inr ⟨x, rfl, hfinite⟩

lemma Measured.kind_ne_alarm (h : p.Measured) : p.kind ≠ .alarm := by
  cases h <;> exact Kind.noConfusion

lemma Measured.kind_ne_object (h : p.Measured) : p.kind ≠ .object := by
  cases h <;> exact Kind.noConfusion

lemma Measured.kind_retyped (h : p.Measured) (hq : p.retyped? = some q) : q.kind = p.kind := by
  cases h with
  | timeout =>
    rw [retyped?_timeout] at hq
    obtain ⟨b, -, rfl⟩ := Option.map_eq_some_iff.mp hq
    rfl
  | _ =>
    obtain rfl := Option.some.inj hq
    rfl

/-- With these fields the payload is updated to the one that is left. -/
lemma Measured.update (h : p.Measured) (hq : p.retyped? = some q) : p.update q.fields = .ok q :=
  update_fields (h.kind_retyped hq).symm (h.retyped hq).kind_ne_object

/-- What is left of a payload with measures is read as a body with the same target. -/
lemma Measured.readAs_retyped (hp : p.Measured) (hq : p.retyped? = some q)
    {found : Checked (Option Target)} {b : Body} (h : p.ReadAs found b) :
    ∃ b', q.ReadAs found b' ∧ b'.target? = b.target? := by
  have hleft := hp.retyped hq
  cases h with
  | zone htarget hsound =>
    obtain rfl := Option.some.inj hq
    cases hleft with
    | zone hcount hframe hpoint =>
      obtain ⟨s, hs⟩ := Reader.exists_nullable_text hpoint.isWhole
      exact ⟨_, .zone htarget hsound hcount hframe hs, rfl⟩
  | line direction htarget hsound =>
    obtain rfl := Option.some.inj hq
    cases hleft with
    | line hcount hframe hpoint =>
      obtain ⟨s, hs⟩ := Reader.exists_nullable_text hpoint.isWhole
      exact ⟨_, .line direction htarget hsound hcount hframe hs, rfl⟩
  | timeout =>
    cases hp with
    | timeout _ hsign =>
      rw [retyped?_timeout] at hq
      obtain ⟨c, hc, rfl⟩ := Option.map_eq_some_iff.mp hq
      exact ⟨_, .timeout (Reader.seconds_toValue (hsign.abridged hc)), rfl⟩
  | _ => cases hp

end Payload

/-! ## Records -/

namespace Graph

open Checked Reader AskFields

variable {g : Graph} {n : Node} {r : Record} {q : Payload}

/-- The record of a node with measures names the same target after all offers were taken, and holds the
payload that is left. -/
theorem compileNode_retyped (hp : n.payload.Measured) (hq : n.payload.retyped? = some q)
    (label : String) (h : g.compileNode n = .ok r) :
    ∃ b, g.compileNode { n with label := label, payload := q } = .ok ⟨r.id, label, r.parent, b⟩ ∧
      b.target? = r.body.target? ∧ b.payload = q ∧ r.body.payload = n.payload := by
  obtain ⟨hheads, hread⟩ := compileNode_eq_ok_iff.mp h
  obtain ⟨b, hb, htarget⟩ := hp.readAs_retyped hq hread
  refine ⟨b, ?_, htarget, ?_, hp.declared.payload_eq hp.kind_ne_alarm hread⟩
  · rw [hheads.id, hheads.parent]
    exact compileNode_of_readAs hheads.nonempty hheads.whole hb
  · have hleft := hp.retyped hq
    exact hleft.declared.payload_eq hleft.kind_ne_alarm hb

/-- An update of a node with some fields makes the new node. If the old one has a record, so has the new one:
it has the new label, and in its body the new payload stands for the old. -/
structure Renews (d : Draft) (n new : Node) (fields : Fields) : Prop where
  makes : (updateNode n.id (some new.label) fields d).Makes (d.graph.replaceNode new)
    ⟨.updateNode, n.id⟩ new
  record : ∀ r, d.graph.compileNode n = .ok r → ∃ b,
    (d.graph.replaceNode new).compileNode new = .ok ⟨r.id, new.label, r.parent, b⟩ ∧
      b.target? = r.body.target? ∧ b.payload = new.payload ∧ r.body.payload = n.payload

lemma renews_retyped {d : Draft} (hd : d.graph.Valid) (hn : n ∈ d.graph.nodes)
    (hp : n.payload.Measured) (hq : n.payload.retyped? = some q) (label : String) :
    Renews d n { n with label := label, payload := q } q.fields where
  makes := by
    have hfields : q.fields.isEmpty = false := by
      cases hp.retyped hq <;> rfl
    exact updateNode_makes (hd.node?_eq_some_iff.mpr ⟨hn, rfl⟩) hfields (hp.update hq)
  record r hr := by
    have hfits : d.graph.Fits { n with label := label, payload := q } :=
      hd.fits hn rfl (hp.kind_retyped hq).symm
    obtain ⟨b, hb, hsame⟩ := compileNode_retyped hp hq label hr
    refine ⟨b, ?_, hsame⟩
    rwa [compileNode_replaceNode hfits (hp.retyped hq).kind_ne_object]

end Graph

namespace Payload

open AskFields

/-- The text of points is read as the points with six digits, so it is read as the points themselves exactly
if all are brief. Whoever takes all offers of the dialog about a payload with measures is left with the
payload with six digits, and so the node has the same measures afterwards, and the same record, exactly
if they are brief. Only a timeout of an integer beyond all doubles cannot be offered. -/
theorem Measured.retypes {p : Payload} (hp : p.Measured) (options : Options) {points : List Point}
    (hframe : ∀ p ∈ points, p.InFrame) :
    (Typed.points (Typed.pointsText points) = .ok (points.map Point.abridged) ∧
      (points.map Point.abridged = points ↔ ∀ p ∈ points, p.IsBrief)) ∧
    ∃ dialog, p.askFields? options = some dialog ∧
      (p.retyped? = none → ∀ o, runWith dialog o = (.error (.failure (.fault .tooLarge)), o)) ∧
      ∀ q, p.retyped? = some q → Takes dialog (some q.fields) ∧ (q.Alike p ↔ p.IsBrief) ∧
        ∀ (d : Draft) (n : Node) (label : String), d.graph.Valid → n ∈ d.graph.nodes → n.payload = p →
          Graph.Renews d n { n with label := label, payload := q } q.fields := by
  refine ⟨⟨Typed.points_pointsText hframe, Point.map_abridged_eq_iff hframe⟩, ?_⟩
  cases hq : p.retyped? with
  | none =>
    obtain ⟨dialog, hdialog, hstop⟩ := hp.stops hq options
    exact ⟨dialog, hdialog, fun _ => hstop, nofun⟩
  | some q =>
    obtain ⟨dialog, hdialog, htakes⟩ := hp.takes hq options
    refine ⟨dialog, hdialog, nofun, fun q' hq' => ?_⟩
    obtain rfl := Option.some.inj hq'
    refine ⟨htakes, hp.alike_iff hq, fun d n label hd hn hpayload => ?_⟩
    subst hpayload
    exact Graph.renews_retyped hd hn hp hq label

/-- Two points, one of them with a coordinate of seven digits. -/
def fineEnds : List Point :=
  [⟨Double.ofDecimal false 1234567 (-7), Double.ofDecimal false 5 (-1)⟩, ⟨Double.one, Double.zero⟩]

/-- The line between these points. -/
def fineLine : Payload := .line fineEnds .both (.text "ALL")

/-- The line with six digits. -/
def roughLine : Payload :=
  .line [⟨Double.ofDecimal false 123457 (-6), Double.ofDecimal false 5 (-1)⟩, ⟨Double.one, Double.zero⟩]
    .both (.text "ALL")

lemma fineEnds_inFrame : ∀ p ∈ fineEnds, p.InFrame := by
  simp only [fineEnds, List.forall_mem_cons]
  exact ⟨⟨by decide +kernel, by decide +kernel, by decide +kernel, by decide +kernel⟩,
    ⟨by decide +kernel, by decide +kernel, by decide +kernel, by decide +kernel⟩, by simp⟩

lemma fineLine_measured : fineLine.Measured :=
  .line rfl fineEnds_inFrame (.inr ⟨"ALL", by decide, rfl⟩)

lemma retyped?_fineLine : fineLine.retyped? = some roughLine := by
  have hfine : (Double.ofDecimal false 1234567 (-7)).abridged = Double.ofDecimal false 123457 (-6) := by
    decide +kernel
  have hhalf : (Double.ofDecimal false 5 (-1)).abridged = Double.ofDecimal false 5 (-1) := by decide +kernel
  have hone : Double.one.abridged = Double.one := by decide +kernel
  have hzero : Double.zero.abridged = Double.zero := by decide +kernel
  have hpoint : pointChosen (.text "ALL") = .text "ALL" := rfl
  simp only [fineLine, fineEnds, roughLine, retyped?, List.map_cons, List.map_nil, Point.abridged, hfine,
    hhalf, hone, hzero, hpoint]

/-- A graph of this line alone. -/
def lineAlone : Draft := ⟨⟨[⟨"l", "Line#1", Graph.origin, fineLine⟩], []⟩, ⟨Nat.repr, 0⟩⟩

/-- An end of the line is moved. There is no text for an integer beyond all doubles. -/
theorem fineLine_retypes :
    fineLine.Measured ∧ fineLine.retyped? = some roughLine ∧
      (∃ dialog, fineLine.askFields? [] = some dialog ∧ Takes dialog (some roughLine.fields)) ∧
      ¬ roughLine.Alike fineLine ∧ ¬ fineLine.IsBrief ∧
      Graph.Renews lineAlone ⟨"l", "Line#1", Graph.origin, fineLine⟩
        ⟨"l", "Gate", Graph.origin, roughLine⟩ roughLine.fields ∧
      ∃ dialog, (timeout (.int (10 ^ 400))).askFields? [] = some dialog ∧
        ∀ o, runWith dialog o = (.error (.failure (.fault .tooLarge)), o) := by
  have hvalid : lineAlone.graph.Valid :=
    (Graph.Reachable.empty.call (.extend lineAlone.graph.nodes []) lineAlone.ids).valid
  have hmoved : ¬ roughLine.Alike fineLine := by
    intro hsame
    have hpoints := (Payload.line.inj hsame).1
    have hends := (Point.mk.inj (List.cons.inj hpoints).1).1
    revert hends
    decide +kernel
  have hlarge : (timeout (.int (10 ^ 400))).retyped? = none := by
    have hnone : Double.ofInt? (10 ^ 400) = none := by decide +kernel
    rw [show timeout (.int (10 ^ 400)) = timeout (Number.int (10 ^ 400)).toValue from rfl, retyped?_timeout,
      Number.abridged?, Number.toDouble?, hnone]
    rfl
  obtain ⟨-, dialog, hdialog, -, hretypes⟩ := fineLine_measured.retypes [] fineEnds_inFrame
  obtain ⟨htakes, hbrief, hrenews⟩ := hretypes roughLine retyped?_fineLine
  have hsign : (Number.int (10 ^ 400)).NonNegative := show (0 : Int) ≤ 10 ^ 400 by positivity
  have hmeasured : (timeout (.int (10 ^ 400))).Measured := .timeout (a := .int (10 ^ 400)) trivial hsign
  obtain ⟨-, dialog', hdialog', hstop, -⟩ := hmeasured.retypes [] fineEnds_inFrame
  exact ⟨fineLine_measured, retyped?_fineLine, ⟨dialog, hdialog, htakes⟩, hmoved, fun h => hmoved (hbrief.mpr h),
    hrenews lineAlone _ "Gate" hvalid List.mem_cons_self rfl, dialog', hdialog', hstop hlarge⟩

end Payload
end DetectionFlow
