import DetectionFlow.Proofs.TypedPayloads

/-!
# Rejected nodes are flagged

The advice about point counts, points and seconds (`Advice.limits`) is what the compiler rejects: in a
graph of typed payloads, compilation ends at a node that breaks the schema of its record exactly if such a
node has one of these warnings and no alarm before it holds an integer that is too long to be written
(`Graph.Reachable.rejections`). No other rule stands in front of these warnings.
-/

namespace DetectionFlow

open Checked

/-! ## Advice about limits -/

namespace Advice

variable {g : Graph} {n : Node}

/-- The rules about the limits of the schema. -/
def limits : List Rule := [areaPointCount, pointsInFrame, timeoutNotNegative]

/-- A rule about limits has a warning about the node. -/
def Exceeds (g : Graph) (n : Node) : Prop := ∃ rule ∈ limits, ∃ w, rule g n = .ok (some w)

lemma outside?_eq_none {points : List Point} : outside? points = none ↔ ∀ p ∈ points, p.InFrame := by
  rw [outside?, List.find?_eq_none]
  refine forall₂_congr fun p _ => ?_
  simp only [inFrame, Bool.not_eq_true, Bool.not_eq_false', Bool.and_eq_true]
  exact ⟨fun h => ⟨h.1.1, h.1.2, h.2.1, h.2.2⟩, fun h => ⟨⟨h.left, h.right⟩, h.top, h.bottom⟩⟩

lemma exceeds_cases : Exceeds g n ↔ (∃ w, areaPointCount g n = .ok (some w)) ∨
    (∃ w, pointsInFrame g n = .ok (some w)) ∨ ∃ w, timeoutNotNegative g n = .ok (some w) := by
  simp [Exceeds, limits]

/-- A node has a warning about limits exactly if it is not within them. -/
lemma exceeds_iff (htimed : n.payload.Timed) : Exceeds g n ↔ ¬ n.payload.WithinLimits := by
  obtain ⟨id, label, position, payload⟩ := n
  have hframe : ∀ (points : List Point) (message : Point → String),
      (∃ w, (.ok ((outside? points).map message) : Except Fault _) = .ok (some w)) ↔
        ¬ ∀ p ∈ points, p.InFrame := by
    intro points message
    rw [← outside?_eq_none]
    cases outside? points <;> simp
  rw [exceeds_cases]
  cases payload with
  | zone points detectionPoint =>
    have hcount : (∃ w, areaPointCount g ⟨id, label, position, .zone points detectionPoint⟩ =
        .ok (some w)) ↔ ¬ 3 ≤ points.length := by
      simp [areaPointCount]
    have hnever : ¬ ∃ w, timeoutNotNegative g ⟨id, label, position, .zone points detectionPoint⟩ =
        .ok (some w) := by
      simp [timeoutNotNegative]
    rw [hcount, pointsInFrame, hframe, or_iff_left hnever, Payload.WithinLimits, not_and_or]
  | line points direction detectionPoint =>
    have hcount : (∃ w, areaPointCount g ⟨id, label, position, .line points direction detectionPoint⟩ =
        .ok (some w)) ↔ ¬ points.length = 2 := by
      simp [areaPointCount]
    have hnever : ¬ ∃ w, timeoutNotNegative g ⟨id, label, position, .line points direction detectionPoint⟩ =
        .ok (some w) := by
      simp [timeoutNotNegative]
    rw [hcount, pointsInFrame, hframe, or_iff_left hnever, Payload.WithinLimits, not_and_or]
  | timeout seconds =>
    obtain ⟨x, hx⟩ := htimed
    have hsign : seconds.IsNonNegative ↔ x.lt (.int 0) = false := by simp [Value.IsNonNegative, hx]
    have hwarns : timeoutNotNegative g ⟨id, label, position, .timeout seconds⟩ =
        .ok (if x.lt (.int 0) then some "timeout must not be negative" else none) := by
      simp [timeoutNotNegative, isNegative_of_number hx, bind, Except.bind, pure, Except.pure]
    rw [hwarns, Payload.WithinLimits, hsign]
    simp [areaPointCount, pointsInFrame]
  | _ => simp [areaPointCount, pointsInFrame, timeoutNotNegative, Payload.WithinLimits]

/-- Only areas and Timeouts have limits. -/
lemma limited_of_exceeds (htimed : n.payload.Timed) (h : Exceeds g n) :
    n.kind ∈ [Kind.zone, .line, .timeout] := by
  have hlimits := (exceeds_iff htimed).mp h
  obtain ⟨id, label, position, payload⟩ := n
  cases payload <;> first | exact absurd trivial hlimits | simp [Node.kind, Payload.kind]

/-- A warning about limits has words. -/
lemma limits_nonempty {rule : Rule} (hrule : rule ∈ limits) {w : String}
    (h : rule g n = .ok (some w)) : w ≠ "" := by
  rintro rfl
  have hcount : areaPointCount g n ≠ .ok (some "") := by
    unfold areaPointCount
    split <;> simp
  have hframe : pointsInFrame g n ≠ .ok (some "") := by
    unfold pointsInFrame
    split <;> simp
  have hseconds : timeoutNotNegative g n ≠ .ok (some "") := by
    unfold timeoutNotNegative
    split
    next seconds _ =>
      cases isNegative seconds with
      | error f => simp [bind, Except.bind]
      | ok b => cases b <;> simp [bind, Except.bind, pure, Except.pure]
    next => simp
  simp only [limits, List.mem_cons, List.not_mem_nil, or_false] at hrule
  rcases hrule with rfl | rfl | rfl
  · exact hcount h
  · exact hframe h
  · exact hseconds h

/-- The first warning about a node that exceeds limits says so. No rule in front of those about limits has
anything to say about such a node. -/
lemma firstWarning_of_exceeds (htimed : n.payload.Timed) (h : Exceeds g n) :
    ∃ rule ∈ limits, ∃ w, rule g n = .ok (some w) ∧ firstWarning g n rules = .ok (some w) := by
  have hrules : rules = objectFeedsArea :: (limits ++ [suggestedDownstream]) := rfl
  have hobject : objectFeedsArea g n = .ok none := by
    have hkind : n.kind ≠ .object := by
      intro heq
      have hlimited := limited_of_exceeds htimed h
      rw [heq] at hlimited
      simp at hlimited
    simp [objectFeedsArea, hkind]
  have happlies : ∀ rule ∈ limits, ∃ w, rule g n = .ok w := by
    intro rule hrule
    refine rules_ok htimed rule ?_
    rw [hrules]
    exact List.mem_cons_of_mem _ (List.mem_append_left _ hrule)
  obtain ⟨found, hfound⟩ := firstWarning_ok happlies
  cases found with
  | none =>
    -- A rule about limits that has a warning would have been the first.
    obtain ⟨rule, hrule, w, hw⟩ := h
    rcases firstWarning_eq_none_iff.mp hfound rule hrule with hnone | hempty
    · simp [hw] at hnone
    · exact absurd (by simpa [hw] using hempty) (limits_nonempty hrule hw)
  | some w =>
    obtain ⟨rule, hrule, hw⟩ := exists_rule_of_firstWarning hfound
    refine ⟨rule, hrule, w, hw, ?_⟩
    rw [hrules, firstWarning_cons, hobject]
    show firstWarning g n (limits ++ [suggestedDownstream]) = .ok (some w)
    rw [firstWarning_append, hfound]
    rfl

end Advice

namespace Graph

open Advice

variable {g : Graph}

/-- The warning that is shown about a node is one about limits, and the node is a Zone, a Line or a
Timeout. -/
structure Flags (g : Graph) (ws : Warnings) (n : Node) : Prop where
  kind : n.kind ∈ [Kind.zone, .line, .timeout]
  shown : ∃ rule ∈ limits, ∃ w, rule g n = .ok (some w) ∧ warningOf ws n.id = some w

/-- A node is flagged exactly if a rule about limits has a warning about it. -/
lemma flags_iff {ws : Warnings} (hws : warnings g = .ok ws) (hids : (g.nodes.map (·.id)).Nodup)
    {n : Node} (hn : n ∈ g.nodes) (htimed : n.payload.Timed) : g.Flags ws n ↔ Exceeds g n := by
  constructor
  · rintro ⟨-, rule, hrule, w, hw, -⟩
    exact ⟨rule, hrule, w, hw⟩
  · intro h
    obtain ⟨rule, hrule, w, hw, hfirst⟩ := firstWarning_of_exceeds htimed h
    refine ⟨limited_of_exceeds htimed h, rule, hrule, w, hw, ?_⟩
    exact Except.ok.inj ((warningOf_of_mem hws hids hn).symm.trans hfirst)

/-! ## Rejection -/

section Typed

/-- All nodes have identifiers and typed payloads, the classes of Objects are not empty, and the seconds
of Timeouts are numbers indeed. -/
structure Typed (g : Graph) : Prop where
  named : ∀ n ∈ g.nodes, n.id.isEmpty = false
  payloads : ∀ n ∈ g.nodes, n.payload.Typed
  labelled : g.Labelled
  seconds : ∀ n ∈ g.nodes, ∀ v, n.payload = .timeout v → v.number? ≠ some (.float .nan)

/-- The identifiers consist of whole characters. -/
def WholeIds (g : Graph) : Prop := ∀ n ∈ g.nodes, Text.Half.isIn n.id = false

variable (hg : g.Typed) (hwhole : g.WholeIds)

include hg hwhole

/-- A node compiles exactly if its payload keeps the limits and can be written. -/
lemma Typed.compileNode_ok_iff {n : Node} (hn : n ∈ g.emitting) :
    (∃ r, g.compileNode n = .ok r) ↔ n.payload.WithinLimits ∧ ¬ n.payload.HoldsLong := by
  obtain ⟨hmem, hemits⟩ := mem_emitting.mp hn
  obtain ⟨target, htarget, hsound⟩ := resolveTarget_ok hg.payloads hg.labelled n.id
  rw [← (hg.payloads n hmem).readAs_iff hemits (hg.seconds n hmem) hsound, ← htarget]
  constructor
  · rintro ⟨r, hr⟩
    exact ⟨_, readAs_of_compileNode hr⟩
  · rintro ⟨b, hb⟩
    exact ⟨_, compileNode_of_readAs (hg.named n hmem) (hwhole n hmem) hb⟩

/-- Compilation ends at a broken schema exactly if a node exceeds the limits and no alarm before it holds an
integer with too many digits. -/
lemma Typed.compile_breaks_iff :
    (∃ e, g.compile = .error (.compile e)) ↔
      ∃ before n after, g.emitting = before ++ n :: after ∧ ¬ n.payload.WithinLimits ∧
        ∀ m ∈ before, ¬ m.payload.HoldsLong := by
  constructor
  · rintro ⟨e, he⟩
    obtain ⟨before, n, after, hsplit, hbefore, hn⟩ :=
      Except.mapM_eq_error.mp (compile_eq_error.mp he)
    have hmem : ∀ {m : Node}, m ∈ before ++ n :: after → m ∈ g.emitting := by
      rw [hsplit]
      exact id
    have hnmem : n ∈ g.emitting := hmem (by simp)
    have hwritable : n.payload.Writable := by
      by_contra hnot
      obtain ⟨f, hf⟩ := compileNode_of_unwritable (g := g) hnot
      simp [hf] at hn
    have hshort : ¬ n.payload.HoldsLong :=
      (hg.payloads n (mem_emitting.mp hnmem).1).writable_iff.mp hwritable
    refine ⟨before, n, after, hsplit, fun hlimits => ?_, fun m hm => ?_⟩
    · obtain ⟨r, hr⟩ := (hg.compileNode_ok_iff hwhole hnmem).mpr ⟨hlimits, hshort⟩
      simp [hr] at hn
    · have hmmem : m ∈ g.emitting := hmem (List.mem_append_left _ hm)
      exact ((hg.compileNode_ok_iff hwhole hmmem).mp (hbefore m hm)).2
  · rintro ⟨before, n, after, hsplit, hlimits, hbefore⟩
    have hnmem : n ∈ g.emitting := hsplit ▸ List.mem_append_right _ List.mem_cons_self
    have hbroken : ¬ ∃ r, g.compileNode n = .ok r := fun hok =>
      hlimits ((hg.compileNode_ok_iff hwhole hnmem).mp hok).1
    rcases compile_cases g with ⟨c, hc⟩ | he | ⟨⟨before', m, after', hsplit', hbefore', hm⟩, -⟩
    · obtain ⟨r, -, hr⟩ := exists_record hc hnmem
      exact absurd ⟨r, hr⟩ hbroken
    · exact he
    · -- The node where compilation stops would have to stand before `n`, or to be `n`.
      have hmmem : m ∈ g.emitting := hsplit' ▸ List.mem_append_right _ List.mem_cons_self
      have hlong : m.payload.HoldsLong := by
        by_contra hshort
        exact hm ((hg.payloads m (mem_emitting.mp hmmem).1).writable_iff.mpr hshort)
      have hne : n ≠ m := by
        rintro rfl
        cases hpayload : n.payload <;> simp_all [Payload.HoldsLong, Payload.WithinLimits]
      rcases List.append_eq_append_iff.mp (hsplit.symm.trans hsplit') with
        ⟨middle, rfl, htail⟩ | ⟨middle, rfl, htail⟩
      · cases middle with
        | nil => exact absurd (List.cons.inj htail).1 hne
        | cons k middle =>
          obtain ⟨rfl, -⟩ := List.cons.inj htail
          exact absurd (hbefore' n (by simp)) hbroken
      · cases middle with
        | nil => exact absurd (List.cons.inj htail).1.symm hne
        | cons k middle =>
          obtain ⟨rfl, -⟩ := List.cons.inj htail
          exact absurd hlong (hbefore m (by simp))

end Typed

lemma Typed.timed (hg : g.Typed) : g.Timed := fun n hn => (hg.payloads n hn).timed

/-- The compiler finds a broken schema in a reachable graph of typed payloads exactly if some Zone, Line or
Timeout is flagged for its points or its seconds, and no alarm before it holds an integer with too many
digits. Such a warning about a node is never hidden by that of another rule. -/
theorem Reachable.rejections (hg : g.Reachable) (htyped : g.Typed) (hwhole : g.WholeIds) :
    ∃ ws, warnings g = .ok ws ∧
      ((∃ e, g.compile = .error (.compile e)) ↔
        ∃ before n after, g.emitting = before ++ n :: after ∧ g.Flags ws n ∧
          ∀ m ∈ before, ¬ m.payload.HoldsLong) ∧
      ∀ n ∈ g.nodes, ∀ rule ∈ limits, ∀ w, rule g n = .ok (some w) → g.Flags ws n := by
  obtain ⟨ws, hws⟩ := warnings_ok_iff.mpr htyped.timed
  have hflags : ∀ n ∈ g.nodes, (g.Flags ws n ↔ ¬ n.payload.WithinLimits) := fun n hn =>
    (flags_iff hws hg.valid.nodeIds hn (htyped.timed n hn)).trans (exceeds_iff (htyped.timed n hn))
  refine ⟨ws, hws, ?_, ?_⟩
  · rw [htyped.compile_breaks_iff hwhole]
    refine exists_congr fun before => exists_congr fun n => exists_congr fun after =>
      and_congr_right fun hsplit => and_congr_left fun _ => (hflags n ?_).symm
    have hmem : n ∈ g.emitting := hsplit ▸ List.mem_append_right _ List.mem_cons_self
    exact (mem_emitting.mp hmem).1
  · intro n hn rule hrule w hw
    exact (flags_iff hws hg.valid.nodeIds hn (htyped.timed n hn)).mpr ⟨rule, hrule, w, hw⟩

/-- A zone of two points. -/
def flatZone : Graph := ⟨[⟨"z", "Zone#1", origin, .zone Point.newLine .null⟩], []⟩

lemma flatZone_typed : flatZone.Typed where
  named := by simp [flatZone]
  payloads := by simp [flatZone, Payload.Typed]
  labelled := by simp [Labelled, flatZone]
  seconds := by simp [flatZone]

/-- The zone is flagged, and rejected. -/
theorem flatZone_rejections :
    flatZone.Reachable ∧ flatZone.Typed ∧ flatZone.WholeIds ∧
      (∃ ws, warnings flatZone = .ok ws ∧ ∃ n ∈ flatZone.nodes, flatZone.Flags ws n) ∧
      ∃ e, flatZone.compile = .error (.compile e) := by
  have hreachable : flatZone.Reachable :=
    Reachable.empty.call (.extend flatZone.nodes []) ⟨Nat.repr, 0⟩
  have hwhole : flatZone.WholeIds := by
    simp only [WholeIds, flatZone, List.forall_mem_singleton]
    decide
  obtain ⟨ws, hws, hrejects, hshown⟩ := hreachable.rejections flatZone_typed hwhole
  have hflags := hshown _ List.mem_cons_self areaPointCount (by simp [limits]) _ rfl
  refine ⟨hreachable, flatZone_typed, hwhole, ⟨ws, hws, _, List.mem_cons_self, hflags⟩, ?_⟩
  exact hrejects.mpr ⟨[], _, [], rfl, hflags, by simp⟩

/-- The least integer with too many digits. -/
def longInteger : Int := ((10 ^ Fault.digitLimit : Nat) : Int)

/-- An output with the priority `longInteger`. -/
def urgentLamp : SensorBinding :=
  ⟨.text "s", .text "t", .text "LED", .text "1", .int 0, .int longInteger⟩

/-- An alarm with `urgentLamp`, and a zone without points. -/
def urgentAlarm : Graph :=
  ⟨[⟨"a", "Alarm#1", origin, .alarm [urgentLamp]⟩, ⟨"z", "Zone#1", origin, .zone [] .null⟩], []⟩

/-- A condition whose identifier is half a character. -/
def halfNamed : Graph :=
  ⟨[⟨String.singleton (Text.Half.char Text.Half.first), "Count#1", origin, .new .count⟩], []⟩

lemma urgentAlarm_typed : urgentAlarm.Typed where
  named := by simp [urgentAlarm]
  payloads := by
    have htext : ∀ s ∈ ["s", "t", "LED", "1"], (Value.text s).IsWholeText := fun s hs =>
      ⟨s, rfl, (by decide : ∀ s ∈ ["s", "t", "LED", "1"], Text.Half.isIn s = false) s hs⟩
    have hlamp : urgentLamp.Typed := ⟨htext "s" (by simp), htext "t" (by simp), htext "LED" (by simp),
      htext "1" (by simp), ⟨_, rfl⟩, .inr ⟨_, rfl⟩⟩
    simp [urgentAlarm, Payload.Typed, hlamp]
  labelled := by simp [Labelled, urgentAlarm]
  seconds := by simp [urgentAlarm]

lemma urgentAlarm_flagged :
    ∃ ws, warnings urgentAlarm = .ok ws ∧ ∃ n ∈ urgentAlarm.nodes, urgentAlarm.Flags ws n := by
  obtain ⟨ws, hws⟩ := warnings_ok_iff.mpr urgentAlarm_typed.timed
  have hids : (urgentAlarm.nodes.map (·.id)).Nodup := by decide
  have hzone : (⟨"z", "Zone#1", origin, .zone [] .null⟩ : Node) ∈ urgentAlarm.nodes := by
    simp [urgentAlarm]
  refine ⟨ws, hws, _, hzone, (flags_iff hws hids hzone trivial).mpr ?_⟩
  exact ⟨areaPointCount, by simp [limits], _, rfl⟩

/-- The priority of `urgentLamp` cannot be written. -/
lemma urgentLamp_unwritable : ¬ (Payload.alarm [urgentLamp]).Writable := by
  have hlong : Fault.isLong longInteger = true := by
    rw [Fault.isLong, decide_eq_true_eq, longInteger, Int.natAbs_natCast]
  have htyped := urgentAlarm_typed.payloads _ List.mem_cons_self
  rw [htyped.writable_iff, not_not]
  exact ⟨urgentLamp, List.mem_singleton_self _, longInteger, .inr rfl, hlong⟩

/-- Compilation ends at the alarm. -/
lemma urgentAlarm_compile : ∃ f, urgentAlarm.compile = .error (.fault f) :=
  compile_of_reachesUnwritable ⟨[], _, _, rfl, by simp, urgentLamp_unwritable⟩

lemma halfNamed_typed : halfNamed.Typed where
  named := by simp [halfNamed]
  payloads := by
    simp only [halfNamed, List.forall_mem_singleton]
    exact ⟨">=1", rfl, by decide⟩
  labelled := by simp [Labelled, halfNamed, Payload.new]
  seconds := by simp [halfNamed, Payload.new]

/-- The zone of `urgentAlarm` is flagged, but compilation ends before it at the alarm, with no word of a
schema. The condition of `halfNamed` breaks the schema of its record and is not flagged. -/
theorem rejections_differ :
    (urgentAlarm.Reachable ∧ urgentAlarm.Typed ∧ urgentAlarm.WholeIds ∧
      (∃ ws, warnings urgentAlarm = .ok ws ∧ ∃ n ∈ urgentAlarm.nodes, urgentAlarm.Flags ws n) ∧
      ¬ ∃ e, urgentAlarm.compile = .error (.compile e)) ∧
    halfNamed.Reachable ∧ halfNamed.Typed ∧
      (∃ ws, warnings halfNamed = .ok ws ∧ ¬ ∃ n, halfNamed.Flags ws n) ∧
      ∃ e, halfNamed.compile = .error (.compile e) := by
  refine ⟨⟨?_, urgentAlarm_typed, ?_, urgentAlarm_flagged, ?_⟩, ?_, halfNamed_typed, ?_, ?_⟩
  · exact Reachable.empty.call (.extend urgentAlarm.nodes []) ⟨Nat.repr, 0⟩
  · simp only [WholeIds, urgentAlarm, List.forall_mem_cons]
    exact ⟨by decide, by decide, by simp⟩
  · rintro ⟨e, he⟩
    obtain ⟨f, hf⟩ := urgentAlarm_compile
    simp [hf] at he
  · exact Reachable.empty.call (.extend halfNamed.nodes []) ⟨Nat.repr, 0⟩
  · have hws : warnings halfNamed =
        .ok [(String.singleton (Text.Half.char Text.Half.first), none)] := rfl
    refine ⟨_, hws, ?_⟩
    rintro ⟨n, -, rule, -, w, -, hshown⟩
    rw [warningOf, List.find?_singleton] at hshown
    split at hshown <;> simp at hshown
  · exact ⟨_, rfl⟩

end Graph
end DetectionFlow
