import DetectionFlow.Advice
import DetectionFlow.Proofs.KeyedLists
import DetectionFlow.Proofs.NotedTheorems

/-!
# What advice there is

A graph has its warnings exactly if every Timeout has a number of seconds (`Advice.warnings_ok_iff`):
all other rules look at fields that a payload has brought into their form.

The first warning about a node is one of a rule (`Advice.exists_rule_of_firstWarning`), and there is none
exactly if no rule has one (`Advice.firstWarning_eq_none_iff`).
-/

namespace DetectionFlow

/-- The value is a number, so that it can be compared with one. -/
def Value.IsNumeric (v : Value) : Prop := ∃ x, v.number? = some x

/-- The seconds of a Timeout are a number. -/
def Payload.Timed : Payload → Prop
  | .timeout seconds => seconds.IsNumeric
  | _ => True

/-- The seconds of all Timeouts are numbers. -/
def Graph.Timed (g : Graph) : Prop := ∀ n ∈ g.nodes, n.payload.Timed

namespace Advice

variable {g : Graph} {n : Node}

/-! ## Rules that can be applied -/

lemma isNegative_of_number {v : Value} {x : Number} (h : v.number? = some x) :
    isNegative v = .ok (x.lt (.int 0)) := by
  rw [isNegative, h]

lemma isNegative_ok_iff {v : Value} : (∃ b, isNegative v = .ok b) ↔ v.IsNumeric := by
  unfold isNegative Value.IsNumeric
  cases v.number? <;> simp

/-- Of a Timeout whose seconds are no number, nobody can say whether they are negative. -/
lemma timeoutNotNegative_ok_iff : (∃ w, timeoutNotNegative g n = .ok w) ↔ n.payload.Timed := by
  unfold timeoutNotNegative
  cases n.payload with
  | timeout seconds =>
    rw [Payload.Timed, ← isNegative_ok_iff]
    dsimp only
    cases isNegative seconds <;> simp [bind, Except.bind, pure, Except.pure]
  | _ => simp [Payload.Timed]

/-- All rules can be applied to a node whose seconds, should it have any, are a number. -/
lemma rules_ok (h : n.payload.Timed) : ∀ rule ∈ rules, ∃ w, rule g n = .ok w := by
  have htimeout : ∃ w, timeoutNotNegative g n = .ok w := timeoutNotNegative_ok_iff.mpr h
  simp only [rules, List.forall_mem_cons, List.not_mem_nil, false_implies, implies_true, and_true]
  exact ⟨⟨_, rfl⟩, ⟨_, rfl⟩, ⟨_, rfl⟩, htimeout, ⟨_, rfl⟩⟩

/-! ## The first warning -/

lemma firstWarning_cons (rule : Rule) (rest : List Rule) :
    firstWarning g n (rule :: rest) = (rule g n).bind fun
      | some w => if w.isEmpty then firstWarning g n rest else .ok (some w)
      | none => firstWarning g n rest := rfl

/-- The first warning of two groups of rules. -/
lemma firstWarning_append (rs rest : List Rule) :
    firstWarning g n (rs ++ rest) = (firstWarning g n rs).bind fun
      | some w => .ok (some w)
      | none => firstWarning g n rest := by
  induction rs with
  | nil => rfl
  | cons rule rs ih =>
    rw [List.cons_append, firstWarning_cons, firstWarning_cons]
    cases rule g n with
    | error f => rfl
    | ok found =>
      cases found with
      | none => exact ih
      | some w =>
        by_cases hempty : w.isEmpty
        · simpa [Except.bind, hempty] using ih
        · simp [Except.bind, hempty]

/-- A warning about a node is that of a rule. -/
lemma exists_rule_of_firstWarning {rs : List Rule} {w : String}
    (h : firstWarning g n rs = .ok (some w)) : ∃ rule ∈ rs, rule g n = .ok (some w) := by
  induction rs with
  | nil => simp [firstWarning] at h
  | cons rule rest ih =>
    have hrest : firstWarning g n rest = .ok (some w) →
        ∃ r ∈ rule :: rest, r g n = .ok (some w) := by
      intro hw
      obtain ⟨r, hr, hwarns⟩ := ih hw
      exact ⟨r, List.mem_cons_of_mem _ hr, hwarns⟩
    rw [firstWarning_cons] at h
    cases hrule : rule g n with
    | error f => simp [hrule, Except.bind] at h
    | ok found =>
      rw [hrule] at h
      cases found with
      | none => exact hrest h
      | some w' =>
        by_cases hempty : w'.isEmpty
        · simp only [Except.bind, hempty, if_true] at h
          exact hrest h
        · simp only [Except.bind, hempty] at h
          obtain rfl : w' = w := Option.some.inj (Except.ok.inj h)
          exact ⟨rule, List.mem_cons_self, hrule⟩

/-- There is no warning about a node exactly if no rule has one, or none that says anything. -/
lemma firstWarning_eq_none_iff {rs : List Rule} :
    firstWarning g n rs = .ok none ↔
      ∀ rule ∈ rs, rule g n = .ok none ∨ rule g n = .ok (some "") := by
  induction rs with
  | nil => simp [firstWarning]
  | cons rule rest ih =>
    rw [firstWarning_cons, List.forall_mem_cons, ← ih]
    cases hrule : rule g n with
    | error f => simp [Except.bind]
    | ok found =>
      cases found with
      | none => simp [Except.bind]
      | some w =>
        by_cases hempty : w = ""
        · simp [Except.bind, hempty]
        · simp [Except.bind, hempty]

lemma firstWarning_ok {rs : List Rule} (h : ∀ rule ∈ rs, ∃ w, rule g n = .ok w) :
    ∃ w, firstWarning g n rs = .ok w := by
  induction rs with
  | nil => exact ⟨none, rfl⟩
  | cons rule rest ih =>
    obtain ⟨⟨found, hfound⟩, hrest⟩ := List.forall_mem_cons.mp h
    rw [firstWarning_cons, hfound]
    cases found with
    | none => exact ih hrest
    | some w =>
      by_cases hempty : w.isEmpty
      · simpa [Except.bind, hempty] using ih hrest
      · exact ⟨some w, by simp [Except.bind, hempty]⟩

/-- Before its seconds are looked at, nothing is said about a Timeout. -/
lemma firstWarning_before_timeout (h : n.kind = .timeout) :
    firstWarning g n [objectFeedsArea, areaPointCount, pointsInFrame] = .ok none := by
  obtain ⟨id, label, position, payload⟩ := n
  cases payload <;> first | rfl | exact absurd h (by simp [Node.kind, Payload.kind])

/-- The rules can be applied to a node exactly if its seconds, should it have any, are a number. -/
lemma firstWarning_ok_iff : (∃ w, firstWarning g n rules = .ok w) ↔ n.payload.Timed := by
  refine ⟨?_, fun h => firstWarning_ok (rules_ok h)⟩
  rintro ⟨w, hw⟩
  by_cases hkind : n.kind = .timeout
  · have hrules : rules = [objectFeedsArea, areaPointCount, pointsInFrame] ++
        [timeoutNotNegative, suggestedDownstream] := rfl
    rw [hrules, firstWarning_append, firstWarning_before_timeout hkind] at hw
    rw [← timeoutNotNegative_ok_iff (g := g)]
    cases htimeout : timeoutNotNegative g n with
    | error f => simp [Except.bind, firstWarning_cons, htimeout] at hw
    | ok found => exact ⟨found, rfl⟩
  · cases hpayload : n.payload with
    | timeout seconds => exact absurd (congrArg Payload.kind hpayload) hkind
    | _ => trivial

/-! ## The warnings of a graph -/

/-- The warnings of a graph are the first ones about its nodes. -/
lemma warnings_eq_ok {ws : Warnings} :
    warnings g = .ok ws ↔
      List.Forall₂ (fun n w => w.1 = n.id ∧ firstWarning g n rules = .ok w.2) g.nodes ws := by
  have hone : ∀ (n : Node) (w : String × Option String),
      (do return (n.id, ← firstWarning g n rules) : Except Fault _) = .ok w ↔
        w.1 = n.id ∧ firstWarning g n rules = .ok w.2 := by
    intro n w
    rw [Except.bind_eq_ok]
    constructor
    · rintro ⟨found, hfound, h⟩
      obtain rfl := Except.ok.inj h
      exact ⟨rfl, hfound⟩
    · rintro ⟨hid, hfound⟩
      exact ⟨w.2, hfound, congrArg Except.ok (Prod.ext hid.symm rfl)⟩
  simp only [warnings, warningsUnder, Except.mapM_eq_ok, hone]

/-- A graph has warnings exactly if the seconds of all Timeouts are numbers. -/
theorem warnings_ok_iff : (∃ ws, warnings g = .ok ws) ↔ g.Timed := by
  constructor
  · rintro ⟨ws, hws⟩ n hn
    obtain ⟨w, -, -, hw⟩ := exists_of_forall₂ (warnings_eq_ok.mp hws) hn
    exact firstWarning_ok_iff.mp ⟨_, hw⟩
  · intro htimed
    cases hws : warnings g with
    | ok ws => exact ⟨ws, rfl⟩
    | error f =>
      -- A graph without warnings has a node about which there is none to be had.
      obtain ⟨n, hn, e, he⟩ := Except.mapM_fails.mp ⟨f, hws⟩
      obtain ⟨w, hw⟩ := (firstWarning_ok_iff (g := g)).mpr (htimed n hn)
      simp [hw, bind, Except.bind, pure, Except.pure] at he

/-- The warning about a node, where identifiers are distinct. -/
lemma warningOf_of_mem {ws : Warnings} (hws : warnings g = .ok ws)
    (hids : (g.nodes.map (·.id)).Nodup) (hn : n ∈ g.nodes) :
    firstWarning g n rules = .ok (warningOf ws n.id) := by
  have hpairs := warnings_eq_ok.mp hws
  obtain ⟨w, hw, hid, hfirst⟩ := exists_of_forall₂ hpairs hn
  have hkeys : ws.map (·.1) = g.nodes.map (·.id) :=
    (map_eq_of_forall₂ hpairs fun n w h => h.1.symm).symm
  have hfound := find?_of_nodup (hkeys ▸ hids) hw
  rw [hfirst, warningOf, ← hid, hfound]
  rfl

end Advice
end DetectionFlow
