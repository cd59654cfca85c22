import DetectionFlow.Proofs.JoinedGraphs
import DetectionFlow.Proofs.TypedPayloads

/-!
# What an area detects

The walk upwards from a node, without a bound on its steps (`Graph.EndsAt`), ends in every valid graph, and
where it ends is what `Graph.ancestry` says (`Graph.Valid.endsAt_ancestry`).

The walk stops early at a node that it has passed before. It never misses an Object by that: every node that
it passed below an Object has its own number of steps up to this Object (`Graph.Climbs.unique`), so that the
walk cannot come back to one of them. The target of a node is therefore the one that the Object above it
gives, and there is none if there is no such Object, however the graph looks otherwise
(`Graph.Reachable.resolves`).

A class is written as the label of a target, and labels are texts of whole characters. An Object can have a
class that is half a character, and below such an Object there is no target but an error
(`Graph.halfClassed_unresolved`).
-/

namespace DetectionFlow
open Checked

namespace Graph

/-! ## Ways up to an Object -/

/-- So many steps lead up from a node to an Object, from every node to the source of its first incoming
edge. No Object stands on the way. -/
inductive Climbs (g : Graph) : Nat → Node → Node → Prop
  | object {o : Node} (ho : o ∈ g.nodes) (hkind : o.kind = .object) : Climbs g 0 o o
  | above {n m o : Node} {k : Nat} (hn : n ∈ g.nodes) (hkind : n.kind ≠ .object)
      (hfeeder : g.feeder? n.id = some m.id) (hrest : Climbs g k m o) : Climbs g (k + 1) n o

variable {g : Graph} {n o : Node} {j k : Nat}

namespace Climbs

lemma mem (h : g.Climbs k n o) : n ∈ g.nodes := by
  cases h with
  | object hn => exact hn
  | above hn => exact hn

lemma eq_object (h : g.Climbs k n o) (hkind : n.kind = .object) : o = n := by
  cases h with
  | object => rfl
  | above _ hother => exact absurd hkind hother

lemma pos (h : g.Climbs k n o) (hkind : n.kind ≠ .object) : 0 < k := by
  cases h with
  | object _ hobject => exact absurd hobject hkind
  | above => exact Nat.succ_pos _

/-- A node has at most one Object above it, at one distance. -/
lemma unique (hg : g.Valid) {o' : Node} (h : g.Climbs k n o) (h' : g.Climbs j n o') : k = j ∧ o = o' := by
  induction h generalizing j with
  | object _ hkind =>
    cases h' with
    | object => exact ⟨rfl, rfl⟩
    | above _ hother => exact absurd hkind hother
  | above _ hkind hfeeder hrest ih =>
    cases h' with
    | object _ hother => exact absurd hother hkind
    | above _ _ hfeeder' hrest' =>
      rw [hfeeder] at hfeeder'
      obtain rfl := hg.node_ext hrest.mem hrest'.mem (Option.some.inj hfeeder')
      obtain ⟨rfl, rfl⟩ := ih hrest'
      exact ⟨rfl, rfl⟩

end Climbs

/-! ## The walk without a bound -/

/-- The walk upwards from a node, past nodes that were visited, ends so. -/
inductive EndsAt (g : Graph) : List String → String → Ancestry → Prop
  | root {visited : List String} {id : String} (hfeeder : g.feeder? id = none) :
      EndsAt g visited id .nothing
  | back {visited : List String} {id above : String} (hfeeder : g.feeder? id = some above)
      (hvisited : above ∈ visited) : EndsAt g visited id .cycle
  | object {visited : List String} {id : String} {n : Node} (hfeeder : g.feeder? id = some n.id)
      (hnew : n.id ∉ visited) (hn : g.node? n.id = some n) (hkind : n.kind = .object) :
      EndsAt g visited id (.object n)
  | on {visited : List String} {id : String} {n : Node} {a : Ancestry}
      (hfeeder : g.feeder? id = some n.id) (hnew : n.id ∉ visited) (hn : g.node? n.id = some n)
      (hkind : n.kind ≠ .object) (hrest : EndsAt g (n.id :: visited) n.id a) : EndsAt g visited id a

variable {visited : List String} {id : String} {a : Ancestry}

/-- A walk that may take more steps than there are edges left comes to its end. -/
lemma Valid.endsAt_ascend (hg : g.Valid) {steps : Nat} (hsteps : g.unvisited visited < steps) :
    g.EndsAt visited id (g.ascend steps visited id) := by
  induction steps generalizing visited id with
  | zero => exact absurd hsteps (Nat.not_lt_zero _)
  | succ steps ih =>
    rw [ascend]
    cases hfeeder : g.feeder? id with
    | none => exact .root hfeeder
    | some above =>
      obtain ⟨e, he, rfl, -⟩ := feeder?_eq_some hfeeder
      obtain ⟨n, hn, hid⟩ := hg.exists_source e he
      have hfound : g.node? e.source = some n := hg.node?_eq_some_iff.mpr ⟨hn, hid⟩
      rw [← hid] at hfeeder hfound
      dsimp only
      by_cases hvisited : visited.contains e.source = true
      · rw [if_pos hvisited]
        exact .back hfeeder (by simpa [hid] using hvisited)
      · -- The edge to a node that is new is one edge less for the rest of the walk.
        have hnew : e.source ∉ visited := by simpa using hvisited
        have hfewer := unvisited_cons_lt he hnew
        have hrest : g.EndsAt (e.source :: visited) e.source
            (g.ascend steps (e.source :: visited) e.source) := ih (by omega)
        rw [← hid] at hvisited hnew hrest ⊢
        rw [if_neg hvisited, hfound]
        dsimp only
        by_cases hkind : n.kind = .object
        · rw [if_pos (by simpa [Kind.providesTarget] using hkind)]
          exact .object hfeeder hnew hfound hkind
        · rw [if_neg (by simpa [Kind.providesTarget] using hkind)]
          exact .on hfeeder hnew hfound hkind hrest

/-- The walk upwards from a node ends, and it ends where the bounded one does. -/
lemma Valid.endsAt_ancestry (hg : g.Valid) (id : String) : g.EndsAt [id] id (g.ancestry id) :=
  hg.endsAt_ascend (Nat.lt_succ_of_le (g.unvisited_le [id]))

/-- Nothing feeds an Object. -/
lemma Valid.kind_ne_of_feeder? (hg : g.Valid) (hn : n ∈ g.nodes) {above : String}
    (hfeeder : g.feeder? n.id = some above) : n.kind ≠ .object := by
  obtain ⟨e, he, -, htarget⟩ := feeder?_eq_some hfeeder
  obtain ⟨m, hm, hid, hinput⟩ := hg.target e he
  rw [hg.node_ext hn hm (htarget ▸ hid.symm)]
  simpa [Kind.hasInput] using hinput

/-- A walk that ends at an Object went up to it step by step. -/
lemma EndsAt.climbs (hg : g.Valid) (hn : n ∈ g.nodes) (h : g.EndsAt visited n.id (.object o)) :
    ∃ k, g.Climbs (k + 1) n o := by
  generalize hid : n.id = id, ha : Ancestry.object o = a at h
  induction h generalizing n with
  | root => cases ha
  | back => cases ha
  | object hfeeder _ hfound hkind =>
    obtain rfl := Ancestry.object.inj ha
    exact ⟨0, .above hn (hg.kind_ne_of_feeder? hn (hid ▸ hfeeder)) (hid ▸ hfeeder)
      (.object (node?_eq_some hfound).1 hkind)⟩
  | on hfeeder _ hfound _ _ ih =>
    obtain ⟨k, hclimb⟩ := ih (node?_eq_some hfound).1 rfl ha
    exact ⟨k + 1, .above hn (hg.kind_ne_of_feeder? hn (hid ▸ hfeeder)) (hid ▸ hfeeder) hclimb⟩

/-- A walk below an Object ends at the Object, as long as it passed only nodes that are further below. -/
lemma EndsAt.eq_object (hg : g.Valid) (hclimb : g.Climbs (k + 1) n o)
    (hvisited : ∀ m ∈ g.nodes, m.id ∈ visited → ∃ j, k < j ∧ g.Climbs j m o)
    (h : g.EndsAt visited n.id a) : a = .object o := by
  generalize hid : n.id = id at h
  -- With each step the walk is one step nearer to the Object, and all that it passed lies further below.
  induction h generalizing n k with
  | root hfeeder =>
    cases hclimb with
    | above _ _ hfeeder' => rw [hid, hfeeder] at hfeeder'; cases hfeeder'
  | back hfeeder hback =>
    cases hclimb with
    | above _ _ hfeeder' hrest =>
      rw [hid, hfeeder, Option.some.injEq] at hfeeder'
      -- The node above would have two distances from the Object.
      obtain ⟨j, hj, hfurther⟩ := hvisited _ hrest.mem (hfeeder' ▸ hback)
      have hsame := (hrest.unique hg hfurther).1
      omega
  | object hfeeder _ hfound hkind =>
    cases hclimb with
    | above _ _ hfeeder' hrest =>
      rw [hid, hfeeder, Option.some.injEq] at hfeeder'
      obtain rfl := hg.node_ext (node?_eq_some hfound).1 hrest.mem hfeeder'
      rw [hrest.eq_object hkind]
  | on hfeeder _ hfound hkind _ ih =>
    cases hclimb with
    | above _ _ hfeeder' hrest =>
      rw [hid, hfeeder, Option.some.injEq] at hfeeder'
      obtain rfl := hg.node_ext (node?_eq_some hfound).1 hrest.mem hfeeder'
      obtain ⟨k, rfl⟩ := Nat.exists_eq_succ_of_ne_zero (hrest.pos hkind).ne'
      refine ih hrest (fun m hm hmem => ?_) rfl
      rcases List.mem_cons.mp hmem with heq | hmem
      · rw [hg.node_ext hm hrest.mem heq]
        exact ⟨_, Nat.lt_succ_self k, hrest⟩
      · obtain ⟨j, hj, hfurther⟩ := hvisited m hm hmem
        exact ⟨j, by omega, hfurther⟩

/-- The walk upwards ends at the Object that stands above the node, if there is one. -/
lemma Valid.ancestry_eq_object_iff (hg : g.Valid) (hn : n ∈ g.nodes) :
    g.ancestry n.id = .object o ↔ ∃ k, g.Climbs (k + 1) n o := by
  have hends := hg.endsAt_ancestry n.id
  constructor
  · intro h
    rw [h] at hends
    exact hends.climbs hg hn
  · rintro ⟨k, hclimb⟩
    refine hends.eq_object hg hclimb fun m hm hmem => ?_
    rw [hg.node_ext hm hn (List.mem_singleton.mp hmem)]
    exact ⟨k + 1, Nat.lt_succ_self k, hclimb⟩

end Graph

/-! ## Targets -/

/-- The target that an Object gives: its first class, with its classifiers if it has any. -/
def Node.Gives (o : Node) (t : Target) : Prop :=
  ∃ rest classifiers, o.payload = .object (.text t.label :: rest) (classifiers.map .text) ∧
    t.classifiers = if classifiers.isEmpty then none else some classifiers

namespace Graph

variable {g : Graph} {n o : Node} {id : String}

/-- The classes of all Objects are texts that are not empty, and their classifiers are texts. -/
def Classed (g : Graph) : Prop :=
  ∀ n ∈ g.nodes, ∀ classes classifiers, n.payload = .object classes classifiers →
    (∀ v ∈ classes, ∃ s, v = .text s ∧ s ≠ "") ∧ ∀ v ∈ classifiers, v.IsText

/-- What the target of a node is to be: the one that the Object above it gives, if there is such an Object.
A label cannot be half a character. -/
inductive Resolves (g : Graph) (n : Node) : Checked (Option Target) → Prop
  | target {k : Nat} {o : Node} {t : Target} (hclimb : g.Climbs (k + 1) n o) (hgives : o.Gives t)
      (hwhole : Text.Half.isIn t.label = false) : Resolves g n (ok (some t))
  | halved {k : Nat} {o : Node} {t : Target} (hclimb : g.Climbs (k + 1) n o) (hgives : o.Gives t)
      (hhalf : Text.Half.isIn t.label = true) :
      Resolves g n (broken [⟨[.field "label"], .plain "string_unicode"⟩])
  | nothing (hnone : ∀ k o t, g.Climbs (k + 1) n o → ¬ o.Gives t) : Resolves g n (ok none)

lemma Classed.label_ne (hclassed : g.Classed) (ho : o ∈ g.nodes) {t : Target} (hgives : o.Gives t) :
    t.label ≠ "" := by
  obtain ⟨rest, classifiers, hpayload, -⟩ := hgives
  obtain ⟨s, hs, hne⟩ := (hclassed o ho _ _ hpayload).1 _ List.mem_cons_self
  rwa [Value.text.inj hs]

/-- An Object gives a target unless it has no classes. -/
lemma Classed.gives_or_nil (hclassed : g.Classed) (ho : o ∈ g.nodes) (hkind : o.kind = .object) :
    (∃ t, o.Gives t) ∨ ∃ classifiers, o.payload = .object [] classifiers := by
  obtain ⟨objectId, label, position, payload⟩ := o
  cases payload with
  | object classes classifiers =>
    obtain ⟨hclasses, hclassifiers⟩ := hclassed _ ho _ _ rfl
    obtain ⟨ss, rfl⟩ := Value.exists_texts hclassifiers
    cases classes with
    | nil => exact .inr ⟨_, rfl⟩
    | cons v rest =>
      obtain ⟨s, rfl, -⟩ := hclasses v List.mem_cons_self
      exact .inl ⟨⟨s, _⟩, rest, ss, rfl, rfl⟩
  | _ => cases hkind

/-- Below an Object the target is the one that the Object gives, if its label can be read. -/
lemma resolveTarget_of_gives {t : Target} (hancestry : g.ancestry id = .object o) (hgives : o.Gives t) :
    g.resolveTarget id = (((Reader.name (.text t.label)).under (.field "label")).map
      (Target.mk · t.classifiers)).map some := by
  obtain ⟨objectId, label, position, payload⟩ := o
  obtain ⟨rest, ss, rfl, hclassifiers⟩ := hgives
  rw [resolveTarget, hancestry, hclassifiers]
  exact congrArg (Checked.map some) (Record.target_texts t.label ss)

lemma resolveTarget_of_nil {classifiers : List Value} (hancestry : g.ancestry id = .object o)
    (hpayload : o.payload = .object [] classifiers) : g.resolveTarget id = ok none := by
  obtain ⟨objectId, label, position, payload⟩ := o
  obtain rfl : payload = .object [] classifiers := hpayload
  rw [resolveTarget, hancestry]
  rfl

/-- There is something that the target of a node is to be. -/
lemma exists_resolves (g : Graph) (n : Node) : ∃ c, g.Resolves n c := by
  by_cases hgives : ∃ k o t, g.Climbs (k + 1) n o ∧ o.Gives t
  · obtain ⟨k, o, t, hclimb, hgives⟩ := hgives
    cases hhalf : Text.Half.isIn t.label with
    | true => exact ⟨_, .halved hclimb hgives hhalf⟩
    | false => exact ⟨_, .target hclimb hgives hhalf⟩
  · exact ⟨_, .nothing fun k o t hclimb hgiven => hgives ⟨k, o, t, hclimb, hgiven⟩⟩

/-- Whatever the target of a node is to be, it is. -/
lemma Resolves.resolveTarget_eq (hg : g.Valid) (hclassed : g.Classed) (hn : n ∈ g.nodes)
    {c : Checked (Option Target)} (h : g.Resolves n c) : g.resolveTarget n.id = c := by
  have hobject (o : Node) : g.ancestry n.id = .object o ↔ ∃ k, g.Climbs (k + 1) n o :=
    hg.ancestry_eq_object_iff hn
  cases h with
  | @target k o t hclimb hgives hwhole =>
    have hancestry := (hobject o).mpr ⟨k, hclimb⟩
    have hne := hclassed.label_ne (object_of_ascend hancestry).1 hgives
    have hlabel := Reader.name_text.mpr ⟨rfl, by simpa using hne, hwhole⟩
    rw [resolveTarget_of_gives hancestry hgives, hlabel]
    rfl
  | @halved k o t hclimb hgives hhalf =>
    rw [resolveTarget_of_gives ((hobject o).mpr ⟨k, hclimb⟩) hgives, Reader.name_half hhalf]
    rfl
  | nothing hnone =>
    by_cases habove : ∃ o, g.ancestry n.id = .object o
    · obtain ⟨o, hancestry⟩ := habove
      obtain ⟨k, hclimb⟩ := (hobject o).mp hancestry
      obtain ⟨ho, hkind⟩ := object_of_ascend hancestry
      rcases hclassed.gives_or_nil ho hkind with ⟨t, hgives⟩ | ⟨classifiers, hpayload⟩
      · exact absurd hgives (hnone k o t hclimb)
      · exact resolveTarget_of_nil hancestry hpayload
    · exact resolveTarget_of_ne_object fun o hancestry => habove ⟨o, hancestry⟩

/-- The walk upwards from a node ends, and it ends at an Object exactly if steps lead up to this Object. The
target of the node is the one that this Object gives, and there is none if there is no such Object or if
it gives none. -/
theorem Reachable.resolves (hg : g.Reachable) (hclassed : g.Classed) (hn : n ∈ g.nodes) :
    g.EndsAt [n.id] n.id (g.ancestry n.id) ∧
    (∀ o, g.ancestry n.id = .object o ↔ ∃ k, g.Climbs (k + 1) n o) ∧
    ∀ c, g.resolveTarget n.id = c ↔ g.Resolves n c := by
  refine ⟨hg.valid.endsAt_ancestry n.id, fun o => hg.valid.ancestry_eq_object_iff hn, fun c => ?_⟩
  constructor
  · rintro rfl
    obtain ⟨c, hc⟩ := g.exists_resolves n
    rwa [hc.resolveTarget_eq hg.valid hclassed hn]
  · exact fun h => h.resolveTarget_eq hg.valid hclassed hn

/-- An Object above a line above a zone, and two conditions in a circle. -/
def personAbove : Graph :=
  ⟨[⟨"o", "Object#1", origin, .object [.text "person", .text "car"] [.text "red"]⟩,
      ⟨"l", "Line#1", origin, .new .line⟩, ⟨"z", "Zone#1", origin, .new .zone⟩,
      ⟨"c", "Count#1", origin, .new .count⟩, ⟨"d", "Count#2", origin, .new .count⟩],
    [⟨"1", "o", "l"⟩, ⟨"2", "l", "z"⟩, ⟨"3", "c", "d"⟩, ⟨"4", "d", "c"⟩]⟩

lemma personAbove_classed : personAbove.Classed := by
  intro n hn classes classifiers hpayload
  fin_cases hn
  · obtain ⟨rfl, rfl⟩ := Payload.object.inj hpayload
    refine ⟨?_, by simp [Value.IsText]⟩
    simp only [List.forall_mem_cons]
    exact ⟨⟨"person", rfl, by decide⟩, ⟨"car", rfl, by decide⟩, by simp⟩
  all_goals cases hpayload

/-- The zone detects persons that are red, and the conditions detect anything. -/
theorem personAbove_resolves :
    personAbove.Reachable ∧ personAbove.Classed ∧
      personAbove.Resolves ⟨"z", "Zone#1", origin, .new .zone⟩ (ok (some ⟨"person", some ["red"]⟩)) ∧
      personAbove.resolveTarget "z" = ok (some ⟨"person", some ["red"]⟩) ∧
      personAbove.resolveTarget "c" = ok none := by
  have hreachable : personAbove.Reachable :=
    Reachable.empty.call (.extend personAbove.nodes personAbove.edges) ⟨Nat.repr, 0⟩
  have hzone : (⟨"z", "Zone#1", origin, .new .zone⟩ : Node) ∈ personAbove.nodes := by
    simp [personAbove]
  have htarget : personAbove.resolveTarget "z" = ok (some ⟨"person", some ["red"]⟩) := rfl
  have hresolves := (hreachable.resolves personAbove_classed hzone).2.2
  exact ⟨hreachable, personAbove_classed, (hresolves _).mp htarget, htarget, rfl⟩

/-- An Object with a class that is half a character, above a zone. -/
def halfClassed : Graph :=
  ⟨[⟨"o", "Object#1", origin, .object [.text (String.singleton (Text.Half.char Text.Half.first))] []⟩,
      ⟨"z", "Zone#1", origin, .new .zone⟩], [⟨"1", "o", "z"⟩]⟩

/-- The class is not empty, but no target has it for its label. -/
theorem halfClassed_unresolved :
    halfClassed.Reachable ∧ halfClassed.Classed ∧
      ∃ n ∈ halfClassed.nodes, ∀ found, halfClassed.resolveTarget n.id ≠ ok found := by
  refine ⟨Reachable.empty.call (.extend halfClassed.nodes halfClassed.edges) ⟨Nat.repr, 0⟩, ?_,
    ⟨"z", "Zone#1", origin, .new .zone⟩, by simp [halfClassed], ?_⟩
  · intro n hn classes classifiers hpayload
    fin_cases hn
    · obtain ⟨rfl, rfl⟩ := Payload.object.inj hpayload
      simp
    · cases hpayload
  · intro found
    exact broken_ne_ok

end Graph
end DetectionFlow
