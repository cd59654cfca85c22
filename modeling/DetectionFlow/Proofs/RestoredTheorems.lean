import DetectionFlow.Proofs.PlacementTheorems
import DetectionFlow.Proofs.SiftTheorems
import DetectionFlow.Proofs.SurvivingEdges

/-!
# The graph of saved entries

What `Saved.restoreNoted` yields, in one equation (`restoreNoted_eq`): the nodes of the placed
records, in their order, and of the edges from parents to children those that survive. The
connections themselves never fail, since a placed record below another one has a parent among the
nodes that is open to it (`link_ends`).

Fresh identifiers are those of an `IdSource` whose next identifiers differ from one another
(`IdSource.Fresh`).
-/

namespace DetectionFlow

/-! ## Fresh identifiers -/

namespace IdSource

/-- The source after so many draws. -/
def after (ids : IdSource) (n : Nat) : IdSource := { ids with used := ids.used + n }

/-- The next identifiers. -/
def next (ids : IdSource) : Nat → List String
  | 0 => []
  | n + 1 => ids.draw.1 :: next ids.draw.2 n

/-- The next identifiers, so many of them, differ from one another. -/
def Fresh (ids : IdSource) (n : Nat) : Prop := (ids.next n).Nodup

instance (ids : IdSource) (n : Nat) : Decidable (ids.Fresh n) :=
  inferInstanceAs (Decidable (List.Nodup _))

/-- Edges between given ends, with the next identifiers. -/
def edges : IdSource → List (String × String) → List Edge
  | _, [] => []
  | ids, (source, target) :: rest => ⟨ids.draw.1, source, target⟩ :: edges ids.draw.2 rest

@[simp] lemma edges_ids (ids : IdSource) (links : List (String × String)) :
    (ids.edges links).map (·.id) = ids.next links.length := by
  induction links generalizing ids with
  | nil => rfl
  | cons l rest ih => simp [edges, next, ih]

@[simp] lemma edges_ends (ids : IdSource) (links : List (String × String)) :
    (ids.edges links).map (fun e => (e.source, e.target)) = links := by
  induction links generalizing ids with
  | nil => rfl
  | cons l rest ih => simp [edges, ih]

lemma draw_after (ids : IdSource) (n : Nat) : ids.draw.2.after n = ids.after (n + 1) := by
  simp [draw, after, Nat.add_comm, Nat.add_left_comm]

lemma next_add (ids : IdSource) (m n : Nat) : ids.next (m + n) = ids.next m ++ (ids.after m).next n := by
  induction m generalizing ids with
  | zero =>
    rw [Nat.zero_add]
    rfl
  | succ m ih =>
    rw [Nat.succ_add, next, next, ih, draw_after, List.cons_append]

lemma Fresh.mono {ids : IdSource} {m n : Nat} (h : ids.Fresh n) (hle : m ≤ n) : ids.Fresh m := by
  refine h.sublist ?_
  clear h
  induction m generalizing ids n with
  | zero => exact List.nil_sublist _
  | succ m ih =>
    obtain ⟨k, rfl⟩ : ∃ k, n = k + 1 := ⟨n - 1, by omega⟩
    exact (ih (by omega)).cons_cons _

end IdSource

/-! ## Links between placed records -/

namespace Placed

/-- The link from the parent of a placed record to it. Those in the first row hang below none. -/
def link? (t : Placed) : Option (String × String) :=
  if t.row = 0 then none else t.record.parent.map (·, t.record.id)

/-- The links from parents to children, in the order of the children. -/
def links (placed : List Placed) : List (String × String) := placed.filterMap link?

lemma mem_links {placed : List Placed} {l : String × String} :
    l ∈ links placed ↔ ∃ t ∈ placed, t.row ≠ 0 ∧ t.record.parent = some l.1 ∧ t.record.id = l.2 := by
  unfold links
  rw [List.mem_filterMap]
  constructor
  · rintro ⟨t, ht, hlink⟩
    unfold link? at hlink
    split at hlink
    · simp at hlink
    next hrow =>
      obtain ⟨parent, hparent, rfl⟩ := Option.map_eq_some_iff.mp hlink
      exact ⟨t, ht, hrow, hparent, rfl⟩
  · rintro ⟨t, ht, hrow, hparent, hid⟩
    refine ⟨t, ht, ?_⟩
    rw [link?, if_neg hrow, hparent, hid]
    rfl

end Placed

namespace Saved

open Placed

/-! ## Connecting -/

/-- What it takes to connect a parent with a child in a graph. -/
structure Joins (nodes : List Node) (l : String × String) : Prop where
  source : ∃ n ∈ nodes, n.id = l.1 ∧ n.kind.hasOutput = true
  target : ∃ n ∈ nodes, n.id = l.2 ∧ n.kind.hasInput = true
  noLoop : l.1 ≠ l.2

/-- A record that is linked to its parent. -/
lemma connectOne_of_link {draft : Draft} {t : Placed} {l : String × String}
    (hnodes : (draft.graph.nodes.map (·.id)).Nodup) (hlink : t.link? = some l)
    (hjoins : Joins draft.graph.nodes l)
    (hnew : ∀ e ∈ draft.graph.edges, e.id ≠ draft.ids.draw.1) :
    connectOne draft t =
      ⟨if (draft.graph.outgoing? l.1).isSome then [.severalChildren l.1 l.2] else [],
        .ok ⟨draft.graph.insertEdge ⟨draft.ids.draw.1, l.1, l.2⟩, draft.ids.draw.2⟩⟩ := by
  unfold link? at hlink
  split at hlink
  · simp at hlink
  next hrow =>
    obtain ⟨parent, hparent, rfl⟩ := Option.map_eq_some_iff.mp hlink
    have hadmits : draft.graph.Admits ⟨(draft.ids.pick none).1, parent, t.record.id⟩ :=
      ⟨hjoins.source, hjoins.target, hjoins.noLoop, hnew⟩
    unfold connectOne
    simp only [hparent]
    rw [if_neg hrow, Graph.connect_of_admits hnodes hadmits]
    rfl

lemma connectOne_of_no_link {draft : Draft} {t : Placed} (hlink : t.link? = none) :
    connectOne draft t = ⟨[], .ok draft⟩ := by
  unfold link? at hlink
  unfold connectOne
  cases hparent : t.record.parent with
  | none => rfl
  | some parent =>
    by_cases hrow : t.row = 0
    · simp only [if_pos hrow]
      rfl
    · simp [hrow, hparent] at hlink

/-- Connecting all records one after the other inserts one edge for each link. Where all parents
differ, no connection replaces another, and nothing is said. -/
lemma foldlM_connectOne (placed : List Placed) (draft : Draft)
    (hnodes : (draft.graph.nodes.map (·.id)).Nodup)
    (hjoins : ∀ l ∈ links placed, Joins draft.graph.nodes l)
    (hids : (draft.graph.edges.map (·.id) ++ draft.ids.next (links placed).length).Nodup) :
    ∃ notices, placed.foldlM connectOne draft = ⟨notices,
        .ok ⟨(draft.ids.edges (links placed)).foldl Graph.insertEdge draft.graph,
          draft.ids.after (links placed).length⟩⟩ ∧
      ((draft.graph.edges.map (·.source) ++ (links placed).map (·.1)).Nodup → notices = []) := by
  induction placed generalizing draft with
  | nil => exact ⟨[], rfl, fun _ => rfl⟩
  | cons t rest ih =>
    rw [List.foldlM_cons]
    cases hlink : t.link? with
    | none =>
      have hlinks : links (t :: rest) = links rest := by simp [links, hlink]
      rw [hlinks] at hjoins hids ⊢
      rw [connectOne_of_no_link hlink, Noted.bind_of_ok rfl]
      obtain ⟨notices, hrest, hsilent⟩ := ih draft hnodes hjoins hids
      exact ⟨notices, by rw [hrest]; rfl, hsilent⟩
    | some l =>
      have hlinks : links (t :: rest) = l :: links rest := by simp [links, hlink]
      rw [hlinks] at hjoins hids ⊢
      rw [List.length_cons, IdSource.next] at hids
      have hnew : ∀ e ∈ draft.graph.edges, e.id ≠ draft.ids.draw.1 := by
        intro e he heq
        exact List.disjoint_of_nodup_append hids (List.mem_map_of_mem he) (by simp [heq])
      rw [connectOne_of_link hnodes hlink (hjoins l List.mem_cons_self) hnew,
        Noted.bind_of_ok rfl]
      -- What was inserted is behind the old edges, and what comes differs from all of it.
      have hinserted (α : Type) (f : Edge → α) (later : List α) :
          ((draft.graph.insertEdge ⟨draft.ids.draw.1, l.1, l.2⟩).edges.map f ++ later).Sublist
            (draft.graph.edges.map f ++ f ⟨draft.ids.draw.1, l.1, l.2⟩ :: later) := by
        rw [Graph.insertEdge, List.map_append, List.append_assoc]
        exact (List.eraseP_sublist.map _).append (List.Sublist.refl _)
      obtain ⟨notices, hrest, hsilent⟩ :=
        ih ⟨draft.graph.insertEdge ⟨draft.ids.draw.1, l.1, l.2⟩, draft.ids.draw.2⟩ hnodes
          (fun m hm => hjoins m (List.mem_cons_of_mem _ hm)) (hids.sublist (hinserted _ (·.id) _))
      dsimp only at hrest ⊢
      rw [hrest, IdSource.draw_after]
      refine ⟨_, rfl, fun hsources => ?_⟩
      rw [hsilent (hsources.sublist (hinserted _ (·.source) _)), List.append_nil, if_neg]
      rw [Graph.outgoing?, List.find?_isSome]
      rintro ⟨e, he, heq⟩
      refine List.disjoint_of_nodup_append hsources (List.mem_map_of_mem he) ?_
      simp only [decide_eq_true_eq] at heq
      simp [heq]

/-! ## Nodes -/

lemma hasInput_kind (b : Body) : b.kind.hasInput = true := by
  cases b <;> rfl

lemma kind_payloadOf {r : Record} {p : Payload} (h : (payloadOf r).result = .ok p) :
    p.kind = r.body.kind := by
  unfold payloadOf at h
  cases hbody : r.body with
  | alarm ext =>
    simp only [hbody] at h
    (repeat' split at h) <;> cases h <;> rfl
  | _ =>
    simp only [hbody] at h
    cases h
    rfl

/-- A node keeps identifier and kind of its record. -/
lemma nodeOf_ok {t : Placed} {n : Node} (h : (nodeOf t).result = .ok n) :
    n.id = t.record.id ∧ n.label = labelOf t.record ∧ n.kind = t.record.body.kind := by
  obtain ⟨payload, hpayload, h⟩ := Noted.bind_result_eq_ok.mp h
  obtain rfl := Except.ok.inj h
  exact ⟨rfl, rfl, kind_payloadOf hpayload⟩

lemma payload_of_nodeOf {t : Placed} {n : Node} (h : (nodeOf t).result = .ok n) :
    (payloadOf t.record).result = .ok n.payload := by
  obtain ⟨payload, hpayload, h⟩ := Noted.bind_result_eq_ok.mp h
  obtain rfl := Except.ok.inj h
  exact hpayload

/-! ## Roots and children -/

section Arranged

variable (entries : List Saved)

/-- The kept records that start a chain. -/
def roots : List Record := (kept entries).filter (isRoot (present entries) (kept entries))

/-- The kept records that hang below another one. -/
def children : List Record := (kept entries).filter (!isRoot (present entries) (kept entries) ·)

/-- Where the kept records are placed. -/
def placing : Progress := arrange (roots entries) (children entries)

lemma roots_append_children : (roots entries ++ children entries).Perm (kept entries) :=
  List.filter_append_perm _ _

lemma arranged_nodup : ((roots entries ++ children entries).map (·.id)).Nodup :=
  ((roots_append_children entries).map _).nodup_iff.mpr (kept_nodup entries)

/-- The kept records are those that are placed and those that wait. -/
lemma placing_perm :
    ((placing entries).placed.map (·.record) ++ (placing entries).waiting).Perm (kept entries) :=
  (arrange_perm _ _).trans (roots_append_children entries)

lemma placed_nodup : ((placing entries).placed.map (·.record.id)).Nodup := by
  have h := ((placing_perm entries).map (·.id)).nodup_iff.mpr (kept_nodup entries)
  rw [List.map_append, List.map_map] at h
  exact h.of_append_left

variable {entries}

lemma mem_kept_of_placed {t : Placed} (ht : t ∈ (placing entries).placed) :
    t.record ∈ kept entries :=
  (placing_perm entries).subset (List.mem_append_left _ (List.mem_map_of_mem ht))

lemma placed_length_le : (placing entries).placed.length ≤ entries.length := by
  have hkept : (kept entries).length ≤ entries.length :=
    kept_length_le entries
  have hperm := (placing_perm entries).length_eq
  rw [List.length_append, List.length_map] at hperm
  omega

lemma links_length_le (placed : List Placed) : (links placed).length ≤ placed.length :=
  List.length_filterMap_le _ _

/-- A record that hangs below another one has a kept parent that is open to it, or none is kept. -/
lemma hasOutput_of_child {r p : Record} (hr : r ∈ children entries) (hp : p ∈ kept entries)
    (hparent : r.parent = some p.id) : p.body.kind.hasOutput = true := by
  have hopen : closedParent? (kept entries) r = none := by
    have := (List.mem_filter.mp hr).2
    simp only [isRoot, Bool.not_or, Bool.and_eq_true, Bool.not_eq_true', Option.isSome_eq_false_iff,
      Option.isNone_iff_eq_none] at this
    exact this.2
  have hfind : parentAmong? (kept entries) r = some p := by
    rw [parentAmong?, hparent, Option.bind_some]
    exact find?_of_nodup (kept_nodup entries) hp
  rw [closedParent?, hfind, Option.bind_some] at hopen
  split at hopen
  · assumption
  · simp at hopen

/-- What is linked can be joined: the parent of a placed record is a different record, is placed
itself and has an output. -/
lemma joins_of_placed {nodes : List Node}
    (hnodes : List.Forall₂ (fun t n => (nodeOf t).result = .ok n) (placing entries).placed nodes) :
    ∀ l ∈ links (placing entries).placed, Joins nodes l := by
  rintro ⟨source, target⟩ hl
  obtain ⟨t, ht, hrow, hparent, hid⟩ := mem_links.mp hl
  dsimp only at hparent hid
  subst hid
  obtain ⟨hlevel, hle⟩ := arrange_row (arranged_nodup entries) ht
  obtain ⟨k, hk⟩ := Nat.exists_eq_succ_of_ne_zero hrow
  rw [hk] at hlevel hle
  obtain ⟨hchild, p, hp, hparent'⟩ := mem_level_succ.mp hlevel
  obtain rfl : source = p.id := Option.some.inj (hparent.symm.trans hparent')
  have hpKept : p ∈ kept entries := (roots_append_children entries).subset (mem_of_mem_level hp)
  -- The parent stands one level higher, so it is placed.
  have hpPlaced : p ∈ (placing entries).placed.map (·.record) := by
    rw [placing, arrange_placed (arranged_nodup entries), List.mem_flatMap]
    exact ⟨k, List.mem_range.mpr (by omega), hp⟩
  obtain ⟨s, hs, rfl⟩ := List.mem_map.mp hpPlaced
  obtain ⟨feeder, hfeeder, hfeederOk⟩ := exists_of_forall₂ hnodes hs
  obtain ⟨fed, hfed, hfedOk⟩ := exists_of_forall₂ hnodes ht
  obtain ⟨hfeederId, -, hfeederKind⟩ := nodeOf_ok hfeederOk
  obtain ⟨hfedId, -, hfedKind⟩ := nodeOf_ok hfedOk
  refine ⟨⟨feeder, hfeeder, hfeederId, ?_⟩, ⟨fed, hfed, hfedId, ?_⟩, ?_⟩
  · rw [hfeederKind]
    exact hasOutput_of_child hchild hpKept hparent'
  · rw [hfedKind]
    exact hasInput_kind t.record.body
  · intro heq
    have hsame : s.record = t.record :=
      List.inj_on_of_nodup_map (kept_nodup entries) hpKept (mem_kept_of_placed ht) heq
    have := level_unique (arranged_nodup entries) hp (hsame ▸ hlevel)
    omega

end Arranged

/-! ## The graph -/

section Graph

variable {entries : List Saved} {ids : IdSource}

/-- The edges of a restored graph: to every child one, where a later sibling does not replace it. -/
def restoredEdges (entries : List Saved) (ids : IdSource) : List Edge :=
  Edge.surviving (ids.edges (links (placing entries).placed))

/-- What is said about the shape of a list of entries before any node is made. -/
def shapeNotices (entries : List Saved) : List Notice :=
  (kept entries).filterMap (closedNotice? (present entries) (kept entries)) ++
    (placing entries).waiting.map fun r => .neverPlaced r.id (r.parent.getD "")

/-- Restoring up to the nodes. -/
lemma restoreNoted_start (hkeys : ∀ s ∈ entries, s.typeIsNoKey = false) :
    restoreNoted entries ids = (do
      Noted.tellAll ((sift entries).notices ++ shapeNotices entries)
      let nodes ← (placing entries).placed.mapM nodeOf
      let draft ← (placing entries).placed.foldlM connectOne ⟨⟨nodes, []⟩, ids⟩
      Noted.tellAll (targetNotices (kept entries))
      return (draft.graph, (sifted entries).dropped, (placing entries).waiting.map (·.id),
        draft.ids)) := by
  unfold restoreNoted
  rw [Noted.bind_of_ok (sift_ok hkeys), sifted_kept]
  simp only [Noted.tellAll_bind]
  rw [shapeNotices, List.append_assoc, List.append_assoc]
  rfl

/-- The nodes of placed records have distinct identifiers. -/
lemma nodeIds_nodup {nodes : List Node}
    (hnodes : List.Forall₂ (fun t n => (nodeOf t).result = .ok n) (placing entries).placed nodes) :
    (nodes.map (·.id)).Nodup := by
  rw [← map_eq_of_forall₂ (f := fun t : Placed => t.record.id) hnodes
    fun t n h => (nodeOf_ok h).1.symm]
  exact placed_nodup entries

/-- The graph of a list of entries that can all be restored: a node for each placed record, in their
order, and the edges between them. -/
theorem restoreNoted_eq (hkeys : ∀ s ∈ entries, s.typeIsNoKey = false) {nodes : List Node}
    (hnodes : List.Forall₂ (fun t n => (nodeOf t).result = .ok n) (placing entries).placed nodes)
    (hfresh : ids.Fresh entries.length) :
    ∃ connecting, restoreNoted entries ids =
        ⟨(sift entries).notices ++ shapeNotices entries ++
            (placing entries).placed.flatMap (fun t => (nodeOf t).notices) ++ connecting ++
            targetNotices (kept entries),
          .ok (⟨nodes, restoredEdges entries ids⟩, (sifted entries).dropped,
            (placing entries).waiting.map (·.id),
            ids.after (links (placing entries).placed).length)⟩ ∧
      (((links (placing entries).placed).map (·.1)).Nodup → connecting = []) := by
  have hids : (ids.next (links (placing entries).placed).length).Nodup :=
    hfresh.mono ((links_length_le _).trans placed_length_le)
  obtain ⟨connecting, hconnected, hsilent⟩ :=
    foldlM_connectOne (placing entries).placed ⟨⟨nodes, []⟩, ids⟩ (nodeIds_nodup hnodes)
      (joins_of_placed hnodes) (by simpa using hids)
  refine ⟨connecting, ?_, by simpa using hsilent⟩
  have hnotices : ((placing entries).placed.mapM nodeOf).notices =
      (placing entries).placed.flatMap fun t => (nodeOf t).notices := by
    refine Noted.mapM_notices fun t ht => ?_
    obtain ⟨n, -, hn⟩ := exists_of_forall₂ hnodes ht
    exact ⟨n, hn⟩
  rw [restoreNoted_start hkeys, Noted.tellAll_bind, Noted.bind_of_ok (Noted.mapM_eq_ok.mpr hnodes),
    hnotices, Noted.bind_of_ok (congrArg Noted.result hconnected), hconnected,
    Noted.tellAll_bind, Noted.pure_eq, Graph.foldl_insertEdge]
  simp only [restoredEdges, List.append_assoc, List.append_nil]

/-- Restoring fails exactly if the type of an entry is no key, or if a placed record makes no
node. -/
theorem restoreNoted_fails (hfresh : ids.Fresh entries.length) :
    (∃ e, (restoreNoted entries ids).result = .error e) ↔
      (∃ s ∈ entries, s.typeIsNoKey = true) ∨
        ∃ t ∈ (placing entries).placed, ∃ e, (nodeOf t).result = .error e := by
  by_cases hbad : ∃ s ∈ entries, s.typeIsNoKey = true
  · obtain ⟨e, he⟩ := sift_fails.mpr hbad
    exact iff_of_true ⟨e, by rw [restoreNoted, Noted.bind_of_error he]⟩ (.inl hbad)
  · have hkeys : ∀ s ∈ entries, s.typeIsNoKey = false := by simpa using hbad
    rw [or_iff_right hbad, ← Noted.mapM_fails]
    constructor
    · rintro ⟨e, he⟩
      by_contra hok
      cases hnodes : ((placing entries).placed.mapM nodeOf).result with
      | error e => exact hok ⟨e, hnodes⟩
      | ok nodes =>
        obtain ⟨connecting, heq, -⟩ :=
          restoreNoted_eq hkeys (Noted.mapM_eq_ok.mp hnodes) hfresh
        rw [heq] at he
        simp at he
    · rintro ⟨e, he⟩
      refine ⟨e, ?_⟩
      rw [restoreNoted_start hkeys, Noted.tellAll_bind, Noted.bind_of_error he]

end Graph

/-! ## Results -/

section Results

variable {entries : List Saved} {ids ids' : IdSource}

lemma restore_result_eq_ok {restored : Restored} :
    (restore entries ids).result = .ok (restored, ids') ↔
      (restoreNoted entries ids).result =
        .ok (restored.graph, restored.dropped, restored.unplaced, ids') ∧
      restored.warnings =
        ((restoreNoted entries ids).notices.filter (·.isWarning)).map (·.message) := by
  unfold restore
  cases hresult : (restoreNoted entries ids).result with
  | error e => simp [hresult, Except.map]
  | ok r =>
    obtain ⟨g, dropped, unplaced, after⟩ := r
    cases restored
    simp only [hresult, Except.map, Except.ok.injEq, Prod.mk.injEq, Restored.mk.injEq]
    constructor
    · rintro ⟨⟨rfl, rfl, rfl, rfl⟩, rfl⟩
      exact ⟨⟨rfl, rfl, rfl, rfl⟩, rfl⟩
    · rintro ⟨⟨rfl, rfl, rfl, rfl⟩, rfl⟩
      exact ⟨⟨rfl, rfl, rfl, rfl⟩, rfl⟩

lemma restore_fails {e : Failure} :
    (restore entries ids).result = .error e ↔ (restoreNoted entries ids).result = .error e := by
  unfold restore
  cases hresult : (restoreNoted entries ids).result <;> simp [hresult, Except.map]

/-- A restoration that did not fail went through all its steps. -/
lemma restoreNoted_eq_ok {g : Graph} {dropped unplaced : List String}
    (h : (restoreNoted entries ids).result = .ok (g, dropped, unplaced, ids')) :
    (∀ s ∈ entries, s.typeIsNoKey = false) ∧ ∃ nodes draft,
      List.Forall₂ (fun t n => (nodeOf t).result = .ok n) (placing entries).placed nodes ∧
      ((placing entries).placed.foldlM connectOne ⟨⟨nodes, []⟩, ids⟩).result = .ok draft ∧
      draft.graph = g ∧ dropped = (sifted entries).dropped ∧
      unplaced = (placing entries).waiting.map (·.id) := by
  have hkeys : ∀ s ∈ entries, s.typeIsNoKey = false := by
    by_contra hbad
    obtain ⟨e, he⟩ := sift_fails.mpr (by simpa using hbad)
    rw [restoreNoted, Noted.bind_of_error he] at h
    simp at h
  rw [restoreNoted_start hkeys, Noted.tellAll_bind] at h
  dsimp only at h
  obtain ⟨nodes, hnodes, h⟩ := Noted.bind_result_eq_ok.mp h
  obtain ⟨draft, hdraft, h⟩ := Noted.bind_result_eq_ok.mp h
  obtain ⟨hgraph, hrest⟩ := Prod.mk.inj (Except.ok.inj h)
  obtain ⟨hdropped, hrest⟩ := Prod.mk.inj hrest
  obtain ⟨hunplaced, -⟩ := Prod.mk.inj hrest
  exact ⟨hkeys, nodes, draft, Noted.mapM_eq_ok.mp hnodes, hdraft, hgraph, hdropped.symm,
    hunplaced.symm⟩

end Results

end Saved
end DetectionFlow
