import DetectionFlow.Proofs.BrokenEntries
import DetectionFlow.Proofs.ReachableGraphs

/-!
# The edges of a document

A document may list several edges from one node, and its graph has the last of them. The graph of a document
has the nodes of the document in their order, and of its edges those that no later edge from the same source
follows, in their order too (`Document.Depicts`).

The edges are connected one after the other, and what one of them meets depends on all before it. It is
refused if it can never be connected, or if its identifier is that of an edge that is still there. Both can
be told from the entries alone (`EdgeEntry.Breaks`), and nothing else keeps a document whose nodes can be
made from becoming a graph (`Document.Accepted.depicts`).
-/

namespace DetectionFlow

/-! ## Identifiers of entries -/

namespace EdgeEntry

/-- The identifier that an entry gives to its edge. The empty one counts as none. -/
def ownId? (e : EdgeEntry) : Option String := e.id.filter fun id => !id.isEmpty

/-- How many identifiers are drawn for the edges of some entries. -/
def draws (es : List EdgeEntry) : Nat := es.countP (·.ownId?.isNone)

lemma draws_append (es fs : List EdgeEntry) : draws (es ++ fs) = draws es + draws fs :=
  List.countP_append

end EdgeEntry

namespace IdSource

open EdgeEntry

variable {ids : IdSource} {es : List EdgeEntry} {e : EdgeEntry}

lemma pick_of_ownId? {id : String} (h : e.ownId? = some id) : ids.pick e.id = (id, ids) := by
  obtain ⟨hid, hnamed⟩ := Option.filter_eq_some_iff.mp h
  rw [hid]
  exact if_neg (by simpa using hnamed)

lemma pick_of_ownId?_eq_none (h : e.ownId? = none) : ids.pick e.id = ids.draw := by
  unfold pick
  cases hid : e.id with
  | none => rfl
  | some id =>
    rw [ownId?, hid, Option.filter_some] at h
    cases hempty : id.isEmpty with
    | true => exact if_pos hempty
    | false =>
      rw [hempty] at h
      cases h

/-- The edge of an entry, with a fresh identifier if the entry gives none. -/
def edgeOf (ids : IdSource) (e : EdgeEntry) : Edge := ⟨(ids.pick e.id).1, e.source, e.target⟩

/-- The edges of entries. Each that has no identifier of its own takes the next fresh one. -/
def edgesOf : IdSource → List EdgeEntry → List Edge
  | _, [] => []
  | ids, e :: rest => ids.edgeOf e :: edgesOf (ids.pick e.id).2 rest

/-- The source after the edges of some entries took their identifiers. -/
def afterEdges (ids : IdSource) (es : List EdgeEntry) : IdSource := ids.after (draws es)

lemma pick_after (e : EdgeEntry) (n : Nat) :
    (ids.pick e.id).2.after n = ids.after (draws [e] + n) := by
  cases hid : e.ownId? with
  | some id =>
    rw [pick_of_ownId? hid]
    simp [draws, hid]
  | none =>
    rw [pick_of_ownId?_eq_none hid, draw_after]
    simp [draws, hid, Nat.add_comm]

lemma pick_next (e : EdgeEntry) (n : Nat) :
    ids.next (draws [e] + n) = ids.next (draws [e]) ++ (ids.pick e.id).2.next n := by
  rw [next_add]
  exact congrArg (fun source => ids.next (draws [e]) ++ source.next n) (pick_after e 0).symm

lemma edgesOf_append (es fs : List EdgeEntry) :
    ids.edgesOf (es ++ fs) = ids.edgesOf es ++ (ids.afterEdges es).edgesOf fs := by
  induction es generalizing ids with
  | nil => rfl
  | cons e rest ih =>
    have hafter : (ids.pick e.id).2.afterEdges rest = ids.afterEdges (e :: rest) := by
      rw [afterEdges, pick_after, ← draws_append]
      rfl
    rw [List.cons_append, edgesOf, ih, hafter]
    rfl

lemma any_edgesOf (source : String) :
    (ids.edgesOf es).any (·.source = source) = es.any (·.source = source) := by
  induction es generalizing ids with
  | nil => rfl
  | cons e rest ih =>
    rw [edgesOf, List.any_cons, List.any_cons, ih]
    rfl

/-- An edge has the identifier that its entry gives, or a fresh one. -/
lemma id_of_mem_edgesOf {f : Edge} (hf : f ∈ ids.edgesOf es) :
    (∃ e ∈ es, e.ownId? = some f.id) ∨ f.id ∈ ids.next (draws es) := by
  induction es generalizing ids with
  | nil => cases hf
  | cons e rest ih =>
    have hdraws : draws (e :: rest) = draws [e] + draws rest := draws_append [e] rest
    rw [hdraws, pick_next, List.mem_append]
    rcases List.mem_cons.mp hf with rfl | hf
    · cases hid : e.ownId? with
      | some id =>
        refine .inl ⟨e, List.mem_cons_self, ?_⟩
        rw [edgeOf, pick_of_ownId? hid, hid]
      | none =>
        refine .inr (.inl ?_)
        rw [edgeOf, pick_of_ownId?_eq_none hid]
        simp [draws, hid, next]
    · rcases ih hf with ⟨g, hg, hid⟩ | hfresh
      · exact .inl ⟨g, List.mem_cons_of_mem _ hg, hid⟩
      · exact .inr (.inr hfresh)

/-- The identifiers that are drawn for the edges of entries differ from one another and from those that
entries give. -/
structure FreshBeside (ids : IdSource) (es : List EdgeEntry) : Prop where
  distinct : ids.Fresh (draws es)
  given : ∀ id ∈ ids.next (draws es), ∀ e ∈ es, e.ownId? ≠ some id

end IdSource

/-! ## Entries that cannot be connected -/

namespace EdgeEntry

/-- The identifier is that of an edge which no later one has replaced. -/
def Uses (es : List EdgeEntry) (id : String) : Prop :=
  ∃ earlier f later, es = earlier ++ f :: later ∧ f.ownId? = some id ∧
    ∀ g ∈ later, g.source ≠ f.source

/-- Why an edge cannot be connected behind others. -/
inductive Breaks (nodes : List NodeEntry) (before : List EdgeEntry) (e : EdgeEntry) : Prop
  | loop (h : e.source = e.target)
  /-- Nothing leaves an alarm. -/
  | output {n : NodeEntry} (hn : n ∈ nodes) (hid : n.id = e.source) (hkind : n.kind = .alarm)
  /-- Nothing enters an Object. -/
  | input {n : NodeEntry} (hn : n ∈ nodes) (hid : n.id = e.target) (hkind : n.kind = .object)
  | taken {id : String} (hid : e.ownId? = some id) (huses : Uses before id)

lemma uses_cons {e : EdgeEntry} {rest : List EdgeEntry} {id : String} :
    Uses (e :: rest) id ↔
      Uses rest id ∨ e.ownId? = some id ∧ ∀ g ∈ rest, g.source ≠ e.source := by
  constructor
  · rintro ⟨earlier, f, later, heq, hid, hlast⟩
    cases earlier with
    | nil =>
      obtain ⟨rfl, rfl⟩ := List.cons.inj heq
      exact .inr ⟨hid, hlast⟩
    | cons b earlier =>
      obtain ⟨rfl, rfl⟩ := List.cons.inj heq
      exact .inl ⟨earlier, f, later, rfl, hid, hlast⟩
  · rintro (⟨earlier, f, later, rfl, hid, hlast⟩ | ⟨hid, hlast⟩)
    · exact ⟨e :: earlier, f, later, rfl, hid, hlast⟩
    · exact ⟨[], e, rest, rfl, hid, hlast⟩

/-- What identifiers the surviving edges have can be told from their entries, fresh ones apart. -/
lemma uses_iff {ids : IdSource} {es : List EdgeEntry} {id : String}
    (hgiven : id ∉ ids.next (draws es)) :
    Uses es id ↔ ∃ f ∈ Edge.surviving (ids.edgesOf es), f.id = id := by
  induction es generalizing ids with
  | nil => simp [Uses, IdSource.edgesOf, Edge.surviving]
  | cons e rest ih =>
    have hdraws : draws (e :: rest) = draws [e] + draws rest := draws_append [e] rest
    rw [hdraws, IdSource.pick_next, List.mem_append, not_or] at hgiven
    have hedge : e.ownId? = some id ↔ (ids.edgeOf e).id = id := by
      cases hid : e.ownId? with
      | some own => simp [IdSource.edgeOf, IdSource.pick_of_ownId? hid]
      | none =>
        have hdrawn : id ≠ ids.draw.1 := by simpa [draws, hid, IdSource.next] using hgiven.1
        simp [IdSource.edgeOf, IdSource.pick_of_ownId?_eq_none hid, hdrawn.symm]
    have hlast : (∀ g ∈ rest, g.source ≠ e.source) ↔
        ¬ ((ids.pick e.id).2.edgesOf rest).any (·.source = (ids.edgeOf e).source) = true := by
      rw [IdSource.any_edgesOf, Bool.not_eq_true, List.any_eq_false]
      exact forall₂_congr fun g _ => not_congr decide_eq_true_iff.symm
    rw [uses_cons, ih hgiven.2, hedge, hlast, IdSource.edgesOf, Edge.surviving]
    split
    next hlater => simp [hlater]
    next hlater => simp [hlater, or_comm]

end EdgeEntry

open Checked Editing DetectionFlow.Graph

/-! ## Nodes of a document -/

/-- The node that an entry makes. Without a label it gets one of its own. -/
structure NodeEntry.Makes (n : NodeEntry) (m : Node) : Prop where
  id : m.id = n.id
  kind : m.kind = n.kind
  label : ∀ label, n.label = some label → m.label = label
  position : m.position = [.float n.x, .float n.y]
  payload : n.payload = .ok m.payload

namespace Document

/-- What a document was checked for when it was read: its nodes have identifiers, these are distinct, and
edges join nodes. -/
structure Accepted (d : Document) : Prop where
  named : ∀ n ∈ d.nodes, n.id.isEmpty = false
  ids : (d.nodes.map (·.id)).Nodup
  ends : ∀ e ∈ d.edges, d.danglingEnd? e = none

lemma accepted_of_read {d : Document} {v : Value} (h : read v = ok d) : d.Accepted := by
  obtain ⟨hnamed, hids⟩ := ids_of_read h
  obtain ⟨d', -, hcheck⟩ := andThen_eq_ok.mp h
  obtain ⟨-, hends, rfl⟩ := checkReferences_eq_ok.mp hcheck
  exact ⟨hnamed, hids, hends⟩

variable {n : NodeEntry} {ns : List NodeEntry} {nodes : List Node} {ids : IdSource}
  {before es : List EdgeEntry} {e : EdgeEntry} {d : Draft}

/-- A payload that was made for an entry is of its kind. -/
lemma kind_of_payload {p : Payload} (h : n.payload = .ok p) : p.kind = n.kind := by
  unfold NodeEntry.payload at h
  split at h
  · cases h
  · split at h
    next hbuild =>
      obtain rfl := Except.ok.inj h
      rw [kind_update hbuild, Payload.kind_new]
    next => cases h

lemma makes_nodeIn {p : Payload} (g : Graph) (h : n.payload = .ok p) : n.Makes (n.nodeIn g p) where
  id := rfl
  kind := kind_of_payload h
  label label hlabel := by rw [NodeEntry.nodeIn, hlabel, Option.getD_some]
  position := rfl
  payload := h

/-- Entries whose payloads can be made add their nodes, one behind the other. -/
lemma leads_addEntries_of_payload (hnamed : ∀ n ∈ ns, n.id.isEmpty = false)
    (hids : (ns.map (·.id)).Nodup) (hfresh : ∀ n ∈ ns, d.graph.hasNode n.id = false)
    (hpayload : ∀ n ∈ ns, ∃ p, n.payload = .ok p) :
    ∃ made, List.Forall₂ NodeEntry.Makes ns made ∧
      (addEntries ns).Leads d () ⟨⟨d.graph.nodes ++ made, d.graph.edges⟩, d.ids⟩ := by
  induction ns generalizing d with
  | nil =>
    refine ⟨[], .nil, ?_⟩
    rw [List.append_nil]
    exact leads_done () d
  | cons n rest ih =>
    rw [List.forall_mem_cons] at hnamed hfresh hpayload
    rw [List.map_cons, List.nodup_cons] at hids
    obtain ⟨p, hp⟩ := hpayload.1
    have hadd : (addEntry n).Leads d ()
        ⟨⟨d.graph.nodes ++ [n.nodeIn d.graph p], d.graph.edges⟩, d.ids⟩ := by
      rcases addEntry_outcome hnamed.1 hfresh.1 with ⟨e, he, -⟩ | ⟨q, hq, hadd⟩
      · cases hp.symm.trans he
      · rwa [Except.ok.inj (hp.symm.trans hq)]
    obtain ⟨made, hmade, hrest⟩ :=
      ih (d := ⟨⟨d.graph.nodes ++ [n.nodeIn d.graph p], d.graph.edges⟩, d.ids⟩) hnamed.2 hids.2
        (hasNode_beside_nodeIn p d.graph.edges hids.1 hfresh.2) hpayload.2
    refine ⟨n.nodeIn d.graph p :: made, .cons (makes_nodeIn d.graph hp) hmade, ?_⟩
    rw [List.append_assoc] at hrest
    exact hadd.bind hrest

/-- If entries add their nodes at all, their payloads can be made. -/
lemma payload_of_addEntries (hnamed : ∀ n ∈ ns, n.id.isEmpty = false) (hids : (ns.map (·.id)).Nodup)
    (hfresh : ∀ n ∈ ns, d.graph.hasNode n.id = false) (h : (addEntries ns d).result = .ok ()) :
    ∀ n ∈ ns, ∃ p, n.payload = .ok p := by
  rw [addEntries_result hnamed hids hfresh] at h
  cases hall : ns.mapM NodeEntry.payload with
  | error e =>
    rw [hall] at h
    cases h
  | ok payloads =>
    intro n hn
    obtain ⟨p, -, hp⟩ := exists_of_forall₂ (Except.mapM_eq_ok.mp hall) hn
    exact ⟨p, hp⟩

lemma ids_of_makes (h : List.Forall₂ NodeEntry.Makes ns nodes) : nodes.map (·.id) = ns.map (·.id) := by
  induction h with
  | nil => rfl
  | cons hmakes _ ih => rw [List.map_cons, List.map_cons, ih, hmakes.id]

/-- A document that has a graph has all its nodes. -/
lemma addEntries_of_toGraph {d : Document} {draft : Draft} (h : d.toGraph ids = .ok draft) :
    (addEntries d.nodes ⟨empty, ids⟩).result = .ok () := by
  obtain ⟨_, hnodes, -⟩ := bind_result_eq_ok.mp (toGraph_eq_ok.mp h).result
  exact hnodes

/-- A kind stands under an identifier among the nodes as it does among their entries. -/
lemma exists_kind_iff (hnodes : List.Forall₂ NodeEntry.Makes ns nodes) {id : String}
    {P : Kind → Prop} :
    (∃ m ∈ nodes, m.id = id ∧ P m.kind) ↔ ∃ n ∈ ns, n.id = id ∧ P n.kind := by
  constructor
  · rintro ⟨m, hm, rfl, hP⟩
    obtain ⟨n, hn, hmakes⟩ := exists_of_forall₂ hnodes.flip hm
    exact ⟨n, hn, hmakes.id.symm, hmakes.kind ▸ hP⟩
  · rintro ⟨n, hn, rfl, hP⟩
    obtain ⟨m, hm, hmakes⟩ := exists_of_forall₂ hnodes hn
    exact ⟨m, hm, hmakes.id, hmakes.kind.symm ▸ hP⟩

/-- Under an identifier stands one kind only. -/
lemma exists_kind_iff_not (hids : (ns.map (·.id)).Nodup) {id : String} (hid : ∃ n ∈ ns, n.id = id)
    {P : Kind → Prop} :
    (∃ n ∈ ns, n.id = id ∧ P n.kind) ↔ ¬ ∃ n ∈ ns, n.id = id ∧ ¬ P n.kind := by
  constructor
  · rintro ⟨n, hn, hn', hP⟩ ⟨m, hm, hm', hnot⟩
    rw [List.inj_on_of_nodup_map hids hm hn (hm'.trans hn'.symm)] at hnot
    exact hnot hP
  · intro hnone
    obtain ⟨n, hn, hn'⟩ := hid
    by_contra hno
    exact hnone ⟨n, hn, hn', fun hP => hno ⟨n, hn, hn', hP⟩⟩

/-! ## Edges one by one -/

/-- The draft after the edges of some entries were connected. -/
def joined (nodes : List Node) (ids : IdSource) (es : List EdgeEntry) : Draft :=
  ⟨⟨nodes, Edge.surviving (ids.edgesOf es)⟩, ids.afterEdges es⟩

lemma joined_append_singleton (nodes : List Node) (ids : IdSource) (es : List EdgeEntry)
    (e : EdgeEntry) :
    joined nodes ids (es ++ [e]) =
      ⟨(joined nodes ids es).graph.insertEdge ((ids.afterEdges es).edgeOf e),
        ((ids.afterEdges es).pick e.id).2⟩ := by
  have hedges : ids.edgesOf (es ++ [e]) = ids.edgesOf es ++ [(ids.afterEdges es).edgeOf e] :=
    IdSource.edgesOf_append es [e]
  have hafter : ids.afterEdges (es ++ [e]) = ((ids.afterEdges es).pick e.id).2 := by
    have hpick : ((ids.afterEdges es).pick e.id).2.after 0 = _ := IdSource.pick_after e 0
    rw [IdSource.afterEdges, EdgeEntry.draws_append]
    calc ids.after (EdgeEntry.draws es + EdgeEntry.draws [e])
        = (ids.afterEdges es).after (EdgeEntry.draws [e] + 0) := by
          simp [IdSource.afterEdges, IdSource.after, Nat.add_assoc]
      _ = ((ids.afterEdges es).pick e.id).2 := hpick.symm
  rw [joined, hafter, hedges, ← foldl_insertEdge, List.foldl_append, foldl_insertEdge]
  rfl

/-- The graph to which an edge is added behind others admits it. -/
def AdmitsNext (nodes : List Node) (ids : IdSource) (before : List EdgeEntry) (e : EdgeEntry) : Prop :=
  (joined nodes ids before).graph.Admits ((ids.afterEdges before).edgeOf e)

/-- The next edge is connected or refused. -/
lemma connect_joined (hnodes : (nodes.map (·.id)).Nodup) (before : List EdgeEntry) (e : EdgeEntry) :
    (AdmitsNext nodes ids before e ∧ ∃ edge, (connect e.source e.target e.id).Leads
        (joined nodes ids before) edge (joined nodes ids (before ++ [e]))) ∨
      (¬ AdmitsNext nodes ids before e ∧
        ∃ g, (connect e.source e.target e.id (joined nodes ids before)).result = .error (.graph g)) := by
  by_cases hadmits : AdmitsNext nodes ids before e
  · have hconnect := connect_of_admits (d := joined nodes ids before) hnodes hadmits
    refine .inl ⟨hadmits, _, congrArg Edit.draft hconnect |>.trans ?_, congrArg Edit.result hconnect⟩
    rw [joined_append_singleton]
    rfl
  · refine .inr ⟨hadmits, ?_⟩
    rcases connect_outcome (joined nodes ids before) e.source e.target e.id with hrefused | hmade
    · obtain ⟨f, hf⟩ := hrefused.failed
      obtain ⟨g, rfl⟩ := rejects_connect e.source e.target e.id _ f hf
      exact ⟨g, hf⟩
    · obtain ⟨⟨id, source, target⟩, rfl, rfl, rfl, hadmitted, -⟩ := hmade
      exact absurd hadmitted hadmits

/-- The edges are connected up to the first one that is refused. -/
lemma connectEntries_joined (hnodes : (nodes.map (·.id)).Nodup) (before es : List EdgeEntry) :
    ((∀ between e after, es = between ++ e :: after → AdmitsNext nodes ids (before ++ between) e) ∧
        (connectEntries es).Leads (joined nodes ids before) () (joined nodes ids (before ++ es))) ∨
      ((∃ between e after, es = between ++ e :: after ∧ ¬ AdmitsNext nodes ids (before ++ between) e) ∧
        ∃ g, (connectEntries es (joined nodes ids before)).result = .error (.graph g)) := by
  -- The edges that are connected already stand in `before`, so that the next one is judged behind them.
  induction es generalizing before with
  | nil =>
    refine .inl ⟨by simp, ?_⟩
    rw [List.append_nil]
    exact leads_done () _
  | cons e rest ih =>
    rcases @connect_joined nodes ids hnodes before e with
      ⟨hadmits, edge, hconnect⟩ | ⟨hrefuses, g, hfails⟩
    · rcases ih (before ++ [e]) with ⟨hall, hrest⟩ | ⟨⟨between, f, after, hsplit, hf⟩, g, hfails⟩
      · refine .inl ⟨fun between f after hsplit => ?_, ?_⟩
        · cases between with
          | nil =>
            obtain ⟨rfl, rfl⟩ := List.cons.inj hsplit
            rwa [List.append_nil]
          | cons b between =>
            obtain ⟨rfl, rfl⟩ := List.cons.inj hsplit
            have := hall between f after rfl
            rwa [List.append_assoc] at this
        · rw [List.append_assoc] at hrest
          exact hconnect.bind hrest
      · refine .inr ⟨⟨e :: between, f, after, congrArg (e :: ·) hsplit, ?_⟩, g, ?_⟩
        · rwa [List.append_assoc] at hf
        · refine bind_result_eq_error.mpr (.inr ⟨edge, hconnect.result, ?_⟩)
          rwa [hconnect.draft]
    · refine .inr ⟨⟨[], e, rest, rfl, ?_⟩, g, bind_result_eq_error.mpr (.inl hfails)⟩
      rwa [List.append_nil]

/-- No edge before the next one has its identifier, unless the next one takes one that is used. -/
lemma newId_iff {after : List EdgeEntry} (hfresh : ids.FreshBeside (before ++ e :: after)) :
    (∀ other ∈ Edge.surviving (ids.edgesOf before), other.id ≠ ((ids.afterEdges before).edgeOf e).id) ↔
      ¬ ∃ id, e.ownId? = some id ∧ EdgeEntry.Uses before id := by
  have hdraws : EdgeEntry.draws (before ++ e :: after) =
      EdgeEntry.draws before + (EdgeEntry.draws [e] + EdgeEntry.draws after) := by
    rw [EdgeEntry.draws_append, ← EdgeEntry.draws_append [e] after]
    rfl
  have hnext := ids.next_add (EdgeEntry.draws before) (EdgeEntry.draws [e] + EdgeEntry.draws after)
  rw [← hdraws] at hnext
  cases hid : e.ownId? with
  | some id =>
    -- What was drawn for earlier edges is given by no entry, so only given identifiers count.
    have hgiven : id ∉ ids.next (EdgeEntry.draws before) := by
      intro hdrawn
      refine hfresh.given id ?_ e (by simp) hid
      rw [hnext]
      exact List.mem_append_left _ hdrawn
    rw [IdSource.edgeOf, IdSource.pick_of_ownId? hid]
    simp [EdgeEntry.uses_iff hgiven]
  | none =>
    -- The identifier is drawn now, and no earlier edge has it.
    have hdrawn : (ids.afterEdges before).draw.1 ∈
        (ids.after (EdgeEntry.draws before)).next (EdgeEntry.draws [e] + EdgeEntry.draws after) := by
      have hone : EdgeEntry.draws [e] = 1 := by simp [EdgeEntry.draws, hid]
      rw [hone, Nat.add_comm, IdSource.next]
      exact List.mem_cons_self
    refine iff_of_true (fun other hother => ?_) (by simp)
    rw [IdSource.edgeOf, IdSource.pick_of_ownId?_eq_none hid]
    rcases IdSource.id_of_mem_edgesOf ((Edge.surviving_sublist _).subset hother) with
      ⟨f, hf, hown⟩ | hearlier
    · rintro heq
      refine hfresh.given _ ?_ f (List.mem_append_left _ hf) hown
      rw [heq, hnext]
      exact List.mem_append_right _ hdrawn
    · intro heq
      have hdistinct := hfresh.distinct
      rw [IdSource.Fresh, hnext] at hdistinct
      exact List.disjoint_of_nodup_append hdistinct hearlier (heq ▸ hdrawn)

/-- The next edge is admitted exactly if nothing is wrong with its entry. -/
lemma admitsNext_iff {after : List EdgeEntry} (hnodes : List.Forall₂ NodeEntry.Makes ns nodes)
    (hids : (ns.map (·.id)).Nodup) (hsource : ∃ n ∈ ns, n.id = e.source)
    (htarget : ∃ n ∈ ns, n.id = e.target) (hfresh : ids.FreshBeside (before ++ e :: after)) :
    AdmitsNext nodes ids before e ↔ ¬ e.Breaks ns before := by
  have houtput := (exists_kind_iff hnodes (P := fun k => k.hasOutput = true)).trans
    (exists_kind_iff_not hids hsource (P := fun k => k.hasOutput = true))
  have hinput := (exists_kind_iff hnodes (P := fun k => k.hasInput = true)).trans
    (exists_kind_iff_not hids htarget (P := fun k => k.hasInput = true))
  constructor
  · intro hadmits hbreaks
    cases hbreaks with
    | loop h => exact hadmits.noLoop h
    | output hn hid hkind => exact houtput.mp hadmits.source ⟨_, hn, hid, by simp [hkind, Kind.hasOutput]⟩
    | input hn hid hkind => exact hinput.mp hadmits.target ⟨_, hn, hid, by simp [hkind, Kind.hasInput]⟩
    | taken hid huses => exact (newId_iff hfresh).mp hadmits.newId ⟨_, hid, huses⟩
  · intro hgood
    refine ⟨houtput.mpr ?_, hinput.mpr ?_, fun h => hgood (.loop h), (newId_iff hfresh).mpr ?_⟩
    · rintro ⟨n, hn, hid, hkind⟩
      exact hgood (.output hn hid (by simpa [Kind.hasOutput] using hkind))
    · rintro ⟨n, hn, hid, hkind⟩
      exact hgood (.input hn hid (by simpa [Kind.hasInput] using hkind))
    · rintro ⟨id, hid, huses⟩
      exact hgood (.taken hid huses)

/-! ## The graph of a document -/

/-- The graph has the nodes of the document in their order, and of its edges those that no later edge from
the same source follows, in their order. So the first surviving edge into a node is the one that counts. -/
structure Depicts (d : Document) (ids : IdSource) (g : Graph) : Prop where
  nodes : List.Forall₂ NodeEntry.Makes d.nodes g.nodes
  edges : g.edges = Edge.surviving (ids.edgesOf d.edges)
  feeder : ∀ id, g.feeder? id =
    ((Edge.surviving (ids.edgesOf d.edges)).find? (·.target = id)).map (·.source)

/-- Some edge of the document cannot be connected behind those before it. -/
def Breaks (d : Document) : Prop :=
  ∃ before e after, d.edges = before ++ e :: after ∧ e.Breaks d.nodes before

lemma depicts_joined {d : Document} (hnodes : List.Forall₂ NodeEntry.Makes d.nodes nodes) :
    d.Depicts ids (joined nodes ids d.edges).graph where
  nodes := hnodes
  edges := rfl
  feeder id := by rw [feeder?, incoming, List.head?_filter]; rfl

/-- Once the nodes of a document are made, its graph is made too, or one of its edges is refused. -/
lemma Accepted.toGraph_outcome {d : Document} (hd : d.Accepted)
    (hpayload : ∀ n ∈ d.nodes, ∃ p, n.payload = .ok p) (ids : IdSource) :
    ∃ nodes, List.Forall₂ NodeEntry.Makes d.nodes nodes ∧
      ((∀ before e after, d.edges = before ++ e :: after → AdmitsNext nodes ids before e) ∧
          d.toGraph ids = .ok (joined nodes ids d.edges) ∨
        (∃ before e after, d.edges = before ++ e :: after ∧ ¬ AdmitsNext nodes ids before e) ∧
          ∃ g, d.toGraph ids = .error (.graph g)) := by
  obtain ⟨nodes, hmakes, hnodes⟩ := leads_addEntries_of_payload (d := ⟨empty, ids⟩) hd.named hd.ids
    (fun _ _ => rfl) hpayload
  refine ⟨nodes, hmakes, ?_⟩
  have hids : (nodes.map (·.id)).Nodup := by
    rw [ids_of_makes hmakes]
    exact hd.ids
  rcases connectEntries_joined hids [] d.edges with ⟨hall, hedges⟩ | ⟨hsome, g, hedges⟩
  · have hinsert : d.insert.Leads ⟨empty, ids⟩ () (joined nodes ids d.edges) := hnodes.bind hedges
    exact .inl ⟨hall, toGraph_eq_ok.mpr hinsert⟩
  · have hinsert : (d.insert ⟨empty, ids⟩).result = .error (.graph g) := by
      refine bind_result_eq_error.mpr (.inr ⟨(), hnodes.result, ?_⟩)
      rw [hnodes.draft]
      exact hedges
    exact .inr ⟨hsome, g, toGraph_eq_error.mpr hinsert⟩

/-- The graph of a document has its nodes, and of its edges the last from each source. If its nodes can be
made, it has a graph unless one of its edges cannot be connected behind those before it. -/
theorem Accepted.depicts {d : Document} (hd : d.Accepted) (ids : IdSource) :
    (∀ draft, d.toGraph ids = .ok draft → d.Depicts ids draft.graph) ∧
      ((∀ n ∈ d.nodes, ∃ p, n.payload = .ok p) → ids.FreshBeside d.edges →
        ((∃ g, d.toGraph ids = .error (.graph g)) ↔ d.Breaks) ∧
          (¬ d.Breaks → ∃ draft, d.toGraph ids = .ok draft)) := by
  constructor
  · intro draft hmade
    have hpayload : ∀ n ∈ d.nodes, ∃ p, n.payload = .ok p := by
      refine payload_of_addEntries (d := ⟨empty, ids⟩) hd.named hd.ids (fun _ _ => rfl) ?_
      exact addEntries_of_toGraph hmade
    obtain ⟨nodes, hmakes, ⟨-, hgraph⟩ | ⟨-, g, hgraph⟩⟩ := hd.toGraph_outcome hpayload ids
    · obtain rfl := Except.ok.inj (hgraph.symm.trans hmade)
      exact depicts_joined hmakes
    · cases hgraph.symm.trans hmade
  · intro hpayload hfresh
    obtain ⟨nodes, hmakes, houtcome⟩ := hd.toGraph_outcome hpayload ids
    have hnext : ∀ before e after, d.edges = before ++ e :: after →
        (AdmitsNext nodes ids before e ↔ ¬ e.Breaks d.nodes before) := by
      intro before e after hsplit
      obtain ⟨hsource, htarget⟩ := danglingEnd?_eq_none.mp (hd.ends e (by simp [hsplit]))
      exact admitsNext_iff hmakes hd.ids hsource htarget (hsplit ▸ hfresh)
    rcases houtcome with ⟨hall, hgraph⟩ | ⟨⟨before, e, after, hsplit, hrefused⟩, g, hgraph⟩
    · have hgood : ¬ d.Breaks := by
        rintro ⟨before, e, after, hsplit, hbreaks⟩
        exact (hnext before e after hsplit).mp (hall before e after hsplit) hbreaks
      refine ⟨iff_of_false ?_ hgood, fun _ => ⟨_, hgraph⟩⟩
      rintro ⟨g, hfailed⟩
      cases hgraph.symm.trans hfailed
    · have hbreaks : d.Breaks :=
        ⟨before, e, after, hsplit, not_not.mp ((hnext before e after hsplit).not.mp hrefused)⟩
      exact ⟨iff_of_true ⟨g, hgraph⟩ hbreaks, fun hgood => absurd hbreaks hgood⟩

/-- A zone feeds an alarm and then a counter, and the counter takes the identifier of the replaced edge. -/
def replaced : Document where
  name := none
  nodes := [⟨"z", .zone, none, Double.zero, Double.zero, [], []⟩,
    ⟨"c", .count, none, Double.zero, Double.zero, [], []⟩,
    ⟨"a", .alarm, none, Double.zero, Double.zero, [], []⟩]
  edges := [⟨some "first", "z", "a"⟩, ⟨none, "z", "c"⟩, ⟨some "first", "c", "a"⟩]

/-- The identifier can be used again, and the alarm is below the counter. -/
theorem replaced_depicts :
    replaced.Accepted ∧ IdSource.FreshBeside ⟨Nat.repr, 0⟩ replaced.edges ∧ ¬ replaced.Breaks ∧
      ∃ draft, replaced.toGraph ⟨Nat.repr, 0⟩ = .ok draft ∧ replaced.Depicts ⟨Nat.repr, 0⟩ draft.graph ∧
        draft.graph.edges = [⟨"1", "z", "c"⟩, ⟨"first", "c", "a"⟩] ∧
        draft.graph.feeder? "a" = some "c" := by
  have haccepted : replaced.Accepted := ⟨by decide, by decide, by decide⟩
  have hfresh : IdSource.FreshBeside ⟨Nat.repr, 0⟩ replaced.edges := ⟨by decide, by decide⟩
  have hpayload : ∀ n ∈ replaced.nodes, ∃ p, n.payload = .ok p := by
    simp only [replaced, List.forall_mem_cons, List.not_mem_nil, false_implies, implies_true, and_true]
    exact ⟨⟨_, rfl⟩, ⟨_, rfl⟩, ⟨_, rfl⟩⟩
  obtain ⟨hdepicts, hbreaks⟩ := haccepted.depicts ⟨Nat.repr, 0⟩
  obtain ⟨draft, hmade, hedges⟩ :
      ∃ draft, replaced.toGraph ⟨Nat.repr, 0⟩ = .ok draft ∧
        draft.graph.edges = [⟨"1", "z", "c"⟩, ⟨"first", "c", "a"⟩] := ⟨_, rfl, by decide⟩
  have hgood : ¬ replaced.Breaks := by
    intro h
    obtain ⟨g, hfailed⟩ := (hbreaks hpayload hfresh).1.mpr h
    cases hmade.symm.trans hfailed
  refine ⟨haccepted, hfresh, hgood, draft, hmade, hdepicts draft hmade, hedges, ?_⟩
  rw [(hdepicts draft hmade).feeder, ← (hdepicts draft hmade).edges, hedges]
  rfl

end Document
end DetectionFlow
