import DetectionFlow.Proofs.GreatestNumbers
import DetectionFlow.Proofs.InsertedBatches

/-!
# Insertion of a template

A template becomes a chain of nodes in one column, 250 to the right of the greatest horizontal position of
the graph, and the chain is inserted beside what is there (`Template.leads_insert`). With fresh identifiers
one thing alone can go wrong: if the greatest position is an integer and its sum with 250 lies beyond all
doubles, then there is no column for the template, and nothing is inserted (`Template.insert_fails`).
-/

namespace DetectionFlow

/-! ## Fresh identifiers -/

namespace IdSource

/-- The next identifiers, so many of them, are not empty, differ from one another and are not in use. -/
structure FreshFor (ids : IdSource) (g : Graph) (n : Nat) : Prop where
  distinct : ids.Fresh n
  nonempty : ∀ id ∈ ids.next n, id.isEmpty = false
  nodes : ∀ id ∈ ids.next n, ∀ m ∈ g.nodes, m.id ≠ id
  edges : ∀ id ∈ ids.next n, ∀ e ∈ g.edges, e.id ≠ id

end IdSource

namespace Editing

variable {α β : Type} {m : Editing α} {f : α → Editing β} {d d' : Draft} {a : α} {e : Failure}

lemma bind_fails (h : (m d).result = .error e) : ((m >>= f) d).result = .error e := by
  rw [bind_apply, andThen, h]

lemma Leads.bind_fails (hm : m.Leads d a d') (hf : (f a d').result = .error e) :
    ((m >>= f) d).result = .error e := by
  rw [bind_apply, andThen, hm.result, hm.draft]
  exact hf

lemma leads_ofFault {r : Except Fault α} (h : r = .ok a) (d : Draft) : (ofFault r).Leads d a d := by
  subst h
  exact leads_done a d

end Editing

open Editing DetectionFlow.Graph

/-! ## Chains -/

namespace Template

variable {nodes : List Node} {edges : List Edge}

/-- The links from each node to the next. -/
def links (nodes : List Node) : List (String × String) :=
  (nodes.map (·.id)).zip (nodes.tail.map (·.id))

/-- Every node but the last one has an output, and every node but the first one an input. -/
def Connects (nodes : List Node) : Prop :=
  nodes.IsChain fun a b => a.kind.hasOutput = true ∧ b.kind.hasInput = true

lemma links_length (nodes : List Node) : (links nodes).length = nodes.length - 1 := by
  simp [links]

/-- A link joins a node with the next one. -/
lemma exists_of_mem_links (hchain : Connects nodes) {l : String × String} (hl : l ∈ links nodes) :
    ∃ a b, [a, b].Sublist nodes ∧ l = (a.id, b.id) ∧ a.kind.hasOutput = true ∧
      b.kind.hasInput = true := by
  induction nodes with
  | nil => simp [links] at hl
  | cons a rest ih =>
    cases rest with
    | nil => simp [links] at hl
    | cons b rest =>
      obtain ⟨hjoin, hrest⟩ := List.isChain_cons_cons.mp hchain
      rcases List.mem_cons.mp hl with rfl | hl
      · exact ⟨a, b, by simp, rfl, hjoin⟩
      · obtain ⟨c, d, hpair, hlink⟩ := ih hrest hl
        exact ⟨c, d, hpair.cons a, hlink⟩

lemma links_sources (nodes : List Node) : ((links nodes).map (·.1)).Sublist (nodes.map (·.id)) := by
  induction nodes with
  | nil => exact List.nil_sublist _
  | cons a rest ih =>
    cases rest with
    | nil => exact List.nil_sublist _
    | cons b rest => exact ih.cons_cons a.id

/-- A chain with its links is a valid graph. -/
lemma valid_chain (hids : (nodes.map (·.id)).Nodup) (hchain : Connects nodes)
    (hends : edges.map (fun e => (e.source, e.target)) = links nodes)
    (hedgeIds : (edges.map (·.id)).Nodup) : Valid ⟨nodes, edges⟩ := by
  have hlink : ∀ e ∈ edges, ∃ a b, [a, b].Sublist nodes ∧ (e.source, e.target) = (a.id, b.id) ∧
      a.kind.hasOutput = true ∧ b.kind.hasInput = true := fun e he =>
    exists_of_mem_links hchain (hends ▸ List.mem_map_of_mem he)
  refine ⟨hids, ?_, ?_, ?_, hedgeIds, ?_⟩
  · intro e he
    obtain ⟨a, b, hpair, heq, hout, -⟩ := hlink e he
    exact ⟨a, hpair.subset (by simp), (Prod.mk.inj heq).1.symm, hout⟩
  · intro e he
    obtain ⟨a, b, hpair, heq, -, hin⟩ := hlink e he
    exact ⟨b, hpair.subset (by simp), (Prod.mk.inj heq).2.symm, hin⟩
  · intro e he
    obtain ⟨a, b, hpair, heq, -⟩ := hlink e he
    obtain ⟨hsource, htarget⟩ := Prod.mk.inj heq
    rw [hsource, htarget]
    simpa using hids.sublist (hpair.map _)
  · have hsources : edges.map (·.source) = (links nodes).map (·.1) := by
      rw [← hends, List.map_map]
      rfl
    rw [hsources]
    exact hids.sublist (links_sources nodes)

/-! ## The nodes and edges of a template -/

/-- The nodes of the stages from the `row`-th on, with the next identifiers. -/
def stageNodes (areaKind : Kind) (x : Double) : IdSource → Nat → List Stage → List Node
  | _, _, [] => []
  | ids, row, stage :: rest =>
    ⟨ids.draw.1, (stage.kind areaKind).title ++ "#1",
      [.float x, .float (Double.ofInt (row * stageHeight : Nat))], stage.payload areaKind⟩ ::
      stageNodes areaKind x ids.draw.2 (row + 1) rest

variable {areaKind : Kind} {x : Double} {ids : IdSource} {row : Nat} {stages : List Stage}

lemma stageNodes_ids :
    (stageNodes areaKind x ids row stages).map (·.id) = ids.next stages.length := by
  induction stages generalizing ids row with
  | nil => rfl
  | cons stage rest ih => rw [stageNodes, List.map_cons, ih, List.length_cons, IdSource.next]

lemma kind_payload (stage : Stage) : (stage.payload areaKind).kind = stage.kind areaKind := by
  cases stage with
  | area => exact Payload.kind_new areaKind
  | plain kind => exact Payload.kind_new kind
  | timeout => rfl
  | count => rfl

lemma stageNodes_kinds :
    (stageNodes areaKind x ids row stages).map Node.kind = stages.map (Stage.kind areaKind) := by
  induction stages generalizing ids row with
  | nil => rfl
  | cons stage rest ih =>
    rw [stageNodes, List.map_cons, List.map_cons, ih, Node.kind, kind_payload]

/-- What a node shows: its label, its position and its payload. -/
def looks (n : Node) : String × List Value × Payload := (n.label, n.position, n.payload)

/-- Each stage is a node of its own kind, one row below the stage before it. -/
lemma stageNodes_looks :
    (stageNodes areaKind x ids row stages).map looks = stages.mapIdx fun i stage =>
      ((stage.kind areaKind).title ++ "#1",
        [.float x, .float (Double.ofInt ((row + i) * stageHeight : Nat))], stage.payload areaKind) := by
  induction stages generalizing ids row with
  | nil => rfl
  | cons stage rest ih =>
    rw [stageNodes, List.map_cons, ih, List.mapIdx_cons]
    simp [looks, Nat.add_comm, Nat.add_left_comm]

/-- Templates are chains of nodes that can be connected. -/
lemma connects_stageNodes (t : Template) (harea : areaKind.isArea = true) :
    Connects (stageNodes areaKind x ids row t.stages) := by
  have hkinds : (t.stages.map (Stage.kind areaKind)).IsChain
      fun a b => a.hasOutput = true ∧ b.hasInput = true := by
    cases t <;> cases areaKind <;> first | exact absurd harea (by decide) | decide
  rw [← @stageNodes_kinds areaKind x ids row, List.isChain_map] at hkinds
  exact hkinds

/-! ## Expansion -/

lemma leads_nodesFrom {v : Value} (hx : v.toDouble = .ok x) (d : Draft) :
    (nodesFrom areaKind v row stages).Leads d (stageNodes areaKind x d.ids row stages)
      ⟨d.graph, d.ids.after stages.length⟩ := by
  induction stages generalizing d row with
  | nil => exact leads_done [] d
  | cons stage rest ih =>
    have hfresh : fresh.Leads d d.ids.draw.1 ⟨d.graph, d.ids.draw.2⟩ := ⟨rfl, rfl⟩
    have hrest := @ih (row + 1) ⟨d.graph, d.ids.draw.2⟩
    rw [IdSource.draw_after] at hrest
    exact hfresh.bind ((leads_ofFault hx _).bind (hrest.bind (leads_done _ _)))

lemma leads_edgesAlong (nodes : List Node) (d : Draft) :
    (edgesAlong nodes).Leads d (d.ids.edges (links nodes))
      ⟨d.graph, d.ids.after (links nodes).length⟩ := by
  induction nodes generalizing d with
  | nil => exact leads_done [] d
  | cons a rest ih =>
    cases rest with
    | nil => exact leads_done [] d
    | cons b rest =>
      have hfresh : fresh.Leads d d.ids.draw.1 ⟨d.graph, d.ids.draw.2⟩ := ⟨rfl, rfl⟩
      have hrest := ih ⟨d.graph, d.ids.draw.2⟩
      rw [IdSource.draw_after] at hrest
      exact hfresh.bind (hrest.bind (leads_done _ _))

variable {g : Graph} {name area : Value} {t : Template}

/-- The nodes of an expansion. -/
def chainNodes (t : Template) (areaKind : Kind) (x : Double) (ids : IdSource) : List Node :=
  stageNodes areaKind x ids 0 t.stages

/-- The edges of an expansion. They draw their identifiers after all nodes. -/
def chainEdges (t : Template) (areaKind : Kind) (x : Double) (ids : IdSource) : List Edge :=
  (ids.after t.stages.length).edges (links (t.chainNodes areaKind x ids))

/-- The chain of a template as a graph of its own. -/
def chain (t : Template) (areaKind : Kind) (x : Double) (ids : IdSource) : Graph :=
  ⟨t.chainNodes areaKind x ids, t.chainEdges areaKind x ids⟩

/-- A template with a column is expanded to its chain. -/
lemma leads_expand {v : Value} (hname : ofValue name = .ok t) (harea : areaOfValue area = .ok areaKind)
    (hcolumn : column g = .ok v) (hx : v.toDouble = .ok x) :
    ∃ ids', (expand name area).Leads ⟨g, ids⟩
      (t.chainNodes areaKind x ids, t.chainEdges areaKind x ids) ⟨g, ids'⟩ := by
  have hcurrent : current.Leads ⟨g, ids⟩ g ⟨g, ids⟩ := ⟨rfl, rfl⟩
  refine ⟨_, (leads_ofFault hname _).bind <| (leads_ofFault harea _).bind <| hcurrent.bind <|
    (leads_ofFault hcolumn _).bind <| (leads_nodesFrom hx _).bind <|
    (leads_edgesAlong _ _).bind <| leads_done _ _⟩

/-! ## The column -/

/-- The double at the right of a position. An integer may have none. -/
def rightOf? : Number → Option Double
  | .int n => Double.ofInt? (n + gap)
  | .float x => some (x.add (Double.ofInt gap))

lemma column_of_rightmost {best : Number} (h : g.rightmost? = .ok (some best.toValue)) :
    ∃ v, column g = .ok v ∧ v.toDouble = (rightOf? best).elim (.error .tooLarge) .ok := by
  have hcolumn : column g = shifted best.toValue gap := by
    rw [column, h]
    rfl
  rw [hcolumn]
  cases best with
  | int n => exact ⟨.int (n + gap), rfl, rfl⟩
  | float x => exact ⟨.float (x.add (Double.ofInt gap)), rfl, rfl⟩

lemma column_of_empty (h : g.rightmost? = .ok none) : column g = .ok (.int firstColumn) := by
  rw [column, h]
  rfl

/-! ## Insertion -/

lemma isArea_of_areaOfValue (h : areaOfValue area = .ok areaKind) : areaKind.isArea = true := by
  obtain ⟨kind, -, h⟩ := Except.bind_eq_ok.mp h
  split at h
  next harea =>
    obtain rfl := Except.ok.inj h
    exact harea
  · simp at h

/-- How many identifiers an expansion draws. -/
def draws (t : Template) : Nat := t.stages.length + (t.stages.length - 1)

/-- The chain of a template is a valid graph, which stands apart from one where its identifiers are not in
use. -/
lemma chain_valid (hg : g.Valid) (hkind : areaKind.isArea = true)
    (hfresh : ids.FreshFor g t.draws) :
    (t.chain areaKind x ids).Valid ∧ (g.beside (t.chain areaKind x ids)).Valid ∧
      g.Apart (t.chain areaKind x ids) ∧
      ∀ e ∈ t.chainEdges areaKind x ids, e.id.isEmpty = false := by
  -- The nodes draw first and the edges after them, so all identifiers are one run of fresh ones.
  have hnext : ids.next t.draws =
      ids.next t.stages.length ++ (ids.after t.stages.length).next (t.stages.length - 1) :=
    ids.next_add _ _
  have hnodeIds : (t.chainNodes areaKind x ids).map (·.id) = ids.next t.stages.length := stageNodes_ids
  have hlength : (t.chainNodes areaKind x ids).length = t.stages.length := by
    have hkinds := congrArg List.length (@stageNodes_kinds areaKind x ids 0 t.stages)
    simpa [chainNodes] using hkinds
  have hedgeIds : (t.chainEdges areaKind x ids).map (·.id) =
      (ids.after t.stages.length).next (t.stages.length - 1) := by
    rw [chainEdges, IdSource.edges_ids, links_length, hlength]
  have hdistinct := hfresh.distinct
  rw [IdSource.Fresh, hnext, ← hnodeIds, ← hedgeIds] at hdistinct
  have hnode : ∀ n ∈ t.chainNodes areaKind x ids, n.id ∈ ids.next t.draws := by
    intro n hn
    rw [hnext, ← hnodeIds]
    exact List.mem_append_left _ (List.mem_map_of_mem hn)
  have hedge : ∀ e ∈ t.chainEdges areaKind x ids, e.id ∈ ids.next t.draws := by
    intro e he
    rw [hnext, ← hedgeIds]
    exact List.mem_append_right _ (List.mem_map_of_mem he)
  have hchain : (t.chain areaKind x ids).Valid :=
    valid_chain hdistinct.of_append_left (connects_stageNodes t hkind) (IdSource.edges_ends _ _)
      hdistinct.of_append_right
  have hapart : g.Apart (t.chain areaKind x ids) :=
    fun m hm n hn => hfresh.nodes _ (hnode n hn) m hm
  refine ⟨hchain, valid_beside hg hchain hapart ?_, hapart, fun e he => hfresh.nonempty _ (hedge e he)⟩
  exact fun e he f hf => hfresh.edges _ (hedge f hf) e he

/-- A template with a column is inserted as its chain beside what is there. -/
theorem leads_insert {v : Value} (hg : g.Valid) (hname : ofValue name = .ok t)
    (harea : areaOfValue area = .ok areaKind) (hfresh : ids.FreshFor g t.draws)
    (hcolumn : column g = .ok v) (hx : v.toDouble = .ok x) :
    ∃ ids', (insert name area).Leads ⟨g, ids⟩ (t.chainNodes areaKind x ids)
      ⟨g.beside (t.chain areaKind x ids), ids'⟩ := by
  obtain ⟨ids', hexpand⟩ := @leads_expand _ _ ids _ _ _ _ _ hname harea hcolumn hx
  obtain ⟨-, hvalid, -, hids⟩ := chain_valid hg (isArea_of_areaOfValue harea) hfresh
  exact ⟨ids', hexpand.bind ((leads_extend hvalid hids).bind (leads_done _ _))⟩

/-- A template without a column is not inserted. -/
theorem insert_fails {v : Value} (hname : ofValue name = .ok t)
    (harea : areaOfValue area = .ok areaKind) (hcolumn : column g = .ok v)
    (hx : v.toDouble = .error .tooLarge) :
    (insert name area ⟨g, ids⟩).result = .error (.fault .tooLarge) ∧
      (insert name area ⟨g, ids⟩).draft.graph = g := by
  have hcurrent : current.Leads ⟨g, ids⟩ g ⟨g, ids⟩ := ⟨rfl, rfl⟩
  have hstages : t.stages = .plain .object :: t.stages.tail := by cases t <;> rfl
  -- The first node has drawn its identifier when it finds no place.
  have hnodes : (nodesFrom areaKind v 0 t.stages ⟨g, ids⟩).result = .error (.fault .tooLarge) := by
    have hfresh : fresh.Leads ⟨g, ids⟩ ids.draw.1 ⟨g, ids.draw.2⟩ := ⟨rfl, rfl⟩
    rw [hstages]
    exact hfresh.bind_fails (bind_fails (by rw [hx]; rfl))
  have hexpand : (expand name area ⟨g, ids⟩).result = .error (.fault .tooLarge) :=
    (leads_ofFault hname _).bind_fails <| (leads_ofFault harea _).bind_fails <|
      hcurrent.bind_fails <| (leads_ofFault hcolumn _).bind_fails <| bind_fails hnodes
  refine ⟨bind_fails hexpand, ?_⟩
  rw [insert, bind_apply, andThen, hexpand]
  exact (quiet_expand name area _).graph

/-- A horizontal position for a template: 250 to the right of the greatest one that there is, and 100 in an
empty graph. -/
def StandsAt (g : Graph) (x : Double) : Prop :=
  (g.nodes = [] ∧ x = Double.ofInt firstColumn) ∨ ∃ best, g.IsRightmost best ∧ rightOf? best = some x

/-- There is a column for a template unless the greatest position is an integer too great for that. -/
lemma exists_column (hdrawn : ∀ n ∈ g.nodes, ∃ x y, IsDrawnAt n x y) :
    ∃ v, column g = .ok v ∧ ((∃ x, v.toDouble = .ok x ∧ StandsAt g x) ∨
      v.toDouble = .error .tooLarge ∧ ∃ n, g.IsRightmost (.int n) ∧ Double.ofInt? (n + gap) = none) := by
  rcases rightmost?_eq hdrawn with ⟨hempty, hnone⟩ | ⟨best, hbest, hsome⟩
  · have hfirst : Double.ofInt? firstColumn = some (Double.ofInt firstColumn) := by decide +kernel
    refine ⟨_, column_of_empty hnone, .inl ⟨Double.ofInt firstColumn, ?_, .inl ⟨hempty, rfl⟩⟩⟩
    show (Double.ofInt? firstColumn).elim (.error .tooLarge) .ok = (.ok _ : Except Fault Double)
    rw [hfirst]
    rfl
  · obtain ⟨v, hv, hdouble⟩ := column_of_rightmost hsome
    refine ⟨v, hv, ?_⟩
    cases hright : rightOf? best with
    | some x => exact .inl ⟨x, by rw [hdouble, hright]; rfl, .inr ⟨best, hbest, hright⟩⟩
    | none =>
      cases best with
      | int n => exact .inr ⟨by rw [hdouble, hright]; rfl, n, hbest, hright⟩
      | float y => simp [rightOf?] at hright

end Template

/-! ## The whole -/

namespace Graph

/-- A batch whose edges join only its own nodes, if it is inserted, stands beside what was there as the graph
that it makes alone, and is compiled as that. So is the chain of a template, which stands in one column with
its stages below each other. With fresh identifiers a template is inserted unless the greatest position is an
integer whose sum with 250 lies beyond all doubles; then nothing is. -/
theorem Reachable.inserts_beside {g : Graph} (hg : g.Reachable) :
    (∀ nodes edges ids, (∀ e ∈ edges, e.JoinsWithin nodes) →
      (extend nodes edges ⟨g, ids⟩).result = .ok () →
      ∃ b ids', b.nodes = nodes ∧ (extend nodes edges).Leads ⟨Graph.empty, ids⟩ () ⟨b, ids'⟩ ∧
        (extend nodes edges).Leads ⟨g, ids⟩ () ⟨g.beside b, ids'⟩ ∧
        ∀ c d, g.compile = .ok c → b.compile = .ok d →
          (g.beside b).compile = .ok (c.append d)) ∧
    ∀ name area t areaKind ids, Template.ofValue name = .ok t →
      Template.areaOfValue area = .ok areaKind → (∀ n ∈ g.nodes, ∃ x y, IsDrawnAt n x y) →
      ids.FreshFor g t.draws →
      (∃ x nodes edges ids', Template.StandsAt g x ∧
        nodes.map Template.looks = (t.stages.mapIdx fun i stage =>
          ((stage.kind areaKind).title ++ "#1",
            [.float x, .float (Double.ofInt (120 * i : Nat))], stage.payload areaKind)) ∧
        edges.map (fun e => (e.source, e.target)) = Template.links nodes ∧
        (Template.insert name area).Leads ⟨g, ids⟩ nodes ⟨g.beside ⟨nodes, edges⟩, ids'⟩ ∧
        ∀ c d, g.compile = .ok c → compile ⟨nodes, edges⟩ = .ok d →
          (g.beside ⟨nodes, edges⟩).compile = .ok (c.append d)) ∨
      ∃ n, g.IsRightmost (.int n) ∧ Double.ofInt? (n + 250) = none ∧
        (Template.insert name area ⟨g, ids⟩).result = .error (.fault .tooLarge) ∧
        (Template.insert name area ⟨g, ids⟩).draft.graph = g := by
  constructor
  · intro nodes edges ids hwithin h
    obtain ⟨b, ids', hb, hnodes, hapart, halone, hbeside⟩ := extend_beside hg.valid hwithin h
    exact ⟨b, ids', hnodes, halone, hbeside, fun c d hc hd => compile_beside hg.valid hb hapart hc hd⟩
  · intro name area t areaKind ids hname harea hdrawn hfresh
    obtain ⟨v, hcolumn, ⟨x, hx, hstands⟩ | ⟨hx, n, hbest, hnone⟩⟩ := Template.exists_column hdrawn
    · obtain ⟨ids', hinsert⟩ := Template.leads_insert hg.valid hname harea hfresh hcolumn hx
      obtain ⟨hchain, -, hapart, -⟩ :=
        Template.chain_valid (x := x) hg.valid (Template.isArea_of_areaOfValue harea) hfresh
      refine .inl ⟨x, t.chainNodes areaKind x ids, t.chainEdges areaKind x ids, ids', hstands, ?_,
        IdSource.edges_ends _ _, hinsert, fun c d hc hd => compile_beside hg.valid hchain hapart hc hd⟩
      rw [Template.chainNodes, Template.stageNodes_looks]
      simp only [Nat.zero_add, Nat.mul_comm, Template.stageHeight]
    · obtain ⟨hfails, hsame⟩ := @Template.insert_fails _ ids _ _ _ _ _ hname harea hcolumn hx
      exact .inr ⟨n, hbest, hnone, hfails, hsame⟩

/-- A condition at a whole horizontal position. -/
def drawnCount : Graph :=
  ⟨[⟨"c", "Count#1", [.int 40, .float Double.zero], .new .count⟩], []⟩

def drawnCountCompiled : Compiled where
  settings := ⟨schemaVersion, [⟨"c", "Count#1", none, .count ">=1"⟩]⟩
  elided := []
  droppedParents := []

/-- An event that feeds an alarm. -/
def alarmBatch : Graph :=
  ⟨[⟨"e", "Event#1", origin, .new .event⟩, ⟨"a", "Alarm#1", origin, .new .alarm⟩],
    [⟨"edge", "e", "a"⟩]⟩

def alarmBatchCompiled : Compiled where
  settings := ⟨schemaVersion, [⟨"a", "Alarm#1", none, .alarm "[]"⟩]⟩
  elided := ["e"]
  droppedParents := []

theorem drawnCount_inserts :
    drawnCount.Reachable ∧
      (∃ ids', (extend alarmBatch.nodes alarmBatch.edges).Leads ⟨drawnCount, ⟨Nat.repr, 0⟩⟩ ()
        ⟨drawnCount.beside alarmBatch, ids'⟩) ∧
      (drawnCount.beside alarmBatch).compile = .ok (drawnCountCompiled.append alarmBatchCompiled) ∧
      ∃ x nodes edges ids', Template.StandsAt drawnCount x ∧
        nodes.map Template.looks = (Template.basic.stages.mapIdx fun i stage =>
          ((stage.kind .line).title ++ "#1",
            [.float x, .float (Double.ofInt (120 * i : Nat))], stage.payload .line)) ∧
        edges.map (fun e => (e.source, e.target)) = Template.links nodes ∧
        (Template.insert (.text "basic") (.text "line")).Leads ⟨drawnCount, ⟨Nat.repr, 0⟩⟩ nodes
          ⟨drawnCount.beside ⟨nodes, edges⟩, ids'⟩ := by
  have hreachable : drawnCount.Reachable :=
    Reachable.empty.call (.extend drawnCount.nodes []) ⟨Nat.repr, 0⟩
  obtain ⟨hbatch, htemplate⟩ := hreachable.inserts_beside
  have hwithin : ∀ e ∈ alarmBatch.edges, e.JoinsWithin alarmBatch.nodes := by
    simp [alarmBatch, Edge.JoinsWithin]
  have hdrawn : ∀ n ∈ drawnCount.nodes, ∃ x y, IsDrawnAt n x y := by
    rintro n hn
    obtain rfl := List.mem_singleton.mp hn
    exact ⟨.int 40, .float Double.zero, rfl⟩
  have hfresh : IdSource.FreshFor ⟨Nat.repr, 0⟩ drawnCount Template.basic.draws :=
    ⟨by decide, by decide, by decide, by decide⟩
  obtain ⟨b, ids', -, halone, hbeside, hcompile⟩ :=
    hbatch alarmBatch.nodes alarmBatch.edges ⟨Nat.repr, 0⟩ hwithin rfl
  obtain rfl : alarmBatch = b := congrArg Draft.graph halone.draft
  refine ⟨hreachable, ⟨ids', hbeside⟩, hcompile drawnCountCompiled alarmBatchCompiled rfl rfl, ?_⟩
  rcases htemplate (.text "basic") (.text "line") .basic .line ⟨Nat.repr, 0⟩ rfl rfl hdrawn hfresh with
    ⟨x, nodes, edges, ids', hstands, hlooks, hends, hinsert, -⟩ | ⟨n, hbest, hnone, -⟩
  · exact ⟨x, nodes, edges, ids', hstands, hlooks, hends, hinsert⟩
  · -- The only position leaves room at its right.
    obtain ⟨m, hm, y, hposition⟩ := hbest.reached
    obtain rfl := List.mem_singleton.mp hm
    obtain ⟨hx, -⟩ := List.cons.inj hposition
    obtain rfl : (40 : Int) = n := Value.int.inj hx
    exact absurd hnone (by decide +kernel)

/-- An integer beyond all doubles. -/
def farAway : Nat := 10 ^ 200 * 10 ^ 200

/-- A condition drawn so far to the right that there is no double for its position. -/
def farCount : Graph := ⟨[⟨"c", "Far", [.int farAway, .int 0], .new .count⟩], []⟩

/-- Not every template can be inserted: next to a node that stands too far to the right there is no column
for one. -/
theorem farCount_refuses :
    farCount.Reachable ∧ (∀ n ∈ farCount.nodes, ∃ x y, IsDrawnAt n x y) ∧
      Template.ofValue (.text "basic") = .ok .basic ∧ Template.areaOfValue (.text "zone") = .ok .zone ∧
      IdSource.FreshFor ⟨Nat.repr, 0⟩ farCount Template.basic.draws ∧
      (Template.insert (.text "basic") (.text "zone") ⟨farCount, ⟨Nat.repr, 0⟩⟩).result =
        .error (.fault .tooLarge) ∧
      (Template.insert (.text "basic") (.text "zone") ⟨farCount, ⟨Nat.repr, 0⟩⟩).draft.graph =
        farCount := by
  have hreachable : farCount.Reachable :=
    Reachable.empty.call (.extend farCount.nodes []) ⟨Nat.repr, 0⟩
  have hdrawn : ∀ n ∈ farCount.nodes, ∃ x y, IsDrawnAt n x y := by
    rintro n hn
    obtain rfl := List.mem_singleton.mp hn
    exact ⟨.int farAway, .int 0, rfl⟩
  have hfresh : IdSource.FreshFor ⟨Nat.repr, 0⟩ farCount Template.basic.draws :=
    ⟨by decide, by decide, by decide, by decide⟩
  have hnone : Double.ofInt? (farAway + Template.gap) = none := by decide +kernel
  have hdouble : (Value.int (farAway + Template.gap)).toDouble = .error .tooLarge := by
    show (Double.ofInt? (farAway + Template.gap)).elim (.error .tooLarge) .ok =
      (.error .tooLarge : Except Fault Double)
    rw [hnone]
    rfl
  exact ⟨hreachable, hdrawn, rfl, rfl, hfresh, Template.insert_fails rfl rfl rfl hdouble⟩

end Graph
end DetectionFlow
