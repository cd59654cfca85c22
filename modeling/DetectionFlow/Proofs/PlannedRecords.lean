import DetectionFlow.Proofs.CompiledStructure
import DetectionFlow.Proofs.RecordForests

/-!
# What a plan shows

The entries of a plan hang below the records without a parent, so a plan shows a record exactly if its chain
of parents ends. In a compiled graph no two records have one parent, so a chain that does not end comes back
to where it started: the records that a plan does not show are those that lie below themselves
(`Record.Loops`). All others it shows once, each under its parent (`Graph.Reachable.plan_shows`).

The entries of a record are at most so many levels deep as there are records. The levels suffice: of more
records above another one two would be the same (`Record.exists_root_or_loop`).
-/

namespace DetectionFlow

/-! ## The walk through a forest -/

/-- An entry as the walk comes to it: how far it is moved in, the record it stands under, and its own. -/
structure Visit where
  indent : String
  above : Option String
  record : Record

/-- The lines of an entry alone. -/
def Visit.lines (v : Visit) : List String :=
  (v.indent ++ "+ " ++ v.record.name ++ " (" ++ v.record.body.recordType.name ++ ")") ::
    if v.record.describe.isEmpty then [] else [v.indent ++ "    " ++ v.record.describe]

mutual

/-- The walk through an entry and then through all below it. -/
def Entry.visits (indent : String) (above : Option String) : Entry → List Visit
  | .node r children =>
    ⟨indent, above, r⟩ :: Entry.visitsOfAll (indent ++ "  ") (some r.id) children

def Entry.visitsOfAll (indent : String) (above : Option String) : List Entry → List Visit
  | [] => []
  | e :: rest => e.visits indent above ++ Entry.visitsOfAll indent above rest

end

/-- The walk through the whole forest of a plan. -/
def Plan.visits (p : Plan) : List Visit := Entry.visitsOfAll "  " none p.roots

namespace Entry

mutual

/-- What is printed of an entry are the lines of those that the walk comes to. -/
theorem lines_eq (indent : String) (above : Option String) :
    ∀ e : Entry, e.lines indent = (e.visits indent above).flatMap Visit.lines
  | .node r children => by
    rw [lines, visits, List.flatMap_cons, linesOfAll_eq (indent ++ "  ") (some r.id) children]
    rfl

theorem linesOfAll_eq (indent : String) (above : Option String) :
    ∀ es : List Entry, linesOfAll indent es = (visitsOfAll indent above es).flatMap Visit.lines
  | [] => rfl
  | e :: rest => by
    rw [linesOfAll, visitsOfAll, List.flatMap_append, lines_eq indent above e,
      linesOfAll_eq indent above rest]

end

lemma visitsOfAll_eq (indent : String) (above : Option String) (es : List Entry) :
    visitsOfAll indent above es = es.flatMap (visits indent above) := by
  induction es with
  | nil => rfl
  | cons e rest ih => rw [visitsOfAll, ih, List.flatMap_cons]

end Entry

/-! ## Chains of parents -/

namespace Record

/-- A record lies so many links below another one. -/
inductive Below (rs : List Record) (r : Record) : Nat → Record → Prop
  | self (hr : r ∈ rs) : Below rs r 0 r
  | link {s p : Record} {n : Nat} (hs : s ∈ rs) (hparent : s.parent = some p.id)
      (hp : Below rs r n p) : Below rs r (n + 1) s

/-- The parents of the record run in a circle through it. -/
def Loops (rs : List Record) (r : Record) : Prop := ∃ n, Below rs r (n + 1) r

variable {rs : List Record} {r s : Record} {m n : Nat}

lemma Below.mem (h : Below rs r n s) : s ∈ rs := by
  cases h <;> assumption

lemma Below.mem_above (h : Below rs r n s) : r ∈ rs := by
  induction h with
  | self hr => exact hr
  | link _ _ _ ih => exact ih

/-- What lies below a child lies below its parent. -/
lemma Below.cons {c : Record} (hr : r ∈ rs) (hparent : c.parent = some r.id)
    (h : Below rs c n s) : Below rs r (n + 1) s := by
  induction h with
  | self hc => exact .link hc hparent (.self hr)
  | link hs hparent' _ ih => exact .link hs hparent' ih

/-- What lies below a record is one of its children or lies below one. -/
lemma Below.exists_child (h : Below rs r (n + 1) s) :
    ∃ c ∈ rs, c.parent = some r.id ∧ Below rs c n s := by
  induction n generalizing s with
  | zero =>
    obtain _ | ⟨hs, hparent, _ | _⟩ := h
    exact ⟨s, hs, hparent, .self hs⟩
  | succ n ih =>
    obtain _ | ⟨hs, hparent, hp⟩ := h
    obtain ⟨c, hc, hchild, hbelow⟩ := ih hp
    exact ⟨c, hc, hchild, .link hs hparent hbelow⟩

/-- A long chain has a record at every height. -/
lemma Below.split (h : Below rs r (m + n) s) : ∃ t, Below rs r m t ∧ Below rs t n s := by
  induction n generalizing s with
  | zero => exact ⟨s, h, .self h.mem⟩
  | succ n ih =>
    obtain _ | ⟨hs, hparent, hp⟩ := h
    obtain ⟨t, htop, hbelow⟩ := ih hp
    exact ⟨t, htop, .link hs hparent hbelow⟩

lemma Hangs.descend (h : Hangs rs r m) (hbelow : Below rs r n s) : Hangs rs s (m + n) := by
  induction hbelow with
  | self _ => exact h
  | link hs hparent _ ih => exact .link hs hparent ih

/-- A chain that ends starts from a record without a parent. -/
lemma Hangs.exists_root (h : Hangs rs s n) : ∃ r, r.parent = none ∧ Below rs r n s := by
  induction h with
  | @root r hr hparent => exact ⟨r, hparent, .self hr⟩
  | link hr hparent _ ih =>
    obtain ⟨t, hroot, hbelow⟩ := ih
    exact ⟨t, hroot, .link hr hparent hbelow⟩

lemma Hangs.mem (h : Hangs rs s n) : s ∈ rs := by
  cases h <;> assumption

section Keys

variable (hids : (rs.map (·.id)).Nodup)

include hids

/-- A record lies so many links below one other at most. -/
lemma Below.unique {r' : Record} (h : Below rs r n s) (h' : Below rs r' n s) : r = r' := by
  induction h with
  | self _ =>
    cases h'
    rfl
  | @link s p n _ hparent hp ih =>
    obtain _ | @⟨_, q, _, _, hparent', hq⟩ := h'
    obtain rfl : p = q := List.inj_on_of_nodup_map hids hp.mem hq.mem
      (Option.some.inj (hparent.symm.trans hparent'))
    exact ih hq

lemma Hangs.unique (h : Hangs rs s m) (h' : Hangs rs s n) : m = n := by
  induction h generalizing n with
  | root _ hparent =>
    cases h' with
    | root => rfl
    | link _ hparent' _ => cases hparent.symm.trans hparent'
  | @link s p m _ hparent hp ih =>
    cases h' with
    | root _ hparent' => cases hparent.symm.trans hparent'
    | @link _ q n _ hparent' hq =>
      obtain rfl : p = q := List.inj_on_of_nodup_map hids hp.mem hq.mem
        (Option.some.inj (hparent.symm.trans hparent'))
      rw [ih hq]

end Keys

/-- Where no two records have one parent, there is one record so many links below another one at most. -/
lemma Below.single (hsingle : ∀ r ∈ rs, ∀ s ∈ rs, ∀ p, r.parent = some p → s.parent = some p → r = s)
    {s' : Record} (h : Below rs r n s) (h' : Below rs r n s') : s = s' := by
  induction h generalizing s' with
  | self _ =>
    cases h'
    rfl
  | @link s p n hs hparent hp ih =>
    obtain _ | ⟨hs', hparent', hp'⟩ := h'
    obtain rfl := ih hp'
    exact hsingle s hs s' hs' _ hparent hparent'

/-- A record that lies below another one at two heights comes back to itself. -/
lemma Below.loops (hsingle : ∀ r ∈ rs, ∀ s ∈ rs, ∀ p, r.parent = some p → s.parent = some p → r = s)
    (h : Below rs r m s) (h' : Below rs r n s) (hlt : m < n) : Loops rs s := by
  obtain ⟨k, rfl⟩ := Nat.exists_eq_add_of_lt hlt
  obtain ⟨t, htop, hbelow⟩ : ∃ t, Below rs r m t ∧ Below rs t (k + 1) s := Below.split h'
  obtain rfl := htop.single hsingle h
  exact ⟨k, hbelow⟩

/-- Above a record there are so many records, or its chain ends before. -/
lemma exists_below_or_hangs (hparents : ∀ r ∈ rs, ∀ p, r.parent = some p → ∃ t ∈ rs, t.id = p)
    (hs : s ∈ rs) (n : Nat) : (∃ t, Below rs t n s) ∨ ∃ m < n, Hangs rs s m := by
  induction n with
  | zero => exact .inl ⟨s, .self hs⟩
  | succ n ih =>
    rcases ih with ⟨t, ht⟩ | ⟨m, hm, hhangs⟩
    · cases hparent : t.parent with
      | none =>
        have hroot : Hangs rs t 0 := .root ht.mem_above hparent
        refine .inr ⟨n, Nat.lt_succ_self n, ?_⟩
        simpa using hroot.descend ht
      | some p =>
        obtain ⟨u, hu, rfl⟩ := hparents t ht.mem_above p hparent
        exact .inl ⟨u, ht.cons hu hparent⟩
    · exact .inr ⟨m, Nat.lt_succ_of_lt hm, hhangs⟩

/-- The chain of a record ends after at most so many links as there are records, or it comes back to it. -/
lemma exists_root_or_loop (hparents : ∀ r ∈ rs, ∀ p, r.parent = some p → ∃ t ∈ rs, t.id = p)
    (hsingle : ∀ r ∈ rs, ∀ s ∈ rs, ∀ p, r.parent = some p → s.parent = some p → r = s)
    (hs : s ∈ rs) : (∃ n ≤ rs.length, Hangs rs s n) ∨ Loops rs s := by
  by_cases hends : ∃ n ≤ rs.length, Hangs rs s n
  · exact .inl hends
  · -- The chain goes on, so there is a record at every height up to the number of records.
    have habove : ∀ n ∈ Finset.range (rs.length + 1), ∃ t, Below rs t n s := by
      intro n hn
      rcases exists_below_or_hangs hparents hs n with h | ⟨m, hm, hhangs⟩
      · exact h
      · rw [Finset.mem_range] at hn
        exact absurd ⟨m, by omega, hhangs⟩ hends
    choose! top htop using habove
    have hcard : rs.toFinset.card < (Finset.range (rs.length + 1)).card := by
      rw [Finset.card_range]
      exact Nat.lt_succ_of_le rs.toFinset_card_le
    have hmaps : Set.MapsTo top (Finset.range (rs.length + 1)) rs.toFinset := fun n hn =>
      List.mem_toFinset.mpr (htop n hn).mem_above
    obtain ⟨m, hm, n, hn, hne, heq⟩ := Finset.exists_ne_map_eq_of_card_lt_of_maps_to hcard hmaps
    have hlow := htop m hm
    have hhigh := htop n hn
    rw [← heq] at hhigh
    rcases Nat.lt_or_gt_of_ne hne with hlt | hlt
    · exact .inr (hlow.loops hsingle hhigh hlt)
    · exact .inr (hhigh.loops hsingle hlow hlt)

end Record

/-! ## The entries of some records -/

namespace Plan

open Record

variable {rs : List Record} {r s : Record} {n depth : Nat}

/-- A record and all that hangs below it, at most so many levels deep, in the order of the walk. -/
def hanging (rs : List Record) : Nat → Record → List Record
  | 0, r => [r]
  | depth + 1, r => r :: (childrenOf rs r.id).flatMap (hanging rs depth)

/-- Where the records are that the walk through an entry comes to. -/
lemma visits_entryWithin (indent : String) (above : Option String) :
    ((entryWithin rs depth r).visits indent above).map Visit.record = hanging rs depth r := by
  induction depth generalizing r indent above with
  | zero => rfl
  | succ depth ih =>
    rw [entryWithin, Entry.visits, Entry.visitsOfAll_eq, List.map_cons, List.flatMap_map,
      List.map_flatMap, hanging]
    refine congrArg _ (List.flatMap_congr fun c _ => ?_)
    exact ih _ _

section Links

-- Every record has the parent that it names.
variable (hlinks : ∀ r ∈ rs, parentIn? rs r = r.parent)

include hlinks

lemma mem_childrenOf {id : String} : s ∈ childrenOf rs id ↔ s ∈ rs ∧ s.parent = some id := by
  rw [childrenOf, List.mem_filter, decide_eq_true_iff, and_congr_right_iff]
  intro hs
  rw [hlinks s hs]

/-- The walk finds an entry under the parent of its record, if it does so at the first one. -/
lemma above_of_mem_visits {indent : String} {v : Visit}
    (hv : v ∈ (entryWithin rs depth r).visits indent r.parent) : v.above = v.record.parent := by
  induction depth generalizing r indent with
  | zero =>
    obtain rfl := List.mem_singleton.mp hv
    rfl
  | succ depth ih =>
    rw [entryWithin, Entry.visits, Entry.visitsOfAll_eq, List.flatMap_map] at hv
    rcases List.mem_cons.mp hv with rfl | hv
    · rfl
    · obtain ⟨c, hc, hv⟩ := List.mem_flatMap.mp hv
      have hparent := ((mem_childrenOf hlinks).mp hc).2
      rw [← hparent] at hv
      exact ih hv

lemma mem_hanging (hr : r ∈ rs) : s ∈ hanging rs depth r ↔ ∃ n ≤ depth, Below rs r n s := by
  induction depth generalizing r with
  | zero =>
    rw [hanging, List.mem_singleton]
    constructor
    · rintro rfl
      exact ⟨0, Nat.le_refl 0, .self hr⟩
    · rintro ⟨n, hn, h⟩
      obtain rfl := Nat.le_zero.mp hn
      cases h
      rfl
  | succ depth ih =>
    -- The record itself is no link below itself; all others are one link less below one of its children.
    rw [hanging, List.mem_cons, List.mem_flatMap]
    constructor
    · rintro (rfl | ⟨c, hc, hs⟩)
      · exact ⟨0, Nat.zero_le _, .self hr⟩
      · obtain ⟨hc, hparent⟩ := (mem_childrenOf hlinks).mp hc
        obtain ⟨n, hn, h⟩ := (ih hc).mp hs
        exact ⟨n + 1, Nat.succ_le_succ hn, h.cons hr hparent⟩
    · rintro ⟨n, hn, h⟩
      cases n with
      | zero =>
        cases h
        exact .inl rfl
      | succ n =>
        obtain ⟨c, hc, hparent, hbelow⟩ := h.exists_child
        exact .inr ⟨c, (mem_childrenOf hlinks).mpr ⟨hc, hparent⟩,
          (ih hc).mpr ⟨n, Nat.le_of_succ_le_succ hn, hbelow⟩⟩

variable (hids : (rs.map (·.id)).Nodup)

include hids

/-- Records of one depth have nothing in common below them. -/
lemma eq_of_mem_hanging {r' : Record} (hr : Hangs rs r n) (hr' : Hangs rs r' n)
    (hs : s ∈ hanging rs depth r) (hs' : s ∈ hanging rs depth r') : r = r' := by
  obtain ⟨k, -, hbelow⟩ := (mem_hanging hlinks hr.mem).mp hs
  obtain ⟨k', -, hbelow'⟩ := (mem_hanging hlinks hr'.mem).mp hs'
  have hdepth := (hr.descend hbelow).unique hids (hr'.descend hbelow')
  obtain rfl : k = k' := by omega
  exact hbelow.unique hids hbelow'

lemma hanging_disjoint {tops : List Record} (htops : tops.Nodup)
    (hdepth : ∀ r ∈ tops, Hangs rs r n) :
    tops.Pairwise (Function.onFun List.Disjoint (hanging rs depth)) :=
  htops.pairwise_of_forall_ne fun r hr r' hr' hne _ hs hs' =>
    hne (eq_of_mem_hanging hlinks hids (hdepth r hr) (hdepth r' hr') hs hs')

/-- The walk through records of one depth comes to no record twice. -/
lemma hanging_nodup {tops : List Record} (htops : tops.Nodup) (hdepth : ∀ r ∈ tops, Hangs rs r n) :
    (tops.flatMap (hanging rs depth)).Nodup := by
  induction depth generalizing tops n with
  | zero =>
    rw [List.nodup_flatMap]
    exact ⟨fun r _ => List.nodup_singleton r, hanging_disjoint hlinks hids htops hdepth⟩
  | succ depth ih =>
    rw [List.nodup_flatMap]
    refine ⟨fun r hr => ?_, hanging_disjoint hlinks hids htops hdepth⟩
    have hhangs := hdepth r hr
    have hchildren : ∀ c ∈ childrenOf rs r.id, Hangs rs c (n + 1) := fun c hc =>
      .link ((mem_childrenOf hlinks).mp hc).1 ((mem_childrenOf hlinks).mp hc).2 hhangs
    rw [hanging, List.nodup_cons, List.mem_flatMap]
    refine ⟨?_, ih (hids.of_map.filter _) hchildren⟩
    -- What lies below the children is deeper than their parent.
    rintro ⟨c, hc, hmem⟩
    obtain ⟨k, -, hbelow⟩ := (mem_hanging hlinks (hchildren c hc).mem).mp hmem
    have hsame := hhangs.unique hids ((hchildren c hc).descend hbelow)
    omega

/-! ## The whole forest -/

omit hids in
/-- The walk through the forest comes to what hangs below the records without a parent. -/
lemma mem_visits_forest (hroots : rootsOf rs = rs.filter (·.parent.isNone)) :
    s ∈ (rootsOf rs).flatMap (hanging rs rs.length) ↔ ∃ n ≤ rs.length, Hangs rs s n := by
  rw [hroots, List.mem_flatMap]
  constructor
  · rintro ⟨r, hr, hs⟩
    obtain ⟨hr, hnone⟩ := List.mem_filter.mp hr
    obtain ⟨n, hn, hbelow⟩ := (mem_hanging hlinks hr).mp hs
    have hhangs := (Hangs.root hr (Option.isNone_iff_eq_none.mp hnone)).descend hbelow
    rw [Nat.zero_add] at hhangs
    exact ⟨n, hn, hhangs⟩
  · rintro ⟨n, hn, hhangs⟩
    obtain ⟨r, hroot, hbelow⟩ := hhangs.exists_root
    have hr := hbelow.mem_above
    exact ⟨r, List.mem_filter.mpr ⟨hr, Option.isNone_iff_eq_none.mpr hroot⟩,
      (mem_hanging hlinks hr).mpr ⟨n, hn, hbelow⟩⟩

end Links

lemma visits_forest (rs : List Record) (indent : String) :
    (Entry.visitsOfAll indent none (forest rs)).map Visit.record =
      (rootsOf rs).flatMap (hanging rs rs.length) := by
  rw [Entry.visitsOfAll_eq, forest, List.flatMap_map, List.map_flatMap]
  exact List.flatMap_congr fun r _ => visits_entryWithin indent none

/-- What a plan shows of the records that would be saved. -/
structure Shows (p : Plan) (c : Compiled) : Prop where
  compiled : p.compiled = c
  /-- The walk comes to the records whose parents do not run in a circle through them. -/
  records : ∀ r, r ∈ p.visits.map Visit.record ↔
    r ∈ c.settings.records ∧ ¬ r.Loops c.settings.records
  once : (p.visits.map Visit.record).Nodup
  /-- A record stands under its parent. -/
  parents : ∀ v ∈ p.visits, v.above = v.record.parent
  /-- As many entries are shown as there are records exactly if no parents run in a circle. -/
  count : p.visits.length = c.settings.records.length ↔
    ∀ r ∈ c.settings.records, ¬ r.Loops c.settings.records
  /-- What is printed under the heading are the lines of the entries. -/
  printed : Entry.linesOfAll "  " p.roots = p.visits.flatMap Visit.lines
  /-- What is announced is the number of all records. -/
  announced : [toString c.settings.records.length ++ " record(s) ready to save.", ""] <:+ p.lines

end Plan

namespace Graph

open Plan Record

variable {g : Graph} {c : Compiled}

section Compiling

variable (hc : g.compile = .ok c) (hg : g.Valid)

include hc hg

/-- The chain of a record ends exactly if it does not come back to the record. -/
lemma hangs_iff_of_compile {r : Record} (hr : r ∈ c.settings.records) :
    (∃ n ≤ c.settings.records.length, Hangs c.settings.records r n) ↔
      ¬ r.Loops c.settings.records := by
  constructor
  · rintro ⟨n, -, hhangs⟩ ⟨k, hbelow⟩
    have hsame := hhangs.unique (records_nodup hc hg) (hhangs.descend hbelow)
    omega
  · intro hloops
    rcases exists_root_or_loop (fun s hs p hp => (parents_of_compile hc hg hs hp).2.1)
      (fun s hs t ht p hp hq => single_of_compile hc hg hs ht hp hq) hr with h | h
    · exact h
    · exact absurd h hloops

lemma mem_visits_of_compile {r : Record} :
    r ∈ (Plan.ofCompiled g c).visits.map Visit.record ↔
      r ∈ c.settings.records ∧ ¬ r.Loops c.settings.records := by
  have hlinks : ∀ r ∈ c.settings.records, parentIn? c.settings.records r = r.parent := fun r hr =>
    parentIn?_of_compile hc hg hr
  rw [Plan.visits, Plan.ofCompiled, visits_forest, mem_visits_forest hlinks (rootsOf_compile hc hg)]
  constructor
  · intro h
    have hr : r ∈ c.settings.records := by
      obtain ⟨n, -, hhangs⟩ := h
      exact hhangs.mem
    exact ⟨hr, (hangs_iff_of_compile hc hg hr).mp h⟩
  · rintro ⟨hr, hloops⟩
    exact (hangs_iff_of_compile hc hg hr).mpr hloops

lemma visits_nodup_of_compile : ((Plan.ofCompiled g c).visits.map Visit.record).Nodup := by
  have hids := records_nodup hc hg
  rw [Plan.visits, Plan.ofCompiled, visits_forest]
  refine hanging_nodup (fun r hr => parentIn?_of_compile hc hg hr) hids (hids.of_map.filter _) (n := 0)
    fun r hr => ?_
  rw [rootsOf_compile hc hg] at hr
  obtain ⟨hr, hnone⟩ := List.mem_filter.mp hr
  exact .root hr (Option.isNone_iff_eq_none.mp hnone)

lemma parents_of_visits {v : Visit} (hv : v ∈ (Plan.ofCompiled g c).visits) :
    v.above = v.record.parent := by
  rw [Plan.visits, Plan.ofCompiled, Entry.visitsOfAll_eq, forest, List.flatMap_map,
    rootsOf_compile hc hg] at hv
  obtain ⟨r, hr, hv⟩ := List.mem_flatMap.mp hv
  have hnone := Option.isNone_iff_eq_none.mp (List.mem_filter.mp hr).2
  rw [← hnone] at hv
  exact above_of_mem_visits (fun s hs => parentIn?_of_compile hc hg hs) hv

lemma visits_length_of_compile :
    (Plan.ofCompiled g c).visits.length = c.settings.records.length ↔
      ∀ r ∈ c.settings.records, ¬ r.Loops c.settings.records := by
  have hnodup := visits_nodup_of_compile hc hg
  have hmem : ∀ r, r ∈ (Plan.ofCompiled g c).visits.map Visit.record ↔ _ := fun r =>
    mem_visits_of_compile hc hg
  rw [← List.length_map Visit.record]
  constructor
  · intro hlength r hr
    have hsub : (Plan.ofCompiled g c).visits.map Visit.record ⊆ c.settings.records := fun s hs =>
      ((hmem s).mp hs).1
    have hperm := (List.subperm_of_subset hnodup hsub).perm_of_length_le hlength.ge
    exact ((hmem r).mp (hperm.mem_iff.mpr hr)).2
  · intro hloops
    refine List.Perm.length_eq ((List.perm_ext_iff_of_nodup hnodup (records_nodup hc hg).of_map).mpr
      fun r => ?_)
    rw [hmem, and_iff_left_iff_imp]
    exact hloops r

end Compiling

/-- The plan of a reachable graph that compiles shows every record once, under its parent, but for the
records whose parents run in a circle. It announces the number of all. -/
theorem Reachable.plan_shows (hg : g.Reachable) (hc : g.compile = .ok c) :
    ∃ plan, g.plan.result = .ok plan ∧ plan.Shows c := by
  refine ⟨_, plan_of_compile hc, ?_⟩
  exact
    { compiled := rfl
      records := fun r => mem_visits_of_compile hc hg.valid
      once := visits_nodup_of_compile hc hg.valid
      parents := fun v => parents_of_visits hc hg.valid
      count := visits_length_of_compile hc hg.valid
      printed := Entry.linesOfAll_eq "  " none _
      announced := (List.suffix_cons "" _).trans (List.suffix_append _ _) }

/-- Two conditions that feed each other, and an alarm. -/
def circledCounts : Graph :=
  ⟨[⟨"a", "Count#1", origin, .new .count⟩, ⟨"b", "Count#2", origin, .new .count⟩,
      ⟨"s", "Alarm#1", origin, .new .alarm⟩],
    [⟨"1", "a", "b"⟩, ⟨"2", "b", "a"⟩]⟩

/-- The records of `circledCounts`. -/
def circledRecords : Compiled where
  settings := ⟨schemaVersion,
    [⟨"a", "Count#1", some "b", .count ">=1"⟩, ⟨"b", "Count#2", some "a", .count ">=1"⟩,
      ⟨"s", "Alarm#1", none, .alarm "[]"⟩]⟩
  elided := []
  droppedParents := []

/-- Of the three records that would be saved the plan shows the alarm alone. -/
theorem circledCounts_shows :
    circledCounts.Reachable ∧ circledCounts.compile = .ok circledRecords ∧
      ∃ plan, circledCounts.plan.result = .ok plan ∧ plan.Shows circledRecords ∧
        plan.visits.length ≠ circledRecords.settings.records.length := by
  have hreachable : circledCounts.Reachable :=
    Reachable.empty.call (.extend circledCounts.nodes circledCounts.edges) ⟨Nat.repr, 0⟩
  have hcompile : circledCounts.compile = .ok circledRecords := rfl
  obtain ⟨plan, hplan, hshows⟩ := hreachable.plan_shows hcompile
  refine ⟨hreachable, hcompile, plan, hplan, hshows, fun hcount => ?_⟩
  have hloop : Loops circledRecords.settings.records ⟨"a", "Count#1", some "b", .count ">=1"⟩ := by
    have hself : Below circledRecords.settings.records _ 0 _ := .self List.mem_cons_self
    exact ⟨1, .link List.mem_cons_self rfl (.link (List.mem_cons_of_mem _ List.mem_cons_self) rfl hself)⟩
  exact hshows.count.mp hcount _ List.mem_cons_self hloop

end Graph
end DetectionFlow
