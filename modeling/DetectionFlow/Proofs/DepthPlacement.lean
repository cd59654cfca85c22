import DetectionFlow.Proofs.ColumnTheorems
import DetectionFlow.Proofs.RestoredOutcome

/-!
# Placement is bounded depth

Where a restored node is drawn and what it is joined to, told without the passes of the placement: by the
depth of its record (`Saved.HasDepth`), which counts the links up to the start of its chain, and by the
order of the entries. `Saved.LaidOut` is the whole of it, and every restoration that succeeds is laid out
so (`Saved.restore_laidOut`).

The levels of the placement are the records of one depth (`mem_level_iff`); the rest is read off the
placement itself.
-/

namespace DetectionFlow
namespace Saved

open Placed

/-! ## Depth -/

section Depth

variable (entries : List Saved)

/-- The record starts a chain: it names no parent, or one that no entry has, or an alarm. -/
def StartsChain (r : Record) : Prop :=
  match r.parent with
  | none => True
  | some p => p = "" ∨ p ∉ present entries ∨ ∃ s ∈ kept entries, s.id = p ∧ s.body.kind = .alarm

/-- How many links a kept record is below the start of its chain. -/
inductive HasDepth : Record → Nat → Prop
  | start {r : Record} (hr : r ∈ kept entries) (hstart : StartsChain entries r) : HasDepth r 0
  | link {r p : Record} {depth : Nat} (hr : r ∈ kept entries) (hstart : ¬ StartsChain entries r)
      (hparent : r.parent = some p.id) (hp : HasDepth p depth) : HasDepth r (depth + 1)

variable {entries}

lemma closedParent?_isSome {r : Record} :
    (closedParent? (kept entries) r).isSome = true ↔
      ∃ p, r.parent = some p ∧ ∃ s ∈ kept entries, s.id = p ∧ s.body.kind = .alarm := by
  unfold closedParent? parentAmong?
  cases hparent : r.parent with
  | none => simp
  | some p =>
    simp only [Option.bind_some, Option.some.injEq, exists_eq_left']
    constructor
    · intro h
      obtain ⟨kind, hkind⟩ := Option.isSome_iff_exists.mp h
      obtain ⟨s, hs, hclosed⟩ := Option.bind_eq_some_iff.mp hkind
      refine ⟨s, List.mem_of_find?_eq_some hs, by simpa using List.find?_some hs, ?_⟩
      split at hclosed
      · simp at hclosed
      next hout => simpa [Kind.hasOutput] using hout
    · rintro ⟨s, hs, rfl, hkind⟩
      have hfound := find?_of_nodup (kept_nodup entries) hs
      rw [hfound, Option.bind_some, hkind]
      rfl

/-- Roots are the records that start a chain. -/
lemma isRoot_iff {r : Record} :
    isRoot (present entries) (kept entries) r = true ↔ StartsChain entries r := by
  rw [isRoot, Bool.or_eq_true, closedParent?_isSome, hasParent, StartsChain]
  cases hparent : r.parent with
  | none => simp
  | some p =>
    simp only [Option.some.injEq, exists_eq_left', Bool.not_and, Bool.not_not, Bool.or_eq_true,
      String.isEmpty_iff, Bool.not_eq_true', List.contains_eq_mem, decide_eq_false_iff_not, or_assoc]

lemma exists_parent {r : Record} (h : ¬ StartsChain entries r) : ∃ p, r.parent = some p := by
  unfold StartsChain at h
  cases hparent : r.parent with
  | none => simp [hparent] at h
  | some p => exact ⟨p, rfl⟩

instance (r : Record) : Decidable (StartsChain entries r) := decidable_of_iff _ isRoot_iff

lemma mem_roots {r : Record} : r ∈ roots entries ↔ r ∈ kept entries ∧ StartsChain entries r := by
  rw [roots, List.mem_filter, isRoot_iff]

lemma mem_children {r : Record} :
    r ∈ children entries ↔ r ∈ kept entries ∧ ¬ StartsChain entries r := by
  rw [children, List.mem_filter, ← isRoot_iff, Bool.not_eq_true', Bool.not_eq_true]

lemma HasDepth.kept {r : Record} {depth : Nat} (h : HasDepth entries r depth) :
    r ∈ Saved.kept entries := by
  cases h <;> assumption

/-- The levels of the placement hold the records of one depth. -/
lemma mem_level_iff {n : Nat} {r : Record} :
    r ∈ level (roots entries) (children entries) n ↔ HasDepth entries r n := by
  induction n generalizing r with
  | zero =>
    rw [level, mem_roots]
    constructor
    · rintro ⟨hr, hstart⟩
      exact .start hr hstart
    · rintro (⟨hr, hstart⟩)
      exact ⟨hr, hstart⟩
  | succ n ih =>
    rw [mem_level_succ, mem_children]
    constructor
    · rintro ⟨⟨hr, hstart⟩, p, hp, hparent⟩
      exact .link hr hstart hparent (ih.mp hp)
    · rintro (_ | ⟨hr, hstart, hparent, hp⟩)
      exact ⟨⟨hr, hstart⟩, _, ih.mpr hp, hparent⟩

instance (r : Record) (n : Nat) : Decidable (HasDepth entries r n) :=
  decidable_of_iff _ mem_level_iff

/-- A record has at most one depth. -/
lemma HasDepth.unique {r : Record} {m n : Nat} (hm : HasDepth entries r m)
    (hn : HasDepth entries r n) : m = n :=
  level_unique (arranged_nodup entries) (mem_level_iff.mpr hm) (mem_level_iff.mpr hn)

/-- Exactly the starts of chains have depth 0. -/
lemma HasDepth.startsChain_iff {r : Record} {depth : Nat} (h : HasDepth entries r depth) :
    StartsChain entries r ↔ depth = 0 := by
  cases h with
  | start _ hstart => exact iff_of_true hstart rfl
  | link _ hstart _ _ => exact iff_of_false hstart (Nat.succ_ne_zero _)

/-- A level keeps the order of the entries. -/
lemma level_eq_filter (n : Nat) :
    level (roots entries) (children entries) n =
      (kept entries).filter fun r => decide (HasDepth entries r n) := by
  have hchildren : ∀ keep : Record → Bool, (children entries).filter keep =
      (kept entries).filter fun r => keep r && !isRoot (present entries) (kept entries) r :=
    fun _ => List.filter_filter
  cases n with
  | zero =>
    rw [level, roots]
    refine List.filter_congr fun r hr => ?_
    rw [Bool.eq_iff_iff, decide_eq_true_iff, ← mem_level_iff, level, mem_roots, isRoot_iff]
    exact (and_iff_right hr).symm
  | succ n =>
    rw [level_succ_eq_filter, hchildren]
    refine List.filter_congr fun r _ => ?_
    rw [Bool.eq_iff_iff, Bool.and_eq_true, decide_eq_true_iff, decide_eq_true_iff, ← mem_level_iff,
      and_iff_left_iff_imp]
    intro h
    exact (List.mem_filter.mp (mem_level_succ.mp h).1).2

/-! ## Places -/

/-- The row of a placed record is its depth. -/
lemma depth_of_placed {t : Placed} (ht : t ∈ (placing entries).placed) :
    HasDepth entries t.record t.row ∧ t.row ≤ 10 := by
  obtain ⟨hlevel, hle⟩ := arrange_row (arranged_nodup entries) ht
  exact ⟨mem_level_iff.mp hlevel, hle⟩

variable (entries)

/-- The kept records of one depth, in the order of the entries. -/
def atDepth (depth : Nat) : List Record :=
  (kept entries).filter fun r => decide (HasDepth entries r depth)

/-- The kept records that start a chain, in the order of the entries. -/
def chainStarts : List Record := (kept entries).filter fun r => decide (StartsChain entries r)

/-- How many kept records come before one of them and hang below the same parent. -/
def siblingsBefore (r : Record) : Nat :=
  ((kept entries).takeWhile (·.id ≠ r.id)).countP fun s =>
    decide (¬ StartsChain entries s ∧ s.parent = r.parent)

/-- The record hangs below its parent, and no kept record that comes after it does. -/
def IsLastChild (r : Record) : Prop :=
  ¬ StartsChain entries r ∧
    ∀ s, [r, s].Sublist (kept entries) → ¬ StartsChain entries s → s.parent ≠ r.parent

instance (r : Record) : Decidable (IsLastChild entries r) :=
  decidable_of_iff (¬ StartsChain entries r ∧ ∀ s ∈ kept entries, [r, s].Sublist (kept entries) →
      ¬ StartsChain entries s → s.parent ≠ r.parent) <|
    and_congr_right fun _ =>
      ⟨fun h s hpair => h s (hpair.subset (by simp)) hpair, fun h s _ hpair => h s hpair⟩

/-- The link from a record to its last child. -/
def lastLink? (r : Record) : Option (String × String) :=
  if IsLastChild entries r then r.parent.map (·, r.id) else none

/-- The records that are placed: by depth, and within a depth in the order of the entries. -/
def placedRecords : List Record := (List.range 11).flatMap (atDepth entries)

/-- How far to the right a record stands: chains start side by side, and below a parent each record
stands further to the right than those before it. -/
inductive HasColumn : Record → Int → Prop
  | start {r : Record} {i : Nat} (hr : (chainStarts entries)[i]? = some r) :
    HasColumn r (100 + 250 * i)
  | link {r p : Record} {x : Int} (hr : r ∈ kept entries) (hstart : ¬ StartsChain entries r)
      (hparent : r.parent = some p.id) (hp : HasColumn p x) :
    HasColumn r (x + 180 * siblingsBefore entries r)

/-- A record without a depth, or with one that is too great. -/
def IsUnplaced (r : Record) : Prop := ∀ depth ≤ 10, ¬ HasDepth entries r depth

instance (r : Record) : Decidable (IsUnplaced entries r) :=
  Nat.decidableBallLE 10 fun depth _ => ¬ HasDepth entries r depth

variable {entries}

lemma roots_eq : roots entries = chainStarts entries :=
  List.filter_congr fun r _ => by rw [Bool.eq_iff_iff, isRoot_iff, decide_eq_true_iff]

lemma placed_records : (placing entries).placed.map (·.record) = placedRecords entries := by
  rw [placing, arrange_placed (arranged_nodup entries)]
  exact List.flatMap_congr fun d _ => level_eq_filter d

lemma waiting_eq :
    (placing entries).waiting =
      (kept entries).filter fun r => decide (IsUnplaced entries r) := by
  rw [placing, arrange_waiting (arranged_nodup entries)]
  simp only [mem_level_iff]
  rw [children, List.filter_filter]
  refine List.filter_congr fun r hr => ?_
  rw [Bool.eq_iff_iff, Bool.and_eq_true, decide_eq_true_iff, decide_eq_true_iff, Bool.not_eq_true',
    ← Bool.not_eq_true, isRoot_iff]
  refine and_iff_left_of_imp fun hdeep hstart => ?_
  exact hdeep 0 (Nat.zero_le _) (.start hr hstart)

/-- Siblings can be counted among the children alone. -/
lemma earlierSiblings_eq {r : Record} (hr : r ∈ children entries) :
    earlierSiblings (children entries) r = siblingsBefore entries r := by
  obtain ⟨before, after, hsplit⟩ := List.append_of_mem hr
  have hkeys : ((children entries).map (·.id)).Nodup :=
    (kept_nodup entries).sublist (List.filter_sublist.map _)
  have hfirst : (children entries).takeWhile (fun s => decide (s.id ≠ r.id)) = before := by
    rw [hsplit] at hkeys ⊢
    exact takeWhile_of_nodup hkeys
  have hkept := filter_takeWhile_of_nodup (kept_nodup entries) hsplit
  rw [earlierSiblings, hfirst, ← hkept, List.countP_filter, siblingsBefore]
  refine List.countP_congr fun s _ => ?_
  rw [Bool.and_eq_true, decide_eq_true_iff, decide_eq_true_iff, ← isRoot_iff, Bool.not_eq_true',
    Bool.not_eq_true, and_comm]

/-- Records below one parent have the same depth. -/
lemma HasDepth.sibling {r s : Record} {depth : Nat} (h : HasDepth entries r depth)
    (hr : ¬ StartsChain entries r) (hs : s ∈ Saved.kept entries) (hstart : ¬ StartsChain entries s)
    (hparent : s.parent = r.parent) : HasDepth entries s depth := by
  cases h with
  | start _ hstart' => exact absurd hstart' hr
  | link _ _ hp hdepth => exact .link hs hstart (hparent.trans hp) hdepth

/-- The column of a placed record. -/
lemma hasColumn_of_placed {t : Placed} (ht : t ∈ (placing entries).placed) :
    HasColumn entries t.record t.x := by
  have hspaced : Spaced (roots entries) (children entries) (placing entries).placed :=
    arrange_spaced (arranged_nodup entries)
  -- By induction on the row: the parent stands one row higher.
  induction hrow : t.row generalizing t with
  | zero =>
    obtain ⟨i, hi, hx⟩ := hspaced.roots t ht hrow
    rw [hx, firstColumn, columnWidth, mul_comm]
    exact .start (roots_eq ▸ hi)
  | succ n ih =>
    obtain ⟨p, hp, hparent, hbelow, hx⟩ := hspaced.below t ht (by omega)
    have hchild : t.record ∈ children entries :=
      (mem_level_succ.mp (hrow ▸ mem_level_iff.mpr (depth_of_placed ht).1)).1
    obtain ⟨hkept, hstart⟩ := mem_children.mp hchild
    rw [hx, earlierSiblings_eq hchild, siblingOffset, mul_comm]
    exact .link hkept hstart hparent (ih hp (by omega))

end Depth

/-! ## Links that stay -/

section Links

variable {entries : List Saved} {ids : IdSource}

/-- An edge that survives belongs to a placed record with no other below the same parent behind it. -/
lemma last_of_mem_surviving {placed : List Placed} {e : Edge}
    (he : e ∈ Edge.surviving (ids.edges (links placed))) :
    ∃ before t after, placed = before ++ t :: after ∧ t.link? = some (e.source, e.target) ∧
      ∀ u ∈ after, ∀ l, u.link? = some l → l.1 ≠ e.source := by
  obtain ⟨before, after, hsplit, hlast⟩ := Edge.mem_surviving.mp he
  have hends := congrArg (List.map fun f : Edge => (f.source, f.target)) hsplit
  rw [IdSource.edges_ends, List.map_append, List.map_cons, links] at hends
  obtain ⟨left, right, rfl, -, hright⟩ := List.filterMap_eq_append_iff.mp hends
  obtain ⟨skipped, t, rest, rfl, -, hlink, hrest⟩ := List.filterMap_eq_cons_iff.mp hright
  refine ⟨left ++ skipped, t, rest, by simp, hlink, fun u hu l hl => ?_⟩
  have hmem : l ∈ after.map fun f => (f.source, f.target) := by
    rw [← hrest]
    exact List.mem_filterMap.mpr ⟨u, hu, hl⟩
  obtain ⟨f, hf, rfl⟩ := List.mem_map.mp hmem
  exact hlast f hf

lemma link?_eq_some {t : Placed} {l : String × String} (h : t.link? = some l) :
    t.row ≠ 0 ∧ t.record.parent = some l.1 ∧ t.record.id = l.2 := by
  unfold link? at h
  split at h
  · simp at h
  next hrow =>
    obtain ⟨p, hp, rfl⟩ := Option.map_eq_some_iff.mp h
    exact ⟨hrow, hp, rfl⟩

lemma links_targets_sublist (placed : List Placed) :
    ((links placed).map (·.2)).Sublist (placed.map (·.record.id)) := by
  induction placed with
  | nil => exact List.Sublist.refl _
  | cons t rest ih =>
    rw [links, List.filterMap_cons]
    cases hlink : t.link? with
    | none => exact ih.cons _
    | some l =>
      rw [List.map_cons, List.map_cons, (link?_eq_some hlink).2.2]
      exact ih.cons_cons _

lemma row_eq_zero_iff {t : Placed} (ht : t ∈ (placing entries).placed) :
    t.row = 0 ↔ StartsChain entries t.record :=
  (depth_of_placed ht).1.startsChain_iff.symm

/-- A placed record that starts no chain is linked to its parent. -/
lemma link?_of_parent {t : Placed} (ht : t ∈ (placing entries).placed)
    (hstart : ¬ StartsChain entries t.record) {parent : String}
    (hparent : t.record.parent = some parent) : t.link? = some (parent, t.record.id) := by
  rw [link?, if_neg (mt (row_eq_zero_iff ht).mp hstart), hparent]
  rfl

lemma pair_sublist_placedRecords {r s : Record} (hpair : [r, s].Sublist (kept entries)) {depth : Nat}
    (hr : HasDepth entries r depth) (hs : HasDepth entries s depth) (hle : depth ≤ 10) :
    [r, s].Sublist (placedRecords entries) := by
  have hat : [r, s].Sublist (atDepth entries depth) := by
    have hfilter := hpair.filter fun r => decide (HasDepth entries r depth)
    rwa [List.filter_cons_of_pos (by simpa using hr), List.filter_cons_of_pos (by simpa using hs)]
      at hfilter
  have hdepth : [depth].Sublist (List.range 11) :=
    List.singleton_sublist.mpr (List.mem_range.mpr (Nat.lt_succ_of_le hle))
  have hflat := hdepth.flatMap (atDepth entries)
  rw [List.flatMap_singleton] at hflat
  exact hat.trans hflat

/-- An edge leads from a parent to its last child. -/
lemma last_of_mem_restoredEdges {e : Edge} (he : e ∈ restoredEdges entries ids) :
    ∃ t ∈ (placing entries).placed, IsLastChild entries t.record ∧
      t.link? = some (e.source, e.target) := by
  obtain ⟨before, t, after, hplaced, hlink, hafter⟩ := last_of_mem_surviving he
  have ht : t ∈ (placing entries).placed := hplaced ▸ List.mem_append_right _ List.mem_cons_self
  obtain ⟨hrow, hparent, -⟩ := link?_eq_some hlink
  have hstart : ¬ StartsChain entries t.record := mt (row_eq_zero_iff ht).mpr hrow
  refine ⟨t, ht, ⟨hstart, fun s hpair hs hsParent => ?_⟩, hlink⟩
  -- A later sibling has the same depth, so it is placed in the same row, but later.
  obtain ⟨hdepth, hle⟩ := depth_of_placed ht
  have hsDepth : HasDepth entries s t.row :=
    hdepth.sibling hstart (hpair.subset (by simp)) hs hsParent
  have hlater := pair_sublist_placedRecords hpair hdepth hsDepth hle
  have hnodup := placed_nodup entries
  rw [← placed_records, hplaced, List.map_append, List.map_cons] at hlater
  rw [hplaced, ← Function.comp_def, ← List.map_map, List.map_append, List.map_cons] at hnodup
  obtain ⟨u, hu, rfl⟩ := List.mem_map.mp (mem_of_pair_sublist hnodup.of_map hlater)
  have huPlaced : u ∈ (placing entries).placed :=
    hplaced ▸ List.mem_append_right _ (List.mem_cons_of_mem _ hu)
  exact hafter u hu _ (link?_of_parent huPlaced hs (hsParent.trans hparent)) rfl

/-- Of two kept records one comes after the other. -/
lemma pair_of_mem_kept {r s : Record} (hr : r ∈ kept entries) (hs : s ∈ kept entries) (hne : r ≠ s) :
    [r, s].Sublist (kept entries) ∨ [s, r].Sublist (kept entries) := by
  obtain ⟨before, after, hsplit⟩ := List.append_of_mem hr
  rw [hsplit] at hs ⊢
  rcases List.mem_append.mp hs with hs | hs
  · exact .inr ((List.singleton_sublist.mpr hs).append
      (List.singleton_sublist.mpr List.mem_cons_self))
  · have hs' : s ∈ after := (List.mem_cons.mp hs).resolve_left hne.symm
    refine .inl (List.Sublist.trans ?_ (List.sublist_append_right before _))
    exact (List.singleton_sublist.mpr hs').cons_cons r

/-- A parent has one last child. -/
lemma IsLastChild.unique {r s : Record} (hr : r ∈ kept entries) (hs : s ∈ kept entries)
    (hrLast : IsLastChild entries r) (hsLast : IsLastChild entries s)
    (hparent : r.parent = s.parent) : r = s := by
  by_contra hne
  rcases pair_of_mem_kept hr hs hne with hpair | hpair
  · exact hrLast.2 s hpair hsLast.1 hparent.symm
  · exact hsLast.2 r hpair hrLast.1 hparent

/-- A placed record that starts no chain has a parent with an edge. -/
lemma exists_restoredEdge {t : Placed} {l : String × String} (ht : t ∈ (placing entries).placed)
    (hlink : t.link? = some l) : ∃ e ∈ restoredEdges entries ids, e.source = l.1 := by
  have hl : l ∈ (ids.edges (links (placing entries).placed)).map fun e => (e.source, e.target) := by
    rw [IdSource.edges_ends]
    exact List.mem_filterMap.mpr ⟨t, ht, hlink⟩
  obtain ⟨f, hf, rfl⟩ := List.mem_map.mp hl
  exact Edge.exists_surviving hf

lemma lastLinks_eq :
    (placedRecords entries).filterMap (lastLink? entries) =
      ((placing entries).placed.filter fun t => decide (IsLastChild entries t.record)).filterMap
        link? := by
  rw [← placed_records, List.filterMap_map, List.filterMap_filter]
  refine List.filterMap_congr fun t ht => ?_
  rw [Function.comp_apply, lastLink?]
  by_cases hlast : IsLastChild entries t.record
  · rw [if_pos hlast, if_pos (decide_eq_true hlast), link?,
      if_neg (mt (row_eq_zero_iff ht).mp hlast.1)]
  · rw [if_neg hlast, if_neg (by simpa using hlast)]

lemma restoredEdges_sublist :
    ((restoredEdges entries ids).map fun e => (e.source, e.target)).Sublist
      (links (placing entries).placed) := by
  have hsurviving := (Edge.surviving_sublist (ids.edges (links (placing entries).placed))).map
    fun e => (e.source, e.target)
  rwa [IdSource.edges_ends] at hsurviving

lemma links_targets_nodup : ((links (placing entries).placed).map (·.2)).Nodup :=
  (placed_nodup entries).sublist (links_targets_sublist _)

/-- No two edges lead to one record. -/
lemma restoredEdges_targets_nodup : ((restoredEdges entries ids).map (·.target)).Nodup := by
  have htargets := (@restoredEdges_sublist entries ids).map (·.2)
  rw [List.map_map] at htargets
  exact links_targets_nodup.sublist htargets

/-- The pairs that edges join are the links from parents to their last children. -/
theorem restoredEdges_ends :
    (restoredEdges entries ids).map (fun e => (e.source, e.target)) =
      (placedRecords entries).filterMap (lastLink? entries) := by
  rw [lastLinks_eq]
  have hleft := @restoredEdges_sublist entries ids
  have hright : (((placing entries).placed.filter fun t =>
      decide (IsLastChild entries t.record)).filterMap link?).Sublist
      (links (placing entries).placed) := List.filter_sublist.filterMap link?
  have hnodup := (@links_targets_nodup entries).of_map
  -- Both are sublists of the links, and those are all different: equal members are enough.
  refine (hnodup.perm_iff_eq_of_sublist hleft hright).mp ?_
  rw [List.perm_ext_iff_of_nodup (hnodup.sublist hleft) (hnodup.sublist hright)]
  intro l
  rw [List.mem_map, List.mem_filterMap]
  constructor
  · rintro ⟨e, he, rfl⟩
    obtain ⟨t, ht, hlast, hlink⟩ := last_of_mem_restoredEdges he
    exact ⟨t, List.mem_filter.mpr ⟨ht, decide_eq_true hlast⟩, hlink⟩
  · rintro ⟨t, ht, hlink⟩
    obtain ⟨ht, hlast⟩ := List.mem_filter.mp ht
    rw [decide_eq_true_iff] at hlast
    obtain ⟨e, he, hsource⟩ := @exists_restoredEdge entries ids t l ht hlink
    obtain ⟨u, hu, huLast, huLink⟩ := last_of_mem_restoredEdges he
    obtain ⟨-, hparent, hid⟩ := link?_eq_some hlink
    obtain ⟨-, huParent, huId⟩ := link?_eq_some huLink
    have hsame := huLast.unique (mem_kept_of_placed hu) (mem_kept_of_placed ht) hlast
      (by rw [huParent, hparent, hsource])
    refine ⟨e, he, Prod.ext hsource ?_⟩
    rw [← huId, ← hid, hsame]

end Links

/-! ## The whole -/

section Whole

variable (entries : List Saved)

/-- A node stands for a record, in the row of its depth and in its column. -/
structure StandsFor (r : Record) (n : Node) : Prop where
  id : n.id = r.id
  position : ∃ depth x, HasDepth entries r depth ∧ HasColumn entries r x ∧
    n.position = [.float (Double.ofInt x), .float (Double.ofInt (120 * depth))]

/-- How a graph is laid out that was restored from a list of entries. -/
structure LaidOut (restored : Restored) : Prop where
  placed : ∀ r ∈ kept entries,
    restored.graph.hasNode r.id = true ↔ ∃ depth ≤ 10, HasDepth entries r depth
  unplaced : restored.unplaced =
    ((kept entries).filter fun r => decide (IsUnplaced entries r)).map (·.id)
  nodes : List.Forall₂ (StandsFor entries) (placedRecords entries) restored.graph.nodes
  edges : restored.graph.edges.map (fun e => (e.source, e.target)) =
    (placedRecords entries).filterMap (lastLink? entries)
  oneEach : ∀ r ∈ placedRecords entries, ¬ StartsChain entries r →
    ∃! e, e ∈ restored.graph.edges ∧ r.parent = some e.source

variable {entries} {ids ids' : IdSource} {restored : Restored}

lemma mem_placedRecords {r : Record} :
    r ∈ placedRecords entries ↔ ∃ depth ≤ 10, HasDepth entries r depth := by
  simp only [placedRecords, atDepth, List.mem_flatMap, List.mem_range, List.mem_filter,
    decide_eq_true_iff, Nat.lt_succ_iff]
  constructor
  · rintro ⟨depth, hle, -, hdepth⟩
    exact ⟨depth, hle, hdepth⟩
  · rintro ⟨depth, hle, hdepth⟩
    exact ⟨depth, hle, hdepth.kept, hdepth⟩

lemma placedRecords_ext {r s : Record} (hr : r ∈ placedRecords entries)
    (hs : s ∈ placedRecords entries) (hid : r.id = s.id) : r = s := by
  obtain ⟨_, -, hrDepth⟩ := mem_placedRecords.mp hr
  obtain ⟨_, -, hsDepth⟩ := mem_placedRecords.mp hs
  exact List.inj_on_of_nodup_map (kept_nodup entries) hrDepth.kept hsDepth.kept hid

lemma standsFor_of_placed {t : Placed} {n : Node} (ht : t ∈ (placing entries).placed)
    (hmade : (nodeOf t).result = .ok n) : StandsFor entries t.record n := by
  obtain ⟨payload, -, h⟩ := Noted.bind_result_eq_ok.mp hmade
  obtain rfl := Except.ok.inj h
  refine ⟨rfl, t.row, t.x, (depth_of_placed ht).1, hasColumn_of_placed ht, ?_⟩
  rw [y, rowHeight, mul_comm]
  rfl

/-- A restoration that succeeds lays its graph out by depth. -/
theorem restore_laidOut (h : (restore entries ids).result = .ok (restored, ids')) :
    LaidOut entries restored := by
  have hyields := restore_yields h
  have hids : restored.graph.nodes.map (·.id) = (placedRecords entries).map (·.id) := by
    rw [hyields.nodeIds, placed_records]
  refine ⟨fun r hr => ?_, ?_, ?_, ?_, fun r hr hstart => ?_⟩
  · have hmem : restored.graph.hasNode r.id = true ↔ r.id ∈ restored.graph.nodes.map (·.id) := by
      simp [Graph.hasNode]
    rw [hmem, hids, ← mem_placedRecords, List.mem_map]
    constructor
    · rintro ⟨s, hs, hid⟩
      obtain ⟨depth, -, hdepth⟩ := mem_placedRecords.mp hs
      rwa [← List.inj_on_of_nodup_map (kept_nodup entries) hdepth.kept hr hid]
    · intro hplaced
      exact ⟨r, hplaced, rfl⟩
  · rw [hyields.unplaced, waiting_eq]
  · rw [← placed_records, List.forall₂_map_left_iff]
    refine ((List.forall₂_and_left _ _).mpr ⟨fun _ ht => ht, hyields.nodes⟩).imp ?_
    rintro t n ⟨ht, hmade⟩
    exact standsFor_of_placed ht hmade
  · rw [hyields.edges, restoredEdges_ends]
  · rw [← placed_records] at hr
    obtain ⟨t, ht, rfl⟩ := List.mem_map.mp hr
    obtain ⟨parent, hparent⟩ := exists_parent hstart
    obtain ⟨e, he, hsource⟩ := @exists_restoredEdge _ ids _ _ ht (link?_of_parent ht hstart hparent)
    rw [hyields.edges, hparent]
    refine ⟨e, ⟨he, by rw [hsource]⟩, ?_⟩
    rintro f ⟨hf, hfSource⟩
    refine List.inj_on_of_nodup_map (Edge.surviving_sources _) hf he ?_
    rw [hsource, ← Option.some.inj hfSource]

/-- Two alarms below one merge, the first of them listed before it, and a record below itself. -/
def twoAlarms : List Saved :=
  [.raw (.object [("eventSettingId", .text "a"), ("eventType", .text "Alarm"),
      ("parentId", .text "m")]),
    .raw (.object [("eventSettingId", .text "m"), ("eventType", .text "And")]),
    .raw (.object [("eventSettingId", .text "s"), ("eventType", .text "Speed"),
      ("parentId", .text "s")]),
    .raw (.object [("eventSettingId", .text "b"), ("eventType", .text "Alarm"),
      ("parentId", .text "m")])]

/-- The restoration of `twoAlarms`. The second alarm has taken the edge of the first one. -/
def twoAlarmsRestored : Restored where
  graph :=
    ⟨[⟨"m", "Merge#1", [.float (Double.ofInt 100), .float (Double.ofInt 0)], .merge .null⟩,
        ⟨"a", "Alarm#1", [.float (Double.ofInt 100), .float (Double.ofInt 120)], .alarm []⟩,
        ⟨"b", "Alarm#1", [.float (Double.ofInt 280), .float (Double.ofInt 120)], .alarm []⟩],
      [⟨"2", "m", "b"⟩]⟩
  dropped := []
  unplaced := ["s"]
  warnings := ["m: several child records, only the last (b) stays connected"]

theorem twoAlarms_laidOut :
    (restore twoAlarms ⟨Nat.repr, 0⟩).result = .ok (twoAlarmsRestored, ⟨Nat.repr, 2⟩) ∧
      LaidOut twoAlarms twoAlarmsRestored := by
  have hrestored : (restore twoAlarms ⟨Nat.repr, 0⟩).result =
      .ok (twoAlarmsRestored, ⟨Nat.repr, 2⟩) := rfl
  exact ⟨hrestored, restore_laidOut hrestored⟩

end Whole

end Saved
end DetectionFlow
