import DetectionFlow.Placement
import Mathlib

/-!
# Placement by depth

`Placed.arrange` works in passes over a list of records that wait. What comes out does not depend on
the passes: `Placed.level n` is the list of all records `n` links below a root, in the order in which
they were given, and the placed records are the levels from 0 to 10, one after the other
(`arrange_placed`); the others stay (`arrange_waiting`).

The invariant is `Placed.Reaches n`, the state of things after `n` passes; one pass leads from
`Reaches n` to `Reaches (n + 1)` (`Reaches.pass`).
-/

namespace DetectionFlow
namespace Placed

/-! ## One pass -/

/-- The record whose parent is placed. -/
def isReady (placed : List Placed) (r : Record) : Bool := (parentOf? placed r).isSome

lemma parentOf?_eq_some {placed : List Placed} {r : Record} {p : Placed}
    (h : parentOf? placed r = some p) : p ∈ placed ∧ r.parent = some p.record.id := by
  obtain ⟨id, hid, hfind⟩ := Option.bind_eq_some_iff.mp h
  have heq : p.record.id = id := by simpa using List.find?_some hfind
  exact ⟨List.mem_of_find?_eq_some hfind, heq ▸ hid⟩

lemma isReady_iff {placed : List Placed} {r : Record} :
    isReady placed r = true ↔ ∃ p ∈ placed, r.parent = some p.record.id := by
  constructor
  · intro h
    obtain ⟨p, hp⟩ := Option.isSome_iff_exists.mp h
    exact ⟨p, parentOf?_eq_some hp⟩
  · rintro ⟨p, hp, hparent⟩
    simp only [isReady, parentOf?, hparent, Option.bind_some, List.find?_isSome,
      decide_eq_true_eq]
    exact ⟨p, hp, rfl⟩

/-- A pass goes through the waiting records once. Those that are ready are placed one row below
their parents, and the others wait on. -/
lemma foldl_place (before : List Placed) (rs : List Record) (p : Progress) :
    ∃ new : List Placed,
      (rs.foldl (place before) p).placed = p.placed ++ new ∧
      new.map (·.record) = rs.filter (isReady before) ∧
      (rs.foldl (place before) p).waiting = p.waiting ++ rs.filter (!isReady before ·) ∧
      ∀ t ∈ new, ∃ parent, parentOf? before t.record = some parent ∧ t.row = parent.row + 1 := by
  induction rs generalizing p with
  | nil => exact ⟨[], by simp⟩
  | cons r rest ih =>
    rw [List.foldl_cons]
    cases hparent : parentOf? before r with
    | none =>
      have hready : isReady before r = false := by simp [isReady, hparent]
      have hplace : place before p r = ⟨p.placed, p.waiting ++ [r]⟩ := by simp [place, hparent]
      obtain ⟨new, hplaced, hrecords, hwaiting, hrows⟩ := ih (place before p r)
      refine ⟨new, ?_, ?_, ?_, hrows⟩
      · rw [hplaced, hplace]
      · rw [hrecords, List.filter_cons_of_neg (by simp [hready])]
      · rw [hwaiting, hplace, List.filter_cons_of_pos (by simp [hready])]
        simp
    | some parent =>
      have hready : isReady before r = true := by simp [isReady, hparent]
      obtain ⟨t, htRecord, htRow, hplace⟩ : ∃ t : Placed, t.record = r ∧ t.row = parent.row + 1 ∧
          place before p r = ⟨p.placed ++ [t], p.waiting⟩ := by
        refine ⟨⟨r, parent.row + 1, parent.x + siblings p.placed r * siblingOffset⟩, rfl, rfl, ?_⟩
        simp only [place, hparent]
      obtain ⟨new, hplaced, hrecords, hwaiting, hrows⟩ := ih (place before p r)
      refine ⟨t :: new, ?_, ?_, ?_, ?_⟩
      · rw [hplaced, hplace]
        simp
      · rw [List.map_cons, hrecords, List.filter_cons_of_pos hready, htRecord]
      · rw [hwaiting, hplace, List.filter_cons_of_neg (by simp [hready])]
      · intro s hs
        rcases List.mem_cons.mp hs with rfl | hs
        · exact ⟨parent, htRecord ▸ hparent, htRow⟩
        · exact hrows s hs

/-- No record is lost or doubled by a pass. -/
lemma pass_perm (p : Progress) :
    ((pass p).placed.map (·.record) ++ (pass p).waiting).Perm
      (p.placed.map (·.record) ++ p.waiting) := by
  obtain ⟨new, hplaced, hrecords, hwaiting, -⟩ := foldl_place p.placed p.waiting ⟨p.placed, []⟩
  rw [pass, hplaced, hwaiting, List.map_append, hrecords, List.nil_append, List.append_assoc]
  exact (List.filter_append_perm _ _).append_left _

lemma run_perm (n : Nat) (p : Progress) :
    ((run n p).placed.map (·.record) ++ (run n p).waiting).Perm
      (p.placed.map (·.record) ++ p.waiting) := by
  induction n generalizing p with
  | zero => exact List.Perm.refl _
  | succ n ih => exact (ih (pass p)).trans (pass_perm p)

@[simp] lemma columns_records (n : Nat) (roots : List Record) :
    (columns n roots).map (·.record) = roots := by
  induction roots generalizing n with
  | nil => rfl
  | cons r rest ih => simp [columns, ih]

lemma columns_row {n : Nat} {roots : List Record} {t : Placed} (ht : t ∈ columns n roots) :
    t.row = 0 := by
  induction roots generalizing n with
  | nil => simp [columns] at ht
  | cons r rest ih =>
    rcases List.mem_cons.mp ht with rfl | ht
    · rfl
    · exact ih ht

/-- Every record is placed or waits in the end. -/
lemma arrange_perm (roots children : List Record) :
    ((arrange roots children).placed.map (·.record) ++ (arrange roots children).waiting).Perm
      (roots ++ children) := by
  have h := run_perm passes ⟨columns 0 roots, children⟩
  rwa [columns_records] at h

/-! ## Levels -/

section Levels

variable (roots children : List Record)

/-- The records so many links below a root, in the order in which they were given. -/
def level : Nat → List Record
  | 0 => roots
  | n + 1 => children.filter fun r => (level n).any fun p => r.parent = some p.id

variable {roots children}

lemma mem_level_succ {n : Nat} {r : Record} :
    r ∈ level roots children (n + 1) ↔
      r ∈ children ∧ ∃ p ∈ level roots children n, r.parent = some p.id := by
  simp [level]

lemma mem_of_mem_level {n : Nat} {r : Record} (h : r ∈ level roots children n) :
    r ∈ roots ++ children := by
  cases n with
  | zero => exact List.mem_append_left _ h
  | succ n => exact List.mem_append_right _ (mem_level_succ.mp h).1

variable (hids : ((roots ++ children).map (·.id)).Nodup)

include hids

lemma disjoint_of_nodup {r : Record} (hroot : r ∈ roots) (hchild : r ∈ children) : False := by
  rw [List.map_append] at hids
  exact List.disjoint_of_nodup_append hids (List.mem_map_of_mem hroot)
    (List.mem_map_of_mem hchild)

/-- A record has at most one depth. -/
lemma level_unique {i j : Nat} {r : Record} (hi : r ∈ level roots children i)
    (hj : r ∈ level roots children j) : i = j := by
  induction i generalizing j r with
  | zero =>
    cases j with
    | zero => rfl
    | succ j => exact (disjoint_of_nodup hids hi (mem_level_succ.mp hj).1).elim
  | succ i ih =>
    cases j with
    | zero => exact (disjoint_of_nodup hids hj (mem_level_succ.mp hi).1).elim
    | succ j =>
      obtain ⟨-, p, hp, hparent⟩ := mem_level_succ.mp hi
      obtain ⟨-, q, hq, hparent'⟩ := mem_level_succ.mp hj
      -- The two parents have one identifier, hence are one record.
      have hpq : p = q := by
        refine List.inj_on_of_nodup_map hids (mem_of_mem_level hp) (mem_of_mem_level hq) ?_
        exact Option.some.inj (hparent.symm.trans hparent')
      rw [ih hp (hpq ▸ hq)]

omit hids in
/-- The levels keep the order of the records. -/
lemma level_succ_eq_filter (n : Nat) :
    level roots children (n + 1) =
      children.filter fun r => decide (r ∈ level roots children (n + 1)) := by
  conv_lhs => rw [level]
  refine List.filter_congr fun r hr => ?_
  have hiff : r ∈ level roots children (n + 1) ↔
      ∃ p ∈ level roots children n, r.parent = some p.id := by
    rw [mem_level_succ]
    exact and_iff_right hr
  rw [Bool.eq_iff_iff, List.any_eq_true, decide_eq_true_iff, hiff]
  simp

/-! ## The state after some passes -/

omit hids in
/-- What is placed after so many passes, and what waits. -/
structure Reaches (roots children : List Record) (n : Nat) (p : Progress) : Prop where
  placed : p.placed.map (·.record) = (List.range (n + 1)).flatMap (level roots children)
  rows : ∀ t ∈ p.placed, t.record ∈ level roots children t.row ∧ t.row ≤ n
  waiting : p.waiting = children.filter fun r => decide (∀ k ≤ n, r ∉ level roots children k)

omit hids in
lemma Reaches.isReady_iff {n : Nat} {p : Progress} (h : Reaches roots children n p)
    {r : Record} :
    isReady p.placed r = true ↔
      ∃ k ≤ n, ∃ q ∈ level roots children k, r.parent = some q.id := by
  rw [Placed.isReady_iff]
  constructor
  · rintro ⟨t, ht, hparent⟩
    obtain ⟨hlevel, hrow⟩ := h.rows t ht
    exact ⟨t.row, hrow, t.record, hlevel, hparent⟩
  · rintro ⟨k, hk, q, hq, hparent⟩
    have hmem : q ∈ p.placed.map (·.record) := by
      rw [h.placed, List.mem_flatMap]
      exact ⟨k, List.mem_range.mpr (by omega), hq⟩
    obtain ⟨t, ht, rfl⟩ := List.mem_map.mp hmem
    exact ⟨t, ht, hparent⟩

/-- Of the records that wait after `n` passes those of level `n + 1` are ready. -/
lemma Reaches.ready_iff_mem_level {n : Nat} {p : Progress} (h : Reaches roots children n p)
    {r : Record} (hr : r ∈ children) :
    ((∀ k ≤ n, r ∉ level roots children k) ∧ isReady p.placed r = true) ↔
      r ∈ level roots children (n + 1) := by
  rw [h.isReady_iff]
  constructor
  · rintro ⟨hnot, k, hk, q, hq, hparent⟩
    have hlevel : r ∈ level roots children (k + 1) := mem_level_succ.mpr ⟨hr, q, hq, hparent⟩
    have hkn : k = n := by
      by_contra hne
      exact hnot (k + 1) (by omega) hlevel
    exact hkn ▸ hlevel
  · intro hlevel
    refine ⟨fun k hk hlow => ?_, ?_⟩
    · have := level_unique hids hlow hlevel
      omega
    · obtain ⟨-, q, hq, hparent⟩ := mem_level_succ.mp hlevel
      exact ⟨n, le_refl n, q, hq, hparent⟩

/-- One pass leads one level further. -/
lemma Reaches.pass {n : Nat} {p : Progress} (h : Reaches roots children n p) :
    Reaches roots children (n + 1) (pass p) := by
  obtain ⟨new, hplaced, hrecords, hwaiting, hrows⟩ := foldl_place p.placed p.waiting ⟨p.placed, []⟩
  have hnew : new.map (·.record) = level roots children (n + 1) := by
    rw [hrecords, h.waiting, List.filter_filter, level_succ_eq_filter]
    refine List.filter_congr fun r hr => ?_
    rw [Bool.eq_iff_iff, Bool.and_eq_true, decide_eq_true_iff, decide_eq_true_iff, and_comm]
    exact h.ready_iff_mem_level hids hr
  refine ⟨?_, ?_, ?_⟩
  · rw [Placed.pass, hplaced, List.map_append, h.placed, hnew, List.range_succ (n := n + 1),
      List.flatMap_append, List.flatMap_singleton]
  · intro t ht
    rw [Placed.pass, hplaced] at ht
    rcases List.mem_append.mp ht with ht | ht
    · obtain ⟨hlevel, hrow⟩ := h.rows t ht
      exact ⟨hlevel, by omega⟩
    · obtain ⟨parent, hparent, hrow⟩ := hrows t ht
      obtain ⟨hmem, hparentId⟩ := parentOf?_eq_some hparent
      obtain ⟨hlevel, hle⟩ := h.rows parent hmem
      have hchild : t.record ∈ level roots children (n + 1) := hnew ▸ List.mem_map_of_mem ht
      refine ⟨?_, by omega⟩
      rw [hrow]
      exact mem_level_succ.mpr ⟨(mem_level_succ.mp hchild).1, parent.record, hlevel, hparentId⟩
  · -- Of those that waited, exactly the ones on the next level were placed in this pass.
    rw [Placed.pass, hwaiting, List.nil_append, h.waiting, List.filter_filter]
    refine List.filter_congr fun r hr => ?_
    have hstep := h.ready_iff_mem_level hids hr
    rw [Bool.eq_iff_iff, Bool.and_eq_true, decide_eq_true_iff, decide_eq_true_iff,
      Bool.not_eq_true']
    constructor
    · rintro ⟨hnotReady, hnot⟩ k hk
      rcases Nat.lt_or_ge n k with hnk | hkn
      · obtain rfl : k = n + 1 := by omega
        intro hlevel
        rw [(hstep.mpr hlevel).2] at hnotReady
        exact Bool.noConfusion hnotReady
      · exact hnot k hkn
    · intro hnot
      have hlow : ∀ k ≤ n, r ∉ level roots children k := fun k hk => hnot k (by omega)
      refine ⟨?_, hlow⟩
      by_contra hready
      exact hnot (n + 1) (le_refl _) (hstep.mp ⟨hlow, by simpa using hready⟩)

lemma Reaches.run {n : Nat} {p : Progress} (h : Reaches roots children n p) (m : Nat) :
    Reaches roots children (n + m) (run m p) := by
  induction m generalizing n p with
  | zero => exact h
  | succ m ih =>
    have hnext := ih (h.pass hids)
    rwa [Nat.add_assoc, Nat.add_comm 1 m] at hnext

lemma reaches_start : Reaches roots children 0 ⟨columns 0 roots, children⟩ := by
  refine ⟨?_, ?_, ?_⟩
  · simp [level]
  · intro t ht
    rw [columns_row ht]
    refine ⟨?_, le_refl 0⟩
    have hmem : t.record ∈ (columns 0 roots).map (·.record) := List.mem_map_of_mem ht
    rwa [columns_records] at hmem
  · symm
    rw [List.filter_eq_self]
    intro r hr
    rw [decide_eq_true_iff]
    intro k hk hroot
    obtain rfl : k = 0 := by omega
    exact disjoint_of_nodup hids hroot hr

/-! ## The arrangement -/

lemma reaches_arrange : Reaches roots children passes (arrange roots children) := by
  have h := (reaches_start hids).run hids passes
  rwa [Nat.zero_add] at h

/-- The placed records are those up to ten links below a root, by depth, and within a depth in their
given order. -/
theorem arrange_placed :
    (arrange roots children).placed.map (·.record) =
      (List.range (passes + 1)).flatMap (level roots children) :=
  (reaches_arrange hids).placed

/-- The row of a placed record is its depth. -/
theorem arrange_row {t : Placed} (ht : t ∈ (arrange roots children).placed) :
    t.record ∈ level roots children t.row ∧ t.row ≤ passes :=
  (reaches_arrange hids).rows t ht

/-- The records that no place was found for are those without a depth of at most ten. -/
theorem arrange_waiting :
    (arrange roots children).waiting =
      children.filter fun r => decide (∀ k ≤ passes, r ∉ level roots children k) :=
  (reaches_arrange hids).waiting

end Levels

end Placed
end DetectionFlow
