import DetectionFlow.Proofs.KeyedLists
import DetectionFlow.Proofs.PlacementTheorems

/-!
# Columns of placed records

How far to the right a record is placed: roots side by side, and every other record below its parent,
moved by one step for each sibling that comes before it (`Placed.arrange_spaced`). Like the rows, the
columns do not depend on the passes: siblings have one parent, so they are placed in one pass, and what
was counted by then are those that come before.

The invariant is `Placed.Spaced`, which one pass keeps (`Spaced.pass`).
-/

namespace DetectionFlow
namespace Placed

/-- How many of some records come before one of them and have the same parent. -/
def earlierSiblings (rs : List Record) (r : Record) : Nat :=
  (rs.takeWhile (·.id ≠ r.id)).countP (·.parent = r.parent)

/-! ## Single passes -/

lemma columns_x {n : Nat} {roots : List Record} {t : Placed} (ht : t ∈ columns n roots) :
    ∃ i : Nat, roots[i]? = some t.record ∧ t.x = firstColumn + (n + i : Nat) * columnWidth := by
  induction roots generalizing n with
  | nil => simp [columns] at ht
  | cons r rest ih =>
    rcases List.mem_cons.mp ht with rfl | ht
    · exact ⟨0, rfl, rfl⟩
    · obtain ⟨i, hi, hx⟩ := ih ht
      refine ⟨i + 1, hi, ?_⟩
      rw [hx, Nat.add_assoc, Nat.add_comm 1 i]

/-- Readiness depends on the parent alone. -/
lemma isReady_congr {placed : List Placed} {r s : Record} (h : r.parent = s.parent) :
    isReady placed r = isReady placed s := by
  rw [isReady, isReady, parentOf?, parentOf?, h]

/-- A record that a pass places is moved by the siblings that were placed before the pass, and by those
that the pass placed before it. -/
lemma foldl_place_x (before : List Placed) (rs : List Record) (p : Progress) {t : Placed}
    (ht : t ∈ (rs.foldl (place before) p).placed) :
    t ∈ p.placed ∨ ∃ parent done rest, rs = done ++ t.record :: rest ∧
      parentOf? before t.record = some parent ∧ t.row = parent.row + 1 ∧
      t.x = parent.x + (siblings p.placed t.record +
        (done.filter (isReady before)).countP (·.parent = t.record.parent) : Nat) *
          siblingOffset := by
  induction rs using List.reverseRecOn with
  | nil => exact .inl ht
  | append_singleton rs r ih =>
    have hearlier (h : t ∈ (rs.foldl (place before) p).placed) := ih h
    rw [List.foldl_append, List.foldl_cons, List.foldl_nil] at ht
    cases hparent : parentOf? before r with
    | none =>
      rw [place, hparent] at ht
      rcases hearlier ht with h | ⟨parent, done, rest, rfl, h⟩
      · exact .inl h
      · exact .inr ⟨parent, done, rest ++ [r], by simp, h⟩
    | some parent =>
      rw [place, hparent] at ht
      rcases List.mem_append.mp ht with ht | ht
      · rcases hearlier ht with h | ⟨parent, done, rest, rfl, h⟩
        · exact .inl h
        · exact .inr ⟨parent, done, rest ++ [r], by simp, h⟩
      · obtain ⟨new, hplaced, hrecords, -, hrows⟩ := foldl_place before rs p
        -- All that was placed in this pass stands below the first row.
        have hnew : siblings new r = (rs.filter (isReady before)).countP (·.parent = r.parent) := by
          rw [← hrecords, List.countP_map, siblings]
          refine List.countP_congr fun s hs => ?_
          obtain ⟨q, -, hrow⟩ := hrows s hs
          simp [hrow]
        obtain rfl := List.mem_singleton.mp ht
        refine .inr ⟨parent, rs, [], rfl, hparent, rfl, ?_⟩
        dsimp only
        rw [hplaced, ← hnew]
        simp only [siblings, List.countP_append]

/-! ## All passes -/

section Columns

variable {roots children : List Record}

/-- Where placed records stand: roots in their columns, and others below a placed parent. -/
structure Spaced (roots children : List Record) (placed : List Placed) : Prop where
  roots : ∀ t ∈ placed, t.row = 0 →
    ∃ i : Nat, roots[i]? = some t.record ∧ t.x = firstColumn + i * columnWidth
  below : ∀ t ∈ placed, t.row ≠ 0 → ∃ s ∈ placed, t.record.parent = some s.record.id ∧
    t.row = s.row + 1 ∧ t.x = s.x + earlierSiblings children t.record * siblingOffset

lemma spaced_start : Spaced roots children (columns 0 roots) where
  roots t ht _ := by
    obtain ⟨i, hi, hx⟩ := columns_x ht
    rw [Nat.zero_add] at hx
    exact ⟨i, hi, hx⟩
  below _ ht hrow := absurd (columns_row ht) hrow

/-- Records with the same parent have the same depth. -/
lemma level_of_sibling {n : Nat} {r s : Record} (hr : r ∈ level roots children (n + 1))
    (hs : s ∈ children) (hparent : s.parent = r.parent) : s ∈ level roots children (n + 1) := by
  obtain ⟨-, p, hp, hrParent⟩ := mem_level_succ.mp hr
  exact mem_level_succ.mpr ⟨hs, p, hp, hparent.trans hrParent⟩

variable (hids : ((roots ++ children).map (·.id)).Nodup)

include hids

/-- The siblings of a record that a pass places are those that come before it. -/
lemma Reaches.siblings_eq {n : Nat} {p : Progress} (h : Reaches roots children n p) {r : Record}
    {done rest : List Record} (hwaiting : p.waiting = done ++ r :: rest)
    (hready : isReady p.placed r = true) :
    siblings p.placed r + (done.filter (isReady p.placed)).countP (·.parent = r.parent) =
      earlierSiblings children r := by
  have hmem : r ∈ p.waiting := hwaiting ▸ List.mem_append_right _ List.mem_cons_self
  have hunplaced := h.waiting ▸ hmem
  obtain ⟨hchild, hlow⟩ := List.mem_filter.mp hunplaced
  rw [decide_eq_true_iff] at hlow
  have hlevel : r ∈ level roots children (n + 1) := (h.ready_iff_mem_level hids hchild).mp ⟨hlow, hready⟩
  have hnone : siblings p.placed r = 0 := by
    rw [siblings, List.countP_eq_zero]
    intro t ht
    simp only [Bool.and_eq_true, decide_eq_true_eq, not_and]
    intro hrow hparent
    obtain ⟨htLevel, hle⟩ := h.rows t ht
    obtain ⟨k, hk⟩ := Nat.exists_eq_succ_of_ne_zero (Nat.pos_iff_ne_zero.mp hrow)
    have htChild : t.record ∈ children := (mem_level_succ.mp (hk ▸ htLevel)).1
    have := level_unique hids htLevel (level_of_sibling hlevel htChild hparent)
    omega
  have hkeys : (children.map (·.id)).Nodup := by
    rw [List.map_append] at hids
    exact hids.of_append_right
  have hbefore := filter_takeWhile_of_nodup hkeys (h.waiting.symm.trans hwaiting)
  -- Siblings wait as long as the record does, and are ready when it is.
  rw [hnone, Nat.zero_add, earlierSiblings, ← hbefore, List.filter_filter, List.countP_filter]
  refine List.countP_congr fun s hs => ?_
  have hsChild : s ∈ children := (List.takeWhile_subset _) hs
  simp only [Bool.and_eq_true, decide_eq_true_eq, and_iff_left_iff_imp]
  intro hparent
  refine ⟨(isReady_congr hparent).trans hready, fun k hk hsLevel => ?_⟩
  have := level_unique hids hsLevel (level_of_sibling hlevel hsChild hparent)
  omega

lemma Spaced.pass {n : Nat} {p : Progress} (h : Reaches roots children n p)
    (hspaced : Spaced roots children p.placed) : Spaced roots children (pass p).placed := by
  have hkept : ∀ t ∈ p.placed, t ∈ (Placed.pass p).placed := by
    obtain ⟨new, hplaced, -⟩ := foldl_place p.placed p.waiting ⟨p.placed, []⟩
    intro t ht
    rw [Placed.pass, hplaced]
    exact List.mem_append_left _ ht
  constructor
  · intro t ht hrow
    rcases foldl_place_x p.placed p.waiting ⟨p.placed, []⟩ ht with ht | ⟨parent, _, _, -, -, hrow', -⟩
    · exact hspaced.roots t ht hrow
    · omega
  · intro t ht hrow
    rcases foldl_place_x p.placed p.waiting ⟨p.placed, []⟩ ht with
      ht | ⟨parent, done, rest, hwaiting, hparent, hrow', hx⟩
    · obtain ⟨s, hs, hs'⟩ := hspaced.below t ht hrow
      exact ⟨s, hkept s hs, hs'⟩
    · obtain ⟨hmem, hid⟩ := parentOf?_eq_some hparent
      have hready : isReady p.placed t.record = true := by rw [isReady, hparent]; rfl
      rw [h.siblings_eq hids hwaiting hready] at hx
      exact ⟨parent, hkept parent hmem, hid, hrow', hx⟩

lemma Spaced.run {n : Nat} {p : Progress} (h : Reaches roots children n p)
    (hspaced : Spaced roots children p.placed) (m : Nat) :
    Spaced roots children (run m p).placed := by
  induction m generalizing n p with
  | zero => exact hspaced
  | succ m ih => exact ih (h.pass hids) (hspaced.pass hids h)

/-- The columns of an arrangement. -/
theorem arrange_spaced : Spaced roots children (arrange roots children).placed :=
  spaced_start.run hids (reaches_start hids) passes

end Columns

end Placed
end DetectionFlow
