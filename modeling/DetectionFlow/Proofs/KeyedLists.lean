import Mathlib

/-!
# Lists with keys

Nodes, edges and records stand in lists and are told apart by one of their fields. Where that field
is distinct throughout, looking for the key of a member finds the member (`find?_of_nodup`).
-/

namespace DetectionFlow

variable {α β κ : Type}

/-- A member of a list with distinct keys is what is found under its key. -/
lemma find?_of_nodup [DecidableEq κ] {key : α → κ} {as : List α} (hkeys : (as.map key).Nodup)
    {a : α} (ha : a ∈ as) : as.find? (fun b => key b = key a) = some a := by
  induction as with
  | nil => simp at ha
  | cons b rest ih =>
    rw [List.map_cons, List.nodup_cons] at hkeys
    rcases List.mem_cons.mp ha with rfl | hrest
    · simp
    · have hne : key b ≠ key a := fun h => hkeys.1 (h ▸ List.mem_map_of_mem hrest)
      rw [List.find?_cons_of_neg (by simpa using hne)]
      exact ih hkeys.2 hrest

/-- At most one member of a list with distinct keys has a key. -/
lemma length_filter_of_nodup [DecidableEq κ] {key : α → κ} {as : List α}
    (hkeys : (as.map key).Nodup) (k : κ) :
    (as.filter fun a => decide (key a = k)).length ≤ 1 := by
  have hcount := List.nodup_iff_count_le_one.mp hkeys k
  rw [← List.countP_eq_length_filter]
  rwa [List.count, List.countP_map] at hcount

/-- Two lists with distinct keys that share none have distinct keys together. -/
lemma nodup_map_append {key : α → κ} {as bs : List α} (has : (as.map key).Nodup)
    (hbs : (bs.map key).Nodup) (hapart : ∀ a ∈ as, ∀ b ∈ bs, key a ≠ key b) :
    ((as ++ bs).map key).Nodup := by
  rw [List.map_append]
  refine has.append hbs fun k hold hnew => ?_
  obtain ⟨a, ha, rfl⟩ := List.mem_map.mp hold
  obtain ⟨b, hb, heq⟩ := List.mem_map.mp hnew
  exact hapart a ha b hb heq.symm

/-- What stands before a member of a list with distinct keys is all up to its key. -/
lemma takeWhile_of_nodup [DecidableEq κ] {key : α → κ} {before after : List α} {a : α}
    (hkeys : ((before ++ a :: after).map key).Nodup) :
    (before ++ a :: after).takeWhile (fun b => decide (key b ≠ key a)) = before := by
  have hbefore : ∀ b ∈ before, decide (key b ≠ key a) = true := by
    intro b hb
    rw [List.map_append] at hkeys
    have hdisjoint := List.disjoint_of_nodup_append hkeys (List.mem_map_of_mem hb)
    rw [decide_eq_true_iff]
    exact fun heq => hdisjoint (heq ▸ List.mem_map_of_mem List.mem_cons_self)
  rw [List.takeWhile_append_of_pos hbefore, List.takeWhile_cons_of_neg (by simp), List.append_nil]

/-- What of a part of a list stands before a member of the part. -/
lemma filter_takeWhile_of_nodup [DecidableEq κ] {key : α → κ} {as : List α} {keep : α → Bool}
    (hkeys : (as.map key).Nodup) {before after : List α} {a : α}
    (hpart : as.filter keep = before ++ a :: after) :
    (as.takeWhile fun b => decide (key b ≠ key a)).filter keep = before := by
  have ha : a ∈ as.filter keep := hpart ▸ List.mem_append_right _ List.mem_cons_self
  obtain ⟨hmem, hkeep⟩ := List.mem_filter.mp ha
  obtain ⟨left, right, rfl⟩ := List.append_of_mem hmem
  have hpartKeys : ((left.filter keep ++ a :: right.filter keep).map key).Nodup := by
    have hsub := (List.filter_sublist (l := left ++ a :: right) (p := keep)).map key
    rw [List.filter_append, List.filter_cons_of_pos hkeep] at hsub
    exact hkeys.sublist hsub
  rw [takeWhile_of_nodup hkeys, ← takeWhile_of_nodup hpartKeys]
  rw [List.filter_append, List.filter_cons_of_pos hkeep] at hpart
  rw [hpart] at hpartKeys ⊢
  exact takeWhile_of_nodup hpartKeys

/-- What comes after a member of a list without repetitions stands behind it. -/
lemma mem_of_pair_sublist {before after : List α} {a b : α} (hnodup : (before ++ a :: after).Nodup)
    (hpair : [a, b].Sublist (before ++ a :: after)) : b ∈ after := by
  have hfirst : a ∉ before := fun h =>
    List.disjoint_of_nodup_append hnodup h List.mem_cons_self
  obtain ⟨left, right, heq, hleft, hright⟩ := List.sublist_append_iff.mp hpair
  cases left with
  | nil =>
    obtain rfl : [a, b] = right := heq
    exact List.singleton_sublist.mp (List.cons_sublist_cons.mp hright)
  | cons c left =>
    obtain ⟨rfl, -⟩ := List.cons.inj heq
    exact absurd (hleft.subset List.mem_cons_self) hfirst

/-- Members of lists that are related in pairs have partners. -/
lemma exists_of_forall₂ {R : α → β → Prop} {as : List α} {bs : List β} (h : List.Forall₂ R as bs)
    {a : α} (ha : a ∈ as) : ∃ b ∈ bs, R a b := by
  induction h with
  | nil => simp at ha
  | cons hab _ ih =>
    rcases List.mem_cons.mp ha with rfl | ha
    · exact ⟨_, List.mem_cons_self, hab⟩
    · obtain ⟨b, hb, hR⟩ := ih ha
      exact ⟨b, List.mem_cons_of_mem _ hb, hR⟩

/-- Where every member has a partner, there is a list of partners. -/
lemma exists_forall₂ {R : α → β → Prop} {as : List α} (h : ∀ a ∈ as, ∃ b, R a b) :
    ∃ bs, List.Forall₂ R as bs := by
  induction as with
  | nil => exact ⟨[], .nil⟩
  | cons a rest ih =>
    obtain ⟨⟨b, hb⟩, hrest⟩ := List.forall_mem_cons.mp h
    obtain ⟨bs, hbs⟩ := ih hrest
    exact ⟨b :: bs, .cons hb hbs⟩

/-- Relations in pairs compose, each member of the first list known as one. -/
lemma forall₂_comp {γ : Type} {R : α → β → Prop} {S : β → γ → Prop} {T : α → γ → Prop}
    {as : List α} {bs : List β} {cs : List γ} (hR : List.Forall₂ R as bs) (hS : List.Forall₂ S bs cs)
    (hT : ∀ a ∈ as, ∀ b c, R a b → S b c → T a c) : List.Forall₂ T as cs := by
  induction hR generalizing cs with
  | nil =>
    cases hS
    exact .nil
  | @cons a b as bs hab _ ih =>
    obtain _ | ⟨hbc, hrest⟩ := hS
    exact .cons (hT a List.mem_cons_self _ _ hab hbc)
      (ih hrest fun a' ha' => hT a' (List.mem_cons_of_mem a ha'))

/-- Lists that are related in pairs by having the same key have the same keys. -/
lemma map_eq_of_forall₂ {R : α → β → Prop} {f : α → κ} {g : β → κ} {as : List α} {bs : List β}
    (h : List.Forall₂ R as bs) (hfg : ∀ a b, R a b → f a = g b) : as.map f = bs.map g := by
  induction h with
  | nil => rfl
  | cons hab _ ih => rw [List.map_cons, List.map_cons, hfg _ _ hab, ih]

end DetectionFlow
