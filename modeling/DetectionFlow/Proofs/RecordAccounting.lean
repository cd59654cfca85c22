import DetectionFlow.Proofs.RestoredOutcome

/-!
# Every entry is accounted for

Each saved entry turns up in exactly one of three places after a restoration: as a node of the graph,
among the dropped or among the unplaced (`Saved.restore_accounted`). Entries are counted by the
identifier of `Saved.entryId`. The count is kept by every step of the sifting (`Sifted.add_perm`), and
what was kept is divided between graph and unplaced by the placement.
-/

namespace DetectionFlow
namespace Saved

/-- The identifier that an entry is counted by: that of its record, or the one it is reported under. -/
def entryId (s : Saved) : String :=
  match s.record? with
  | some r => r.id
  | none => s.reportId

/-- The first record of a list of entries with an identifier. -/
def firstRecord? (entries : List Saved) (id : String) : Option Record :=
  (entries.filterMap record?).find? (·.id = id)

/-! ## Sifting -/

/-- One more entry is counted once, as kept or as dropped. -/
lemma Sifted.add_perm (acc : Sifted) (s : Saved) :
    ((acc.add s).kept.map (·.id) ++ (acc.add s).dropped).Perm
      ((acc.kept.map (·.id) ++ acc.dropped) ++ [s.entryId]) := by
  unfold add entryId
  cases s.record? with
  | none =>
    dsimp only
    rw [List.append_assoc]
  | some r =>
    dsimp only
    split
    · dsimp only
      rw [List.append_assoc]
    · dsimp only
      rw [List.map_append, List.append_assoc, List.append_assoc]
      exact List.perm_append_comm.append_left _

lemma foldl_add_perm (entries : List Saved) (acc : Sifted) :
    ((entries.foldl Sifted.add acc).kept.map (·.id) ++ (entries.foldl Sifted.add acc).dropped).Perm
      ((acc.kept.map (·.id) ++ acc.dropped) ++ entries.map entryId) := by
  induction entries generalizing acc with
  | nil => simp
  | cons s rest ih =>
    rw [List.map_cons, List.append_cons]
    exact (ih (acc.add s)).trans ((acc.add_perm s).append_right _)

/-- Every entry is kept or dropped. -/
theorem sifted_perm (entries : List Saved) :
    ((kept entries).map (·.id) ++ (sifted entries).dropped).Perm (entries.map entryId) := by
  have h := foldl_add_perm entries ⟨[], []⟩
  rw [← sifted_kept]
  exact h

/-! ## First records -/

/-- What is found after one more record is what would be found with it at the end. -/
lemma find?_keepFirst (kept : List Record) (r : Record) (rest : List Record) (id : String) :
    (keepFirst kept r ++ rest).find? (·.id = id) = (kept ++ r :: rest).find? (·.id = id) := by
  unfold keepFirst
  split
  next hany =>
    rw [List.find?_append, List.find?_append]
    by_cases hid : r.id = id
    · have hfound : (kept.find? (·.id = id)).isSome := by
        rw [List.find?_isSome]
        simpa [hid] using hany
      obtain ⟨s, hs⟩ := Option.isSome_iff_exists.mp hfound
      rw [hs, Option.some_or, Option.some_or]
    · rw [List.find?_cons_of_neg (by simpa using hid)]
  · rw [List.append_assoc, List.singleton_append]

lemma find?_foldl_keepFirst (rs kept : List Record) (id : String) :
    (rs.foldl keepFirst kept).find? (·.id = id) = (kept ++ rs).find? (·.id = id) := by
  induction rs generalizing kept with
  | nil => rw [List.foldl_nil, List.append_nil]
  | cons r rest ih => rw [List.foldl_cons, ih, find?_keepFirst]

/-- A kept record is the first of its identifier. -/
lemma firstRecord?_of_mem_kept {entries : List Saved} {r : Record} (hr : r ∈ kept entries) :
    firstRecord? entries r.id = some r := by
  have hfound := find?_of_nodup (kept_nodup entries) hr
  rwa [kept, find?_foldl_keepFirst, List.nil_append] at hfound

/-! ## The whole -/

/-- A restoration that succeeds loses no entry and counts none twice. Nodes and unplaced records have
distinct identifiers, and stand for the first valid entry of theirs. -/
theorem restore_accounted {entries : List Saved} {ids ids' : IdSource} {restored : Restored}
    (h : (restore entries ids).result = .ok (restored, ids')) :
    entries.length =
        restored.graph.nodes.length + restored.dropped.length + restored.unplaced.length ∧
      (entries.map entryId).Perm
        (restored.graph.nodes.map (·.id) ++ restored.dropped ++ restored.unplaced) ∧
      (restored.graph.nodes.map (·.id) ++ restored.unplaced).Nodup ∧
      (∀ n ∈ restored.graph.nodes, ∃ r, firstRecord? entries n.id = some r ∧
        n.kind = r.body.kind ∧ n.label = labelOf r ∧ (payloadOf r).result = .ok n.payload) ∧
      ∀ id ∈ restored.unplaced, ∃ r, firstRecord? entries id = some r := by
  have hyields := restore_yields h
  -- Nodes and unplaced records together are the kept records.
  have hkept : (restored.graph.nodes.map (·.id) ++ restored.unplaced).Perm
      ((kept entries).map (·.id)) := by
    rw [hyields.nodeIds, hyields.unplaced, ← List.map_append]
    exact (placing_perm entries).map _
  have hall : (entries.map entryId).Perm
      (restored.graph.nodes.map (·.id) ++ restored.dropped ++ restored.unplaced) := by
    calc (entries.map entryId).Perm ((kept entries).map (·.id) ++ (sifted entries).dropped) :=
          (sifted_perm entries).symm
      _ |>.Perm (restored.graph.nodes.map (·.id) ++ restored.unplaced ++ restored.dropped) := by
          rw [hyields.dropped]
          exact (hkept.symm).append_right _
      _ |>.Perm (restored.graph.nodes.map (·.id) ++ restored.dropped ++ restored.unplaced) := by
          rw [List.append_assoc, List.append_assoc]
          exact List.perm_append_comm.append_left _
  refine ⟨?_, hall, hkept.nodup_iff.mpr (kept_nodup entries), ?_, ?_⟩
  · have hlength := hall.length_eq
    simpa only [List.length_map, List.length_append] using hlength
  · intro n hn
    obtain ⟨t, ht, hmade⟩ := hyields.exists_placed hn
    obtain ⟨hid, hlabel, hkind⟩ := nodeOf_ok hmade
    refine ⟨t.record, ?_, hkind, hlabel, payload_of_nodeOf hmade⟩
    rw [hid]
    exact firstRecord?_of_mem_kept (mem_kept_of_placed ht)
  · intro id hid
    have hmem : id ∈ (kept entries).map (·.id) :=
      hkept.subset (List.mem_append_right _ hid)
    obtain ⟨r, hr, rfl⟩ := List.mem_map.mp hmem
    exact ⟨r, firstRecord?_of_mem_kept hr⟩

/-- Five entries: a merge, an alarm below it, an entry that is no object, a record that names itself as
its parent, and one with the identifier of the merge. -/
def fiveEntries : List Saved :=
  [.raw (.object [("eventSettingId", .text "m"), ("eventType", .text "And")]),
    .raw (.object [("eventSettingId", .text "a"), ("eventType", .text "Alarm"),
      ("parentId", .text "m")]),
    .raw .null,
    .raw (.object [("eventSettingId", .text "s"), ("eventType", .text "Speed"),
      ("parentId", .text "s")]),
    .raw (.object [("eventSettingId", .text "m"), ("eventType", .text "Alarm")])]

/-- The restoration of `fiveEntries`. -/
def fiveRestored : Restored where
  graph :=
    ⟨[⟨"m", "Merge#1", [.float (Double.ofInt 100), .float (Double.ofInt 0)], .merge .null⟩,
        ⟨"a", "Alarm#1", [.float (Double.ofInt 100), .float (Double.ofInt 120)], .alarm []⟩],
      [⟨"1", "m", "a"⟩]⟩
  dropped := ["<missing id>", "m"]
  unplaced := ["s"]
  warnings := []

theorem fiveEntries_accounted :
    (restore fiveEntries ⟨Nat.repr, 0⟩).result = .ok (fiveRestored, ⟨Nat.repr, 1⟩) ∧
      (fiveEntries.map entryId).Perm ["m", "a", "<missing id>", "m", "s"] := by
  have hrestored : (restore fiveEntries ⟨Nat.repr, 0⟩).result =
      .ok (fiveRestored, ⟨Nat.repr, 1⟩) := rfl
  exact ⟨hrestored, (restore_accounted hrestored).2.1⟩

end Saved
end DetectionFlow
