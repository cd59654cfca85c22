import DetectionFlow.Proofs.BrokenEntries
import DetectionFlow.Proofs.ReachableGraphs

/-!
# Graphs are loaded from files

A file yields a graph that keeps the rules, or a failure that is told with its path, or one of a few that
are not (`Files.Escapes`): the file has no value (`Files.Unread`), its value is a mapping with a key that
is no text, or the first entry of its document that makes no node breaks (`NodeEntry.Breaks`). Every value
that counts as nothing is taken for the empty document, not only that of an empty file.
-/

namespace DetectionFlow

open Checked

namespace Files

/-! ## Documents in files -/

/-- The failures of loading a graph that are not told with the path of the file. -/
inductive Escapes (d : Disk) (p : Path) : Failure → Prop
  /-- The file has no value. -/
  | unread {e : Failure} (h : Unread d p e) : Escapes d p e
  /-- Some key of the outermost mapping is no text. -/
  | keys {entries : List (Value × Value)} (hread : readDocument d p = .ok (.table entries))
      (h : entries ≠ []) : Escapes d p (.fault .badFieldName)
  /-- The first entry that makes no node breaks. -/
  | entry {document : Document} {before after : List NodeEntry} {n : NodeEntry} {f : Fault}
      (hread : readGraphDocument d p = .ok document) (hsplit : document.nodes = before ++ n :: after)
      (hbefore : ∀ m ∈ before, ∃ payload, m.payload = .ok payload) (h : n.Breaks f) :
      Escapes d p (.fault f)

variable {d : Disk} {p : Path} {ids : IdSource} {e : Failure} {v : Value} {document : Document}

lemma Escapes.not_isConfig (h : Escapes d p e) : ¬ e.IsConfig := by
  cases h with
  | unread h => exact h.not_isConfig
  | keys => exact Failure.not_isConfig_fault _
  | entry => exact Failure.not_isConfig_fault _

lemma readGraphDocument_of_read (hread : readDocument d p = .ok v) :
    readGraphDocument d p = documentOf p (if v.isTruthy then v else .object []) := by
  rw [readGraphDocument, hread]
  rfl

/-- What counts as nothing is taken for the empty document. -/
lemma readGraphDocument_of_falsy (hread : readDocument d p = .ok v) (hv : v.isTruthy = false) :
    readGraphDocument d p = .ok ⟨none, [], []⟩ := by
  have hempty : Document.read (.object []) = ok ⟨none, [], []⟩ :=
    andThen_eq_ok.mpr ⟨_, rfl, Document.checkReferences_eq_ok.mpr ⟨List.nodup_nil, by simp, rfl⟩⟩
  rw [readGraphDocument_of_read hread, hv, if_neg Bool.false_ne_true, documentOf, hempty]
  rfl

/-- A document was read of a mapping, or of what counts as nothing. -/
lemma readGraphDocument_eq_ok (h : readGraphDocument d p = .ok document) :
    (∃ w, Document.read w = ok document) ∧
      ∃ v, readDocument d p = .ok v ∧ ((∃ fs, v = .object fs) ∨ v.isTruthy = false) := by
  cases hread : readDocument d p with
  | error e =>
    rw [readGraphDocument, hread] at h
    cases h
  | ok v =>
    rw [readGraphDocument_of_read hread] at h
    have hobject : ∀ fs, documentOf p (.object fs) = .ok document →
        Document.read (.object fs) = ok document := by
      intro fs h
      rw [documentOf] at h
      split at h
      next document' hdocument => exact hdocument.trans (congrArg ok (Except.ok.inj h))
      next => cases h
    cases hv : v.isTruthy with
    | false =>
      rw [hv] at h
      exact ⟨⟨_, hobject [] h⟩, v, rfl, .inr hv⟩
    | true =>
      rw [hv, if_pos rfl] at h
      cases v with
      | object fs => exact ⟨⟨_, hobject fs h⟩, _, rfl, .inl ⟨fs, rfl⟩⟩
      | _ => cases h

/-- A file without a document has no value, or a key that is no text, or a failure that is told with its
path. -/
lemma readGraphDocument_escapes :
    (readGraphDocument d p = .error e ∧ ¬ e.IsConfig) ↔ Unread d p e ∨
      ∃ entries, readDocument d p = .ok (.table entries) ∧ entries ≠ [] ∧ e = .fault .badFieldName := by
  cases hread : readDocument d p with
  | error e' =>
    have hfailed : readGraphDocument d p = .error e' := by
      rw [readGraphDocument, hread]
      rfl
    rw [hfailed, ← readDocument_escapes, hread]
    simp
  | ok v =>
    have hunread : ¬ Unread d p e := by
      intro h
      cases hread.symm.trans (readDocument_of_unread h)
    rw [readGraphDocument_of_read hread]
    simp only [hunread, false_or, Except.ok.injEq]
    constructor
    · rintro ⟨h, hother⟩
      -- A falsy value is read as the empty document, which breaks nothing.
      have htruthy : v.isTruthy = true := by
        by_contra hv
        have hfalsy := readGraphDocument_of_falsy hread (Bool.eq_false_iff.mpr hv)
        rw [readGraphDocument_of_read hread, h] at hfalsy
        cases hfalsy
      rw [htruthy, if_pos rfl] at h
      cases v with
      | object fs =>
        rw [documentOf] at h
        split at h <;> cases h
        exact absurd (Failure.isConfig_config _) hother
      | table entries =>
        cases h
        exact ⟨entries, rfl, by simpa [Value.isTruthy] using htruthy, rfl⟩
      | _ =>
        cases h
        exact absurd (Failure.isConfig_config _) hother
    · rintro ⟨entries, rfl, hentries, rfl⟩
      have htruthy : (Value.table entries).isTruthy = true := by simpa [Value.isTruthy] using hentries
      rw [htruthy]
      exact ⟨rfl, Failure.not_isConfig_fault _⟩

/-! ## Graphs in files -/

/-- Loading is told apart by the document and its graph. -/
lemma loadGraph_of_document (hread : readGraphDocument d p = .ok document) :
    loadGraph d p ids = match document.toGraph ids with
      | .error (.graph e) => .error (.config (.impossibleGraph p.shown e))
      | r => r := by
  rw [loadGraph, hread]
  rfl

lemma loadGraph_eq_ok {draft : Draft} (h : loadGraph d p ids = .ok draft) :
    draft.graph.Valid ∧ ∃ v, readDocument d p = .ok v ∧ ((∃ fs, v = .object fs) ∨ v.isTruthy = false) := by
  cases hread : readGraphDocument d p with
  | error e =>
    rw [loadGraph, hread] at h
    cases h
  | ok document =>
    rw [loadGraph_of_document hread] at h
    split at h
    · cases h
    · exact ⟨Document.valid_toGraph h, (readGraphDocument_eq_ok hread).2⟩

/-- Loading fails otherwise than with the path exactly if the file has no document or some entry
breaks. -/
lemma loadGraph_escapes : (loadGraph d p ids = .error e ∧ ¬ e.IsConfig) ↔ Escapes d p e := by
  cases hread : readGraphDocument d p with
  | error e' =>
    have hfailed : loadGraph d p ids = .error e ↔ readGraphDocument d p = .error e := by
      rw [loadGraph, hread]
      simp [bind, Except.bind]
    rw [hfailed, readGraphDocument_escapes]
    constructor
    · rintro (h | ⟨entries, htable, hentries, rfl⟩)
      · exact .unread h
      · exact .keys htable hentries
    · intro h
      cases h with
      | unread h => exact .inl h
      | keys htable hentries => exact .inr ⟨_, htable, hentries, rfl⟩
      | entry hread' => cases hread.symm.trans hread'
  | ok document =>
    obtain ⟨⟨w, hw⟩, v, hv, hshape⟩ := readGraphDocument_eq_ok hread
    -- Failures of the graph are told with the path, so what is left comes from an entry that breaks.
    have hgraph : (loadGraph d p ids = .error e ∧ ¬ e.IsConfig) ↔
        document.toGraph ids = .error e ∧ ¬ e.IsGraph := by
      rw [loadGraph_of_document hread]
      constructor
      · rintro ⟨h, hother⟩
        split at h
        · cases h
          exact absurd (Failure.isConfig_config _) hother
        next hgraph =>
          refine ⟨h, ?_⟩
          rintro ⟨g, rfl⟩
          exact hgraph g h
      · rintro ⟨h, hother⟩
        obtain ⟨_, _, _, f, -, -, rfl, -⟩ := (Document.toGraph_escapes hw).mp ⟨h, hother⟩
        rw [h]
        exact ⟨rfl, Failure.not_isConfig_fault f⟩
    rw [hgraph, Document.toGraph_escapes hw]
    constructor
    · rintro ⟨before, n, after, f, hsplit, hbefore, rfl, hbreaks⟩
      exact .entry hread hsplit hbefore hbreaks
    · intro h
      cases h with
      | unread h => cases hv.symm.trans (readDocument_of_unread h)
      | keys htable hentries =>
        obtain rfl := Except.ok.inj (hv.symm.trans htable)
        rcases hshape with ⟨fs, ⟨⟩⟩ | hfalsy
        exact absurd (by simpa [Value.isTruthy] using hfalsy) hentries
      | entry hread' hsplit hbefore hbreaks =>
        obtain rfl := Except.ok.inj (hread.symm.trans hread')
        exact ⟨_, _, _, _, hsplit, hbefore, rfl, hbreaks⟩

/-- Loading a graph from a file, whatever the file holds. A graph keeps the rules and comes of a mapping
or of a value that counts as nothing, and each of the latter, not only that of an empty file, gives the
empty graph. A failure is told with the path of the file, unless the file has no value, its value is a
mapping with a key that is no text, or the first entry that makes no node has a name, a point or a
direction that the graph has no word for; and in each of these cases the failure is that one. -/
theorem loadGraph_answers (d : Disk) (p : Path) (ids : IdSource) :
    (∀ draft, loadGraph d p ids = .ok draft → draft.graph.Valid ∧
        ∃ v, readDocument d p = .ok v ∧ ((∃ fs, v = .object fs) ∨ v.isTruthy = false)) ∧
      (∀ v, readDocument d p = .ok v → v.isTruthy = false →
        loadGraph d p ids = .ok ⟨Graph.empty, ids⟩) ∧
      ∀ e, (loadGraph d p ids = .error e ∧ ¬ e.IsConfig) ↔ Escapes d p e := by
  refine ⟨fun draft h => loadGraph_eq_ok h, fun v hread hv => ?_, fun e => loadGraph_escapes⟩
  rw [loadGraph_of_document (readGraphDocument_of_falsy hread hv)]
  rfl

/-- A file with two quotes in it. -/
def quotesOnly : Disk := ⟨⟨"/", ["w"]⟩, [(["w", "g.yaml"], [0x22, 0x22])], []⟩

/-- The empty text is no mapping, and yet the file that holds it yields the empty graph. -/
theorem loadGraph_answers_emptyText :
    readDocument quotesOnly ⟨"", ["g.yaml"]⟩ = .ok (.text "") ∧
      loadGraph quotesOnly ⟨"", ["g.yaml"]⟩ ⟨Nat.repr, 0⟩ = .ok ⟨Graph.empty, ⟨Nat.repr, 0⟩⟩ ∧
      Graph.empty.Valid := by
  have hread : readDocument quotesOnly ⟨"", ["g.yaml"]⟩ = .ok (.text "") := by cbv
  obtain ⟨hvalid, hfalsy, -⟩ := loadGraph_answers quotesOnly ⟨"", ["g.yaml"]⟩ ⟨Nat.repr, 0⟩
  have hloaded := hfalsy (.text "") hread rfl
  exact ⟨hread, hloaded, (hvalid _ hloaded).1⟩

end Files

end DetectionFlow
