import DetectionFlow.Files
import DetectionFlow.Proofs.RecordReading
import DetectionFlow.Proofs.NotedTheorems

/-!
# What is wrong with a document file

Most of what can be wrong with a file is told with its path. Three things are not: a path that is none,
bytes that are no text, and a value that the notation admits and that does not exist
(`Files.Unread`). No other failure comes of reading a document file (`Files.readDocument_escapes`).
-/

namespace DetectionFlow

open Checked

/-- The failure is told of as one of a file. -/
def Failure.IsConfig (e : Failure) : Prop := ∃ c, e = .config c

lemma Failure.isConfig_config (c : ConfigError) : (Failure.config c).IsConfig := ⟨c, rfl⟩

lemma Failure.not_isConfig_fault (f : Fault) : ¬ (Failure.fault f).IsConfig := by
  rintro ⟨c, ⟨⟩⟩

lemma Failure.not_isConfig_disk (e : DiskError) : ¬ (Failure.disk e).IsConfig := by
  rintro ⟨c, ⟨⟩⟩

/-! ## Paths -/

namespace Disk

variable {d : Disk} {p : Path}

/-- The names of a path were looked at before they are followed. -/
lemma follow_ne_nullCharacter (at_ : Place) (parts : List String) :
    d.follow at_ parts ≠ .error .nullCharacter := by
  induction parts generalizing at_ with
  | nil => simp [follow]
  | cons part rest ih =>
    unfold follow
    split
    · split
      · simp
      · exact ih _
    · split <;> simp

lemma placeOf_eq_nullCharacter :
    d.placeOf p = .error .nullCharacter ↔ p.shown.contains '\x00' = true := by
  unfold placeOf
  split
  next h => simp [h]
  next h =>
    refine iff_of_false ?_ h
    split
    · simp
    · exact follow_ne_nullCharacter _ _

/-- A path is refused as none exactly if it holds the character that ends texts. -/
lemma read_eq_nullCharacter :
    d.read p = .error .nullCharacter ↔ p.shown.contains '\x00' = true := by
  rw [← placeOf_eq_nullCharacter (d := d), read]
  cases d.placeOf p with
  | error e => simp [bind, Except.bind]
  | ok at_ =>
    simp only [bind, Except.bind, reduceCtorEq, iff_false]
    split
    · simp
    · cases d.fileAt? at_ <;> simp

end Disk

/-! ## Documents -/

namespace Files

/-- What is wrong with a document file other than what is told with its path. -/
inductive Unread (d : Disk) (p : Path) : Failure → Prop
  /-- The path is none. -/
  | path (h : p.shown.contains '\x00' = true) : Unread d p (.disk .nullCharacter)
  /-- The bytes are no text. -/
  | encoding {bytes : List UInt8} {r : Text.Utf8.Refusal} (hbytes : d.read p = .ok bytes)
      (h : Text.Utf8.decode bytes = .error r) :
      Unread d p (.fault (.badEncoding (r.inPieces pieceSize bytes)))
  /-- The text is well formed and states a value that does not exist. -/
  | value {bytes : List UInt8} {s : String} {f : Fault} (hbytes : d.read p = .ok bytes)
      (hs : Text.Utf8.decode bytes = .ok s)
      (h : Yaml.read (documentLines s) = .error (.fault f)) : Unread d p (.fault f)

variable {d : Disk} {p : Path} {e : Failure}

lemma Unread.not_isConfig (h : Unread d p e) : ¬ e.IsConfig := by
  cases h with
  | path => exact Failure.not_isConfig_disk _
  | encoding => exact Failure.not_isConfig_fault _
  | value => exact Failure.not_isConfig_fault _

/-- A file has a value, or a failure of its own, or one that is told with its path. -/
lemma readDocument_outcome :
    (∃ v, readDocument d p = .ok v) ∨ ∃ e, readDocument d p = .error e ∧
      (e.IsConfig ∨ Unread d p e) := by
  unfold readDocument
  split
  next hread =>
    exact .inr ⟨_, rfl, .inr (.path (Disk.read_eq_nullCharacter.mp hread))⟩
  next => exact .inr ⟨_, rfl, .inl ⟨_, rfl⟩⟩
  next bytes hbytes =>
    split
    next r hr => exact .inr ⟨_, rfl, .inr (.encoding hbytes hr)⟩
    next s hs =>
      split
      next v hv => exact .inl ⟨v, rfl⟩
      next => exact .inr ⟨_, rfl, .inl ⟨_, rfl⟩⟩
      next f hf => exact .inr ⟨_, rfl, .inr (.value hbytes hs hf)⟩

lemma readDocument_of_unread (h : Unread d p e) : readDocument d p = .error e := by
  cases h with
  | path h => rw [readDocument, Disk.read_eq_nullCharacter.mpr h]
  | encoding hbytes h =>
    rw [readDocument, hbytes]
    dsimp only
    rw [h]
  | value hbytes hs h =>
    rw [readDocument, hbytes]
    dsimp only
    rw [hs]
    dsimp only
    rw [h]

/-- The failures of reading a document file that are not told with its path. -/
theorem readDocument_escapes :
    (readDocument d p = .error e ∧ ¬ e.IsConfig) ↔ Unread d p e := by
  constructor
  · rintro ⟨h, hother⟩
    rcases readDocument_outcome (d := d) (p := p) with ⟨v, hv⟩ | ⟨e', he', hconfig | hunread⟩
    · cases h.symm.trans hv
    · cases h.symm.trans he'
      exact absurd hconfig hother
    · cases h.symm.trans he'
      exact hunread
  · exact fun h => ⟨readDocument_of_unread h, h.not_isConfig⟩

end Files

/-! ## Strict objects -/

namespace Reader

variable {α : Type} {known : List String} {r : Fields → Checked α}

/-- What a strict object is read as comes of its fields. -/
lemma strict_eq_ok {v : Value} {a : α} (h : strict known r v = ok a) :
    ∃ entries, v.entries? = some entries ∧ r (fieldsIn entries) = ok a ∧
      ∀ e ∈ entries, unknownKey? known e.1 = none := by
  unfold strict at h
  split at h
  next entries hentries =>
    obtain ⟨g, b, hg, hb, rfl⟩ := seq_eq_ok.mp h
    obtain ⟨c, hc, rfl⟩ := map_eq_ok.mp hg
    refine ⟨entries, hentries, hc, ?_⟩
    split at hb
    next hnone => simpa using hnone
    next => exact absurd hb broken_ne_ok
  next => exact absurd h wrong_ne_ok

end Reader
end DetectionFlow
