import DetectionFlow.Settings
import DetectionFlow.Proofs.CheckedTheorems
import Mathlib.Data.List.DropRight

/-!
# Roots of backends

The root of the backend is read as a text with a scheme and loses the slashes at its end. That may cost it
its scheme, but only if nothing follows the scheme (`Settings.bare_or_hasScheme`); any other root is read
again as it is (`Settings.reread_iff`).
-/

namespace DetectionFlow

open Checked

namespace Settings

/-- The text starts with one of the two schemes. -/
def HasScheme (s : String) : Prop := s.startsWith "http://" = true ∨ s.startsWith "https://" = true

/-- What is left of the schemes alone without their slashes. -/
def bareSchemes : List String := ["http:", "https:"]

lemma toList_withoutSlashes (s : String) :
    (withoutSlashes s).toList = s.toList.rdropWhile (· = '/') := by
  rw [withoutSlashes, String.toList_ofList]
  rfl

lemma withoutSlashes_withoutSlashes (s : String) :
    withoutSlashes (withoutSlashes s) = withoutSlashes s := by
  apply String.toList_injective
  rw [toList_withoutSlashes (withoutSlashes s), toList_withoutSlashes, List.rdropWhile_idempotent]

/-- No slash is left at the end. -/
lemma getLast?_withoutSlashes (s : String) : (withoutSlashes s).toList.getLast? ≠ some '/' := by
  rw [toList_withoutSlashes]
  intro hlast
  have hne : s.toList.rdropWhile (· = '/') ≠ [] := by
    intro hnil
    rw [hnil] at hlast
    cases hlast
  have hkept := List.rdropWhile_last_not (fun c => decide (c = '/')) s.toList hne
  rw [List.getLast?_eq_some_getLast hne, Option.some.injEq] at hlast
  rw [hlast] at hkept
  exact hkept rfl

/-- A text behind another one loses its slashes, and all of it if it consists of them. -/
lemma rdropWhile_append (front rest : List Char) :
    (front ++ rest).rdropWhile (· = '/') =
      if rest.rdropWhile (· = '/') = [] then front.rdropWhile (· = '/')
      else front ++ rest.rdropWhile (· = '/') := by
  simp only [List.rdropWhile, List.reverse_append, List.dropWhile_append, List.reverse_eq_nil_iff]
  by_cases hrest : rest.reverse.dropWhile (· = '/') = [] <;> simp [hrest]

/-- A root with a scheme keeps it without its slashes, unless nothing but slashes follows it. -/
lemma bare_or_hasScheme {s : String} (h : HasScheme s) :
    withoutSlashes s ∈ bareSchemes ∨ HasScheme (withoutSlashes s) := by
  have hscheme : ∀ scheme bare : String, scheme.toList <+: s.toList →
      scheme.toList.rdropWhile (· = '/') = bare.toList →
      withoutSlashes s = bare ∨ (withoutSlashes s).startsWith scheme = true := by
    rintro scheme bare ⟨rest, hrest⟩ hbare
    have hleft := toList_withoutSlashes s
    rw [← hrest, rdropWhile_append] at hleft
    split at hleft
    -- Nothing but slashes follows, and those of the scheme are lost with them.
    · exact .inl (String.toList_injective (hleft.trans hbare))
    · rw [String.startsWith_string_iff, hleft]
      exact .inr (List.prefix_append _ _)
  unfold HasScheme at h ⊢
  rw [String.startsWith_string_iff, String.startsWith_string_iff] at h
  rcases h with h | h
  · rcases hscheme _ "http:" h (by decide) with hleft | hleft
    · exact .inl (by simp [hleft, bareSchemes])
    · exact .inr (.inl hleft)
  · rcases hscheme _ "https:" h (by decide) with hleft | hleft
    · exact .inl (by simp [hleft, bareSchemes])
    · exact .inr (.inr hleft)

lemma not_hasScheme_of_bare {s : String} (h : s ∈ bareSchemes) : ¬ HasScheme s := by
  unfold HasScheme
  rw [String.startsWith_string_iff, String.startsWith_string_iff]
  simp only [bareSchemes, List.mem_cons, List.not_mem_nil, or_false] at h
  rcases h with rfl | rfl <;> decide

/-- A root without slashes at its end has a scheme if it is read at all. -/
lemma hasScheme_iff {s : String} (h : HasScheme s) :
    HasScheme (withoutSlashes s) ↔ withoutSlashes s ∉ bareSchemes := by
  constructor
  · exact fun hscheme hbare => not_hasScheme_of_bare hbare hscheme
  · exact fun hbare => (bare_or_hasScheme h).resolve_left hbare

/-- A text is read as a root if it has a scheme. -/
lemma urlReader_eq_ok {v : Value} {b : String} :
    urlReader v = ok b ↔ ∃ s, Reader.text v = ok s ∧ HasScheme s ∧ b = withoutSlashes s := by
  unfold urlReader
  rw [andThen_eq_ok]
  apply exists_congr
  intro s
  have hcond : (s.startsWith "http://" || s.startsWith "https://") = true ↔ HasScheme s := by
    rw [Bool.or_eq_true, HasScheme]
  by_cases hscheme : HasScheme s
  · rw [if_pos (hcond.mpr hscheme)]
    simp [hscheme, eq_comm]
  · rw [if_neg (mt hcond.mp hscheme)]
    simp [hscheme, Checked.ruleBroken]

/-- A root is read again as it is exactly if it has kept its scheme. -/
lemma reread_iff {s : String} :
    urlReader (.text (withoutSlashes s)) = ok (withoutSlashes s) ↔ HasScheme (withoutSlashes s) := by
  rw [urlReader_eq_ok, Reader.text_text]
  constructor
  · rintro ⟨t, ht, hscheme, -⟩
    rwa [← ok_inj.mp ht] at hscheme
  · exact fun h => ⟨_, rfl, h, (withoutSlashes_withoutSlashes s).symm⟩

end Settings
end DetectionFlow
