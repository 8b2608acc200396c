/-
What makes settings valid. The checks accept exactly the settings that have an address to listen at, a
base path with one slash in front and none behind, the three texts that are needed, and a root document
whose path is made of names (`validate_ok_iff`). Settings that are made of layers have passed the checks
(`ofLayers_ok`).
-/
import SinglePage.Settings
import Mathlib.Tactic

namespace SinglePage.Settings

open Text

/-! ## Checks in a row -/

section Checks

variable {c : Prop} [Decidable c] {e : Error}

theorem discard_then_ok_iff {α : Type} {found : Except Error α} {rest : Except Error Unit} :
    (discard found >>= fun _ => rest) = .ok () ↔ (∃ a, found = .ok a) ∧ rest = .ok () := by
  cases found with
  | error e => exact iff_of_false (fun h => nomatch h) fun h => nomatch h.1
  | ok a => exact ⟨fun h => ⟨⟨a, rfl⟩, h⟩, fun h => h.2⟩

theorem refuse_then_ok_iff {next : Unit → Except Error Unit} {rest : Except Error Unit} :
    (if c then throw e >>= next else rest) = .ok () ↔ ¬ c ∧ rest = .ok () := by
  by_cases hc : c
  · rw [if_pos hc]
    exact iff_of_false (fun h => nomatch h) fun h => h.1 hc
  · rw [if_neg hc, and_iff_right hc]

theorem refuse_ok_iff : (if c then throw e else pure () : Except Error Unit) = .ok () ↔ ¬ c := by
  by_cases hc : c
  · rw [if_pos hc]
    exact iff_of_false (fun h => nomatch h) fun h => h hc
  · rw [if_neg hc]
    exact iff_of_true rfl hc

end Checks

/-! ## Valid settings -/

/-- What settings are checked for. -/
structure IsValid (s : Settings) : Prop where
  address : ∃ address, s.socketAddress = .ok address
  basePath_head : s.basePath.toList.head? = some '/'
  basePath_last : s.basePath.length ≤ 1 ∨ s.basePath.toList.getLast? ≠ some '/'
  staticDir : isBlank s.staticDir = false
  indexFile : isBlank s.indexFile = false
  exportPrefix : isBlank s.envExportPrefix = false
  inside : ∀ c ∈ DiskPath.components s.indexFile, c.isName = true

/-- The checks let exactly the valid settings pass. -/
theorem validate_ok_iff {s : Settings} : s.validate = .ok () ↔ s.IsValid := by
  have hchecks : s.validate = .ok () ↔ (∃ address, s.socketAddress = .ok address) ∧
      ¬ s.basePath.toList.head? ≠ some '/' ∧
      ¬ (1 < s.basePath.length ∧ s.basePath.toList.getLast? = some '/') ∧
      ¬ isBlank s.staticDir = true ∧ ¬ isBlank s.indexFile = true ∧ ¬ isBlank s.envExportPrefix = true ∧
      ¬ (!(DiskPath.components s.indexFile).all (·.isName)) = true := by
    unfold validate
    simp only [discard_then_ok_iff, refuse_then_ok_iff, refuse_ok_iff]
  rw [hchecks, not_not, not_and_or, not_lt, Bool.not_eq_true, Bool.not_eq_true, Bool.not_eq_true,
    Bool.not_eq_true', Bool.not_eq_false, List.all_eq_true]
  constructor
  · rintro ⟨haddress, hhead, hlast, hstatic, hindex, hexport, hinside⟩
    exact ⟨haddress, hhead, hlast, hstatic, hindex, hexport, hinside⟩
  · rintro ⟨haddress, hhead, hlast, hstatic, hindex, hexport, hinside⟩
    exact ⟨haddress, hhead, hlast, hstatic, hindex, hexport, hinside⟩

/-- The path of a valid root document is made of names. -/
theorem validate_indexFile {s : Settings} (h : s.validate = .ok ()) :
    ∀ c ∈ DiskPath.components s.indexFile, c.isName = true :=
  (validate_ok_iff.1 h).inside

/-- Settings made of layers are valid. -/
theorem ofLayers_ok {layers : List Layer} {s : Settings} (h : ofLayers layers = .ok s) :
    s.validate = .ok () := by
  unfold ofLayers at h
  simp only [bind, Except.bind] at h
  split at h
  · cases h
  split at h
  · cases h
  split at h
  · cases h
  · rename_i hv
    cases h
    exact hv

end SinglePage.Settings
