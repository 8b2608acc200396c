/-
Lower case is final: a text in lower case is its own lower case (`lowerCase_lowerCase`). The table of
runs is checked as a whole, by its bounds: no run leads into a run (`runs_avoid`), so what a run leads to
has no lower case but itself, and neither has what a capital sigma or a dotted capital I becomes.
-/
import SinglePage.Text.LowerCase
import SinglePage.Proofs.Bytes.Characters

namespace SinglePage.Text

/-! ## Runs -/

/-- A run of characters: the first and the last code point, the step between code points, and the
distance to the lower case. -/
abbrev Run := Nat × Nat × Nat × Int

/-- The runs of all characters that have another lower case, the capital letters of ASCII and the dotted
capital I among them. -/
def capitalRuns : List Run := (0x41, 0x5a, 1, 32) :: (0x130, 0x130, 1, -199) :: lowerCaseRuns

namespace Run

/-- A code point belongs to a run. -/
def Holds (r : Run) (n : Nat) : Prop := r.1 ≤ n ∧ n ≤ r.2.1 ∧ (n - r.1) % r.2.2.1 = 0

/-- The code point that a run leads to. -/
def lower (r : Run) (n : Nat) : Nat := (n + r.2.2.2).toNat

/-- A run leads to code points of characters, by steps of one or two. -/
def isSound (r : Run) : Bool :=
  0 ≤ r.1 + r.2.2.2 && (r.2.2.1 == 1 || r.2.2.1 == 2) &&
    (r.lower r.2.1 < 0xd800 || (0xe000 ≤ r.lower r.1 && r.lower r.2.1 < 0x110000))

/-- Code points from the first to the last, every second one if they alternate, are not in a run: they
stand before it, behind it, or between its code points. -/
def misses (first last : Nat) (alternate : Bool) (q : Run) : Bool :=
  last < q.1 || q.2.1 < first || (alternate && q.2.2.1 == 2 && (first + q.1) % 2 == 1)

/-- A run leads past all runs. -/
def avoids (r : Run) : Bool :=
  capitalRuns.all (misses (r.lower r.1) (r.lower r.2.1) (r.2.2.1 == 2 || r.1 == r.2.1))

instance (r : Run) (n : Nat) : Decidable (r.Holds n) := inferInstanceAs (Decidable (_ ∧ _))

theorem runs_sound : capitalRuns.all isSound = true := by decide +kernel

theorem runs_avoid : capitalRuns.all avoids = true := by decide +kernel

variable {r q : Run} {n : Nat}

/-- If the bounds of what a run leads to miss another run, all that it leads to does. -/
theorem not_holds_of_misses (hr : r.isSound = true)
    (h : misses (r.lower r.1) (r.lower r.2.1) (r.2.2.1 == 2 || r.1 == r.2.1) q = true) (hn : r.Holds n) :
    ¬ q.Holds (r.lower n) := by
  obtain ⟨first, last, step, shift⟩ := r
  obtain ⟨first', last', step', shift'⟩ := q
  simp only [isSound, misses, Holds, Bool.and_eq_true, Bool.or_eq_true, decide_eq_true_eq,
    beq_iff_eq] at hr h hn ⊢
  simp only [lower] at hr h ⊢
  obtain ⟨hfirst, hlast, hmod⟩ := hn
  rintro ⟨hfirst', hlast', hmod'⟩
  rcases h with (h | h) | ⟨⟨hstep, hstep'⟩, hodd⟩
  · omega
  · omega
  · -- every second code point, or a single one, of the other parity than those of `q`
    subst hstep'
    rcases hstep with rfl | rfl <;> omega

/-- What a run leads to is a character. -/
theorem isValidChar_lower (hr : r.isSound = true) (hn : r.Holds n) : (r.lower n).isValidChar := by
  obtain ⟨first, last, step, shift⟩ := r
  simp only [isSound, Holds, Nat.isValidChar, Bool.and_eq_true, Bool.or_eq_true, decide_eq_true_eq,
    beq_iff_eq] at hr hn ⊢
  simp only [lower] at hr ⊢
  omega

end Run

/-! ## Characters -/

/-- A character that is in none of the runs. -/
def IsLower (c : Char) : Prop := ∀ q ∈ capitalRuns, ¬ q.Holds c.toNat

instance (c : Char) : Decidable (IsLower c) := inferInstanceAs (Decidable (∀ q ∈ capitalRuns, _))

/-- What a run leads to is in none. -/
theorem isLower_lower {r : Run} {n : Nat} (hr : r ∈ capitalRuns) (hn : r.Holds n) :
    IsLower (Char.ofNat (r.lower n)) := by
  have hsound := List.all_eq_true.1 Run.runs_sound r hr
  have hnat : (Char.ofNat (r.lower n)).toNat = r.lower n := by
    rw [Char.ofNat, dif_pos (Run.isValidChar_lower hsound hn)]
    rfl
  intro q hq
  rw [hnat]
  have havoid := List.all_eq_true.1 (List.all_eq_true.1 Run.runs_avoid r hr) q hq
  exact Run.not_holds_of_misses hsound havoid hn

/-- The letters of ASCII are those of the first run. -/
theorem toLower_of_ascii {c : Char} (h : c.val < 0x80) :
    c.toLower = if 0x41 ≤ c.toNat ∧ c.toNat ≤ 0x5a then Char.ofNat (c.toNat + 32) else c :=
  Bytes.forall_ascii
    (P := fun c => c.toLower = if 0x41 ≤ c.toNat ∧ c.toNat ≤ 0x5a then Char.ofNat (c.toNat + 32) else c)
    (by decide +kernel) h

/-- A character of ASCII that is no capital letter is in none of the runs. -/
theorem isLower_of_ascii {c : Char} (hc : c.val < 0x80) (h : ¬ (0x41 ≤ c.toNat ∧ c.toNat ≤ 0x5a)) :
    IsLower c := by
  have hfirst : ∀ r ∈ capitalRuns.tail, 0x80 ≤ r.1 := by decide +kernel
  have hascii : c.toNat < 0x80 := hc
  rintro q (_ | ⟨_, hq⟩) ⟨hle, hge, -⟩
  · exact h ⟨hle, hge⟩
  · exact absurd hle (by have := hfirst q hq; omega)

/-- The table is searched for the run of a character. -/
theorem holds_iff {r : Run} {c : Char} :
    (r.1 ≤ c.toNat && c.toNat ≤ r.2.1 && (c.toNat - r.1) % r.2.2.1 == 0) = true ↔ r.Holds c.toNat := by
  simp only [Run.Holds, Bool.and_eq_true, decide_eq_true_eq, beq_iff_eq, and_assoc]

/-- What becomes of a character: two characters, what its run leads to, or nothing new. -/
theorem lowerChar_cases (c : Char) :
    (c = '\u0130' ∧ lowerChar c = ['i', '\u0307']) ∨
      (∃ r ∈ capitalRuns, r.Holds c.toNat ∧ lowerChar c = [Char.ofNat (r.lower c.toNat)]) ∨
      (IsLower c ∧ lowerChar c = [c]) := by
  unfold lowerChar
  split
  · next hc =>
    rw [toLower_of_ascii hc]
    split
    · next hcapital =>
      exact .inr (.inl ⟨_, List.mem_cons_self, ⟨hcapital.1, hcapital.2, Nat.mod_one _⟩, rfl⟩)
    · next hother => exact .inr (.inr ⟨isLower_of_ascii hc hother, rfl⟩)
  · next hc =>
    split
    · next hdotted => exact .inl ⟨hdotted, rfl⟩
    · next hdotted =>
      split
      · next r hr =>
        have hholds := List.find?_some hr
        exact .inr (.inl ⟨r, .tail _ (.tail _ (List.mem_of_find?_eq_some hr)), holds_iff.1 hholds, rfl⟩)
      · next hnone =>
        refine .inr (.inr ⟨?_, rfl⟩)
        rintro q (_ | ⟨_, _ | ⟨_, hq⟩⟩) hholds
        · exact hc (Nat.lt_of_le_of_lt hholds.2.1 (by decide))
        · exact hdotted (Char.toNat_inj.1 (Nat.le_antisymm hholds.2.1 hholds.1))
        · exact List.find?_eq_none.1 hnone q hq (holds_iff.2 hholds)

/-- A character in none of the runs is its own lower case. -/
theorem lowerChar_of_isLower {c : Char} (h : IsLower c) : lowerChar c = [c] := by
  rcases lowerChar_cases c with ⟨rfl, -⟩ | ⟨r, hr, hc, -⟩ | ⟨-, heq⟩
  · exact absurd h (by decide +kernel)
  · exact absurd hc (h r hr)
  · exact heq

/-- The lower case of a character is in none of the runs. -/
theorem isLower_of_mem_lowerChar {c d : Char} (h : d ∈ lowerChar c) : IsLower d := by
  rcases lowerChar_cases c with ⟨-, heq⟩ | ⟨r, hr, hc, heq⟩ | ⟨hc, heq⟩
  · have hletter : IsLower 'i' := by decide +kernel
    have hdot : IsLower '\u0307' := by decide +kernel
    rw [heq, List.mem_cons, List.mem_singleton] at h
    rcases h with rfl | rfl
    · exact hletter
    · exact hdot
  · rw [heq, List.mem_singleton] at h
    exact h ▸ isLower_lower hr hc
  · rw [heq, List.mem_singleton] at h
    exact h ▸ hc

/-! ## Texts -/

/-- No character of a lower case is in a run. -/
theorem isLower_of_mem_lowerAfter {cs before : List Char} {d : Char} (h : d ∈ lowerAfter before cs) :
    IsLower d := by
  induction cs generalizing before with
  | nil => exact absurd h List.not_mem_nil
  | cons c cs ih =>
    rw [lowerAfter, List.mem_append] at h
    rcases h with h | h
    · split at h
      · -- a capital sigma has two forms
        have hfinal : IsLower '\u03c2' := by decide +kernel
        have hinner : IsLower '\u03c3' := by decide +kernel
        split at h
        · exact List.mem_singleton.1 h ▸ hfinal
        · exact List.mem_singleton.1 h ▸ hinner
      · exact isLower_of_mem_lowerChar h
    · exact ih h

/-- A text without characters of runs is its own lower case. -/
theorem lowerAfter_of_isLower {cs : List Char} (h : ∀ c ∈ cs, IsLower c) (before : List Char) :
    lowerAfter before cs = cs := by
  induction cs generalizing before with
  | nil => rfl
  | cons c cs ih =>
    have hc := h c List.mem_cons_self
    have hsigma : c ≠ capitalSigma := by
      rintro rfl
      exact absurd hc (by decide +kernel)
    rw [lowerAfter, if_neg hsigma, lowerChar_of_isLower hc, ih fun d hd => h d (.tail _ hd)]
    rfl

/-- Lower case is final. -/
theorem lowerCase_lowerCase (s : String) : lowerCase (lowerCase s) = lowerCase s := by
  unfold lowerCase
  rw [String.toList_ofList, lowerAfter_of_isLower fun c hc => isLower_of_mem_lowerAfter hc]

end SinglePage.Text
