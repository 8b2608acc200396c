/-
Characters in the UTF-8 form of a text. A byte below 128 is the whole form of a character and no part of
the form of another one. So a text holds such a character where its form holds the byte (`mem_ofChars_iff`),
and can be cut there: bytes with a byte below 128 between them are a text if and only if the bytes on both
sides are (`text?_append_cons`).
-/
import SinglePage.Bytes
import Mathlib.Order.Nat
import Mathlib.Tactic.ByContra
import Mathlib.Tactic.SplitIfs

namespace SinglePage.Bytes

/-! ## The form of a character -/

/-- What holds of the first 128 characters one by one holds of every character below 128. -/
theorem forall_ascii {P : Char → Prop} (h : ∀ n < 128, P (Char.ofNat n)) {c : Char} (hc : c.toNat < 128) :
    P c := by
  have hP := h c.toNat hc
  rwa [Char.ofNat_toNat] at hP

theorem toNat_ofNat_toNat {d : Char} (hd : d.toNat < 128) : (UInt8.ofNat d.toNat).toNat = d.toNat :=
  UInt8.toNat_ofNat_of_lt' (hd.trans (by decide))

theorem utf8EncodeChar_of_lt {c : Char} (hc : c.toNat < 128) :
    String.utf8EncodeChar c = [UInt8.ofNat c.toNat] :=
  if_pos (Nat.le_of_lt_succ hc)

theorem le_of_mem_utf8EncodeChar {c : Char} {b : UInt8} (hc : 128 ≤ c.toNat)
    (h : b ∈ String.utf8EncodeChar c) : 128 ≤ b.toNat := by
  have hfirst : ¬ c.val.toNat ≤ 127 := Nat.not_le_of_lt hc
  unfold String.utf8EncodeChar at h
  simp only [if_neg hfirst] at h
  split_ifs at h <;> simp only [List.mem_cons, List.not_mem_nil, or_false] at h
  · rcases h with rfl | rfl <;> rw [UInt8.toNat_ofNat'] <;> omega
  · rcases h with rfl | rfl | rfl <;> rw [UInt8.toNat_ofNat'] <;> omega
  · rcases h with rfl | rfl | rfl | rfl <;> rw [UInt8.toNat_ofNat'] <;> omega

/-- A byte below 128 is the whole form of a character, and no part of the form of another one. -/
theorem eq_of_mem_utf8EncodeChar {c : Char} {b : UInt8} (hb : b.toNat < 128)
    (h : b ∈ String.utf8EncodeChar c) : c.toNat = b.toNat ∧ String.utf8EncodeChar c = [b] := by
  have hc : c.toNat < 128 := by
    by_contra hc
    exact absurd (le_of_mem_utf8EncodeChar (not_lt.1 hc) h) (not_le.2 hb)
  rw [utf8EncodeChar_of_lt hc, List.mem_singleton] at h
  subst h
  exact ⟨(toNat_ofNat_toNat hc).symm, utf8EncodeChar_of_lt hc⟩

section Cut

variable {d : Char} (hd : d.toNat < 128)

include hd

theorem eq_of_ofNat_mem_utf8EncodeChar {c : Char} (h : UInt8.ofNat d.toNat ∈ String.utf8EncodeChar c) :
    c = d ∧ String.utf8EncodeChar c = [UInt8.ofNat d.toNat] := by
  have hb := toNat_ofNat_toNat hd
  obtain ⟨hc, henc⟩ := eq_of_mem_utf8EncodeChar (by rw [hb]; exact hd) h
  exact ⟨Char.toNat_inj.1 (hc.trans hb), henc⟩

/-! ## The form of a text -/

/-- A text holds a character below 128 if and only if its form holds the byte. -/
theorem mem_ofChars_iff {cs : List Char} : UInt8.ofNat d.toNat ∈ ofChars cs ↔ d ∈ cs := by
  unfold ofChars
  rw [List.mem_flatMap]
  constructor
  · rintro ⟨c, hc, h⟩
    exact (eq_of_ofNat_mem_utf8EncodeChar hd h).1 ▸ hc
  · intro h
    exact ⟨d, h, by rw [utf8EncodeChar_of_lt hd]; exact List.mem_singleton_self _⟩

/-- Where its form holds a byte below 128, a text holds the character. -/
theorem exists_of_ofChars_eq : ∀ {cs : List Char} {before after : Bytes},
    ofChars cs = before ++ UInt8.ofNat d.toNat :: after →
      ∃ front back, cs = front ++ d :: back ∧ ofChars front = before ∧ ofChars back = after
  | [], before, after, h => by simp at h
  | c :: cs, before, after, h => by
    rw [ofChars_cons] at h
    rcases List.append_eq_append_iff.1 h with ⟨before', rfl, hcs⟩ | ⟨inner, hc, hcs⟩
    · obtain ⟨front, back, rfl, rfl, rfl⟩ := exists_of_ofChars_eq hcs
      exact ⟨c :: front, back, rfl, rfl, rfl⟩
    cases inner with
    | nil =>
      rw [List.append_nil] at hc
      have hcs : ofChars cs = [] ++ UInt8.ofNat d.toNat :: after := hcs.symm
      obtain ⟨front, back, rfl, hfront, rfl⟩ := exists_of_ofChars_eq hcs
      exact ⟨c :: front, back, rfl, by rw [ofChars_cons, hfront, List.append_nil, hc], rfl⟩
    | cons b inner =>
      -- the byte is in the form of `c`, and so is all of it
      obtain ⟨rfl, rfl⟩ := List.cons.inj hcs
      have hmem : UInt8.ofNat d.toNat ∈ String.utf8EncodeChar c := by
        rw [hc]; exact List.mem_append_right _ (List.mem_cons_self ..)
      obtain ⟨rfl, henc⟩ := eq_of_ofNat_mem_utf8EncodeChar hd hmem
      rw [henc] at hc
      obtain ⟨rfl, rfl⟩ : before = [] ∧ inner = [] := by
        have hlen := congrArg List.length hc
        simp only [List.length_append, List.length_cons, List.length_nil] at hlen
        exact ⟨List.length_eq_zero_iff.1 (by omega), List.length_eq_zero_iff.1 (by omega)⟩
      exact ⟨[], cs, rfl, rfl, rfl⟩

/-- Bytes on both sides of a byte below 128 are a text together if and only if both are one. -/
theorem text?_append_cons {before after : Bytes} {text : String} :
    text? (before ++ UInt8.ofNat d.toNat :: after) = some text ↔
      ∃ s t, text? before = some s ∧ text? after = some t ∧ text.toList = s.toList ++ d :: t.toList := by
  simp only [text?_eq_some_iff, ofText]
  constructor
  · intro h
    obtain ⟨front, back, htext, hfront, hback⟩ := exists_of_ofChars_eq hd h
    refine ⟨String.ofList front, String.ofList back, ?_⟩
    simp only [String.toList_ofList]
    exact ⟨hfront, hback, htext⟩
  · rintro ⟨s, t, rfl, rfl, htext⟩
    rw [htext, ofChars_append, ofChars_cons, utf8EncodeChar_of_lt hd]
    rfl

end Cut

/-- A text whose form starts with a byte below 128 starts with the character. -/
theorem exists_of_ofChars_eq_cons {cs : List Char} {b : UInt8} {after : Bytes} (hb : b.toNat < 128)
    (h : ofChars cs = b :: after) : ∃ c rest, cs = c :: rest ∧ c.toNat = b.toNat ∧ ofChars rest = after := by
  cases cs with
  | nil => cases h
  | cons c rest =>
    rw [ofChars_cons] at h
    obtain ⟨b', bs, henc⟩ := List.exists_cons_of_ne_nil (@String.utf8EncodeChar_ne_nil c)
    obtain rfl : b' = b := by rw [henc] at h; exact (List.cons.inj h).1
    obtain ⟨hc, hone⟩ := eq_of_mem_utf8EncodeChar (c := c) hb (by rw [henc]; exact List.mem_cons_self ..)
    rw [hone] at h
    exact ⟨c, rest, rfl, hc, (List.cons.inj h).2⟩

end SinglePage.Bytes
