/-
The order of texts is the order of their UTF-8 forms. Main statement: of two texts, the smaller one has
the smaller bytes (`ofText_lt`).
-/
import SinglePage.Bytes
import Mathlib.Data.String.Basic
import Mathlib.Tactic.SplitIfs

namespace SinglePage.Bytes

theorem ofNat_cons_lt_iff {m n : Nat} (hm : m < 256) (hn : n < 256) {bs bs' : Bytes} :
    UInt8.ofNat m :: bs < UInt8.ofNat n :: bs' ↔ m < n ∨ m = n ∧ bs < bs' := by
  rw [List.cons_lt_cons_iff, UInt8.lt_iff_toNat_lt, ← UInt8.toNat_inj, UInt8.toNat_ofNat', UInt8.toNat_ofNat',
    Nat.mod_eq_of_lt hm, Nat.mod_eq_of_lt hn]

/-- The smaller of two numbers is smaller without its last digit in base 64, or in that digit alone. -/
theorem base64_lt {m n : Nat} (h : m < n) : m / 64 < n / 64 ∨ m / 64 = n / 64 ∧ m % 64 < n % 64 := by
  omega

/-- Of two characters, the smaller one has the smaller bytes, whatever follows them. -/
theorem utf8EncodeChar_append_lt {c d : Char} (h : c < d) (bs bs' : Bytes) :
    String.utf8EncodeChar c ++ bs < String.utf8EncodeChar d ++ bs' := by
  have hlt : c.val.toNat < d.val.toNat := h
  have hd : d.val.toNat < 1114112 := by
    rcases d.valid with hd | hd
    · exact hd.trans (by decide)
    · exact hd.2
  unfold String.utf8EncodeChar
  generalize c.val.toNat = m at hlt ⊢
  generalize d.val.toNat = n at hlt hd ⊢
  -- Where the digits of the two first differ, that of `m` is the smaller one.
  have h₁ := base64_lt hlt
  have h₂ : m / 64 < n / 64 → m / 4096 < n / 4096 ∨ m / 4096 = n / 4096 ∧ m / 64 % 64 < n / 64 % 64 := by
    intro h
    simpa only [Nat.div_div_eq_div_mul, Nat.reduceMul] using base64_lt h
  have h₃ : m / 4096 < n / 4096 →
      m / 262144 < n / 262144 ∨ m / 262144 = n / 262144 ∧ m / 4096 % 64 < n / 4096 % 64 := by
    intro h
    simpa only [Nat.div_div_eq_div_mul, Nat.reduceMul] using base64_lt h
  have hm : m / 262144 % 8 = m / 262144 := Nat.mod_eq_of_lt (by omega)
  have hn : n / 262144 % 8 = n / 262144 := Nat.mod_eq_of_lt (by omega)
  -- A longer form has the greater first byte; forms of one length have the digits in order.
  simp only [hm, hn]
  split_ifs <;>
    simp (disch := omega) only [List.cons_append, List.nil_append, ofNat_cons_lt_iff] <;> omega

theorem ofChars_lt {cs ds : List Char} (h : cs < ds) : ofChars cs < ofChars ds := by
  induction h with
  | @nil d ds =>
    obtain ⟨b, bs, hb⟩ := List.exists_cons_of_ne_nil (@String.utf8EncodeChar_ne_nil d)
    rw [ofChars_nil, ofChars_cons, hb]
    exact List.nil_lt_cons b _
  | rel h =>
    rw [ofChars_cons, ofChars_cons]
    exact utf8EncodeChar_append_lt h _ _
  | @cons c cs ds h ih =>
    rw [ofChars_cons, ofChars_cons]
    exact List.append_left_lt ih

/-- Of two texts, the smaller one has the smaller bytes. -/
theorem ofText_lt {a b : String} (h : a < b) : ofText a < ofText b :=
  ofChars_lt (String.lt_iff_toList_lt.1 h)

end SinglePage.Bytes
