/-
The grammar of percent escapes. `Spells` has no rule for a '%' that starts no escape, so a text spells
bytes exactly if each '%' in it has two hexadecimal digits behind it (`exists_spells_iff`). Those are
the texts that are well formed by characters, and they spell what is read from them (`spells_iff`);
what a reader makes of any other '%' does not count there (`decodeOr_of_wellFormed`).
-/
import SinglePage.Percent
import SinglePage.Proofs.Bytes.Characters

namespace SinglePage.Percent

open Text

/-! ## The grammar of escapes -/

/-- The value of a hexadecimal digit in ASCII, in either case. -/
def hexValue? (b : UInt8) : Option Nat :=
  if 0x30 ≤ b.toNat ∧ b.toNat ≤ 0x39 then some (b.toNat - 0x30)
  else if 0x41 ≤ b.toNat ∧ b.toNat ≤ 0x46 then some (b.toNat - 0x37)
  else if 0x61 ≤ b.toNat ∧ b.toNat ≤ 0x66 then some (b.toNat - 0x57)
  else none

/-- Two hexadecimal digits stand in front. -/
def StartsWithDigits (bytes : Bytes) : Prop :=
  ∃ high low rest, bytes = high :: low :: rest ∧ (hexValue? high).isSome ∧ (hexValue? low).isSome

/-- What bytes a percent-encoded text stands for: an escape for its byte, any other byte for itself. A
'%' that starts no escape stands for nothing. -/
inductive Spells : Bytes → Bytes → Prop where
  | nil : Spells [] []
  | escape {high low : UInt8} {x y : Nat} {raw bytes : Bytes} :
      hexValue? high = some x → hexValue? low = some y → Spells raw bytes →
      Spells (0x25 :: high :: low :: raw) (UInt8.ofNat (16 * x + y) :: bytes)
  | byte {b : UInt8} {raw bytes : Bytes} : b ≠ 0x25 → Spells raw bytes → Spells (b :: raw) (b :: bytes)

theorem lt_of_hexValue? {b : UInt8} {x : Nat} (h : hexValue? b = some x) : b.toNat < 128 ∧ b ≠ 0x25 := by
  unfold hexValue? at h
  have hb : b = 0x25 → b.toNat = 37 := fun h => by rw [h]; rfl
  split_ifs at h with h1 h2 h3
  all_goals exact ⟨by omega, fun h => by have := hb h; omega⟩

theorem Spells.unique {raw bytes bytes' : Bytes} (h : Spells raw bytes) (h' : Spells raw bytes') :
    bytes = bytes' := by
  induction h generalizing bytes' with
  | nil => cases h'; rfl
  | escape hx hy _ ih =>
    cases h' with
    | escape hx' hy' hraw =>
      rw [hx, Option.some.injEq] at hx'
      rw [hy, Option.some.injEq] at hy'
      rw [hx', hy', ih hraw]
    | byte hb => exact absurd rfl hb
  | byte hb _ ih =>
    cases h' with
    | escape => exact absurd rfl hb
    | byte _ hraw => rw [ih hraw]

theorem Spells.startsWithDigits {raw bytes : Bytes} (h : Spells raw bytes) :
    ∀ {before after}, raw = before ++ 0x25 :: after → StartsWithDigits after := by
  induction h with
  | nil => intro before after h; cases before <;> cases h
  | @escape high low x y raw bytes hx hy _ ih =>
    intro before after h
    match before, h with
    | [], h =>
      rw [List.nil_append, List.cons.injEq] at h
      exact ⟨high, low, raw, h.2.symm, by rw [hx]; rfl, by rw [hy]; rfl⟩
    | [_], h => cases h; exact absurd rfl (lt_of_hexValue? hx).2
    | [_, _], h => cases h; exact absurd rfl (lt_of_hexValue? hy).2
    | _ :: _ :: _ :: before, h => cases h; exact ih rfl
  | byte hb _ ih =>
    intro before after h
    match before, h with
    | [], h => cases h; exact absurd rfl hb
    | _ :: before, h => cases h; exact ih rfl

/-- A text spells bytes if and only if each '%' in it has two hexadecimal digits behind it. -/
theorem exists_spells_iff : ∀ {raw : Bytes}, (∃ bytes, Spells raw bytes) ↔
    ∀ before after, raw = before ++ 0x25 :: after → StartsWithDigits after
  | [] => ⟨fun ⟨_, h⟩ _ _ => h.startsWithDigits, fun _ => ⟨[], .nil⟩⟩
  | b :: raw => by
    refine ⟨fun ⟨_, h⟩ _ _ => h.startsWithDigits, fun h => ?_⟩
    by_cases hb : b = 0x25
    · subst hb
      obtain ⟨high, low, rest, rfl, hh, hl⟩ := h [] raw rfl
      obtain ⟨x, hx⟩ := Option.isSome_iff_exists.1 hh
      obtain ⟨y, hy⟩ := Option.isSome_iff_exists.1 hl
      have hrest : ∃ bytes, Spells rest bytes := exists_spells_iff.2 fun before after hba =>
        h (0x25 :: high :: low :: before) after (by rw [hba]; rfl)
      obtain ⟨bytes, hbytes⟩ := hrest
      exact ⟨_, .escape hx hy hbytes⟩
    · have hrest : ∃ bytes, Spells raw bytes := exists_spells_iff.2 fun before after hba =>
        h (b :: before) after (by rw [hba]; rfl)
      obtain ⟨bytes, hbytes⟩ := hrest
      exact ⟨_, .byte hb hbytes⟩
termination_by raw => raw.length

/-! ## Reading by characters -/

theorem digit?_sixteen_of_lt {c : Char} (hc : c.toNat < 128) :
    digit? 16 c = hexValue? (UInt8.ofNat c.toNat) :=
  Bytes.forall_ascii (P := fun c => digit? 16 c = hexValue? (UInt8.ofNat c.toNat)) (by decide +kernel) hc

theorem lt_of_digit?_sixteen {c : Char} {x : Nat} (h : digit? 16 c = some x) : c.toNat < 128 := by
  have hle (d : Char) : c ≤ d ↔ c.toNat ≤ d.toNat := Iff.rfl
  have h9 : '9'.toNat = 57 := rfl
  have hf : 'f'.toNat = 102 := rfl
  have hF : 'F'.toNat = 70 := rfl
  unfold digit? at h
  simp only [hle] at h
  split_ifs at h <;> omega

/-- Two characters spell a byte if and only if the bytes that stand for them are digits. -/
theorem byte?_eq_some_iff {high low : Char} {b : UInt8} :
    byte? high low = some b ↔ ∃ x y, digit? 16 high = some x ∧ digit? 16 low = some y ∧
      UInt8.ofNat (16 * x + y) = b := by
  unfold byte?
  constructor
  · intro h
    split at h
    · rename_i x y hx hy
      exact ⟨x, y, hx, hy, Option.some.inj h⟩
    · cases h
  · rintro ⟨x, y, hx, hy, rfl⟩
    simp only [hx, hy]

/-- Bytes without a '%' in front stand for themselves. -/
theorem spells_append_iff {plain raw bytes : Bytes} (hplain : 0x25 ∉ plain) :
    Spells (plain ++ raw) bytes ↔ ∃ rest, bytes = plain ++ rest ∧ Spells raw rest := by
  induction plain generalizing bytes with
  | nil => exact ⟨fun h => ⟨bytes, rfl, h⟩, fun ⟨_, h, hraw⟩ => h ▸ hraw⟩
  | cons b plain ih =>
    rw [List.mem_cons, not_or] at hplain
    constructor
    · intro h
      rw [List.cons_append] at h
      generalize htail : plain ++ raw = tail at h
      cases h with
      | escape => exact absurd rfl hplain.1
      | byte _ hrest =>
        obtain ⟨rest, rfl, hraw⟩ := (ih hplain.2).1 (htail ▸ hrest)
        exact ⟨rest, rfl, hraw⟩
    · rintro ⟨rest, rfl, hraw⟩
      exact .byte (Ne.symm hplain.1) ((ih hplain.2).2 ⟨rest, rfl, hraw⟩)

/-- Behind a '%' stand the digits of a byte. -/
theorem Spells.exists_of_percent {after bytes : Bytes} (h : Spells (0x25 :: after) bytes) :
    ∃ high low x y raw rest, after = high :: low :: raw ∧ hexValue? high = some x ∧
      hexValue? low = some y ∧ Spells raw rest := by
  cases h with
  | escape hx hy hraw => exact ⟨_, _, _, _, _, _, rfl, hx, hy, hraw⟩
  | byte hb => exact absurd rfl hb

theorem percent_not_mem_utf8EncodeChar {c : Char} (hc : c ≠ '%') : 0x25 ∉ String.utf8EncodeChar c :=
  fun h => hc (Bytes.eq_of_ofNat_mem_utf8EncodeChar (d := '%') (by decide) h).1

/-- A text whose escapes are well formed spells what the reader reads. -/
theorem spells_decode {cs : List Char} (h : wellFormed cs = true) : Spells (Bytes.ofChars cs) (decode cs) := by
  fun_induction wellFormed cs with
  | case1 => exact .nil
  | case2 high low rest ih =>
    rw [Bool.and_eq_true] at h
    obtain ⟨b, hb⟩ := Option.isSome_iff_exists.1 h.1
    obtain ⟨x, y, hx, hy, rfl⟩ := byte?_eq_some_iff.1 hb
    have hhigh := lt_of_digit?_sixteen hx
    have hlow := lt_of_digit?_sixteen hy
    simp only [decode, hb, Bytes.ofChars_cons, Bytes.utf8EncodeChar_of_lt hhigh,
      Bytes.utf8EncodeChar_of_lt hlow]
    exact .escape (digit?_sixteen_of_lt hhigh ▸ hx) (digit?_sixteen_of_lt hlow ▸ hy) (ih h.2)
  | case3 c rest _ ih =>
    rw [Bool.and_eq_true, bne_iff_ne] at h
    rw [decode_cons_of_ne h.1]
    exact (spells_append_iff (percent_not_mem_utf8EncodeChar h.1)).2 ⟨_, rfl, ih h.2⟩

theorem exists_escape_of_spells {rest : List Char} {bytes : Bytes}
    (h : Spells (Bytes.ofChars ('%' :: rest)) bytes) :
    ∃ high low cs rest', rest = high :: low :: cs ∧ (byte? high low).isSome = true ∧
      Spells (Bytes.ofChars cs) rest' := by
  obtain ⟨hi, lo, x, y, raw, rest', hafter, hx, hy, hraw⟩ := h.exists_of_percent
  obtain ⟨high, cs', rfl, hhigh, hafter⟩ := Bytes.exists_of_ofChars_eq_cons (lt_of_hexValue? hx).1 hafter
  obtain ⟨low, cs, rfl, hlow, hafter⟩ := Bytes.exists_of_ofChars_eq_cons (lt_of_hexValue? hy).1 hafter
  refine ⟨high, low, cs, rest', rfl, ?_, by rw [hafter]; exact hraw⟩
  have hdigit {c : Char} {b : UInt8} {n : Nat} (hc : c.toNat = b.toNat) (hn : hexValue? b = some n) :
      digit? 16 c = some n := by
    rw [digit?_sixteen_of_lt (hc ▸ (lt_of_hexValue? hn).1), hc, UInt8.ofNat_toNat, hn]
  exact Option.isSome_iff_exists.2 ⟨_, byte?_eq_some_iff.2 ⟨x, y, hdigit hhigh hx, hdigit hlow hy, rfl⟩⟩

/-- A text that spells bytes is well formed. -/
theorem wellFormed_of_spells {cs : List Char} {bytes : Bytes} (h : Spells (Bytes.ofChars cs) bytes) :
    wellFormed cs = true := by
  fun_induction wellFormed cs generalizing bytes with
  | case1 => rfl
  | case2 high low rest ih =>
    obtain ⟨_, _, _, _, hrest, hbyte, hspells⟩ := exists_escape_of_spells h
    cases hrest
    rw [hbyte, ih hspells]
    rfl
  | case3 c rest hc ih =>
    by_cases hpercent : c = '%'
    · subst hpercent
      obtain ⟨high, low, cs, _, rfl, -⟩ := exists_escape_of_spells h
      exact absurd rfl (hc high low cs rfl)
    · obtain ⟨_, -, hraw⟩ := (spells_append_iff (percent_not_mem_utf8EncodeChar hpercent)).1 h
      rw [ih hraw, Bool.and_true, bne_iff_ne]
      exact hpercent

/-- A text spells bytes if and only if it is well formed, and then those that the reader reads. -/
theorem spells_iff {cs : List Char} {bytes : Bytes} :
    Spells (Bytes.ofChars cs) bytes ↔ wellFormed cs = true ∧ bytes = decode cs := by
  constructor
  · intro h
    have hw := wellFormed_of_spells h
    exact ⟨hw, h.unique (spells_decode hw)⟩
  · rintro ⟨hw, rfl⟩
    exact spells_decode hw

/-- A text is well formed if and only if each '%' in it has two hexadecimal digits behind it. -/
theorem wellFormed_iff {cs : List Char} : wellFormed cs = true ↔
    ∀ before after, Bytes.ofChars cs = before ++ 0x25 :: after → StartsWithDigits after := by
  rw [← exists_spells_iff]
  constructor
  · intro hw
    exact ⟨_, spells_decode hw⟩
  · rintro ⟨bytes, h⟩
    exact wellFormed_of_spells h

/-! ## What starts no escape -/

/-- Reads a text as `decode` does as far as the first '%' that starts no escape, and leaves the rest to
another reader. -/
def decodeOr (other : List Char → Bytes) : List Char → Bytes
  | [] => []
  | '%' :: high :: low :: rest =>
    match byte? high low with
    | some b => b :: decodeOr other rest
    | none => other ('%' :: high :: low :: rest)
  | c :: rest => if c = '%' then other (c :: rest) else String.utf8EncodeChar c ++ decodeOr other rest

/-- `decode` leaves the rest to itself. -/
theorem decodeOr_decode (cs : List Char) : decodeOr decode cs = decode cs := by
  fun_induction decodeOr decode cs with
  | case1 => rfl
  | case2 high low rest b hb ih => simp only [decode, hb, ih]
  | case3 high low rest hb => rfl
  | case4 rest hc => rfl
  | case5 c rest hc hne ih => rw [decode_cons_of_ne hne, ih]

/-- A well-formed text leaves nothing to another reader. -/
theorem decodeOr_of_wellFormed (other : List Char → Bytes) {cs : List Char} (h : wellFormed cs = true) :
    decodeOr other cs = decode cs := by
  fun_induction decodeOr other cs with
  | case1 => rfl
  | case2 high low rest b hb ih =>
    rw [wellFormed, Bool.and_eq_true] at h
    simp only [decode, hb, ih h.2]
  | case3 high low rest hb =>
    rw [wellFormed, hb] at h
    cases h
  | case4 rest hc =>
    rw [wellFormed.eq_3 _ _ hc] at h
    cases h
  | case5 c rest hc hne ih =>
    rw [wellFormed_cons_of_ne hne] at h
    rw [decode_cons_of_ne hne, ih h]

end SinglePage.Percent
