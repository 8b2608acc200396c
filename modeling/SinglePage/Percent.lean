/-
Percent escapes. An escape is a '%' and two hexadecimal digits, and stands for one byte. `encode`
writes escapes for all characters outside a set; `decode` reads them, keeping a '%' that starts no
escape; `wellFormed` says that there is no such '%'. Main statement: a written text reads back as
the bytes of the text (`decode_encode`).
-/
import SinglePage.Bytes
import SinglePage.Text.Digits

namespace SinglePage.Percent

open Text

/-! ## Reading -/

/-- The byte that two hexadecimal digits stand for. -/
def byte? (high low : Char) : Option UInt8 :=
  match digit? 16 high, digit? 16 low with
  | some h, some l => some (UInt8.ofNat (16 * h + l))
  | _, _ => none

/-- Every '%' starts an escape. -/
def wellFormed : List Char → Bool
  | [] => true
  | '%' :: h :: l :: rest => (byte? h l).isSome && wellFormed rest
  | c :: rest => c != '%' && wellFormed rest

/-- Each escape becomes its byte; every other character becomes its own bytes. -/
def decode : List Char → Bytes
  | [] => []
  | '%' :: h :: l :: rest =>
    match byte? h l with
    | some b => b :: decode rest
    | none => Bytes.ofChars ['%'] ++ decode (h :: l :: rest)
  | c :: rest => String.utf8EncodeChar c ++ decode rest

/-! ## Writing -/

/-- The escape of a byte. -/
def escape (b : UInt8) : List Char :=
  ['%', upperHexDigit (b.toNat / 16), upperHexDigit (b.toNat % 16)]

/-- Characters of the set `keep` stay; every byte of any other becomes an escape. -/
def encode (keep : Char → Bool) (cs : List Char) : List Char :=
  cs.flatMap fun c => if keep c then [c] else (String.utf8EncodeChar c).flatMap escape

/-! ## What is written reads back -/

theorem byte?_upperHexDigits (b : UInt8) :
    byte? (upperHexDigit (b.toNat / 16)) (upperHexDigit (b.toNat % 16)) = some b := by
  have hb : b.toNat < 256 := b.toNat_lt
  simp only [byte?, digit?_upperHexDigit (show b.toNat / 16 < 16 by omega),
    digit?_upperHexDigit (show b.toNat % 16 < 16 by omega)]
  rw [show 16 * (b.toNat / 16) + b.toNat % 16 = b.toNat by omega, UInt8.ofNat_toNat]

theorem decode_escape_append (b : UInt8) (rest : List Char) :
    decode (escape b ++ rest) = b :: decode rest := by
  simp [escape, decode, byte?_upperHexDigits]

theorem wellFormed_escape_append (b : UInt8) (rest : List Char) :
    wellFormed (escape b ++ rest) = wellFormed rest := by
  simp [escape, wellFormed, byte?_upperHexDigits]

theorem decode_escapes_append (bs : Bytes) (rest : List Char) :
    decode (bs.flatMap escape ++ rest) = bs ++ decode rest := by
  induction bs with
  | nil => rfl
  | cons b bs ih => rw [List.flatMap_cons, List.append_assoc, decode_escape_append, ih]; rfl

theorem wellFormed_escapes_append (bs : Bytes) (rest : List Char) :
    wellFormed (bs.flatMap escape ++ rest) = wellFormed rest := by
  induction bs with
  | nil => rfl
  | cons b bs ih => rw [List.flatMap_cons, List.append_assoc, wellFormed_escape_append, ih]

theorem decode_cons_of_ne {c : Char} (h : c ≠ '%') (rest : List Char) :
    decode (c :: rest) = String.utf8EncodeChar c ++ decode rest := by
  rw [decode.eq_3]
  rintro hi lo r rfl
  exact absurd rfl h

theorem wellFormed_cons_of_ne {c : Char} (h : c ≠ '%') (rest : List Char) :
    wellFormed (c :: rest) = wellFormed rest := by
  rw [wellFormed.eq_3]
  · simp [h]
  · rintro hi lo r rfl
    exact absurd rfl h

/-- A written text reads back as the bytes of the text. -/
theorem decode_encode {keep : Char → Bool} (h : keep '%' = false) (cs : List Char) :
    decode (encode keep cs) = Bytes.ofChars cs := by
  induction cs with
  | nil => rfl
  | cons c cs ih =>
    simp only [encode, List.flatMap_cons, Bytes.ofChars_cons]
    split
    · next hc =>
      rw [List.singleton_append, decode_cons_of_ne (by rintro rfl; simp [h] at hc)]
      exact congrArg _ ih
    · rw [decode_escapes_append]
      exact congrArg _ ih

/-- Every '%' of a written text starts an escape. -/
theorem wellFormed_encode {keep : Char → Bool} (h : keep '%' = false) (cs : List Char) :
    wellFormed (encode keep cs) = true := by
  induction cs with
  | nil => rfl
  | cons c cs ih =>
    simp only [encode, List.flatMap_cons]
    split
    · next hc =>
      rw [List.singleton_append, wellFormed_cons_of_ne (by rintro rfl; simp [h] at hc)]
      exact ih
    · rw [wellFormed_escapes_append]
      exact ih

end SinglePage.Percent
