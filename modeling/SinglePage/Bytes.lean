/-
Byte strings and the texts they spell. Main statements: the bytes of a text read back as that text
(`text?_ofText`), and bytes that read as a text are the bytes of that text (`ofText_of_text?`).
-/
namespace SinglePage

/-- A string of bytes. -/
abbrev Bytes := List UInt8

namespace Bytes

/-- The UTF-8 form of a list of characters. -/
def ofChars (cs : List Char) : Bytes := cs.flatMap String.utf8EncodeChar

/-- The UTF-8 form of a text. -/
def ofText (s : String) : Bytes := ofChars s.toList

/-- The text whose UTF-8 form these bytes are, if there is one. -/
def text? (b : Bytes) : Option String := String.fromUTF8? b.toByteArray

/-! ## Text and its bytes -/

@[simp] theorem ofChars_nil : ofChars [] = [] := rfl

@[simp] theorem ofChars_cons (c : Char) (cs : List Char) :
    ofChars (c :: cs) = String.utf8EncodeChar c ++ ofChars cs := rfl

@[simp] theorem ofChars_append (cs ds : List Char) :
    ofChars (cs ++ ds) = ofChars cs ++ ofChars ds := List.flatMap_append

theorem toByteArray_ofText (s : String) : (ofText s).toByteArray = s.toByteArray := by
  rw [← String.utf8Encode_toList]; rfl

/-- The bytes of a text read back as that text. -/
theorem text?_ofText (s : String) : text? (ofText s) = some s := by
  unfold text? String.fromUTF8?
  rw [dif_pos (by rw [toByteArray_ofText]; exact s.isValidUTF8)]
  exact congrArg some (String.toByteArray_inj.1 (toByteArray_ofText s))

/-- Bytes that read as a text are the bytes of that text. -/
theorem ofText_of_text? {b : Bytes} {s : String} (h : text? b = some s) : ofText s = b := by
  unfold text? String.fromUTF8? at h
  split at h
  · cases h
    apply List.toByteArray_inj.1
    rw [toByteArray_ofText]
    rfl
  · cases h

theorem text?_eq_some_iff {b : Bytes} {s : String} : text? b = some s ↔ ofText s = b :=
  ⟨ofText_of_text?, fun h => h ▸ text?_ofText s⟩

end Bytes

end SinglePage
