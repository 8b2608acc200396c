/-
Which request paths have a canonical form, and what is wrong with the others. The first check is that each
'%' has two hexadecimal digits behind it; the bytes that the path spells then have to be a text, and the text
must not hold a NUL. A path that passes has the canonical form that the segments of the text lead to
(`canonicalize_grammar`).
-/
import SinglePage.Proofs.Percent.Escapes
import SinglePage.Proofs.RequestPath.Walk

namespace SinglePage.RequestPath

/-! ## What is read -/

/-- What a percent-encoded path is read into, a case for each check. -/
inductive Decoded (raw : String) : Except PathError String → Prop where
  | invalidEscape : Percent.wellFormed raw.toList = false → Decoded raw (.error .invalidEscape)
  | invalidUtf8 : Percent.wellFormed raw.toList = true → Bytes.text? (Percent.decode raw.toList) = none →
      Decoded raw (.error .invalidUtf8)
  | nulByte {text : String} : Percent.wellFormed raw.toList = true →
      Bytes.text? (Percent.decode raw.toList) = some text → '\x00' ∈ text.toList →
      Decoded raw (.error .nulByte)
  | text {text : String} : Percent.wellFormed raw.toList = true →
      Bytes.text? (Percent.decode raw.toList) = some text → '\x00' ∉ text.toList → Decoded raw (.ok text)

theorem decoded (raw : String) : Decoded raw (decode raw) := by
  unfold decode
  split
  · rename_i hw
    split
    · rename_i text ht
      split
      · rename_i hnul
        exact .nulByte hw ht (by simpa using hnul)
      · rename_i hnul
        exact .text hw ht (by simpa using hnul)
    · rename_i ht
      exact .invalidUtf8 hw ht
  · rename_i hw
    exact .invalidEscape (Bool.eq_false_iff.2 hw)

/-- A path is read in one way. -/
theorem Decoded.decode_eq {raw : String} {result : Except PathError String} (h : Decoded raw result) :
    decode raw = result := by
  unfold decode
  cases h with
  | invalidEscape hw => rw [hw]; rfl
  | invalidUtf8 hw ht => rw [if_pos hw, ht]
  | nulByte hw ht hnul => simp only [hw, ht, hnul, List.contains_eq_mem, decide_true, if_true]
  | text hw ht hnul =>
    simp only [hw, ht, hnul, List.contains_eq_mem, decide_false, Bool.false_eq_true, if_true, if_false]

theorem canonicalize_error_iff {raw : String} {e : PathError} :
    canonicalize raw = .error e ↔ decode raw = .error e := by
  unfold canonicalize
  cases decode raw with
  | error e' => exact ⟨fun h => by cases h; rfl, fun h => by cases h; rfl⟩
  | ok text => exact iff_of_false (fun h => nomatch h) fun h => nomatch h

theorem canonicalize_invalidEscape_iff {raw : String} :
    canonicalize raw = .error .invalidEscape ↔ Percent.wellFormed raw.toList = false := by
  rw [canonicalize_error_iff]
  constructor
  · intro h
    cases h ▸ decoded raw with
    | invalidEscape hw => exact hw
  · exact fun hw => (Decoded.invalidEscape hw).decode_eq

section WellFormed

variable {raw : String} {bytes : Bytes}

/-- Bytes that the reader reads from a well-formed path decide what becomes of it. -/
theorem canonicalize_of_wellFormed (hw : Percent.wellFormed raw.toList = true)
    (hread : Percent.decode raw.toList = bytes) :
    (canonicalize raw = .error .invalidUtf8 ↔ ∀ text, Bytes.ofText text ≠ bytes) ∧
    (canonicalize raw = .error .nulByte ↔ (∃ text, Bytes.ofText text = bytes) ∧ 0 ∈ bytes) ∧
    (∀ text, Bytes.ofText text = bytes → 0 ∉ bytes →
      ∃ names, Walk [] (segments text.toList) names ∧ canonicalize raw = .ok (join names)) := by
  have hnul {text : String} (htext : Bytes.ofText text = bytes) : 0 ∈ bytes ↔ '\x00' ∈ text.toList := by
    rw [← htext]
    exact Bytes.mem_ofChars_iff (d := '\x00') (by decide)
  have hok {text : String} :
      Bytes.text? (Percent.decode raw.toList) = some text ↔ Bytes.ofText text = bytes := by
    rw [hread, Bytes.text?_eq_some_iff]
  rw [canonicalize_error_iff, canonicalize_error_iff]
  have hdecoded := decoded raw
  generalize hresult : decode raw = result at hdecoded
  cases hdecoded with
  | invalidEscape hw' => rw [hw] at hw'; cases hw'
  | invalidUtf8 _ htext =>
    have hno : ∀ text, Bytes.ofText text ≠ bytes := fun text h => by rw [hok.2 h] at htext; cases htext
    refine ⟨iff_of_true rfl hno, iff_of_false nofun ?_, fun text h => absurd h (hno text)⟩
    rintro ⟨⟨text, h⟩, -⟩
    exact hno text h
  | @nulByte text _ htext hmem =>
    have hbytes := hok.1 htext
    refine ⟨iff_of_false nofun fun h => h text hbytes, iff_of_true rfl ?_, fun _ _ hzero => ?_⟩
    · exact ⟨⟨text, hbytes⟩, (hnul hbytes).2 hmem⟩
    · exact absurd ((hnul hbytes).2 hmem) hzero
  | @text text _ htext hmem =>
    have hbytes := hok.1 htext
    refine ⟨iff_of_false nofun fun h => h text hbytes, iff_of_false nofun ?_, ?_⟩
    · rintro ⟨-, hzero⟩
      exact hmem ((hnul hbytes).1 hzero)
    · intro text' htext' _
      have hread' := hok.2 htext'
      rw [htext, Option.some.injEq] at hread'
      subst hread'
      exact ⟨_, walk_root_iff.2 rfl, canonicalize_ok_iff.2 ⟨text, _, hresult, walk_root_iff.2 rfl, rfl⟩⟩

end WellFormed

/-! ## The grammar -/

/-- A request path is read by its bytes, and the first check that it fails is what is said to be wrong with it.
An escape is invalid if and only if some '%' does not have two hexadecimal digits behind it. Otherwise the path
spells bytes, one way and no other, which are read whatever would be made of a '%' that starts no escape; and
the path is no text, holds a NUL or has a canonical form by these bytes alone. -/
theorem canonicalize_grammar (raw : String) :
    (canonicalize raw = .error .invalidEscape ↔
      ∃ before after, Bytes.ofText raw = before ++ 0x25 :: after ∧ ¬ Percent.StartsWithDigits after) ∧
    (canonicalize raw ≠ .error .invalidEscape →
      ∃ bytes, (∀ bytes', Percent.Spells (Bytes.ofText raw) bytes' ↔ bytes' = bytes) ∧
        (Percent.decode raw.toList = Percent.decodeOr Percent.decode raw.toList ∧
          ∀ other, Percent.decodeOr other raw.toList = bytes) ∧
        (canonicalize raw = .error .invalidUtf8 ↔ ∀ text, Bytes.ofText text ≠ bytes) ∧
        (canonicalize raw = .error .nulByte ↔ (∃ text, Bytes.ofText text = bytes) ∧ 0 ∈ bytes) ∧
        ∀ text, Bytes.ofText text = bytes → 0 ∉ bytes →
          ∃ names, Walk [] (segments text.toList) names ∧ canonicalize raw = .ok (join names)) := by
  constructor
  · rw [canonicalize_invalidEscape_iff, ← Bool.not_eq_true, Percent.wellFormed_iff, ← Bytes.ofText]
    push Not
    rfl
  · intro hescape
    rw [Ne, canonicalize_invalidEscape_iff, Bool.not_eq_false] at hescape
    refine ⟨Percent.decode raw.toList, fun bytes' => ?_,
      ⟨(Percent.decodeOr_decode _).symm, fun other => ?_⟩, canonicalize_of_wellFormed hescape rfl⟩
    · exact Percent.spells_iff.trans (and_iff_right hescape)
    · exact Percent.decodeOr_of_wellFormed other hescape

/-- Escapes in either case stand for dots, for a '%' that is not read again, and for the bytes of a letter, and
a '+' and the same letter for themselves. -/
theorem canonicalize_grammar_mixed :
    let raw := "/a/%2e%2E/%2525+%c3%A9é"
    let text := "/a/../%25+éé"
    canonicalize raw ≠ .error .invalidEscape ∧ Percent.Spells (Bytes.ofText raw) (Bytes.ofText text) ∧
      ∃ names, Walk [] (segments text.toList) names ∧ canonicalize raw = .ok (join names) := by
  intro raw text
  have hescape : canonicalize raw ≠ .error .invalidEscape := by decide +kernel
  obtain ⟨bytes, hspells, ⟨-, hread⟩, -, -, hok⟩ := (canonicalize_grammar raw).2 hescape
  have hbytes : Bytes.ofText text = bytes := by
    rw [← hread fun _ => []]
    decide +kernel
  have hzero : 0 ∉ bytes := by
    rw [← hbytes]
    decide +kernel
  exact ⟨hescape, (hspells _).2 hbytes, hok text hbytes hzero⟩

end SinglePage.RequestPath
