/-
Request paths in two parts. What stands on one side of a slash is read without regard to the other side: an
escape ends before the slash or is invalid, the bytes of a character do not reach across it, and a NUL is on
one side. So two parts with a slash between them are read if and only if both are, and a walk along the first
goes on along the second; if they are not, the error is that of the two which is checked for first
(`canonicalize_append_slash`).
-/
import SinglePage.Proofs.RequestPath.Grammar

namespace SinglePage

/-! ## Escapes on both sides of a slash -/

namespace Percent

open Text

theorem byte?_of_not_digit {c : Char} (hc : digit? 16 c = none) (d : Char) :
    byte? c d = none ∧ byte? d c = none := by
  unfold byte?
  rw [hc]
  cases digit? 16 d <;> exact ⟨rfl, rfl⟩

/-- No escape reaches across a character that is no digit. -/
theorem wellFormed_append_cons {c : Char} (hc : digit? 16 c = none) (hne : c ≠ '%') (cs ds : List Char) :
    wellFormed (cs ++ c :: ds) = (wellFormed cs && wellFormed ds) := by
  fun_induction wellFormed cs with
  | case1 => rw [List.nil_append, wellFormed_cons_of_ne hne, Bool.true_and]
  | case2 high low rest ih =>
    simp only [List.cons_append, wellFormed, ih, Bool.and_assoc]
  | case3 d rest hrest ih =>
    by_cases hd : d = '%'
    · subst hd
      rw [bne_self_eq_false, Bool.false_and, Bool.false_and]
      -- the '%' stands where at most one digit is left for it
      rcases rest with _ | ⟨high, _ | ⟨low, rest⟩⟩
      · cases ds with
        | nil => rfl
        | cons low ds => simp [wellFormed, (byte?_of_not_digit hc low).1]
      · simp [wellFormed, (byte?_of_not_digit hc high).2]
      · exact absurd rfl (hrest high low rest rfl)
    · rw [List.cons_append, wellFormed_cons_of_ne hd, ih, (bne_iff_ne).2 hd, Bool.true_and]

theorem decode_append {cs : List Char} (h : wellFormed cs = true) (ds : List Char) :
    decode (cs ++ ds) = decode cs ++ decode ds := by
  fun_induction wellFormed cs with
  | case1 => rfl
  | case2 high low rest ih =>
    rw [Bool.and_eq_true] at h
    obtain ⟨b, hb⟩ := Option.isSome_iff_exists.1 h.1
    simp only [List.cons_append, decode, hb, ih h.2]
  | case3 c rest _ ih =>
    rw [Bool.and_eq_true, bne_iff_ne] at h
    rw [List.cons_append, decode_cons_of_ne h.1, decode_cons_of_ne h.1, ih h.2, List.append_assoc]

end Percent

/-! ## The order of the checks -/

/-- The place of an error among the checks. -/
def PathError.rank : PathError → Nat
  | .invalidEscape => 0
  | .invalidUtf8 => 1
  | .nulByte => 2

/-- Of two errors, the one that is checked for first. -/
def PathError.first (e e' : PathError) : PathError := if e.rank ≤ e'.rank then e else e'

theorem PathError.first_eq_iff {e e' found : PathError} :
    e.first e' = found ↔ (e = found ∨ e' = found) ∧ found.rank ≤ e.rank ∧ found.rank ≤ e'.rank := by
  cases e <;> cases e' <;> cases found <;> decide

namespace RequestPath

/-! ## Reading both sides -/

theorem toList_append_slash (a b : String) : (a ++ "/" ++ b).toList = a.toList ++ '/' :: b.toList := by
  simp

/-- Two readings with a slash between them, or what is wrong with them. -/
def joinReadings : Except PathError String → Except PathError String → Except PathError String
  | .ok s, .ok t => .ok (s ++ "/" ++ t)
  | .error e, .ok _ => .error e
  | .ok _, .error e => .error e
  | .error e, .error e' => .error (e.first e')

section Sides

variable {a b : String}

theorem wellFormed_append_slash (a b : String) : Percent.wellFormed (a ++ "/" ++ b).toList =
    (Percent.wellFormed a.toList && Percent.wellFormed b.toList) := by
  rw [toList_append_slash]
  exact Percent.wellFormed_append_cons (by decide) (by decide) _ _

/-- What is read on both sides of a slash is a text if and only if it is one on either side. -/
theorem text?_append_slash (ha : Percent.wellFormed a.toList = true) {text : String} :
    Bytes.text? (Percent.decode (a ++ "/" ++ b).toList) = some text ↔
      ∃ s t, Bytes.text? (Percent.decode a.toList) = some s ∧
        Bytes.text? (Percent.decode b.toList) = some t ∧ text = s ++ "/" ++ t := by
  have hread : Percent.decode (a ++ "/" ++ b).toList =
      Percent.decode a.toList ++ UInt8.ofNat '/'.toNat :: Percent.decode b.toList := by
    rw [toList_append_slash, Percent.decode_append ha, Percent.decode_cons_of_ne (by decide)]
    rfl
  rw [hread, Bytes.text?_append_cons (by decide)]
  simp only [← toList_append_slash, String.toList_inj]

theorem text?_append_slash_none (ha : Percent.wellFormed a.toList = true)
    (h : Bytes.text? (Percent.decode a.toList) = none ∨ Bytes.text? (Percent.decode b.toList) = none) :
    Bytes.text? (Percent.decode (a ++ "/" ++ b).toList) = none := by
  rw [Option.eq_none_iff_forall_ne_some]
  intro text htext
  obtain ⟨s, t, hs, ht, -⟩ := (text?_append_slash ha).1 htext
  rcases h with h | h
  · rw [hs] at h; cases h
  · rw [ht] at h; cases h

theorem nul_mem_append_slash {s t : String} :
    '\x00' ∈ (s ++ "/" ++ t).toList ↔ '\x00' ∈ s.toList ∨ '\x00' ∈ t.toList := by
  rw [toList_append_slash, List.mem_append, List.mem_cons, or_iff_right (by decide : ¬ '\x00' = '/')]

/-- Each side of a slash is checked on its own. -/
theorem Decoded.append_slash {r r' : Except PathError String} (ha : Decoded a r) (hb : Decoded b r') :
    Decoded (a ++ "/" ++ b) (joinReadings r r') := by
  have hw := wellFormed_append_slash a b
  have hok {s t : String} (hwa : Percent.wellFormed a.toList = true)
      (hs : Bytes.text? (Percent.decode a.toList) = some s)
      (ht : Bytes.text? (Percent.decode b.toList) = some t) :
      Bytes.text? (Percent.decode (a ++ "/" ++ b).toList) = some (s ++ "/" ++ t) :=
    (text?_append_slash hwa).2 ⟨s, t, hs, ht, rfl⟩
  cases ha with
  | invalidEscape hwa =>
    rw [hwa, Bool.false_and] at hw
    cases hb <;> exact .invalidEscape hw
  | invalidUtf8 hwa hs =>
    rw [hwa, Bool.true_and] at hw
    cases hb with
    | invalidEscape hwb => exact .invalidEscape (hw.trans hwb)
    | invalidUtf8 hwb _ | nulByte hwb _ _ | text hwb _ _ =>
      exact .invalidUtf8 (hw.trans hwb) (text?_append_slash_none hwa (.inl hs))
  | nulByte hwa hs hnul =>
    rw [hwa, Bool.true_and] at hw
    cases hb with
    | invalidEscape hwb => exact .invalidEscape (hw.trans hwb)
    | invalidUtf8 hwb ht => exact .invalidUtf8 (hw.trans hwb) (text?_append_slash_none hwa (.inr ht))
    | nulByte hwb ht _ | text hwb ht _ =>
      exact .nulByte (hw.trans hwb) (hok hwa hs ht) (nul_mem_append_slash.2 (.inl hnul))
  | text hwa hs hnul =>
    rw [hwa, Bool.true_and] at hw
    cases hb with
    | invalidEscape hwb => exact .invalidEscape (hw.trans hwb)
    | invalidUtf8 hwb ht => exact .invalidUtf8 (hw.trans hwb) (text?_append_slash_none hwa (.inr ht))
    | nulByte hwb ht hnul' =>
      exact .nulByte (hw.trans hwb) (hok hwa hs ht) (nul_mem_append_slash.2 (.inr hnul'))
    | text hwb ht hnul' =>
      exact .text (hw.trans hwb) (hok hwa hs ht) fun h => (nul_mem_append_slash.1 h).elim hnul hnul'

theorem decode_append_slash (a b : String) : decode (a ++ "/" ++ b) = joinReadings (decode a) (decode b) :=
  ((decoded a).append_slash (decoded b)).decode_eq

end Sides

/-! ## Walks on both sides -/

theorem segments_append_slash (s t : String) :
    segments (s ++ "/" ++ t).toList = segments s.toList ++ segments t.toList := by
  rw [toList_append_slash]
  exact List.splitOn_append_cons_self s.toList t.toList

/-- Behind a text and a slash, a walk goes on from where the text leads. -/
theorem canonicalize_append_slash_ok_iff {a b s t path : String} (ha : decode a = .ok s)
    (hb : decode b = .ok t) :
    canonicalize (a ++ "/" ++ b) = .ok path ↔
      ∃ names, Walk (resolve (segments s.toList)) (segments t.toList) names ∧ path = join names := by
  have hboth : decode (a ++ "/" ++ b) = .ok (s ++ "/" ++ t) := by rw [decode_append_slash, ha, hb]; rfl
  rw [canonicalize_ok_iff]
  simp only [hboth, walk_root_iff, walk_resolve_iff, ← segments_append_slash]
  constructor
  · rintro ⟨text, names, htext, hnames, rfl⟩
    cases htext
    exact ⟨names, hnames, rfl⟩
  · rintro ⟨names, hnames, rfl⟩
    exact ⟨_, names, rfl, hnames, rfl⟩

theorem exists_canonicalize_ok_iff {raw : String} :
    (∃ path, canonicalize raw = .ok path) ↔ ∃ text, decode raw = .ok text := by
  constructor
  · rintro ⟨path, h⟩
    obtain ⟨text, hdecode, -⟩ := canonicalize_ok h
    exact ⟨text, hdecode⟩
  · rintro ⟨text, hdecode⟩
    exact ⟨_, canonicalize_ok_iff.2 ⟨text, _, hdecode, walk_root_iff.2 rfl, rfl⟩⟩

/-- With what is written for the canonical path of the first side in its place, the second side leads to the
same path. -/
theorem canonicalize_append_slash_eq {a b path path' : String} (ha : canonicalize a = .ok path)
    (hb : canonicalize b = .ok path') :
    canonicalize (a ++ "/" ++ b) = canonicalize (encode path ++ "/" ++ b) := by
  obtain ⟨s, hs, rfl⟩ := canonicalize_ok ha
  obtain ⟨t, ht, -⟩ := canonicalize_ok hb
  have ho := resolve_ordinary (decode_ok hs).2
  have hwritten := decode_encode (nul_not_mem_join ho)
  have hwalk : Walk (resolve (segments s.toList)) (segments t.toList)
      (resolve (segments s.toList ++ segments t.toList)) := walk_resolve_iff.2 rfl
  refine ((canonicalize_append_slash_ok_iff hs ht).2 ⟨_, hwalk, rfl⟩).trans (Eq.symm ?_)
  refine (canonicalize_append_slash_ok_iff hwritten ht).2 ⟨_, ?_, rfl⟩
  rw [resolve_segments_join ho]
  exact hwalk

theorem eq_iff_least {e e' : PathError} : e' = e ↔ e' = e ∧ ∀ found, e' = found → e.rank ≤ found.rank := by
  refine ⟨?_, fun h => h.1⟩
  rintro rfl
  exact ⟨rfl, fun found h => h ▸ le_rfl⟩

/-- The error of two readings is that of the two which is checked for first. -/
theorem joinReadings_error_iff {r r' : Except PathError String} {e : PathError} :
    joinReadings r r' = .error e ↔
      (r = .error e ∨ r' = .error e) ∧ ∀ e', r = .error e' ∨ r' = .error e' → e.rank ≤ e'.rank := by
  cases r with
  | ok s =>
    cases r' with
    | ok t => simp [joinReadings]
    | error e₂ =>
      simp only [joinReadings, reduceCtorEq, false_or, Except.error.injEq]
      exact eq_iff_least
  | error e₁ =>
    cases r' with
    | ok t =>
      simp only [joinReadings, reduceCtorEq, or_false, Except.error.injEq]
      exact eq_iff_least
    | error e₂ =>
      simp only [joinReadings, Except.error.injEq, PathError.first_eq_iff, or_imp, forall_and, forall_eq']

/-- Two request paths with a slash between them have a canonical form if and only if both have one. It is the
place that a walk along the segments of the second leads to from the canonical path of the first, and so is not
changed if what is written for this path stands in the place of the first. If they have none, the error is the
one among theirs that is checked for first. -/
theorem canonicalize_append_slash (a b : String) :
    ((∃ path, canonicalize (a ++ "/" ++ b) = .ok path) ↔
      (∃ path, canonicalize a = .ok path) ∧ ∃ path, canonicalize b = .ok path) ∧
    (∀ path path', canonicalize a = .ok path → canonicalize b = .ok path' →
      canonicalize (a ++ "/" ++ b) = canonicalize (encode path ++ "/" ++ b) ∧
      ∃ names text, (∀ s ∈ names, IsOrdinary s) ∧ path = join names ∧ decode b = .ok text ∧
        ∀ reached, canonicalize (a ++ "/" ++ b) = .ok reached ↔
          ∃ names', Walk names (segments text.toList) names' ∧ reached = join names') ∧
    ∀ e, canonicalize (a ++ "/" ++ b) = .error e ↔
      (canonicalize a = .error e ∨ canonicalize b = .error e) ∧
        ∀ e', canonicalize a = .error e' ∨ canonicalize b = .error e' → e.rank ≤ e'.rank := by
  refine ⟨?_, fun path path' ha hb => ⟨canonicalize_append_slash_eq ha hb, ?_⟩, fun e => ?_⟩
  · simp only [exists_canonicalize_ok_iff, decode_append_slash]
    cases decode a <;> cases decode b <;> simp [joinReadings]
  · obtain ⟨s, hs, rfl⟩ := canonicalize_ok ha
    obtain ⟨t, ht, -⟩ := canonicalize_ok hb
    exact ⟨_, t, resolve_ordinary (decode_ok hs).2, rfl, ht,
      fun reached => canonicalize_append_slash_ok_iff hs ht⟩
  · simp only [canonicalize_error_iff, decode_append_slash]
    exact joinReadings_error_iff

/-- An escaped slash on the first side makes a name of its own, and escaped dots on the second side lead out of
the last two names. Of a NUL and bytes that are no text, the bytes are told. -/
theorem canonicalize_append_slash_dots :
    let a := "/a/b%2Fc"
    let b := "../%2e%2e%2F./d"
    canonicalize a = .ok "/a/b/c" ∧ canonicalize b = .ok "/d" ∧
      canonicalize (a ++ "/" ++ b) = canonicalize (encode "/a/b/c" ++ "/" ++ b) ∧
      canonicalize (a ++ "/" ++ b) = .ok "/a/d" ∧
      canonicalize ("/%00" ++ "/" ++ "%ff") = .error .invalidUtf8 := by
  intro a b
  have ha : canonicalize a = .ok "/a/b/c" := by decide +kernel
  have hb : canonicalize b = .ok "/d" := by decide +kernel
  have hnul : canonicalize "/%00" = .error .nulByte := by decide +kernel
  have hbytes : canonicalize "%ff" = .error .invalidUtf8 := by decide +kernel
  obtain ⟨hsame, -⟩ := (canonicalize_append_slash a b).2.1 _ _ ha hb
  refine ⟨ha, hb, hsame, hsame.trans (by decide +kernel), ?_⟩
  refine ((canonicalize_append_slash "/%00" "%ff").2.2 .invalidUtf8).2 ⟨.inr hbytes, ?_⟩
  rintro e' (h | h)
  · rw [hnul] at h
    cases h
    decide
  · rw [hbytes] at h
    cases h
    decide

end RequestPath

end SinglePage
