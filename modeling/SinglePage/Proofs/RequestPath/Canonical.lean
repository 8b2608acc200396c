/-
Canonical paths. Reading a request path leads to a canonical one whatever the segments are that it
resolves (`canonicalize_isCanonical`), and a canonical path written for a request reads back as
itself (`canonicalize_encode`), so that writing is a section of reading (`canonicalize_section`). A
canonical path is known by its names: below a directory it is the relative path with these names
between its slashes.
-/
import SinglePage.AssetTree
import SinglePage.RequestPath
import Mathlib.Tactic

namespace SinglePage.RequestPath

/-! ## Segments of a text -/

theorem segments_cons_slash (text : List Char) : segments ('/' :: text) = [] :: segments text :=
  List.splitOn_append_cons_self [] text

theorem slash_not_mem_of_mem_segments : ∀ (text : List Char) {s : Segment}, s ∈ segments text → '/' ∉ s
  | [], s, h => by
    rw [segments, List.splitOn_nil, List.mem_singleton] at h
    rw [h]; exact List.not_mem_nil
  | c :: text, s, h => by
    rw [segments, List.splitOn_cons_eq_if_modifyHead] at h
    split at h
    · rcases List.mem_cons.1 h with rfl | h
      · exact List.not_mem_nil
      · exact slash_not_mem_of_mem_segments text h
    · rename_i hc
      obtain ⟨first, rest, hs⟩ := List.exists_cons_of_ne_nil (List.splitOn_ne_nil '/' text)
      have ih : ∀ s ∈ first :: rest, '/' ∉ s := fun s h =>
        slash_not_mem_of_mem_segments text (by rw [segments, hs]; exact h)
      rw [hs, List.modifyHead_cons, List.mem_cons] at h
      rcases h with rfl | h
      · rw [List.mem_cons, not_or]
        exact ⟨fun he => hc (by rw [← he]; rfl), ih first (List.mem_cons_self ..)⟩
      · exact ih s (List.mem_cons_of_mem _ h)

theorem mem_of_mem_intercalate {c : Char} : ∀ {names : List Segment} {s : Segment}, s ∈ names → c ∈ s →
    c ∈ ['/'].intercalate names
  | [first], s, hs, hc => by
    rw [List.intercalate_singleton]
    rwa [List.mem_singleton.1 hs] at hc
  | first :: next :: rest, s, hs, hc => by
    rw [List.intercalate_cons_cons, List.mem_append, List.mem_append]
    rcases List.mem_cons.1 hs with rfl | hs
    · exact .inl (.inl hc)
    · exact .inr (mem_of_mem_intercalate hs hc)

theorem mem_intercalate {c : Char} : ∀ {names : List Segment}, c ∈ ['/'].intercalate names →
    c = '/' ∨ ∃ s ∈ names, c ∈ s
  | [], h => by cases h
  | [first], h => by
    rw [List.intercalate_singleton] at h
    exact .inr ⟨first, List.mem_singleton_self first, h⟩
  | first :: next :: rest, h => by
    rw [List.intercalate_cons_cons, List.mem_append, List.mem_append, List.mem_singleton] at h
    rcases h with (h | h) | h
    · exact .inr ⟨first, List.mem_cons_self .., h⟩
    · exact .inl h
    · rcases mem_intercalate h with h | ⟨s, hs, h⟩
      · exact .inl h
      · exact .inr ⟨s, List.mem_cons_of_mem _ hs, h⟩

theorem mem_of_mem_segments {c : Char} {text : List Char} {s : Segment} (hs : s ∈ segments text)
    (hc : c ∈ s) : c ∈ text := by
  have h : ['/'].intercalate (text.splitOn '/') = text := List.intercalate_splitOn '/'
  rw [← h]
  exact mem_of_mem_intercalate hs hc

/-! ## Resolving -/

/-- The stack of segments holds ordinary ones only, whatever is taken into it. -/
theorem enter_ordinary {stack : List Segment} {segment : Segment} (hst : ∀ s ∈ stack, IsOrdinary s)
    (hslash : '/' ∉ segment) (hnul : '\x00' ∉ segment) : ∀ s ∈ enter stack segment, IsOrdinary s := by
  unfold enter
  split
  · exact hst
  rename_i h1
  split
  · exact fun s hs => hst s (List.mem_of_mem_tail hs)
  rename_i h2
  rw [not_or] at h1
  intro s hs
  rcases List.mem_cons.1 hs with rfl | hs
  · exact ⟨h1.1, h1.2, h2, hslash, hnul⟩
  · exact hst s hs

theorem foldl_enter_ordinary : ∀ {path stack : List Segment}, (∀ s ∈ stack, IsOrdinary s) →
    (∀ s ∈ path, '/' ∉ s ∧ '\x00' ∉ s) → ∀ s ∈ path.foldl enter stack, IsOrdinary s
  | [], _, hst, _ => hst
  | first :: path, stack, hst, hp => by
    have h1 := hp first (List.mem_cons_self ..)
    rw [List.foldl_cons]
    exact foldl_enter_ordinary (enter_ordinary hst h1.1 h1.2)
      fun s hs => hp s (List.mem_cons_of_mem _ hs)

theorem resolve_ordinary {text : List Char} (hnul : '\x00' ∉ text) :
    ∀ s ∈ resolve (segments text), IsOrdinary s := by
  intro s hs
  rw [resolve, List.mem_reverse] at hs
  refine foldl_enter_ordinary (fun s h => absurd h List.not_mem_nil) (fun s hs => ?_) s hs
  exact ⟨slash_not_mem_of_mem_segments text hs, fun h => hnul (mem_of_mem_segments hs h)⟩

/-- Without "..", resolving only leaves out empty segments and dots. -/
theorem foldl_enter_of_no_parent : ∀ {path stack : List Segment}, ['.', '.'] ∉ path →
    path.foldl enter stack = (path.filter fun s => s ≠ [] ∧ s ≠ ['.']).reverse ++ stack
  | [], _, _ => rfl
  | first :: path, stack, h => by
    rw [List.mem_cons, not_or] at h
    rw [List.foldl_cons, foldl_enter_of_no_parent h.2, List.filter_cons]
    unfold enter
    by_cases hs : first = [] ∨ first = ['.']
    · rw [if_pos hs, if_neg]
      rw [decide_eq_true_eq, ← not_or]
      exact not_not.2 hs
    · rw [if_neg hs, if_neg (Ne.symm h.1), if_pos (by rw [decide_eq_true_eq, ← not_or]; exact hs),
        List.reverse_cons, List.append_assoc]
      rfl

theorem resolve_of_no_parent {path : List Segment} (h : ['.', '.'] ∉ path) :
    resolve path = path.filter fun s => s ≠ [] ∧ s ≠ ['.'] := by
  rw [resolve, foldl_enter_of_no_parent h, List.append_nil, List.reverse_reverse]

theorem resolve_of_ordinary {names : List Segment} (h : ∀ s ∈ names, IsOrdinary s) :
    resolve names = names := by
  rw [resolve_of_no_parent fun hm => (h _ hm).2.2.1 rfl, List.filter_eq_self]
  intro s hs
  rw [decide_eq_true_eq]
  exact ⟨(h s hs).1, (h s hs).2.1⟩

/-! ## Canonical paths -/

theorem head?_ne_slash {s : Segment} (h : IsOrdinary s) : s.head? ≠ some '/' :=
  fun he => h.2.2.2.1 (List.mem_of_mem_head? (Option.mem_def.2 he))

theorem head?_intercalate_ne_slash {names : List Segment} (ho : ∀ s ∈ names, IsOrdinary s) :
    (['/'].intercalate names).head? ≠ some '/' := by
  cases names with
  | nil => exact fun h => nomatch h
  | cons first rest =>
    have h := ho first (List.mem_cons_self ..)
    cases rest with
    | nil => rw [List.intercalate_singleton]; exact head?_ne_slash h
    | cons next rest =>
      rw [List.intercalate_cons_cons, List.append_assoc, List.head?_append_of_ne_nil _ h.1]
      exact head?_ne_slash h

theorem decode_ok {raw text : String} (h : decode raw = .ok text) :
    Bytes.text? (Percent.decode raw.toList) = some text ∧ '\x00' ∉ text.toList := by
  unfold decode at h
  split at h
  · split at h
    · rename_i text' ht
      split at h
      · cases h
      · rename_i hn
        cases h
        exact ⟨ht, by simpa using hn⟩
    · cases h
  · cases h

theorem canonicalize_ok {raw path : String} (h : canonicalize raw = .ok path) :
    ∃ text, decode raw = .ok text ∧ path = join (resolve (segments text.toList)) := by
  unfold canonicalize at h
  cases hd : decode raw with
  | error e => rw [hd] at h; cases h
  | ok text => rw [hd] at h; cases h; exact ⟨text, rfl, rfl⟩

/-- What a request path is read into is canonical. -/
theorem canonicalize_isCanonical {raw path : String} (h : canonicalize raw = .ok path) :
    IsCanonical path := by
  obtain ⟨text, hd, rfl⟩ := canonicalize_ok h
  exact ⟨_, resolve_ordinary (decode_ok hd).2, rfl⟩

section Join

variable {names : List Segment} (ho : ∀ s ∈ names, IsOrdinary s)

theorem toList_join (names : List Segment) : (join names).toList = '/' :: ['/'].intercalate names :=
  String.toList_ofList

theorem head?_join (names : List Segment) : (join names).toList.head? = some '/' := by
  rw [toList_join, List.head?_cons]

include ho

theorem segments_intercalate (hne : names ≠ []) : segments (['/'].intercalate names) = names :=
  List.splitOn_intercalate '/' (fun s hs => (ho s hs).2.2.2.1) hne

theorem resolve_segments_join : resolve (segments (join names).toList) = names := by
  rw [toList_join, segments_cons_slash]
  by_cases hne : names = []
  · subst hne; rfl
  · rw [segments_intercalate ho hne]
    exact resolve_of_ordinary ho

theorem nul_not_mem_join : '\x00' ∉ (join names).toList := by
  rw [toList_join, List.mem_cons, not_or]
  refine ⟨by decide, fun h => ?_⟩
  rcases mem_intercalate h with h | ⟨s, hs, h⟩
  · exact absurd h (by decide)
  · exact (ho s hs).2.2.2.2 h

/-- Below a directory, a canonical path is its names with slashes between them. -/
theorem toList_relative_join :
    (AssetTree.relative (join names)).toList = ['/'].intercalate names := by
  rw [AssetTree.relative, String.toList_ofList, toList_join, List.dropWhile_cons,
    if_pos (beq_self_eq_true '/')]
  exact List.dropWhile_beq_eq_self_of_head?_ne (head?_intercalate_ne_slash ho)

theorem intercalate_eq_nil : ['/'].intercalate names = [] ↔ names = [] := by
  refine ⟨fun h => ?_, fun h => by rw [h]; rfl⟩
  by_contra hne
  have hs := segments_intercalate ho hne
  rw [h, segments, List.splitOn_nil] at hs
  exact (ho [] (hs ▸ List.mem_singleton_self [])).1 rfl

end Join

/-! ## Writing and reading -/

/-- A text without NUL, written as a request path, reads back as that text. -/
theorem decode_encode {path : String} (h : '\x00' ∉ path.toList) : decode (encode path) = .ok path := by
  have hk : (fun c => isUnreserved c || c == '/') '%' = false := by decide
  unfold decode encode
  rw [String.toList_ofList, Percent.wellFormed_encode hk, if_pos rfl, Percent.decode_encode hk,
    show Bytes.ofChars path.toList = Bytes.ofText path from rfl, Bytes.text?_ofText]
  exact if_neg (by simpa using h)

/-- A canonical path, written as a request path, reads back as itself. -/
theorem canonicalize_encode {path : String} (h : IsCanonical path) : canonicalize (encode path) = .ok path := by
  obtain ⟨names, ho, rfl⟩ := h
  rw [canonicalize, decode_encode (nul_not_mem_join ho)]
  exact congrArg Except.ok (congrArg join (resolve_segments_join ho))

theorem percentEncode_of_no_slash {s : Segment} (h : '/' ∉ s) :
    Percent.encode (fun c => isUnreserved c || c == '/') s = Percent.encode isUnreserved s := by
  unfold Percent.encode
  refine List.flatMap_congr fun c hc => ?_
  have hne : (c == '/') = false := beq_eq_false_iff_ne.2 fun he => h (he ▸ hc)
  simp only [hne, Bool.or_false]

theorem percentEncode_intercalate : ∀ {segs : List Segment}, (∀ s ∈ segs, '/' ∉ s) →
    Percent.encode (fun c => isUnreserved c || c == '/') (['/'].intercalate segs) =
      ['/'].intercalate (segs.map (Percent.encode isUnreserved))
  | [], _ => rfl
  | [s], h => by
    rw [List.map_singleton, List.intercalate_singleton, List.intercalate_singleton]
    exact percentEncode_of_no_slash (h s (List.mem_singleton_self s))
  | s :: next :: rest, h => by
    have hs := percentEncode_of_no_slash (h s (List.mem_cons_self ..))
    have ih := percentEncode_intercalate fun s hs => h s (List.mem_cons_of_mem _ hs)
    rw [List.map_cons, List.map_cons, List.intercalate_cons_cons, List.intercalate_cons_cons,
      ← List.map_cons, ← ih, ← hs]
    simp only [Percent.encode, List.flatMap_append]
    rfl

/-- A path is written segment by segment, its slashes between them. -/
theorem encode_eq (path : String) : encode path =
    String.ofList (['/'].intercalate ((segments path.toList).map (Percent.encode isUnreserved))) := by
  have hpath : ['/'].intercalate (path.toList.splitOn '/') = path.toList := List.intercalate_splitOn '/'
  rw [← percentEncode_intercalate fun s => slash_not_mem_of_mem_segments path.toList, segments, hpath, encode]

/-- Writing is a section of reading. The canonical paths are what is read from request paths, and each is
read from what is written for it; so a path that has been read is read again from what is written for it,
and two canonical paths are written differently. Paths are written segment by segment. -/
theorem canonicalize_section :
    (∀ path, IsCanonical path ↔ ∃ raw, canonicalize raw = .ok path) ∧
    (∀ path, IsCanonical path → canonicalize (encode path) = .ok path) ∧
    (∀ raw path, canonicalize raw = .ok path → canonicalize (encode path) = .ok path) ∧
    (∀ path path', IsCanonical path → IsCanonical path' → (encode path = encode path' ↔ path = path')) ∧
    ∀ path, encode path =
      String.ofList (['/'].intercalate ((segments path.toList).map (Percent.encode isUnreserved))) := by
  refine ⟨fun path => ⟨fun h => ⟨_, canonicalize_encode h⟩, ?_⟩, fun path => canonicalize_encode,
    fun raw path h => ?_, fun path path' h h' => ⟨fun he => ?_, congrArg encode⟩, encode_eq⟩
  · rintro ⟨raw, h⟩
    exact canonicalize_isCanonical h
  · exact canonicalize_encode (canonicalize_isCanonical h)
  · have hread := canonicalize_encode h
    rw [he, canonicalize_encode h'] at hread
    cases hread
    rfl

/-- A name with a '%' and one with a blank are written differently, and read again from what is written;
the path itself is read as another one. -/
theorem canonicalize_section_percent :
    let path := "/a%20b/é"
    IsCanonical path ∧ canonicalize "/x/../%61%2520b//%C3%A9/." = .ok path ∧
      canonicalize (encode path) = .ok path ∧ encode path = "/a%2520b/%C3%A9" ∧
      canonicalize path = .ok "/a b/é" ∧ encode path ≠ encode "/a b/é" := by
  intro path
  obtain ⟨hcanonical, -, hagain, hinj, -⟩ := canonicalize_section
  have hread : canonicalize "/x/../%61%2520b//%C3%A9/." = .ok path := by decide +kernel
  have hraw : canonicalize path = .ok "/a b/é" := by decide +kernel
  have hpath := (hcanonical path).2 ⟨_, hread⟩
  have hblank := (hcanonical "/a b/é").2 ⟨_, hraw⟩
  refine ⟨hpath, hread, hagain _ _ hread, by decide +kernel, hraw, ?_⟩
  exact fun h => absurd ((hinj _ _ hpath hblank).1 h) (by decide)

end SinglePage.RequestPath
