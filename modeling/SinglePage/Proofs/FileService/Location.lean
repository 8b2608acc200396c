/-
Where the service of files looks for a request path. It asks for names below its directory or for
nothing at all. A canonical path, as it is written for a request, stands for its names
(`location?_encode`). Any other spelling that is read into the same canonical path stands for the
same names, unless the service refuses it (`location?_of_canonicalize`).
-/
import SinglePage.FileService
import SinglePage.Proofs.FileTree.Below
import SinglePage.Proofs.RequestPath.Canonical

namespace SinglePage

/-! ## Bytes of the first character -/

/-- The bytes of a character are no start of those of another. -/
theorem Bytes.utf8EncodeChar_append_inj {c d : Char} {bs bs' : Bytes}
    (h : String.utf8EncodeChar c ++ bs = String.utf8EncodeChar d ++ bs') : c = d ∧ bs = bs' := by
  have hcd : c = d := by
    have hc := @ByteArray.utf8DecodeChar?_utf8EncodeChar_append bs.toByteArray c
    have hd := @ByteArray.utf8DecodeChar?_utf8EncodeChar_append bs'.toByteArray d
    rw [← List.toByteArray_append] at hc hd
    rw [h, hd, Option.some.injEq] at hc
    exact hc.symm
  subst hcd
  exact ⟨rfl, List.append_cancel_left h⟩

/-- Bytes that start with those of a character are a text if the others are. -/
theorem Bytes.text?_utf8EncodeChar_append {c : Char} {bs : Bytes} {text : String}
    (h : Bytes.text? (String.utf8EncodeChar c ++ bs) = some text) :
    ∃ rest, Bytes.text? bs = some rest ∧ text.toList = c :: rest.toList := by
  have hb := Bytes.ofText_of_text? h
  unfold Bytes.ofText at hb
  cases ht : text.toList with
  | nil =>
    rw [ht, Bytes.ofChars_nil] at hb
    exact absurd (List.append_eq_nil_iff.1 hb.symm).1 String.utf8EncodeChar_ne_nil
  | cons d ds =>
    rw [ht, Bytes.ofChars_cons] at hb
    obtain ⟨rfl, hbs⟩ := Bytes.utf8EncodeChar_append_inj hb
    refine ⟨String.ofList ds, ?_, by rw [String.toList_ofList]⟩
    rw [Bytes.text?_eq_some_iff, Bytes.ofText, String.toList_ofList, hbs]

namespace FileService

open DiskPath RequestPath

/-! ## Joining names -/

theorem join_join {base s p : String} (hs : s ≠ "") (hhead : s.toList.head? ≠ some '/')
    (hlast : s.toList.getLast? ≠ some '/') (hp : isAbsolute p = false) :
    DiskPath.join (DiskPath.join base s) p = DiskPath.join base (s ++ "/" ++ p) := by
  have hsl : s.toList ≠ [] := by simpa using hs
  have hs' : isAbsolute s = false := not_isAbsolute_iff.2 hhead
  have hsp : isAbsolute (s ++ "/" ++ p) = false := by
    rw [not_isAbsolute_iff, String.append_assoc, String.toList_append, List.head?_append_of_ne_nil _ hsl]
    exact hhead
  have hend (b : String) : ¬ (b ++ s = "" ∨ (b ++ s).toList.getLast? = some '/') := by
    rw [not_or, String.toList_append, List.getLast?_append_of_ne_nil _ hsl]
    exact ⟨fun h => hs (by simpa using congrArg String.toList h : b = "" ∧ s = "").2, hlast⟩
  unfold DiskPath.join
  rw [hp, hs', hsp]
  simp only [Bool.false_eq_true, if_false]
  split
  · rw [if_neg (hend base)]
    simp only [String.append_assoc]
  · rw [if_neg (hend (base ++ "/"))]
    simp only [String.append_assoc]

/-- Names are looked for below the directory, one in the other. -/
theorem extend_names : ∀ {names : List Segment} (base : String), (∀ s ∈ names, IsOrdinary s) → names ≠ [] →
    extend base (names.map fun s => .name (String.ofList s)) =
      some (DiskPath.join base (String.ofList (['/'].intercalate names)))
  | [first], base, _, _ => by rw [List.intercalate_singleton]; rfl
  | first :: next :: rest, base, ho, _ => by
    have h := ho first (List.mem_cons_self ..)
    have hrest : ∀ s ∈ next :: rest, IsOrdinary s := fun s hs => ho s (List.mem_cons_of_mem _ hs)
    have hne : String.ofList first ≠ "" := by
      rw [ne_eq, ← String.toList_inj, String.toList_ofList]; exact h.1
    have hlast : (String.ofList first).toList.getLast? ≠ some '/' := by
      rw [String.toList_ofList]
      exact fun he => h.2.2.2.1 (List.mem_of_mem_getLast? (Option.mem_def.2 he))
    have hhead : (String.ofList first).toList.head? ≠ some '/' := by
      rw [String.toList_ofList]; exact head?_ne_slash h
    have hp : isAbsolute (String.ofList (['/'].intercalate (next :: rest))) = false := by
      rw [not_isAbsolute_iff, String.toList_ofList]
      exact head?_intercalate_ne_slash hrest
    rw [List.map_cons, extend, extend_names _ hrest (List.cons_ne_nil next rest), join_join hne hhead hlast hp,
      List.intercalate_cons_cons]
    simp only [String.ofList_append]

/-! ## Components -/

/-- A text that the service of files does not follow: it starts with a slash, or leads up somewhere. -/
def Climbs (text : List Char) : Prop := text.head? = some '/' ∨ ['.', '.'] ∈ segments text

theorem extend_filterMap : ∀ (segs : List Segment) (base : String),
    extend base (segs.filterMap component?) =
      if ['.', '.'] ∈ segs then none
      else extend base ((segs.filter fun s => s ≠ [] ∧ s ≠ ['.']).map fun s => .name (String.ofList s))
  | [], base => by rw [if_neg List.not_mem_nil]; rfl
  | s :: segs, base => by
    by_cases h1 : s = [] ∨ s = ['.']
    · have hf : ¬ decide (s ≠ [] ∧ s ≠ ['.']) = true := by
        rw [decide_eq_true_eq, ← not_or]; exact not_not.2 h1
      have hm : ['.', '.'] ∈ s :: segs ↔ ['.', '.'] ∈ segs := by
        rw [List.mem_cons, or_iff_right]
        rintro rfl
        exact absurd h1 (by decide)
      rw [List.filterMap_cons_none (show component? s = none from if_pos h1), extend_filterMap segs base,
        List.filter_cons, if_neg hf]
      simp only [hm]
    by_cases h2 : s = ['.', '.']
    · rw [List.filterMap_cons_some (show component? s = some .parent by
        unfold component?; rw [if_neg h1, if_pos h2]), extend, if_pos (h2 ▸ List.mem_cons_self ..)]
    · have hf : decide (s ≠ [] ∧ s ≠ ['.']) = true := by rw [decide_eq_true_eq, ← not_or]; exact h1
      have hm : ['.', '.'] ∈ s :: segs ↔ ['.', '.'] ∈ segs := by
        rw [List.mem_cons, or_iff_right (Ne.symm h2)]
      rw [List.filterMap_cons_some (show component? s = some (.name (String.ofList s)) by
        unfold component?; rw [if_neg h1, if_neg h2]), extend, extend_filterMap segs,
        List.filter_cons, if_pos hf, List.map_cons, extend]
      simp only [hm]

instance (text : List Char) : Decidable (Climbs text) := inferInstanceAs (Decidable (_ ∨ _))

/-- The first segment stands for what it stands for behind a slash, or for nothing that matters. -/
theorem extend_components_of_head? {text : String} (h : text.toList.head? ≠ some '/') (base : String) :
    extend base (components text) = extend base ((segments text.toList).filterMap component?) := by
  unfold components segments
  obtain ⟨first, rest, hs⟩ := List.exists_cons_of_ne_nil (List.splitOn_ne_nil '/' text.toList)
  rw [hs]
  show extend base ((firstComponent? first !rest.isEmpty).toList ++ rest.filterMap component?) = _
  by_cases h1 : first = []
  · subst h1
    have hrest : rest = [] := by
      cases htext : text.toList with
      | nil =>
        rw [htext, List.splitOn_nil, List.cons.injEq] at hs
        exact hs.2.symm
      | cons c t =>
        rw [htext, List.splitOn_cons_eq_if_modifyHead] at hs
        split at hs
        · rename_i hc
          rw [htext, List.head?_cons, beq_iff_eq.1 hc] at h
          exact absurd rfl h
        · obtain ⟨f, r, ht⟩ := List.exists_cons_of_ne_nil (List.splitOn_ne_nil '/' t)
          rw [ht, List.modifyHead_cons] at hs
          exact absurd (List.cons.inj hs).1 (List.cons_ne_nil c f)
    subst hrest
    rfl
  by_cases h2 : first = ['.']
  · subst h2; rfl
  · have hf : firstComponent? first (!rest.isEmpty) = component? first := by
      unfold firstComponent?
      rw [if_neg h1, if_neg h2]
    rw [hf]
    cases hc : component? first with
    | none => rw [List.filterMap_cons_none hc]; rfl
    | some c => rw [List.filterMap_cons_some hc]; rfl

/-- A text is followed through the names that its segments lead through, unless it climbs. -/
theorem extend_components (text base : String) :
    extend base (components text) =
      if Climbs text.toList then none
      else extend base ((resolve (segments text.toList)).map fun s => .name (String.ofList s)) := by
  by_cases hh : text.toList.head? = some '/'
  · obtain ⟨rest, hrest⟩ := components_of_isAbsolute (beq_iff_eq.2 hh)
    rw [if_pos (.inl hh), hrest]
    rfl
  · rw [extend_components_of_head? hh, extend_filterMap]
    by_cases hup : ['.', '.'] ∈ segments text.toList
    · rw [if_pos hup, if_pos (.inr hup)]
    · rw [if_neg hup, if_neg (show ¬ Climbs text.toList from not_or.2 ⟨hh, hup⟩),
        resolve_of_no_parent hup]

/-! ## Canonical paths and their spellings -/

/-- Where the service of files looks for the names of a canonical path. -/
def locationOf (root : String) (names : List Segment) : String :=
  if names = [] then baseOf root
  else DiskPath.join (baseOf root) (String.ofList (['/'].intercalate names))

theorem extend_ordinary {names : List Segment} (ho : ∀ s ∈ names, IsOrdinary s) (root : String) :
    extend (baseOf root) (names.map fun s => .name (String.ofList s)) = some (locationOf root names) := by
  unfold locationOf
  split
  · rename_i h
    rw [h]; rfl
  · rename_i h
    exact extend_names _ ho h

/-- The service of files does not follow a path as it is spelled: what it decodes to behind its first
slashes climbs. -/
def Refuses (raw : String) : Prop :=
  ∃ text, Bytes.text? (Percent.decode (raw.toList.dropWhile (· == '/'))) = some text ∧ Climbs text.toList

/-- Leading slashes decode to leading slashes, which make empty segments. -/
theorem decode_dropWhile : ∀ {raw : List Char} {text : String},
    Bytes.text? (Percent.decode raw) = some text →
    ∃ rest, Bytes.text? (Percent.decode (raw.dropWhile (· == '/'))) = some rest ∧
      ∃ k, text.toList = List.replicate k '/' ++ rest.toList
  | [], text, h => ⟨text, h, 0, rfl⟩
  | c :: raw, text, h => by
    rw [List.dropWhile_cons]
    by_cases hc : c = '/'
    · subst hc
      rw [Percent.decode_cons_of_ne (by decide)] at h
      obtain ⟨rest, hr, ht⟩ := Bytes.text?_utf8EncodeChar_append h
      obtain ⟨rest', hr', k, hk⟩ := decode_dropWhile hr
      rw [if_pos (beq_self_eq_true '/')]
      exact ⟨rest', hr', k + 1, by rw [ht, hk]; rfl⟩
    · rw [if_neg (by rwa [beq_iff_eq])]
      exact ⟨text, h, 0, rfl⟩

theorem resolve_replicate_slash (k : Nat) (text : List Char) :
    resolve (segments (List.replicate k '/' ++ text)) = resolve (segments text) := by
  induction k with
  | zero => rfl
  | succ k ih =>
    rw [← ih, List.replicate_succ, List.cons_append, segments_cons_slash]
    rfl

/-- Of the spellings of a canonical path, the service follows those that it does not refuse, and finds
the same names by all of them. -/
theorem location?_of_canonicalize {raw path : String} (h : canonicalize raw = .ok path) (root : String) :
    ∃ names, (∀ s ∈ names, IsOrdinary s) ∧ path = RequestPath.join names ∧
      (Refuses raw → location? root raw = none) ∧
      (¬ Refuses raw → location? root raw = some (locationOf root names)) := by
  obtain ⟨text, hd, rfl⟩ := canonicalize_ok h
  obtain ⟨ht, hnul⟩ := decode_ok hd
  obtain ⟨rest, hr, k, hk⟩ := decode_dropWhile ht
  have ho := resolve_ordinary hnul
  have hloc : location? root raw = if Climbs rest.toList then none
      else some (locationOf root (resolve (segments text.toList))) := by
    unfold location?
    rw [hr, ← extend_ordinary ho, hk, resolve_replicate_slash]
    exact extend_components rest (baseOf root)
  refine ⟨_, ho, rfl, ?_, ?_⟩
  · rintro ⟨rest', hr', hc⟩
    rw [hr, Option.some.injEq] at hr'
    rw [hloc, if_pos (hr' ▸ hc)]
  · intro hn
    rw [hloc, if_neg fun hc => hn ⟨rest, hr, hc⟩]

theorem head?_percentEncode {keep : Char → Bool} {cs : List Char} (h : cs.head? ≠ some '/') :
    (Percent.encode keep cs).head? ≠ some '/' := by
  cases cs with
  | nil => exact h
  | cons c cs =>
    rw [Percent.encode, List.flatMap_cons]
    split
    · exact h
    · obtain ⟨b, bs, hb⟩ := List.exists_cons_of_ne_nil (@String.utf8EncodeChar_ne_nil c)
      rw [hb, List.flatMap_cons]
      exact fun he => absurd (Option.some.inj he) (by decide)

theorem dropWhile_encode_join {names : List Segment} (ho : ∀ s ∈ names, IsOrdinary s) :
    (encode (RequestPath.join names)).toList.dropWhile (· == '/') =
      Percent.encode (fun c => isUnreserved c || c == '/') (['/'].intercalate names) := by
  have hh := @head?_percentEncode (fun c => isUnreserved c || c == '/') _ (head?_intercalate_ne_slash ho)
  rw [encode, String.toList_ofList, toList_join, Percent.encode, List.flatMap_cons,
    if_pos (by decide), List.singleton_append, List.dropWhile_cons, if_pos (beq_self_eq_true '/')]
  exact List.dropWhile_beq_eq_self_of_head?_ne hh

/-- A canonical path, as it is written for a request, is followed through its names. -/
theorem location?_encode {names : List Segment} (ho : ∀ s ∈ names, IsOrdinary s) (root : String) :
    location? root (encode (RequestPath.join names)) = some (locationOf root names) := by
  have hhead := head?_intercalate_ne_slash ho
  have hseg : ['.', '.'] ∉ segments (['/'].intercalate names) ∧
      resolve (segments (['/'].intercalate names)) = names := by
    by_cases hne : names = []
    · subst hne; decide
    · rw [segments_intercalate ho hne]
      exact ⟨fun h => (ho _ h).2.2.1 rfl, resolve_of_ordinary ho⟩
  have hk : (fun c => isUnreserved c || c == '/') '%' = false := by decide
  have ht : Bytes.text? (Bytes.ofChars (['/'].intercalate names)) =
      some (String.ofList (['/'].intercalate names)) := by
    rw [Bytes.text?_eq_some_iff, Bytes.ofText, String.toList_ofList]
  unfold location?
  rw [dropWhile_encode_join ho, Percent.decode_encode hk, ht, ← extend_ordinary ho]
  show extend (baseOf root) (components _) = _
  rw [extend_components, String.toList_ofList, hseg.2,
    if_neg (show ¬ Climbs (['/'].intercalate names) from not_or.2 ⟨hhead, hseg.1⟩)]

end FileService

end SinglePage
