/-
Putting another path into a URI. A URI that has been read holds characters only that may be read
again (`parse_isRead`), so a path of such characters takes the place of its own exactly if the URI has
a place for it and the new path and query are not too long (`withPath?_eq`). What follows a mount in a
path is never longer than the path, so a request below a mount always has a URI there, which differs
from its own in the path only (`enter_replacePath`).
-/
import SinglePage.Mount
import SinglePage.RequestPath
import Mathlib.Data.List.TakeWhile
import Mathlib.Tactic

namespace SinglePage

/-! ## Sizes of texts -/

theorem utf8ByteSize_ofList_append (cs ds : List Char) :
    (String.ofList (cs ++ ds)).utf8ByteSize =
      (String.ofList cs).utf8ByteSize + (String.ofList ds).utf8ByteSize := by
  rw [String.ofList_append, String.utf8ByteSize_append]

theorem utf8ByteSize_ofList_cons (c : Char) (cs : List Char) :
    (String.ofList (c :: cs)).utf8ByteSize = c.utf8Size + (String.ofList cs).utf8ByteSize := by
  rw [show c :: cs = [c] ++ cs from rfl, utf8ByteSize_ofList_append]
  congr 1
  simp

theorem length_le_utf8ByteSize_ofList : ∀ cs : List Char, cs.length ≤ (String.ofList cs).utf8ByteSize
  | [] => Nat.zero_le _
  | c :: cs => by
    have := length_le_utf8ByteSize_ofList cs
    have := c.utf8Size_pos
    rw [List.length_cons, utf8ByteSize_ofList_cons]
    omega

theorem utf8ByteSize_ofList_replicate (n : Nat) (c : Char) :
    (String.ofList (List.replicate n c)).utf8ByteSize = n * c.utf8Size := by
  induction n with
  | zero => rw [Nat.zero_mul]; rfl
  | succ n ih => rw [List.replicate_succ, utf8ByteSize_ofList_cons, ih, Nat.succ_mul, Nat.add_comm]

/-- A text of characters of one byte each has as many bytes as characters. -/
theorem utf8ByteSize_ofList_of_one : ∀ {cs : List Char}, (∀ c ∈ cs, c.utf8Size = 1) →
    (String.ofList cs).utf8ByteSize = cs.length
  | [], _ => rfl
  | c :: cs, h => by
    have ih := utf8ByteSize_ofList_of_one fun d hd => h d (List.mem_cons_of_mem c hd)
    rw [utf8ByteSize_ofList_cons, ih, h c List.mem_cons_self, List.length_cons, Nat.add_comm]

/-- What is left of a text is no longer than the text. -/
theorem utf8ByteSize_ofList_le_of_sublist {cs ds : List Char} (h : cs.Sublist ds) :
    (String.ofList cs).utf8ByteSize ≤ (String.ofList ds).utf8ByteSize := by
  induction h with
  | slnil => exact le_rfl
  | cons c _ ih =>
    rw [utf8ByteSize_ofList_cons c]
    omega
  | cons_cons c _ ih =>
    rw [utf8ByteSize_ofList_cons, utf8ByteSize_ofList_cons]
    omega

theorem utf8ByteSize_le_of_sublist {s s' : String} (h : s.toList.Sublist s'.toList) :
    s.utf8ByteSize ≤ s'.utf8ByteSize := by
  have hsize := utf8ByteSize_ofList_le_of_sublist h
  rwa [String.ofList_toList, String.ofList_toList] at hsize

namespace Target

/-! ## Reading a target -/

/-- A path and query of characters that they may hold. -/
structure IsRead (t : Target) : Prop where
  path : ∀ c ∈ t.path.toList, isPathChar c = true
  query : ∀ q, t.query = some q → ∀ c ∈ q.toList, isQueryChar c = true

/-- A path and query are read from the characters in front of the first '#'. -/
theorem toList_render_of_scan {cs : List Char} {t : Target} (h : scan cs = .ok t) :
    (render t.path t.query).toList = beforeFragment cs ∧ t.path.toList = pathChars (beforeFragment cs) := by
  unfold scan at h
  simp only at h
  split at h
  · cases h
    refine ⟨?_, String.toList_ofList⟩
    have happ := @List.takeWhile_append_dropWhile _ (fun c => c != '?') (beforeFragment cs)
    unfold render queryChars? pathChars
    cases hd : (beforeFragment cs).dropWhile (· != '?') with
    | nil =>
      rw [hd, List.append_nil] at happ
      simp only [Option.map_none, String.toList_ofList]
      exact happ
    | cons c q =>
      have hc : c = '?' := by
        have := List.head?_dropWhile_not (fun c => c != '?') (beforeFragment cs)
        rw [hd] at this
        simpa using this
      rw [hd, hc] at happ
      simp only [Option.map_some, String.toList_append, String.toList_ofList]
      rw [show "?".toList = ['?'] from rfl, List.append_assoc]
      exact happ
  · cases h

theorem isRead_of_scan {cs : List Char} {t : Target} (h : scan cs = .ok t) : t.IsRead := by
  unfold scan at h
  simp only at h
  split at h
  · rename_i hc
    cases h
    rw [Bool.and_eq_true, List.all_eq_true] at hc
    refine ⟨by rw [String.toList_ofList]; exact hc.1, fun q hq => ?_⟩
    obtain ⟨qs, hqs, rfl⟩ := Option.map_eq_some_iff.1 hq
    have := hc.2
    rw [hqs, Option.all_some, List.all_eq_true] at this
    rw [String.toList_ofList]
    exact this
  · cases h

theorem size_le_of_scan {cs : List Char} {t : Target} (h : scan cs = .ok t) :
    (render t.path t.query).utf8ByteSize ≤ (String.ofList cs).utf8ByteSize := by
  have hr := (toList_render_of_scan h).1
  rw [← String.ofList_toList (s := render t.path t.query), hr, beforeFragment]
  conv_rhs => rw [← @List.takeWhile_append_dropWhile _ (fun c => c != '#') cs]
  rw [utf8ByteSize_ofList_append]
  omega

/-! ## Writing a target -/

theorem isPathChar_ne {c : Char} (h : isPathChar c = true) : c ≠ '?' ∧ c ≠ '#' := by
  constructor <;> rintro rfl <;> exact absurd h (by decide)

theorem isQueryChar_ne {c : Char} (h : isQueryChar c = true) : c ≠ '#' := by
  rintro rfl; exact absurd h (by decide)

theorem toList_render_some (path q : String) :
    (render path (some q)).toList = path.toList ++ '?' :: q.toList := by
  rw [render, String.toList_append, String.toList_append, List.append_assoc]
  rfl

/-- A path and query of characters that they may hold are read as they are written. -/
theorem scan_render {t : Target} (ht : t.IsRead) : scan (render t.path t.query).toList = .ok t := by
  have hp := ht.path
  obtain ⟨path, query⟩ := t
  have hkeep : pathChars path.toList = path.toList :=
    List.takeWhile_eq_self_iff.2 fun c hc => by simpa using (isPathChar_ne (hp c hc)).1
  have hpath : (path.toList.all isPathChar) = true := List.all_eq_true.2 hp
  unfold scan
  cases query with
  | none =>
    have hf : beforeFragment path.toList = path.toList :=
      List.takeWhile_eq_self_iff.2 fun c hc => by simpa using (isPathChar_ne (hp c hc)).2
    have hq : queryChars? path.toList = none := by
      unfold queryChars?
      rw [List.dropWhile_eq_nil_iff.2 fun c hc => by simpa using (isPathChar_ne (hp c hc)).1]
    simp only [render, hf, hkeep, hq, hpath, Option.all_none, Bool.and_self, if_true,
      String.ofList_toList, Option.map_none]
  | some q =>
    have hqc := ht.query q rfl
    have hr := toList_render_some path q
    have hf : beforeFragment (path.toList ++ '?' :: q.toList) = path.toList ++ '?' :: q.toList := by
      refine List.takeWhile_eq_self_iff.2 fun c hc => ?_
      rw [bne_iff_ne]
      rcases List.mem_append.1 hc with hc | hc
      · exact (isPathChar_ne (hp c hc)).2
      rcases List.mem_cons.1 hc with rfl | hc
      · decide
      · exact isQueryChar_ne (hqc c hc)
    have hpq : pathChars (path.toList ++ '?' :: q.toList) = path.toList := by
      unfold pathChars
      rw [List.takeWhile_append_of_pos fun c hc => by simpa using (isPathChar_ne (hp c hc)).1]
      exact List.append_nil _
    have hq : queryChars? (path.toList ++ '?' :: q.toList) = some q.toList := by
      unfold queryChars?
      rw [List.dropWhile_append_of_pos fun c hc => by simpa using (isPathChar_ne (hp c hc)).1]
      rfl
    have hqall : (q.toList.all isQueryChar) = true := List.all_eq_true.2 hqc
    simp only [hr, hf, hpq, hq, hpath, hqall, Option.all_some, Bool.and_self, if_true,
      String.ofList_toList, Option.map_some]

/-- What is read from a path of such characters and any query has that path. -/
theorem path_of_scan_render {path : String} {query : Option String} {t : Target}
    (hp : ∀ c ∈ path.toList, isPathChar c = true) (h : scan (render path query).toList = .ok t) :
    t.path = path := by
  have hfragment : ∀ c ∈ path.toList, (c != '#') = true := fun c hc =>
    bne_iff_ne.2 (isPathChar_ne (hp c hc)).2
  have hquery : ∀ c ∈ path.toList, (c != '?') = true := fun c hc =>
    bne_iff_ne.2 (isPathChar_ne (hp c hc)).1
  rw [← String.toList_inj, (toList_render_of_scan h).2, pathChars, beforeFragment]
  cases query with
  | none =>
    show ((path.toList).takeWhile _).takeWhile _ = _
    rw [List.takeWhile_eq_self_iff.2 hfragment, List.takeWhile_eq_self_iff.2 hquery]
  | some q =>
    rw [toList_render_some, List.takeWhile_append_of_pos hfragment, List.takeWhile_cons_of_pos (by decide),
      List.takeWhile_append_of_pos hquery, List.takeWhile_cons_of_neg (by decide), List.append_nil]

theorem toList_render_of_head? {path : String} (hs : path.toList.head? = some '/') (query : Option String) :
    ∃ cs, (render path query).toList = '/' :: cs := by
  obtain ⟨cs, hcs⟩ := List.head?_eq_some_iff.1 hs
  cases query with
  | none => exact ⟨cs, hcs⟩
  | some q =>
    rw [toList_render_some, hcs]
    exact ⟨_, rfl⟩

/-- A path that starts with a slash, and a query, are a target if they are not too long. -/
theorem parse?_render {t : Target} (ht : t.IsRead) (hs : t.path.toList.head? = some '/') :
    parse? (render t.path t.query) =
      if (render t.path t.query).utf8ByteSize ≤ maxSize then some t else none := by
  have hstart : startsTarget (render t.path t.query).toList = true := by
    obtain ⟨cs, hcs⟩ := toList_render_of_head? hs t.query
    rw [hcs]
    rfl
  unfold parse?
  rw [hstart, Bool.true_and, scan_render ht]
  simp only [decide_eq_true_eq]
  rfl

theorem utf8ByteSize_render (path : String) (query : Option String) :
    (render path query).utf8ByteSize =
      path.utf8ByteSize + (query.map fun q => q.utf8ByteSize + 1).getD 0 := by
  cases query with
  | none => rfl
  | some q =>
    rw [render, String.utf8ByteSize_append, String.utf8ByteSize_append, Option.map_some,
      Option.getD_some, show "?".utf8ByteSize = 1 from rfl]
    omega

end Target

namespace Uri

/-! ## Reading a URI -/

/-- What a URI that has been read is like. An absolute one has a scheme and an authority in front of
its path, which are counted among its bytes. -/
def IsRead : Uri → Prop
  | .originForm t => t.IsRead ∧ (t.path.toList.head? = some '/' ∨ t = ⟨"*", none⟩) ∧
      (Target.render t.path t.query).utf8ByteSize ≤ Target.maxSize
  | .absoluteForm _ _ t => t.IsRead ∧ (t.path = "" ∨ t.path.toList.head? = some '/') ∧
      (Target.render t.path t.query).utf8ByteSize + 4 ≤ Target.maxSize
  | .authorityForm _ => True

theorem splitScheme_some {cs rest : List Char} {scheme : String}
    (h : splitScheme cs = .ok (some (scheme, rest))) : ∃ start, cs = start ++ rest ∧ 3 ≤ start.length := by
  unfold splitScheme at h
  split at h
  · rename_i h7
    simp only [Except.ok.injEq, Option.some.injEq, Prod.mk.injEq] at h
    refine ⟨cs.take 7, by rw [← h.2, List.take_append_drop], ?_⟩
    have := congrArg List.length h7
    rw [List.length_map, show "http://".toList.length = 7 from rfl] at this
    omega
  split at h
  · rename_i h8
    simp only [Except.ok.injEq, Option.some.injEq, Prod.mk.injEq] at h
    refine ⟨cs.take 8, by rw [← h.2, List.take_append_drop], ?_⟩
    have := congrArg List.length h8
    rw [List.length_map, show "https://".toList.length = 8 from rfl] at this
    omega
  simp only at h
  split at h
  · rename_i rest' hd
    split at h
    · cases h
    split at h
    · cases h
    · simp only [Except.ok.injEq, Option.some.injEq, Prod.mk.injEq] at h
      refine ⟨cs.takeWhile isSchemeChar ++ [':', '/', '/'], ?_, by rw [List.length_append]; simp⟩
      rw [List.append_assoc, ← h.2]
      show cs = cs.takeWhile isSchemeChar ++ ':' :: '/' :: '/' :: rest'
      rw [← hd, List.takeWhile_append_dropWhile]
  · cases h

theorem splitAuthority_ok {cs authority rest : List Char} (h : splitAuthority cs = .ok (authority, rest)) :
    cs = authority ++ rest ∧ rest = cs.dropWhile (!endsAuthority ·) := by
  unfold splitAuthority at h
  simp only [bind, Except.bind] at h
  split at h
  · cases h
  split at h
  · cases h
    exact ⟨List.takeWhile_append_dropWhile.symm, rfl⟩
  · cases h

/-- What follows an authority is a path that starts with a slash, or an empty one. -/
theorem path_of_scan_dropWhile {cs : List Char} {t : Target}
    (h : Target.scan (cs.dropWhile (!endsAuthority ·)) = .ok t) :
    t.path = "" ∨ t.path.toList.head? = some '/' := by
  have hp := (Target.toList_render_of_scan h).2
  have hhead := List.head?_dropWhile_not (!endsAuthority ·) cs
  cases hd : cs.dropWhile (!endsAuthority ·) with
  | nil =>
    rw [hd] at hp
    exact .inl (by rw [← String.toList_inj, hp]; rfl)
  | cons c ds =>
    rw [hd] at hhead hp
    simp only [List.head?_cons, Bool.not_eq_false', endsAuthority, Bool.or_eq_true, beq_iff_eq] at hhead
    rcases hhead with (rfl | rfl) | rfl
    · exact .inr (by rw [hp]; rfl)
    · exact .inl (by rw [← String.toList_inj, hp]; rfl)
    · exact .inl (by rw [← String.toList_inj, hp]; rfl)

theorem parseAuthorityForms_isRead {cs : List Char} {u : Uri} (h : parseAuthorityForms cs = .ok u)
    (hsize : (String.ofList cs).utf8ByteSize ≤ Target.maxSize) : u.IsRead := by
  unfold parseAuthorityForms at h
  simp only [bind, Except.bind] at h
  split at h
  · cases h
  rename_i found hfound
  cases found with
  | none =>
    simp only at h
    split at h
    · cases h
    split at h
    · cases h; trivial
    · cases h
  | some found =>
    obtain ⟨scheme, rest⟩ := found
    obtain ⟨start, rfl, hstart⟩ := splitScheme_some hfound
    simp only at h
    split at h
    · cases h
    split at h
    · cases h
    rename_i parts hparts
    obtain ⟨authority, rest'⟩ := parts
    obtain ⟨hrest, hdrop⟩ := splitAuthority_ok hparts
    simp only at h
    split at h
    · cases h
    rename_i hne
    split at h
    · cases h
    rename_i t ht
    cases h
    refine ⟨Target.isRead_of_scan ht, path_of_scan_dropWhile (hdrop ▸ ht), ?_⟩
    -- the scheme and "://" are three bytes at least, the authority is one
    have h1 := Target.size_le_of_scan ht
    have h2 := length_le_utf8ByteSize_ofList start
    have h3 := length_le_utf8ByteSize_ofList authority
    have h4 : 0 < authority.length := List.length_pos_of_ne_nil hne
    rw [utf8ByteSize_ofList_append, hrest, utf8ByteSize_ofList_append] at hsize
    omega

theorem parse_isRead {text : String} {u : Uri} (h : parse text = .ok u) : u.IsRead := by
  unfold parse at h
  split at h
  · cases h
  rename_i hsize
  rw [not_lt] at hsize
  split at h
  · cases h
  · cases h
    exact ⟨⟨List.all_eq_true.1 (by decide), fun q hq => nomatch hq⟩, .inr rfl, by decide⟩
  · rename_i rest htext
    obtain ⟨t, ht, rfl⟩ : ∃ t, Target.scan ('/' :: rest) = .ok t ∧ u = .originForm t := by
      cases hs : Target.scan ('/' :: rest) with
      | error e => rw [hs] at h; cases h
      | ok t => rw [hs] at h; cases h; exact ⟨t, rfl, rfl⟩
    refine ⟨Target.isRead_of_scan ht, .inl ?_, ?_⟩
    · rw [(Target.toList_render_of_scan ht).2]; rfl
    · have := Target.size_le_of_scan ht
      rw [← htext, String.ofList_toList] at this
      omega
  · exact parseAuthorityForms_isRead h (by rwa [String.ofList_toList])

/-- A path that starts with a slash, and a query, are read as a URI if they are not too long. -/
theorem parse_render {t : Target} (ht : t.IsRead) (hs : t.path.toList.head? = some '/')
    (hsize : (Target.render t.path t.query).utf8ByteSize ≤ Target.maxSize) :
    parse (Target.render t.path t.query) = .ok (.originForm t) := by
  have hscan := Target.scan_render ht
  obtain ⟨cs, hcs⟩ := Target.toList_render_of_head? hs t.query
  rw [hcs] at hscan
  unfold parse
  rw [if_neg (not_lt.2 hsize), hcs]
  show (Target.scan ('/' :: cs)).map originForm = _
  rw [hscan]
  rfl

/-- So is a path alone. -/
theorem parse_path {path : String} (hs : path.toList.head? = some '/')
    (hp : ∀ c ∈ path.toList, Target.isPathChar c = true) (hsize : path.utf8ByteSize ≤ Target.maxSize) :
    parse path = .ok (.originForm ⟨path, none⟩) := by
  have hread : Target.IsRead ⟨path, none⟩ := ⟨hp, fun _ hq => nomatch hq⟩
  exact parse_render hread hs hsize

/-! ## Parts of a URI that has been read -/

/-- The query of a URI, if it has one, is made of characters that a query may hold. -/
def HasReadQuery (u : Uri) : Prop :=
  ∀ q, u.query? = some q → ∀ c ∈ q.toList, Target.isQueryChar c = true

theorem IsRead.query {u : Uri} (h : u.IsRead) : u.HasReadQuery := by
  cases u with
  | originForm t => exact h.1.query
  | absoluteForm scheme authority t => exact h.1.query
  | authorityForm authority => exact fun q hq => nomatch hq

theorem path_originForm (t : Target) :
    (originForm t).path = if t.path = "" ∧ t.query.isSome then "/" else t.path := rfl

theorem path_originForm_none (path : String) : (originForm ⟨path, none⟩).path = path :=
  if_neg fun h => nomatch h.2

theorem path_absoluteForm (scheme authority : String) (t : Target) :
    (absoluteForm scheme authority t).path = if t.path = "" then "/" else t.path := rfl

theorem IsRead.path {u : Uri} (h : u.IsRead) : ∀ c ∈ u.path.toList, Target.isPathChar c = true := by
  have hslash : ∀ c ∈ "/".toList, Target.isPathChar c = true := List.all_eq_true.1 (by decide)
  cases u with
  | originForm t =>
    rw [path_originForm]
    split
    · exact hslash
    · exact h.1.path
  | absoluteForm scheme authority t =>
    rw [path_absoluteForm]
    split
    · exact hslash
    · exact h.1.path
  | authorityForm authority => exact fun c hc => nomatch hc

/-- A path with its query is not too long. An empty path reads as one byte, which the authority in
front of it has room for. -/
theorem IsRead.size_le {u : Uri} (h : u.IsRead) (hu : ∀ a, u ≠ .authorityForm a) :
    (Target.render u.path u.query?).utf8ByteSize ≤ Target.maxSize := by
  cases u with
  | originForm t =>
    obtain ⟨-, hform, hsize⟩ := h
    have hp : (originForm t).path = t.path := by
      rw [path_originForm, if_neg]
      rintro ⟨he, hq⟩
      rcases hform with hf | rfl
      · rw [he] at hf; cases hf
      · cases hq
    rw [hp]
    exact hsize
  | absoluteForm scheme authority t =>
    obtain ⟨-, -, hsize⟩ := h
    rw [Target.utf8ByteSize_render] at hsize ⊢
    rw [path_absoluteForm]
    split
    · rename_i he
      rw [show "/".utf8ByteSize = 1 from rfl]
      show 1 + (t.query.map _).getD 0 ≤ _
      omega
    · show t.path.utf8ByteSize + (t.query.map _).getD 0 ≤ _
      omega
  | authorityForm authority => exact absurd rfl (hu authority)

/-! ## Another path -/

/-- A path of characters that a path may hold takes the place of the old one if it is not too long,
and if there is a place for it. -/
theorem withPath?_eq {u : Uri} (hu : u.HasReadQuery) {path : String} (hs : path.toList.head? = some '/')
    (hp : ∀ c ∈ path.toList, Target.isPathChar c = true) :
    u.withPath? path =
      if (Target.render path u.query?).utf8ByteSize ≤ Target.maxSize then u.withTarget? ⟨path, u.query?⟩
      else none := by
  have hr := Target.parse?_render (t := ⟨path, u.query?⟩) ⟨hp, hu⟩ hs
  simp only at hr
  rw [withPath?, hr]
  split <;> rfl

theorem exists_withTarget? {u : Uri} (hu : ∀ a, u ≠ .authorityForm a) {t : Target} (ht : t.path ≠ "") :
    ∃ v, u.withTarget? t = some v ∧ v.path = t.path ∧ v.query? = t.query ∧ ∀ a, v ≠ .authorityForm a := by
  cases u with
  | originForm old => exact ⟨_, rfl, if_neg fun h => ht h.1, rfl, fun a h => nomatch h⟩
  | absoluteForm scheme authority old => exact ⟨_, rfl, if_neg ht, rfl, fun a h => nomatch h⟩
  | authorityForm authority => exact absurd rfl (hu authority)

/-- The URI with another path in the place of its own. Scheme, authority and query stay as they are. -/
def replacePath : Uri → String → Uri
  | .originForm target, path => .originForm { target with path }
  | .absoluteForm scheme authority target, path => .absoluteForm scheme authority { target with path }
  | .authorityForm authority, _ => .authorityForm authority

@[simp] theorem scheme?_replacePath (u : Uri) (path : String) : (u.replacePath path).scheme? = u.scheme? := by
  cases u <;> rfl

@[simp] theorem authority?_replacePath (u : Uri) (path : String) :
    (u.replacePath path).authority? = u.authority? := by
  cases u <;> rfl

@[simp] theorem query?_replacePath (u : Uri) (path : String) : (u.replacePath path).query? = u.query? := by
  cases u <;> rfl

theorem path_replacePath {u : Uri} (hu : ∀ a, u ≠ .authorityForm a) {path : String} (hne : path ≠ "") :
    (u.replacePath path).path = path := by
  cases u with
  | originForm target => exact if_neg fun h => hne h.1
  | absoluteForm scheme authority target => exact if_neg hne
  | authorityForm authority => exact absurd rfl (hu authority)

theorem replacePath_ne_authorityForm {u : Uri} (hu : ∀ a, u ≠ .authorityForm a) (path : String) :
    ∀ a, u.replacePath path ≠ .authorityForm a := by
  intro a
  cases u with
  | originForm target => exact fun h => nomatch h
  | absoluteForm scheme authority target => exact fun h => nomatch h
  | authorityForm authority => exact absurd rfl (hu authority)

theorem withTarget?_query {u : Uri} (hu : ∀ a, u ≠ .authorityForm a) (path : String) :
    u.withTarget? ⟨path, u.query?⟩ = some (u.replacePath path) := by
  cases u with
  | originForm target => rfl
  | absoluteForm scheme authority target => rfl
  | authorityForm authority => exact absurd rfl (hu authority)

/-- A path of characters that a path may hold is the path of the URI that it is put into. -/
theorem path_of_withPath? {u v : Uri} {path : String} (hs : path.toList.head? = some '/')
    (hp : ∀ c ∈ path.toList, Target.isPathChar c = true) (h : u.withPath? path = some v) : v.path = path := by
  obtain ⟨t, ht, hv⟩ := Option.bind_eq_some_iff.1 h
  have hpath : t.path = path := by
    unfold Target.parse? at ht
    split at ht
    · cases hscan : Target.scan (Target.render path u.query?).toList with
      | error e => rw [hscan] at ht; cases ht
      | ok read =>
        rw [hscan] at ht
        cases ht
        exact Target.path_of_scan_render hp hscan
    · cases ht
  have hu : ∀ a, u ≠ .authorityForm a := by
    rintro a rfl
    cases hv
  obtain ⟨w, hw, hwp, -, -⟩ := exists_withTarget? hu (t := t) (by rw [hpath]; rintro rfl; cases hs)
  rw [hw, Option.some.injEq] at hv
  rw [← hv, hwp, hpath]

end Uri

namespace RequestPath

/-! ## Paths as they are written -/

theorem isPathChar_of_isUnreserved {c : Char} (h : (isUnreserved c || c == '/') = true) :
    Target.isPathChar c = true := by
  have hset : ∀ d ∈ ['-', '_', '.', '~', '/'], Target.isPathChar d = true := List.all_eq_true.1 (by decide)
  unfold isUnreserved at h
  simp only [Bool.or_eq_true, beq_iff_eq] at h
  rcases h with ((((h | rfl) | rfl) | rfl) | rfl) | rfl
  · unfold Target.isPathChar
    rw [h, Bool.or_true, Bool.true_or]
  all_goals exact hset _ (by decide)

/-- An escape is a '%' and digits. -/
theorem forall_mem_escape {P : Char → Prop} (hpercent : P '%') (hdigit : ∀ k < 16, P (Text.upperHexDigit k))
    (b : UInt8) : ∀ c ∈ Percent.escape b, P c := by
  have hb : b.toNat < 256 := b.toNat_lt
  intro c hc
  unfold Percent.escape at hc
  simp only [List.mem_cons, List.not_mem_nil, or_false] at hc
  rcases hc with rfl | rfl | rfl
  · exact hpercent
  · exact hdigit _ (by omega)
  · exact hdigit _ (by omega)

theorem isPathChar_of_mem_escape {b : UInt8} {c : Char} (h : c ∈ Percent.escape b) :
    Target.isPathChar c = true :=
  forall_mem_escape (P := fun c => Target.isPathChar c = true) (by decide) (by decide) b c h

/-- A path, as it is written for a request, holds characters only that it may hold. -/
theorem isPathChar_encode (path : String) : ∀ c ∈ (encode path).toList, Target.isPathChar c = true := by
  intro c hc
  rw [encode, String.toList_ofList, Percent.encode, List.mem_flatMap] at hc
  obtain ⟨d, -, hc⟩ := hc
  split at hc
  · rename_i hd
    rw [List.mem_singleton] at hc
    exact isPathChar_of_isUnreserved (hc ▸ hd)
  · obtain ⟨b, -, hc⟩ := List.mem_flatMap.1 hc
    exact isPathChar_of_mem_escape hc

/-- An escape is three characters of one byte each. -/
theorem utf8ByteSize_flatMap_escape (bs : Bytes) :
    (String.ofList (bs.flatMap Percent.escape)).utf8ByteSize = 3 * bs.length := by
  have hone : ∀ c ∈ bs.flatMap Percent.escape, c.utf8Size = 1 := by
    intro c hc
    obtain ⟨b, -, hc⟩ := List.mem_flatMap.1 hc
    exact forall_mem_escape (P := fun c => c.utf8Size = 1) (by decide) (by decide) b c hc
  rw [utf8ByteSize_ofList_of_one hone]
  simp [List.length_flatMap, Percent.escape, Nat.mul_comm]

/-- A path grows to three times its size at most when it is written. -/
theorem utf8ByteSize_encode_le (path : String) : (encode path).utf8ByteSize ≤ 3 * path.utf8ByteSize := by
  rw [encode, Percent.encode]
  conv_rhs => rw [← String.ofList_toList (s := path)]
  induction path.toList with
  | nil => exact le_rfl
  | cons c cs ih =>
    rw [List.flatMap_cons, utf8ByteSize_ofList_append, utf8ByteSize_ofList_cons c]
    split
    · rw [utf8ByteSize_ofList_cons, show (String.ofList []).utf8ByteSize = 0 from rfl]
      omega
    · rw [utf8ByteSize_flatMap_escape, String.length_utf8EncodeChar]
      omega

theorem head?_encode {path : String} (h : path.toList.head? = some '/') :
    (encode path).toList.head? = some '/' := by
  obtain ⟨cs, hcs⟩ := List.head?_eq_some_iff.1 h
  rw [encode, String.toList_ofList, hcs, Percent.encode, List.flatMap_cons, if_pos (by decide)]
  rfl

end RequestPath

namespace Mount

/-! ## Below a mount -/

theorem rest?_eq_some_iff {start path : String} {rest : List Char} :
    rest? start path = some rest ↔ path.toList = start.toList ++ rest := by
  unfold rest?
  constructor
  · intro h
    split at h
    · rename_i hp
      rw [Option.some.injEq] at h
      obtain ⟨ds, hds⟩ := List.isPrefixOf_iff_prefix.1 hp
      rw [← hds, ← String.length_toList, List.drop_left] at h
      rw [← h, hds]
    · cases h
  · intro h
    rw [h, if_pos (List.isPrefixOf_iff_prefix.2 (List.prefix_append ..)), ← String.length_toList,
      List.drop_left]

theorem head?_rooted (rest : List Char) : (rooted rest).toList.head? = some '/' := by
  unfold rooted
  split <;> rw [String.toList_ofList] <;> rfl

theorem rooted_ne_empty (rest : List Char) : rooted rest ≠ "" := by
  intro he
  have := head?_rooted rest
  rw [he] at this
  cases this

theorem mem_rooted {c : Char} {rest : List Char} (h : c ∈ (rooted rest).toList) : c = '/' ∨ c ∈ rest := by
  unfold rooted at h
  split at h
  · rw [String.toList_ofList] at h
    exact .inr h
  · rw [String.toList_ofList, List.mem_cons] at h
    exact h

/-- What follows a mount holds characters only that a path may hold, slash in front or not. -/
theorem isPathChar_rooted {start path : String} {rest : List Char} (h : path.toList = start.toList ++ rest)
    (hp : ∀ c ∈ path.toList, Target.isPathChar c = true) :
    ∀ c ∈ (rooted rest).toList, Target.isPathChar c = true := by
  intro c hc
  rcases mem_rooted hc with rfl | hc
  · decide
  · exact hp c (by rw [h]; exact List.mem_append_right _ hc)

/-- What follows a mount is not longer than the path with the mount, slash in front or not. -/
theorem utf8ByteSize_rooted_le {start path : String} {rest : List Char}
    (hs : start.toList.head? = some '/') (h : path.toList = start.toList ++ rest) :
    (rooted rest).utf8ByteSize ≤ path.utf8ByteSize := by
  obtain ⟨cs, hcs⟩ := List.head?_eq_some_iff.1 hs
  have hsize : path.utf8ByteSize = 1 + (String.ofList cs).utf8ByteSize + (String.ofList rest).utf8ByteSize := by
    rw [← String.ofList_toList (s := path), h, hcs, utf8ByteSize_ofList_append, utf8ByteSize_ofList_cons]
    rfl
  unfold rooted
  split
  · omega
  · rw [utf8ByteSize_ofList_cons, show '/'.utf8Size = 1 from rfl]
    omega

section Enter

variable {start : String} (hs : start.toList.head? = some '/') {request : Request} {rest : List Char}

include hs

/-- An authority alone has no path that a mount could start. -/
theorem ne_authorityForm (hpath : request.uri.path.toList = start.toList ++ rest) :
    ∀ a, request.uri ≠ .authorityForm a := by
  intro a ha
  rw [ha] at hpath
  obtain ⟨cs, hcs⟩ := List.head?_eq_some_iff.1 hs
  rw [hcs] at hpath
  cases hpath

/-- A request that has been read is always seen below a mount that its path starts with: with what
follows the mount in the place of its path, and all else as it was. -/
theorem enter_replacePath (hread : request.uri.IsRead)
    (hpath : request.uri.path.toList = start.toList ++ rest) :
    enter start request = .ok { request with uri := request.uri.replacePath (rooted rest) } := by
  have hform := ne_authorityForm hs hpath
  have hchars := isPathChar_rooted hpath hread.path
  have hsize : (Target.render (rooted rest) request.uri.query?).utf8ByteSize ≤ Target.maxSize := by
    have h1 := hread.size_le hform
    have h2 := utf8ByteSize_rooted_le hs hpath
    rw [Target.utf8ByteSize_render] at h1 ⊢
    omega
  unfold enter
  simp only [rest?_eq_some_iff.2 hpath]
  rw [Uri.withPath?_eq hread.query (head?_rooted rest) hchars, if_pos hsize, Uri.withTarget?_query hform]

theorem enter_eq (hread : request.uri.IsRead) (hrest : rest? start request.uri.path = some rest) :
    ∃ uri, enter start request = .ok { request with uri } ∧ uri.path = rooted rest ∧
      uri.query? = request.uri.query? ∧ ∀ a, uri ≠ .authorityForm a := by
  have hpath := rest?_eq_some_iff.1 hrest
  have hform := ne_authorityForm hs hpath
  exact ⟨_, enter_replacePath hs hread hpath, Uri.path_replacePath hform (rooted_ne_empty rest),
    Uri.query?_replacePath .., Uri.replacePath_ne_authorityForm hform _⟩

end Enter

end Mount

end SinglePage
