/-
Another path, and nothing else. A path that starts with a slash and is made of bytes that a path may hold
(`IsPath`) is put into a URI if and only if the URI has a place for it (`withPath?_eq_some_iff`). What comes
out has that path, and its own scheme, authority and query, so that of two paths put in one after the other
only the second counts (`withPath?_replacePath`). The paths that requests are given are such paths: the ones
written for canonical paths (`isPath_encode`), and what is left of a path below a mount (`isPath_rooted`).
-/
import SinglePage.Proofs.Bytes.Characters
import SinglePage.Proofs.RequestPath.Canonical
import SinglePage.Proofs.Uri.Rewriting

namespace SinglePage

namespace Target

/-! ## Paths by their bytes -/

/-- The bytes that a path may hold: those of the visible ASCII characters but for '#', '<', '>', '?' and the
backtick, and all from 128 on. -/
def isPathByte (b : UInt8) : Bool :=
  b == 0x21 || b == 0x22 || (0x24 ≤ b && b ≤ 0x3b) || b == 0x3d || (0x40 ≤ b && b ≤ 0x5f) ||
    (0x61 ≤ b && b ≤ 0x7e) || 0x80 ≤ b

theorem isPathByte_of_le {b : UInt8} (h : 128 ≤ b.toNat) : isPathByte b = true := by
  have hle : (0x80 : UInt8) ≤ b := h
  simp [isPathByte, hle]

theorem isPathByte_of_lt {c : Char} (hc : c.toNat < 128) : isPathByte (UInt8.ofNat c.toNat) = isPathChar c :=
  Bytes.forall_ascii (P := fun c => isPathByte (UInt8.ofNat c.toNat) = isPathChar c) (by decide +kernel) hc

/-- A path may hold a character if and only if it may hold all bytes of its UTF-8 form. -/
theorem isPathChar_iff {c : Char} :
    isPathChar c = true ↔ ∀ b ∈ String.utf8EncodeChar c, isPathByte b = true := by
  rcases Nat.lt_or_ge c.toNat 128 with hc | hc
  · rw [Bytes.utf8EncodeChar_of_lt hc, List.forall_mem_singleton, isPathByte_of_lt hc]
  · have hle : (0x80 : UInt32) ≤ c.val := hc
    refine ⟨fun _ b hb => isPathByte_of_le (Bytes.le_of_mem_utf8EncodeChar hc hb), fun _ => ?_⟩
    simp [isPathChar, hle]

/-- A text that can be the path of a request: it starts with a slash, and is made of bytes that a path may
hold. -/
structure IsPath (path : String) : Prop where
  slash : path.toList.head? = some '/'
  bytes : ∀ b ∈ Bytes.ofText path, isPathByte b = true

/-- The same by characters. -/
theorem isPath_iff {path : String} :
    IsPath path ↔ path.toList.head? = some '/' ∧ ∀ c ∈ path.toList, isPathChar c = true := by
  constructor
  · intro h
    refine ⟨h.slash, fun c hc => isPathChar_iff.2 fun b hb => h.bytes b ?_⟩
    exact List.mem_flatMap.2 ⟨c, hc, hb⟩
  · rintro ⟨hs, hp⟩
    refine ⟨hs, fun b hb => ?_⟩
    obtain ⟨c, hc, hb⟩ := List.mem_flatMap.1 hb
    exact isPathChar_iff.1 (hp c hc) b hb

theorem IsPath.chars {path : String} (h : IsPath path) : ∀ c ∈ path.toList, isPathChar c = true :=
  (isPath_iff.1 h).2

theorem IsPath.ne_empty {path : String} (h : IsPath path) : path ≠ "" := by
  rintro rfl
  cases h.slash

/-- The path that is written for a canonical one. -/
theorem isPath_encode {path : String} (h : RequestPath.IsCanonical path) : IsPath (RequestPath.encode path) := by
  obtain ⟨names, -, rfl⟩ := h
  exact isPath_iff.2 ⟨RequestPath.head?_encode (RequestPath.head?_join names), RequestPath.isPathChar_encode _⟩

/-- What is left of a path below a mount. -/
theorem isPath_rooted {start path : String} {rest : List Char}
    (hp : ∀ c ∈ path.toList, isPathChar c = true) (hrest : Mount.rest? start path = some rest) :
    IsPath (Mount.rooted rest) :=
  isPath_iff.2 ⟨Mount.head?_rooted rest, Mount.isPathChar_rooted (Mount.rest?_eq_some_iff.1 hrest) hp⟩

end Target

namespace Uri

/-! ## Another path -/

/-- A URI has a place for a path: it is no authority alone, and the path is not too long in front of the
query and its question mark. -/
structure HasPlaceFor (u : Uri) (path : String) : Prop where
  form : ∀ a, u ≠ .authorityForm a
  size : path.utf8ByteSize + (u.query?.map fun q => 1 + q.utf8ByteSize).getD 0 ≤ Target.maxSize

theorem hasPlaceFor_iff {u : Uri} {path : String} : u.HasPlaceFor path ↔
    (∀ a, u ≠ .authorityForm a) ∧ (Target.render path u.query?).utf8ByteSize ≤ Target.maxSize := by
  have hsize : (Target.render path u.query?).utf8ByteSize =
      path.utf8ByteSize + (u.query?.map fun q => 1 + q.utf8ByteSize).getD 0 := by
    simp only [Target.utf8ByteSize_render, Nat.add_comm 1]
  rw [hsize]
  exact ⟨fun h => ⟨h.form, h.size⟩, fun h => ⟨h.1, h.2⟩⟩

/-- A path is put into a URI if and only if there is a place for it, and then it replaces the path of the
URI. -/
theorem withPath?_eq_some_iff {u v : Uri} {path : String} (hquery : u.HasReadQuery)
    (hpath : Target.IsPath path) :
    u.withPath? path = some v ↔ u.HasPlaceFor path ∧ v = u.replacePath path := by
  rw [withPath?_eq hquery hpath.slash hpath.chars, hasPlaceFor_iff]
  by_cases hform : ∀ a, u ≠ .authorityForm a
  · rw [withTarget?_query hform]
    split
    · rename_i hsize
      rw [Option.some.injEq]
      constructor
      · rintro rfl
        exact ⟨⟨hform, hsize⟩, rfl⟩
      · rintro ⟨-, rfl⟩
        rfl
    · rename_i hsize
      constructor
      · intro h
        cases h
      · rintro ⟨⟨-, hle⟩, -⟩
        exact absurd hle hsize
  · -- an authority alone has no place, however short the path is
    obtain ⟨a, ha⟩ := not_forall.1 hform
    obtain rfl := not_not.1 ha
    constructor
    · intro h
      split at h <;> cases h
    · intro h
      exact absurd rfl (h.1.1 a)

@[simp] theorem withTarget?_replacePath (u : Uri) (path : String) (t : Target) :
    (u.replacePath path).withTarget? t = u.withTarget? t := by
  cases u <;> rfl

/-- What is put into a URI does not depend on the path that it had. -/
@[simp] theorem withPath?_replacePath (u : Uri) (path other : String) :
    (u.replacePath path).withPath? other = u.withPath? other := by
  unfold withPath?
  rw [query?_replacePath]
  exact congrArg _ (funext fun t => withTarget?_replacePath u path t)

/-- Another path replaces the path of a URI and nothing else, and is refused only where it has no place. A
path is put into a URI that has been read if and only if the URI is no authority alone, and the path is not
too long in front of the query. The outcome has that path, and the scheme, the authority and the query that
the URI had, an empty query being no absent one; and another path is put into the outcome as it is put into
the URI. All this holds of the paths that are written for canonical ones, and of those that are left below a
mount. -/
theorem replaces_path_alone {text : String} {u : Uri} (hu : parse text = .ok u) :
    (∀ path, Target.IsPath path →
      ((u.withPath? path).isSome ↔ u.HasPlaceFor path) ∧
      ∀ v, u.withPath? path = some v →
        v.path = path ∧ v.scheme? = u.scheme? ∧ v.authority? = u.authority? ∧ v.query? = u.query? ∧
        ∀ other, v.withPath? other = u.withPath? other) ∧
    (∀ path, RequestPath.IsCanonical path → Target.IsPath (RequestPath.encode path)) ∧
    ∀ start rest, Mount.rest? start u.path = some rest → Target.IsPath (Mount.rooted rest) := by
  have hread := parse_isRead hu
  refine ⟨fun path hpath => ⟨?_, fun v hv => ?_⟩, fun path => Target.isPath_encode,
    fun start rest => Target.isPath_rooted hread.path⟩
  · rw [Option.isSome_iff_exists]
    simp only [withPath?_eq_some_iff hread.query hpath, exists_and_left, exists_eq, and_true]
  · obtain ⟨hplace, rfl⟩ := (withPath?_eq_some_iff hread.query hpath).1 hv
    exact ⟨path_replacePath hplace.form hpath.ne_empty, scheme?_replacePath .., authority?_replacePath ..,
      query?_replacePath .., withPath?_replacePath u path⟩

/-! ## A path up to the limit -/

/-- A slash and so many letters of two bytes each. -/
def pathOf (n : Nat) : String := String.ofList ('/' :: List.replicate n 'é')

theorem isPath_pathOf (n : Nat) : Target.IsPath (pathOf n) := by
  rw [Target.isPath_iff, pathOf, String.toList_ofList]
  refine ⟨rfl, fun c hc => ?_⟩
  rcases List.mem_cons.1 hc with rfl | hc
  · decide
  · rw [List.eq_of_mem_replicate hc]
    decide

theorem utf8ByteSize_pathOf (n : Nat) : (pathOf n).utf8ByteSize = 1 + n * 2 := by
  rw [pathOf, utf8ByteSize_ofList_cons, utf8ByteSize_ofList_replicate]
  rfl

/-- A whole URI with an empty path and an empty query has a place for a path of 65533 bytes, with which its
empty query stays, and for no longer one; what is put in afterwards goes in as if that path had never been
there. -/
theorem replaces_path_alone_atLimit :
    let u : Uri := .absoluteForm "http" "me@[::1]:80" ⟨"", some ""⟩
    parse "HTTP://me@[::1]:80?" = .ok u ∧
    (∃ v, u.withPath? (pathOf 32766) = some v ∧ v.path = pathOf 32766 ∧ v.scheme? = some "http" ∧
      v.authority? = some "me@[::1]:80" ∧ v.query? = some "" ∧ v.withPath? "/a" = u.withPath? "/a") ∧
    u.withPath? (pathOf 32767) = none ∧
    Target.IsPath (RequestPath.encode "/") ∧ Target.IsPath (Mount.rooted []) := by
  intro u
  have hu : parse "HTTP://me@[::1]:80?" = .ok u := by decide +kernel
  have hplace (n : Nat) : u.HasPlaceFor (pathOf n) ↔ n ≤ 32766 := by
    have hquery : (u.query?.map fun q => 1 + q.utf8ByteSize).getD 0 = 1 := rfl
    constructor
    · rintro ⟨-, hsize⟩
      rw [utf8ByteSize_pathOf, hquery, Target.maxSize] at hsize
      omega
    · intro hn
      refine ⟨fun a h => (nomatch h), ?_⟩
      rw [utf8ByteSize_pathOf, hquery, Target.maxSize]
      omega
  obtain ⟨hpaths, hcanonical, hbelow⟩ := replaces_path_alone hu
  refine ⟨hu, ?_, ?_, hcanonical "/" ⟨[], fun _ h => (nomatch h), rfl⟩, hbelow "/" [] (by decide)⟩
  · obtain ⟨hsome, hparts⟩ := hpaths (pathOf 32766) (isPath_pathOf _)
    obtain ⟨v, hv⟩ := Option.isSome_iff_exists.1 (hsome.2 ((hplace _).2 le_rfl))
    obtain ⟨hpath, hscheme, hauthority, hquery, hother⟩ := hparts v hv
    exact ⟨v, hv, hpath, hscheme, hauthority, hquery, hother "/a"⟩
  · rw [← Option.not_isSome_iff_eq_none, (hpaths (pathOf 32767) (isPath_pathOf _)).1, hplace]
    decide

end Uri

end SinglePage
