import Mathlib.Data.List.TakeDrop
import Mathlib.Data.List.TakeWhile

/-!
# Lib — Uri

Relative references and their resolution against a base URI (RFC 3986,
sections 5.2 and appendix B), over plain character lists. Fragments are
dropped: they name a part of what is fetched, not what is fetched.
-/

namespace Lib

structure Uri where
  scheme : List Char
  authority : Option (List Char)
  path : List Char
  query : Option (List Char)
  deriving DecidableEq

namespace Uri

/-- A reference: like a URI, with the scheme optional. -/
structure Ref where
  scheme : Option (List Char)
  authority : Option (List Char)
  path : List Char
  query : Option (List Char)
  deriving DecidableEq

/-! ## Parsing (appendix B) -/

/-- The text before the first `stop`, and the text after it if there is one. -/
def cut (stop : Char) (text : List Char) : List Char × Option (List Char) :=
  (text.takeWhile (· != stop), (text.dropWhile (· != stop)).tail?)

/-- A scheme is what stands before the first `:`, when no `/` comes earlier. -/
def cutScheme (text : List Char) : Option (List Char) × List Char :=
  match text.span fun c => c != ':' && c != '/' with
  | (c :: scheme, ':' :: rest) => (some (c :: scheme), rest)
  | _ => (none, text)

def cutAuthority : List Char → Option (List Char) × List Char
  | '/' :: '/' :: rest => (some (rest.takeWhile (· != '/')), rest.dropWhile (· != '/'))
  | text => (none, text)

def Ref.parse (text : List Char) : Ref :=
  let (hier, query) := cut '?' (cut '#' text).1
  let (scheme, rest) := cutScheme hier
  let (authority, path) := cutAuthority rest
  { scheme, authority, path, query }

theorem cut_of_not_mem {stop : Char} {text : List Char} (h : stop ∉ text) :
    cut stop text = (text, none) := by
  have hall : ∀ c ∈ text, (c != stop) = true := by
    intro c hc
    exact bne_iff_ne.mpr fun heq => h (heq ▸ hc)
  rw [cut, List.takeWhile_eq_self_iff.mpr hall, List.dropWhile_eq_nil_iff.mpr hall]
  rfl

theorem cutScheme_of_not_mem {text : List Char} (h : ':' ∉ text) :
    cutScheme text = (none, text) := by
  unfold cutScheme
  split
  · rename_i hspan
    rw [List.span_eq_takeWhile_dropWhile] at hspan
    -- the rest is a suffix of the text, so its first character is the text's
    have hsub := List.dropWhile_sublist (l := text) fun c => c != ':' && c != '/'
    rw [(Prod.mk.inj hspan).2] at hsub
    exact absurd (hsub.subset List.mem_cons_self) h
  · rfl

theorem cutAuthority_of_head {text : List Char} (h : text.head? ≠ some '/') :
    cutAuthority text = (none, text) := by
  unfold cutAuthority
  split
  · exact absurd rfl h
  · rfl

/-- Text that is nothing but a relative path. -/
structure IsRelative (text : List Char) : Prop where
  ne_nil : text ≠ []
  head : text.head? ≠ some '/'
  scheme : ':' ∉ text
  query : '?' ∉ text
  fragment : '#' ∉ text

instance (text : List Char) : Decidable (IsRelative text) :=
  decidable_of_iff (text ≠ [] ∧ text.head? ≠ some '/' ∧ ':' ∉ text ∧ '?' ∉ text ∧ '#' ∉ text)
    ⟨fun h => ⟨h.1, h.2.1, h.2.2.1, h.2.2.2.1, h.2.2.2.2⟩,
      fun h => ⟨h.ne_nil, h.head, h.scheme, h.query, h.fragment⟩⟩

theorem IsRelative.parse {text : List Char} (h : IsRelative text) :
    Ref.parse text = { scheme := none, authority := none, path := text, query := none } := by
  simp [Ref.parse, cut_of_not_mem h.fragment, cut_of_not_mem h.query,
    cutScheme_of_not_mem h.scheme, cutAuthority_of_head h.head]

/-! ## Resolution (5.2) -/

/-- 5.2.4, from the first `/` on: what is output so far (newest first), and
the segments still to read, each with a `/` before it. -/
def outputSegments : List (List Char) → List (List Char) → List (List Char)
  | out, [] => out
  | out, seg :: rest =>
      let out := if seg = ['.', '.'] then out.tail else out
      if seg = ['.'] ∨ seg = ['.', '.'] then
        outputSegments (if rest.isEmpty then ['/'] :: out else out) rest
      else outputSegments (('/' :: seg) :: out) rest

def removeDotSegments (path : List Char) : List Char :=
  match (path.splitOn '/').dropWhile fun seg => seg = ['.'] ∨ seg = ['.', '.'] with
  | [] => []
  | [] :: rest => (outputSegments [] rest).reverse.flatten
  | first :: rest => (outputSegments [first] rest).reverse.flatten

/-- The path up to its last `/`, included. -/
def directory (path : List Char) : List Char := (path.reverse.dropWhile (· != '/')).reverse

/-- 5.2.3 -/
def merge (base : Uri) (path : List Char) : List Char :=
  if base.authority.isSome ∧ base.path = [] then '/' :: path else directory base.path ++ path

/-- 5.2.2 -/
def resolve (base : Uri) (ref : Ref) : Uri :=
  match ref.scheme, ref.authority, ref.path with
  | some scheme, authority, path =>
      { scheme, authority, path := removeDotSegments path, query := ref.query }
  | none, some authority, path =>
      { base with authority := some authority, path := removeDotSegments path, query := ref.query }
  | none, none, [] =>
      { base with query := ref.query.or base.query }
  | none, none, '/' :: path =>
      { base with path := removeDotSegments ('/' :: path), query := ref.query }
  | none, none, path =>
      { base with path := removeDotSegments (merge base path), query := ref.query }

/-- The query of the base is dropped by any reference that names a path. -/
theorem resolve_query (base : Uri) {ref : Ref} (hpath : ref.path ≠ []) :
    (resolve base ref).query = ref.query := by
  unfold resolve
  split
  · rfl
  · rfl
  · contradiction
  · rfl
  · rfl

/-- **A relative path resolves to a URI without a query**, whatever the base. -/
theorem IsRelative.resolve_query {text : List Char} (h : IsRelative text) (base : Uri) :
    (resolve base (Ref.parse text)).query = none := by
  rw [h.parse]
  exact Uri.resolve_query base h.ne_nil

example : resolve ⟨"https".toList, some "media".toList, "/a/b/master.m3u8".toList,
      some "signature".toList⟩ (Ref.parse "c/./../d/list.m3u8".toList) =
    ⟨"https".toList, some "media".toList, "/a/b/d/list.m3u8".toList, none⟩ := by decide +kernel

end Uri

end Lib
