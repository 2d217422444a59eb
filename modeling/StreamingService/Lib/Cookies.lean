import Mathlib.Data.List.MinMax

/-!
# Lib — Cookies

A browser's cookies for one host. A cookie is identified by its name and its
path: a response's cookie replaces the one it identifies and no other, and one
that has expired by then is not stored at all. A request carries the unexpired
cookies whose path is a prefix of its own.
-/

namespace Lib

/-- A cookie; its path by the segments. -/
structure Cookie where
  name : String
  path : List String
  value : String
  expires : Int
  deriving DecidableEq, Repr

/-- The two are one cookie to the browser. -/
def Cookie.identifies (c c' : Cookie) : Bool := c'.name == c.name && c'.path == c.path

/-- Whether a request to the path carries the cookie, when asked for by name. -/
def Cookie.carried (c : Cookie) (now : Int) (name : String) (path : List String) : Bool :=
  c.name == name && c.path.isPrefixOf path && decide (now < c.expires)

/-- The cookies a browser holds. -/
abbrev Jar : Type := List Cookie

namespace Jar

/-- The browser receives a cookie. -/
def receive (jar : Jar) (now : Int) (c : Cookie) : Jar :=
  let rest := jar.filter fun c' => !c.identifies c'
  if c.expires ≤ now then rest else c :: rest

/-- The value a server reads for the name: of the cookies a request carries,
the one with the most specific path comes first. -/
def sent (jar : Jar) (now : Int) (name : String) (path : List String) : Option String :=
  ((jar.filter fun c => c.carried now name path).argmax fun c => c.path.length).map (·.value)

variable {jar : Jar} {now : Int} {c : Cookie} {name : String} {path : List String}

/-- An expired cookie removes the one it identifies, and only that. -/
theorem receive_expired (hexpired : c.expires ≤ now) (hother : ∀ c' ∈ jar, c.identifies c' = false) :
    jar.receive now c = jar := by
  unfold receive
  rw [if_pos hexpired, List.filter_eq_self]
  intro c' hc'
  simp [hother c' hc']

/-- A cookie that identifies whatever is there takes its place. -/
theorem receive_same (hsame : ∀ c' ∈ jar, c.identifies c' = true) :
    jar.receive now c = if c.expires ≤ now then [] else [c] := by
  have hrest : (jar.filter fun c' => !c.identifies c') = [] := by
    rw [List.filter_eq_nil_iff]
    intro c' hc'
    simp [hsame c' hc']
  unfold receive
  rw [hrest]

theorem sent_mem {value : String} (h : jar.sent now name path = some value) :
    ∃ c ∈ jar, c.value = value ∧ c.carried now name path = true := by
  obtain ⟨c, hc, rfl⟩ := Option.map_eq_some_iff.mp h
  obtain ⟨hmem, hcarried⟩ := List.mem_filter.mp (List.argmax_mem hc)
  exact ⟨c, hmem, rfl, hcarried⟩

theorem sent_singleton (h : c.carried now name path = true) :
    sent [c] now name path = some c.value := by
  simp [sent, h, List.argmax_singleton]

end Jar

end Lib
