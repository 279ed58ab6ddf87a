import Mathlib.Data.List.TakeWhile
import Mathlib.Tactic.SplitIfs

/-!
# Lib.Rfc3986 — the components of a URI

Appendix B of RFC 3986 cuts a reference into components at its delimiters, and section 5.3 puts them
together again.  `components_recompose` says that a URI with an authority is read back from its text.
-/

namespace Rfc3986

structure Components where
  scheme : Option (List Char)
  authority : Option (List Char)
  path : List Char
  query : Option (List Char)
  fragment : Option (List Char)
  deriving DecidableEq, Repr

/-- Everything up to the first delimiter, and the rest. -/
def readUntil (delimiters text : List Char) : List Char × List Char :=
  (text.takeWhile (· ∉ delimiters), text.dropWhile (· ∉ delimiters))

def readScheme (text : List Char) : Option (List Char) × List Char :=
  match readUntil [':', '/', '?', '#'] text with
  | (c :: cs, ':' :: rest) => (some (c :: cs), rest)
  | _ => (none, text)

def readAuthority : List Char → Option (List Char) × List Char
  | '/' :: '/' :: rest =>
    let (authority, rest) := readUntil ['/', '?', '#'] rest
    (some authority, rest)
  | text => (none, text)

/-- A component that its own delimiter announces. -/
def readMarked (mark : Char) (delimiters : List Char) : List Char → Option (List Char) × List Char
  | [] => (none, [])
  | c :: cs =>
    if c = mark then
      let (component, rest) := readUntil delimiters cs
      (some component, rest)
    else (none, c :: cs)

def components (text : List Char) : Components :=
  let (scheme, rest) := readScheme text
  let (authority, rest) := readAuthority rest
  let (path, rest) := readUntil ['?', '#'] rest
  let (query, rest) := readMarked '?' ['#'] rest
  let (fragment, _) := readMarked '#' [] rest
  ⟨scheme, authority, path, query, fragment⟩

namespace Components

def markedText (mark : Char) : Option (List Char) → List Char
  | some component => mark :: component
  | none => []

def schemeText : Option (List Char) → List Char
  | some scheme => scheme ++ [':']
  | none => []

def authorityText : Option (List Char) → List Char
  | some authority => '/' :: '/' :: authority
  | none => []

def recompose (c : Components) : List Char :=
  schemeText c.scheme ++ (authorityText c.authority ++ (c.path ++
    (markedText '?' c.query ++ markedText '#' c.fragment)))

/-- A URI with an authority, in which no component contains a delimiter that ends it. -/
structure Hierarchical (c : Components) : Prop where
  scheme : ∃ scheme ≠ [], c.scheme = some scheme ∧ ∀ x ∈ scheme, x ∉ [':', '/', '?', '#']
  authority : ∃ authority, c.authority = some authority ∧ ∀ x ∈ authority, x ∉ ['/', '?', '#']
  path : ∀ x ∈ c.path, x ∉ ['?', '#']
  rooted : c.path.head?.all (· = '/')
  query : ∀ query ∈ c.query, '#' ∉ query

end Components

/-- A component ends at its delimiter or with the text. -/
theorem readUntil_append {delimiters component rest : List Char} (h : ∀ x ∈ component, x ∉ delimiters)
    (hrest : ∀ x ∈ rest.head?, x ∈ delimiters) :
    readUntil delimiters (component ++ rest) = (component, rest) := by
  have hin : ∀ x ∈ component, decide (x ∉ delimiters) = true := fun x hx => decide_eq_true (h x hx)
  unfold readUntil
  rw [List.takeWhile_append_of_pos hin, List.dropWhile_append_of_pos hin]
  cases rest with
  | nil => rw [List.takeWhile_nil, List.dropWhile_nil, List.append_nil]
  | cons x rest =>
    have hx := hrest x rfl
    simp [hx]

theorem readMarked_markedText {mark : Char} {delimiters rest : List Char} {component : Option (List Char)}
    (h : ∀ text ∈ component, ∀ x ∈ text, x ∉ delimiters) (hrest : ∀ x ∈ rest.head?, x ∈ delimiters)
    (hmark : mark ∉ delimiters) :
    readMarked mark delimiters (Components.markedText mark component ++ rest) = (component, rest) := by
  cases component with
  | none =>
    cases rest with
    | nil => rfl
    | cons x rest =>
      have hne : x ≠ mark := by
        rintro rfl
        exact hmark (hrest x rfl)
      exact if_neg hne
  | some component =>
    have hread := readUntil_append (h component rfl) hrest
    simp [Components.markedText, readMarked, hread]

theorem head_markedText {mark : Char} {component : Option (List Char)} {delimiters rest : List Char}
    (hmark : mark ∈ delimiters) (hrest : ∀ x ∈ rest.head?, x ∈ delimiters) :
    ∀ x ∈ (Components.markedText mark component ++ rest).head?, x ∈ delimiters := by
  intro x hx
  cases component with
  | none => exact hrest x hx
  | some component => exact Option.some.inj hx ▸ hmark

theorem readScheme_append {scheme rest : List Char} (hne : scheme ≠ [])
    (h : ∀ x ∈ scheme, x ∉ [':', '/', '?', '#']) :
    readScheme (scheme ++ ':' :: rest) = (some scheme, rest) := by
  have hread : readUntil [':', '/', '?', '#'] (scheme ++ ':' :: rest) = (scheme, ':' :: rest) :=
    readUntil_append h fun x hx => Option.some.inj hx ▸ List.mem_cons_self
  obtain ⟨first, scheme, rfl⟩ := List.exists_cons_of_ne_nil hne
  simp only [readScheme, hread]

theorem readAuthority_append {authority rest : List Char} (h : ∀ x ∈ authority, x ∉ ['/', '?', '#'])
    (hrest : ∀ x ∈ rest.head?, x ∈ ['/', '?', '#']) :
    readAuthority ('/' :: '/' :: (authority ++ rest)) = (some authority, rest) := by
  have hread := readUntil_append h hrest
  simp only [readAuthority, hread]

/-- What section 5.3 puts together, appendix B takes apart. -/
theorem components_recompose {c : Components} (h : c.Hierarchical) : components c.recompose = c := by
  obtain ⟨scheme, authority, path, query, fragment⟩ := c
  obtain ⟨scheme, hne, rfl, hscheme⟩ := h.scheme
  obtain ⟨authority, rfl, hauthority⟩ := h.authority
  let afterPath := Components.markedText '?' query ++ Components.markedText '#' fragment
  have hfragmentHead : ∀ delimiters : List Char, '#' ∈ delimiters →
      ∀ x ∈ (Components.markedText '#' fragment).head?, x ∈ delimiters := by
    intro delimiters hmark
    have hhead : ∀ x ∈ (Components.markedText '#' fragment ++ []).head?, x ∈ delimiters :=
      head_markedText hmark nofun
    rwa [List.append_nil] at hhead
  have hpathHead : ∀ x ∈ (path ++ afterPath).head?, x ∈ ['/', '?', '#'] := by
    intro x hx
    cases path with
    | nil => exact head_markedText (by decide) (hfragmentHead _ (by decide)) x hx
    | cons y path =>
      have hy : y = '/' := by simpa using h.rooted
      have hx : y = x := Option.some.inj hx
      rw [← hx, hy]
      decide
  have hread : readScheme (scheme ++ ':' :: '/' :: '/' :: (authority ++ (path ++ afterPath))) =
      (some scheme, '/' :: '/' :: (authority ++ (path ++ afterPath))) :=
    readScheme_append hne hscheme
  have hauth : readAuthority ('/' :: '/' :: (authority ++ (path ++ afterPath))) =
      (some authority, path ++ afterPath) :=
    readAuthority_append hauthority hpathHead
  have hpath : readUntil ['?', '#'] (path ++ afterPath) = (path, afterPath) :=
    readUntil_append h.path (head_markedText (by decide) (hfragmentHead _ (by decide)))
  have hquery : readMarked '?' ['#'] afterPath = (query, Components.markedText '#' fragment) := by
    refine readMarked_markedText (fun text htext x hx hmem => ?_) (hfragmentHead _ (by decide)) (by decide)
    exact h.query text htext (List.mem_singleton.mp hmem ▸ hx)
  have hfragment : readMarked '#' [] (Components.markedText '#' fragment) = (fragment, []) := by
    have hread : readMarked '#' [] (Components.markedText '#' fragment ++ []) = (fragment, []) :=
      readMarked_markedText (fun _ _ _ _ => List.not_mem_nil) nofun List.not_mem_nil
    rwa [List.append_nil] at hread
  have htext : Components.recompose ⟨some scheme, some authority, path, query, fragment⟩ =
      scheme ++ ':' :: '/' :: '/' :: (authority ++ (path ++ afterPath)) :=
    List.append_assoc _ _ _
  unfold components
  rw [htext]
  simp only [hread, hauth, hpath, hquery, hfragment]

end Rfc3986
