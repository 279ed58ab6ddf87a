import Mathlib.Data.List.Basic
import Mathlib.Data.List.Infix
import KidProxy.Lib.Text

/-!
# Lib.Whatwg — the path state of the URL standard

How the path of a special URL is read: it is cut at slashes and backslashes, characters of the path
percent-encode set are encoded, and dot segments, encoded or not, are resolved.
-/

namespace Whatwg

/-! ### Characters and segments -/

/-- What separates the segments of the path of a special URL. -/
def isSeparator (c : Char) : Bool := c = '/' || c = '\\'

/-- ASCII tab and newline characters, which are removed from the input. -/
def isRemoved (c : Char) : Bool := c = '\t' || c = '\n' || c = '\r'

/-- The path percent-encode set. -/
def inPathSet (c : Char) : Bool :=
  c.toNat < 0x20 || 0x7E < c.toNat ||
    [0x20, 0x22, 0x23, 0x3C, 0x3E, 0x3F, 0x5E, 0x60, 0x7B, 0x7D].contains c.toNat

def upperHexDigit (n : ℕ) : Char := "0123456789ABCDEF".toList.getD n '0'

def percentEncode (c : Char) : List Char :=
  if inPathSet c then
    (String.utf8EncodeChar c).flatMap fun b =>
      ['%', upperHexDigit (b.toNat / 16), upperHexDigit (b.toNat % 16)]
  else [c]

def isSingleDot (s : List Char) : Bool := [".", "%2e"].contains (String.ofList (Text.asciiLower s))

def isDoubleDot (s : List Char) : Bool :=
  ["..", ".%2e", "%2e.", "%2e%2e"].contains (String.ofList (Text.asciiLower s))

/-- The path start state of a special URL skips one separator. -/
def skipSeparator : List Char → List Char
  | c :: cs => if isSeparator c then cs else c :: cs
  | [] => []

/-- What the buffer holds at each separator and at the end. -/
def segments (input : List Char) : List (List Char) :=
  (input.splitOnP isSeparator).map fun s => s.flatMap percentEncode

def pathSegments (input : List Char) : List (List Char) :=
  segments (skipSeparator (input.filter fun c => !isRemoved c))

/-- The serializer puts `/` before each segment. -/
def pathText (path : List (List Char)) : List Char := path.flatMap fun s => '/' :: s

/-! ### The path state -/

section Walk

variable {σ τ : Type} (pop : σ → σ) (push : σ → List Char → σ)

/-- One segment; a dot segment at the end leaves an empty one. -/
def enter (path : σ) (s : List Char) (last : Bool) : σ :=
  if isDoubleDot s then if last then push (pop path) [] else pop path
  else if isSingleDot s then if last then push path [] else path
  else push path s

def walk : σ → List (List Char) → σ
  | path, [] => path
  | path, s :: rest => walk (enter pop push path s rest.isEmpty) rest

variable {pop push} {pop' : τ → τ} {push' : τ → List Char → τ}

/-- A map that goes along with both operations goes along with a walk. -/
theorem map_walk {f : σ → τ} (hpop : ∀ x, f (pop x) = pop' (f x))
    (hpush : ∀ x s, f (push x s) = push' (f x) s) (path : σ) (rest : List (List Char)) :
    f (walk pop push path rest) = walk pop' push' (f path) rest := by
  induction rest generalizing path with
  | nil => rfl
  | cons s rest ih =>
    have henter : f (enter pop push path s rest.isEmpty) = enter pop' push' (f path) s rest.isEmpty := by
      unfold enter
      split_ifs
      · rw [hpush, hpop]
      · rw [hpop]
      · rw [hpush]
      · rfl
      · rw [hpush]
    rw [walk, walk, ih, henter]

end Walk

/-- The path of a URL that is read from the input. -/
def parsePath (input : List Char) : List (List Char) :=
  walk List.dropLast (fun path s => path ++ [s]) [] (pathSegments input)

example : parsePath "/a\\\\./b c/%2E./..".toList = ["a".toList, []] := by decide

/-! ### Normal segments -/

/-- A character that is read as itself. -/
def Plain (c : Char) : Prop := isSeparator c = false ∧ isRemoved c = false ∧ inPathSet c = false

instance (c : Char) : Decidable (Plain c) :=
  inferInstanceAs (Decidable (isSeparator c = false ∧ isRemoved c = false ∧ inPathSet c = false))

/-- A segment that is read as itself. -/
structure Normal (s : List Char) : Prop where
  plain : ∀ c ∈ s, Plain c
  single : isSingleDot s = false
  double : isDoubleDot s = false

theorem plain_upperHexDigit (n : ℕ) : Plain (upperHexDigit n) := by
  have hall : ('0' :: "0123456789ABCDEF".toList).all (fun c => decide (Plain c)) = true := by decide
  have hplain : ∀ c ∈ '0' :: "0123456789ABCDEF".toList, Plain c := fun c hc =>
    of_decide_eq_true (List.all_eq_true.mp hall c hc)
  unfold upperHexDigit
  rw [List.getD_eq_getElem?_getD]
  cases h : "0123456789ABCDEF".toList[n]? with
  | none => exact hplain '0' List.mem_cons_self
  | some c => exact hplain c (List.mem_cons_of_mem _ (List.mem_of_getElem? h))

theorem plain_of_mem_percentEncode {c d : Char} (hsep : isSeparator d = false) (hrem : isRemoved d = false)
    (h : c ∈ percentEncode d) : Plain c := by
  unfold percentEncode at h
  split_ifs at h with hset
  · obtain ⟨b, -, hc⟩ := List.mem_flatMap.mp h
    simp only [List.mem_cons, List.not_mem_nil, or_false] at hc
    rcases hc with rfl | rfl | rfl
    · decide
    · exact plain_upperHexDigit _
    · exact plain_upperHexDigit _
  · obtain rfl := List.mem_singleton.mp h
    exact ⟨hsep, hrem, eq_false_of_ne_true hset⟩

theorem percentEncode_plain {s : List Char} (h : ∀ c ∈ s, Plain c) : s.flatMap percentEncode = s := by
  induction s with
  | nil => rfl
  | cons c s ih =>
    have hc : percentEncode c = [c] := if_neg (ne_true_of_eq_false (h c List.mem_cons_self).2.2)
    rw [List.flatMap_cons, hc, ih fun d hd => h d (List.mem_cons_of_mem _ hd)]
    rfl

theorem plain_of_mem_pathSegments {input s : List Char} (hs : s ∈ pathSegments input) :
    ∀ c ∈ s, Plain c := by
  intro c hc
  obtain ⟨part, hpart, rfl⟩ := List.mem_map.mp hs
  obtain ⟨d, hd, hcd⟩ := List.mem_flatMap.mp hc
  obtain ⟨hsep, hmem⟩ := Text.of_mem_splitOnP hpart d hd
  have hkept : d ∈ input.filter fun c => !isRemoved c := by
    unfold skipSeparator at hmem
    split at hmem
    · next x cs heq =>
      rw [heq]
      split_ifs at hmem
      · exact List.mem_cons_of_mem _ hmem
      · exact hmem
    · exact absurd hmem List.not_mem_nil
  have hrem : isRemoved d = false := by
    have h := (List.mem_filter.mp hkept).2
    simpa using h
  exact plain_of_mem_percentEncode hsep hrem hcd

theorem Normal.slash_notMem {s : List Char} (h : Normal s) : '/' ∉ s := fun hmem =>
  absurd (h.plain '/' hmem).1 (by decide)

theorem normal_nil : Normal [] := ⟨List.forall_mem_nil _, by decide, by decide⟩

/-- The segments of a path are normal. -/
theorem normal_walk {path rest : List (List Char)} (hpath : ∀ s ∈ path, Normal s)
    (hrest : ∀ s ∈ rest, ∀ c ∈ s, Plain c) :
    ∀ s ∈ walk List.dropLast (fun path s => path ++ [s]) path rest, Normal s := by
  induction rest generalizing path with
  | nil => exact hpath
  | cons s rest ih =>
    refine ih ?_ fun t ht => hrest t (List.mem_cons_of_mem _ ht)
    have hplain := hrest s List.mem_cons_self
    have hpop : ∀ t ∈ path.dropLast, Normal t := fun t ht => hpath t (List.mem_of_mem_dropLast ht)
    have hpush : ∀ p : List (List Char), (∀ t ∈ p, Normal t) → ∀ t, Normal t →
        ∀ u ∈ p ++ [t], Normal u := by
      intro p hp t ht u hu
      rcases List.mem_append.mp hu with hu | hu
      · exact hp u hu
      · rwa [List.mem_singleton.mp hu]
    unfold enter
    split_ifs with hdouble hlast hsingle hlast
    · exact hpush _ hpop _ normal_nil
    · exact hpop
    · exact hpush _ hpath _ normal_nil
    · exact hpath
    · exact hpush _ hpath _ ⟨hplain, eq_false_of_ne_true hsingle, eq_false_of_ne_true hdouble⟩

theorem normal_parsePath (input : List Char) : ∀ s ∈ parsePath input, Normal s :=
  normal_walk nofun fun _ => plain_of_mem_pathSegments

theorem walk_ne_nil {path rest : List (List Char)} (hrest : rest ≠ []) :
    walk List.dropLast (fun path s => path ++ [s]) path rest ≠ [] := by
  induction rest generalizing path with
  | nil => exact absurd rfl hrest
  | cons s rest ih =>
    cases rest with
    | nil =>
      show enter List.dropLast (fun path s => path ++ [s]) path s true ≠ []
      unfold enter
      simp only [if_true]
      split_ifs <;> exact List.append_ne_nil_of_right_ne_nil _ (List.cons_ne_nil _ _)
    | cons t rest => exact ih (List.cons_ne_nil t rest)

theorem parsePath_ne_nil (input : List Char) : parsePath input ≠ [] := by
  refine walk_ne_nil fun h => ?_
  exact List.splitOnP_ne_nil _ _ (List.map_eq_nil_iff.mp h)

/-! ### Texts of segments -/

/-- A text of segments is cut where the segments begin. -/
theorem splitOnP_pathText {p : Char → Bool} (hp : p '/' = true) {first : List Char}
    {path : List (List Char)} (h : ∀ s ∈ first :: path, ∀ c ∈ s, p c = false) :
    (first ++ pathText path).splitOnP p = first :: path := by
  induction path generalizing first with
  | nil =>
    rw [pathText, List.flatMap_nil, List.append_nil]
    exact List.splitOnP_eq_singleton (h first List.mem_cons_self)
  | cons s path ih =>
    show (first ++ '/' :: (s ++ pathText path)).splitOnP p = first :: s :: path
    rw [List.splitOnP_append_cons_of_forall_mem (h first List.mem_cons_self) _ hp,
      ih fun t ht => h t (List.mem_cons_of_mem _ ht)]

theorem splitOn_pathText {path : List (List Char)} (h : ∀ s ∈ path, '/' ∉ s) :
    (pathText path).splitOn '/' = [] :: path := by
  rw [List.splitOn_eq_splitOnP]
  show ([] ++ pathText path).splitOnP _ = [] :: path
  refine splitOnP_pathText rfl fun s hs c hc => ?_
  rcases List.mem_cons.mp hs with rfl | hs
  · exact absurd hc List.not_mem_nil
  · exact beq_eq_false_iff_ne.mpr fun heq => h s hs (heq ▸ hc)

theorem pathText_append (path rest : List (List Char)) :
    pathText (path ++ rest) = pathText path ++ pathText rest := List.flatMap_append

theorem pathText_ne_nil {path : List (List Char)} (h : path ≠ []) : pathText path ≠ [] := by
  obtain ⟨s, rest, rfl⟩ := List.exists_cons_of_ne_nil h
  exact List.cons_ne_nil _ _

/-- One path is above another when its text is, up to the end or to the next slash. -/
theorem pathText_prefix_iff {path path' : List (List Char)} (h : ∀ s ∈ path, '/' ∉ s)
    (h' : ∀ s ∈ path', '/' ∉ s) :
    pathText path' = pathText path ∨ pathText path ++ ['/'] <+: pathText path' ↔ path <+: path' := by
  constructor
  · rintro (heq | ⟨rest, hrest⟩)
    · have hsplit := congrArg (List.splitOn '/') heq
      rw [splitOn_pathText h, splitOn_pathText h'] at hsplit
      exact (List.cons.inj hsplit).2 ▸ List.prefix_rfl
    · have hsplit := congrArg (List.splitOn '/') hrest
      rw [List.append_assoc, List.singleton_append, List.splitOn_append_cons_self, splitOn_pathText h,
        splitOn_pathText h', List.cons_append] at hsplit
      exact ⟨rest.splitOn '/', (List.cons.inj hsplit).2⟩
  · rintro ⟨rest, rfl⟩
    rw [pathText_append]
    cases rest with
    | nil => exact Or.inl (List.append_nil _)
    | cons s rest => exact Or.inr ⟨s ++ pathText rest, List.append_assoc _ _ _⟩

/-- A path has no character that would end it in a URL. -/
theorem not_delimiter_of_mem_pathText {path : List (List Char)} (h : ∀ s ∈ path, Normal s) :
    ∀ c ∈ pathText path, c ∉ ['?', '#'] := by
  intro c hc
  have hset : ['?', '#'].all inPathSet = true := by decide
  obtain ⟨s, hs, hc⟩ := List.mem_flatMap.mp hc
  rcases List.mem_cons.mp hc with rfl | hc
  · decide
  · intro hmem
    exact absurd (List.all_eq_true.mp hset c hmem) (ne_true_of_eq_false ((h s hs).plain c hc).2.2)

/-- Trailing slashes are empty segments at the end. -/
theorem exists_trimEnd_pathText {path : List (List Char)} (h : ∀ s ∈ path, '/' ∉ s) :
    ∃ kept, Text.trimEndBy (· = '/') (pathText path) = pathText kept ∧ kept <+: path := by
  induction path using List.reverseRecOn with
  | nil => exact ⟨[], rfl, List.prefix_rfl⟩
  | append_singleton path s ih =>
    rcases List.eq_nil_or_concat' s with rfl | ⟨start, c, rfl⟩
    · obtain ⟨kept, htrim, hkept⟩ := ih fun t ht => h t (List.mem_append_left _ ht)
      refine ⟨kept, ?_, hkept.trans (List.prefix_append path [[]])⟩
      rw [← htrim, pathText_append]
      show Text.trimEndBy _ (pathText path ++ ['/']) = _
      unfold Text.trimEndBy
      rw [List.reverse_append]
      rfl
    · refine ⟨path ++ [start ++ [c]], ?_, List.prefix_rfl⟩
      have hc : c ≠ '/' := by
        rintro rfl
        exact h _ (List.mem_append_right _ List.mem_cons_self) (List.mem_append_right _ List.mem_cons_self)
      have htext : pathText (path ++ [start ++ [c]]) = pathText path ++ '/' :: start ++ [c] := by
        rw [pathText_append]
        simp [pathText]
      unfold Text.trimEndBy
      rw [htext, List.reverse_append, List.reverse_singleton, List.singleton_append,
        List.dropWhile_cons_of_neg (by simpa using hc)]
      simp

/-! ### Where a text of segments leads from a given path -/

/-- How far dot segments climb above the start, and the segments gone down after that. -/
structure Trail where
  up : ℕ
  down : List (List Char)
  deriving DecidableEq, Repr

namespace Trail

def pop (t : Trail) : Trail :=
  match t.down with
  | [] => { t with up := t.up + 1 }
  | _ :: _ => { t with down := t.down.dropLast }

def push (t : Trail) (s : List Char) : Trail := { t with down := t.down ++ [s] }

/-- Where the trail ends when it starts at a path; above the root there is nothing. -/
def startingAt (t : Trail) (path : List (List Char)) : List (List Char) :=
  path.take (path.length - t.up) ++ t.down

theorem startingAt_pop (t : Trail) (path : List (List Char)) :
    (t.startingAt path).dropLast = t.pop.startingAt path := by
  unfold pop startingAt
  cases hdown : t.down with
  | nil =>
    have hlen : path.length - (t.up + 1) = path.length - t.up - 1 := by omega
    show (path.take (path.length - t.up) ++ []).dropLast = path.take (path.length - (t.up + 1)) ++ []
    rw [List.append_nil, List.append_nil, hlen, List.dropLast_eq_take, List.length_take, List.take_take]
    congr 1
    omega
  | cons s down =>
    show (path.take (path.length - t.up) ++ s :: down).dropLast = _
    rw [List.dropLast_append_of_ne_nil (List.cons_ne_nil s down)]

theorem startingAt_push (t : Trail) (s : List Char) (path : List (List Char)) :
    t.startingAt path ++ [s] = (t.push s).startingAt path := List.append_assoc _ _ _

/-- A trail stays under the path it starts at when it goes down again what it climbed. -/
theorem prefix_startingAt_iff (t : Trail) (path : List (List Char)) :
    path <+: t.startingAt path ↔ path.drop (path.length - t.up) <+: t.down := by
  have hinj : path.take (path.length - t.up) ++ path.drop (path.length - t.up) <+: t.startingAt path ↔
      path.drop (path.length - t.up) <+: t.down := List.prefix_append_right_inj _
  rwa [List.take_append_drop] at hinj

end Trail

/-- The trail of a text that is appended to a path. -/
def trail (input : List Char) : Trail := walk Trail.pop Trail.push ⟨0, []⟩ (pathSegments input)

/-- Normal segments are read as they are. -/
theorem walk_append_normal {path rest : List (List Char)} (hpath : ∀ s ∈ path, Normal s)
    (start : List (List Char)) :
    walk List.dropLast (fun path s => path ++ [s]) start (path ++ rest) =
      walk List.dropLast (fun path s => path ++ [s]) (start ++ path) rest := by
  induction path generalizing start with
  | nil => rw [List.append_nil, List.nil_append]
  | cons s path ih =>
    have hs := hpath s List.mem_cons_self
    have henter : ∀ last, enter List.dropLast (fun path s => path ++ [s]) start s last = start ++ [s] := by
      intro last
      unfold enter
      rw [hs.double, hs.single]
      rfl
    rw [List.cons_append, walk, henter, ih fun t ht => hpath t (List.mem_cons_of_mem _ ht),
      List.append_assoc, List.singleton_append]

theorem pathSegments_append {path : List (List Char)} (hpath : ∀ s ∈ path, Normal s)
    (rest : List Char) :
    pathSegments (pathText path ++ '/' :: rest) = path ++ pathSegments ('/' :: rest) := by
  have hkept : (pathText path ++ '/' :: rest).filter (fun c => !isRemoved c) =
      pathText path ++ '/' :: rest.filter fun c => !isRemoved c := by
    rw [List.filter_append]
    congr 1
    refine List.filter_eq_self.mpr fun c hc => ?_
    obtain ⟨s, hs, hc⟩ := List.mem_flatMap.mp hc
    rcases List.mem_cons.mp hc with rfl | hc
    · rfl
    · rw [((hpath s hs).plain c hc).2.1]
      rfl
  have hrest : pathSegments ('/' :: rest) = segments (rest.filter fun c => !isRemoved c) := rfl
  rw [hrest]
  unfold pathSegments
  rw [hkept]
  cases path with
  | nil => rfl
  | cons s path =>
    show segments (s ++ pathText path ++ '/' :: _) = _
    unfold segments
    rw [List.splitOnP_append_cons _ _ rfl,
      splitOnP_pathText rfl fun t ht c hc => ((hpath t ht).plain c hc).1, List.map_append]
    congr 1
    exact (List.map_congr_left fun t ht => percentEncode_plain (hpath t ht).plain).trans (List.map_id _)

/-- What is appended to a path is read as its trail from there. -/
theorem parsePath_append {path : List (List Char)} (hpath : ∀ s ∈ path, Normal s) (rest : List Char) :
    parsePath (pathText path ++ '/' :: rest) = (trail ('/' :: rest)).startingAt path := by
  have hmap : (trail ('/' :: rest)).startingAt path =
      walk List.dropLast (fun path s => path ++ [s]) ((⟨0, []⟩ : Trail).startingAt path)
        (pathSegments ('/' :: rest)) :=
    map_walk (f := fun t => Trail.startingAt t path) (fun t => (t.startingAt_pop path).symm)
      (fun t s => (t.startingAt_push s path).symm) ⟨0, []⟩ (pathSegments ('/' :: rest))
  have hstart : (⟨0, []⟩ : Trail).startingAt path = path := by
    unfold Trail.startingAt
    rw [Nat.sub_zero, List.take_length, List.append_nil]
  unfold parsePath
  rw [hmap, hstart, pathSegments_append hpath, walk_append_normal hpath, List.nil_append]

example : trail "/../x/./%2e%2E/../../y".toList = ⟨3, ["y".toList]⟩ := by decide

end Whatwg
