import KidProxy.Encoding

/-!
# HopByHop — which headers the stripping takes away

A header ends at a hop when it is one of the fixed eight or when some `Connection` field line names it.
`strip_hop_by_hop_headers` reads the first line only, and only where it is text:
`stripHopByHop_exact_iff` says for which header maps that makes no difference.
-/

namespace KidProxy

/-! ### The headers that a `Connection` line names -/

/-- The optional whitespace around the elements of a list. -/
def isListSpace (c : Char) : Bool := c = ' ' || c = '\t'

/-- The names among the comma-separated tokens of a field line, whatever bytes it has. -/
def HeaderValue.namedBy (value : HeaderValue) : List HeaderName :=
  ((value.bytes.map fun b => Char.ofNat b.toNat).splitOn ',').filterMap fun token =>
    HeaderName.fromChars (Text.trimBy isListSpace token)

/-- The header ends at this hop. -/
def EndsHere (headers : HeaderMap) (name : HeaderName) : Prop :=
  name ∈ hopByHop ∨ ∃ value ∈ headers.getAll .connection, name ∈ value.namedBy

/-- The first `Connection` line is text and names the header. -/
def FirstLineNames (headers : HeaderMap) (name : HeaderName) : Prop :=
  ∃ value, headers.get .connection = some value ∧ value.bytes.all isVisibleAscii = true ∧
    name ∈ value.namedBy

theorem HeaderName.fromChars_asciiLower (cs : List Char) :
    HeaderName.fromChars (Text.asciiLower cs) = HeaderName.fromChars cs := by
  unfold HeaderName.fromChars
  rw [Text.asciiLower_asciiLower]

/-- The only whitespace of a text value is the blank and the tab. -/
theorem isWhitespace_of_visible {b : UInt8} (h : isVisibleAscii b = true) :
    Text.isWhitespace (Char.ofNat b.toNat) = isListSpace (Char.ofNat b.toNat) := by
  have hbyte := HeaderValue.toNat_of_isVisibleAscii h
  have hchar := HeaderValue.toNat_ofNat_of_isVisibleAscii h
  have heq : ∀ c : Char, Char.ofNat b.toNat = c ↔ b.toNat = c.toNat := by
    intro c
    rw [← Char.toNat_inj, hchar]
  have hblank : ' '.toNat = 32 := rfl
  have htab : '\t'.toNat = 9 := rfl
  refine Bool.eq_iff_iff.mpr ?_
  simp only [Text.isWhitespace, isListSpace, Bool.or_eq_true, Bool.and_eq_true, decide_eq_true_eq,
    hchar, heq, hblank, htab]
  omega

/-- What `connection_tokens` reads off a first line that is text. -/
theorem mem_listedNames_of_text {headers : HeaderMap} {value : HeaderValue} {name : HeaderName}
    (hget : headers.get .connection = some value) (htext : value.bytes.all isVisibleAscii = true) :
    name ∈ listedNames headers ↔ name ∈ value.namedBy := by
  have hchars : value.toStr = some (value.bytes.map fun b => Char.ofNat b.toNat) := if_pos htext
  have htrim : ∀ token ∈ (value.bytes.map fun b => Char.ofNat b.toNat).splitOn ',',
      Text.trim token = Text.trimBy isListSpace token := by
    intro token htoken
    refine Text.trimBy_congr fun c hc => ?_
    obtain ⟨b, hb, rfl⟩ := List.mem_map.mp (Text.mem_of_mem_splitOn htoken hc)
    exact isWhitespace_of_visible (List.all_eq_true.mp htext b hb)
  unfold listedNames connectionTokens HeaderValue.namedBy
  rw [hget, Option.bind_some, hchars]
  dsimp only
  rw [List.mem_filterMap, List.mem_filterMap]
  constructor
  · rintro ⟨lowered, hmem, hname⟩
    obtain ⟨token, htoken, rfl⟩ := List.mem_map.mp (List.mem_filter.mp hmem).1
    rw [HeaderName.fromChars_asciiLower, htrim token htoken] at hname
    exact ⟨token, htoken, hname⟩
  · rintro ⟨token, htoken, hname⟩
    refine ⟨Text.asciiLower (Text.trim token), ?_, ?_⟩
    · -- an empty token is no name
      refine List.mem_filter.mpr ⟨List.mem_map_of_mem htoken, ?_⟩
      rw [htrim token htoken]
      by_contra hempty
      have hnil : Text.asciiLower (Text.trimBy isListSpace token) = [] := by simpa using hempty
      rw [← HeaderName.fromChars_asciiLower, hnil] at hname
      exact absurd hname (by decide +revert)
    · rw [HeaderName.fromChars_asciiLower, htrim token htoken]
      exact hname

theorem mem_listedNames_iff {headers : HeaderMap} {name : HeaderName} :
    name ∈ listedNames headers ↔ FirstLineNames headers name := by
  constructor
  · intro hmem
    by_cases hread : ∃ value, headers.get .connection = some value ∧
        value.bytes.all isVisibleAscii = true
    · obtain ⟨value, hget, htext⟩ := hread
      exact ⟨value, hget, htext, (mem_listedNames_of_text hget htext).mp hmem⟩
    · -- otherwise no token is read
      have hnone : (headers.get .connection).bind HeaderValue.toStr = none := by
        rw [Option.bind_eq_none_iff]
        intro value hget
        exact if_neg fun htext => hread ⟨value, hget, htext⟩
      have hnil : listedNames headers = [] := by
        unfold listedNames connectionTokens
        rw [hnone]
        rfl
      rw [hnil] at hmem
      exact absurd hmem List.not_mem_nil
  · rintro ⟨value, hget, htext, hname⟩
    exact (mem_listedNames_of_text hget htext).mpr hname

/-- The first line is one of the lines. -/
theorem FirstLineNames.endsHere {headers : HeaderMap} {name : HeaderName}
    (h : FirstLineNames headers name) : EndsHere headers name := by
  obtain ⟨value, hget, -, hname⟩ := h
  exact .inr ⟨value, List.mem_of_mem_head? hget, hname⟩

/-! ### What is left -/

/-- A value goes when its header is one of the eight or named by the first line, and only then. -/
theorem getAll_stripHopByHop (headers : HeaderMap) (name : HeaderName) :
    ((name ∈ hopByHop ∨ FirstLineNames headers name) →
      (stripHopByHopHeaders headers).getAll name = []) ∧
    (¬ (name ∈ hopByHop ∨ FirstLineNames headers name) →
      (stripHopByHopHeaders headers).getAll name = headers.getAll name) := by
  by_cases hfixed : name ∈ hopByHop
  · exact ⟨fun _ => getAll_foldl_remove hfixed _, fun hn => absurd (.inl hfixed) hn⟩
  · rw [getAll_strip hfixed]
    by_cases hnamed : name ∈ listedNames headers
    · rw [if_pos hnamed]
      exact ⟨fun _ => rfl, fun hn => absurd (.inr (mem_listedNames_iff.mp hnamed)) hn⟩
    · rw [if_neg hnamed]
      refine ⟨fun hgone => ?_, fun _ => rfl⟩
      exact absurd (hgone.resolve_left hfixed) (mt mem_listedNames_iff.mpr hnamed)

/-- What the stripping is for: the headers that end here are gone, the others keep their values. -/
structure Stripped (headers out : HeaderMap) : Prop where
  gone : ∀ name, EndsHere headers name → out.getAll name = []
  kept : ∀ name, ¬ EndsHere headers name → out.getAll name = headers.getAll name

theorem foldl_remove_of_absent {keys : List HeaderName} {headers : HeaderMap}
    (h : ∀ key ∈ keys, headers.getAll key = []) : keys.foldl MultiMap.remove headers = headers := by
  induction keys with
  | nil => rfl
  | cons key keys ih =>
    rw [List.foldl_cons, MultiMap.remove_of_absent (h key List.mem_cons_self)]
    exact ih fun key hkey => h key (List.mem_cons_of_mem _ hkey)

/-- No `Connection` line is left to be read a second time. -/
theorem stripHopByHop_idem (headers : HeaderMap) :
    stripHopByHopHeaders (stripHopByHopHeaders headers) = stripHopByHopHeaders headers := by
  have hfixed : ∀ name ∈ hopByHop, (stripHopByHopHeaders headers).getAll name = [] :=
    fun name hname => (getAll_stripHopByHop headers name).1 (.inl hname)
  have hconnection : (stripHopByHopHeaders headers).get .connection = none := by
    unfold MultiMap.get
    rw [hfixed .connection (by decide)]
    rfl
  have htokens : connectionTokens (stripHopByHopHeaders headers) = [] := by
    unfold connectionTokens
    rw [hconnection]
    rfl
  have hagain : ∀ h, connectionTokens h = [] →
      stripHopByHopHeaders h = hopByHop.foldl MultiMap.remove h := by
    intro h hnone
    unfold stripHopByHopHeaders
    rw [hnone]
    rfl
  rw [hagain _ htokens]
  exact foldl_remove_of_absent hfixed

/-- **Exactly the hop-by-hop headers are stripped** if and only if each header that is there and that
some `Connection` line names is one of the eight or is named by the first line, which must be text. -/
theorem stripHopByHop_exact_iff (headers : HeaderMap) :
    (Stripped headers (stripHopByHopHeaders headers) ∧
      stripHopByHopHeaders (stripHopByHopHeaders headers) = stripHopByHopHeaders headers) ↔
    ∀ name, headers.getAll name ≠ [] → EndsHere headers name →
      name ∈ hopByHop ∨ FirstLineNames headers name := by
  constructor
  · rintro ⟨hstripped, -⟩ name hthere hends
    by_contra hn
    exact hthere (((getAll_stripHopByHop headers name).2 hn).symm.trans (hstripped.gone name hends))
  · intro hcond
    refine ⟨⟨fun name hends => ?_, fun name hstays => ?_⟩, stripHopByHop_idem headers⟩
    · by_cases hn : name ∈ hopByHop ∨ FirstLineNames headers name
      · exact (getAll_stripHopByHop headers name).1 hn
      · have habsent : headers.getAll name = [] :=
          by_contra fun hthere => hn (hcond name hthere hends)
        rw [(getAll_stripHopByHop headers name).2 hn, habsent]
    · refine (getAll_stripHopByHop headers name).2 fun hn => hstays ?_
      exact hn.elim .inl FirstLineNames.endsHere

/-- Two `Connection` lines, the second of which names a header that is there. -/
def sampleTwoConnections : HeaderMap :=
  let value (text : String) (h : (Text.utf8 text.toList).all isValueByte = true) : HeaderValue :=
    ⟨Text.utf8 text.toList, h⟩
  ((MultiMap.empty.append .connection (value "keep-alive" (by decide))).append .connection
    (value "x-forwarded-proto" (by decide))).append .xForwardedProto (value "https" (by decide))

theorem second_connection_not_stripped :
    EndsHere sampleTwoConnections .xForwardedProto ∧
      (stripHopByHopHeaders sampleTwoConnections).getAll .xForwardedProto ≠ [] := by
  refine ⟨.inr ⟨⟨Text.utf8 "x-forwarded-proto".toList, by decide⟩, ?_, ?_⟩, ?_⟩
  · decide
  · decide
  · decide

end KidProxy
