import KidProxy.HeaderText
import KidProxy.Proxy
import KidProxy.Lib.JsonText
import KidProxy.Lib.Parts
import Mathlib.Data.List.Nodup

/-!
# Cookies — the cookies of a request and of a response, as they are captured

A client may spread its cookies over several `Cookie` field lines; the capture reads the first one.
Every `Set-Cookie` field line is read that is a text.
-/

namespace KidProxy

open Text

/-! ### The cookies of a request -/

/-- A cookie as a field line can carry it. -/
structure CookiePair where
  name : List Char
  value : List Char
  name_equals : '=' ∉ name
  name_semicolon : ';' ∉ name
  value_semicolon : ';' ∉ value
  name_trimmed : Trimmed name
  value_trimmed : Trimmed value

namespace CookiePair

def text (pair : CookiePair) : List Char := pair.name ++ '=' :: pair.value

def entry (pair : CookiePair) : String × String := (String.ofList pair.name, String.ofList pair.value)

theorem text_semicolon (pair : CookiePair) : ';' ∉ pair.text := by
  intro h
  rcases List.mem_append.mp h with h | h
  · exact pair.name_semicolon h
  · rcases List.mem_cons.mp h with h | h
    · exact absurd h (by decide)
    · exact pair.value_semicolon h

theorem text_trimmed (pair : CookiePair) : Trimmed pair.text :=
  pair.name_trimmed.append_cons pair.value_trimmed (by decide)

theorem splitOnce_text (pair : CookiePair) : splitOnce '=' pair.text = some (pair.name, pair.value) :=
  splitOnce_append pair.name_equals pair.value

end CookiePair

/-- A `Cookie` field line. -/
def cookieLine (pairs : List CookiePair) : List Char := joinParts ';' (pairs.map CookiePair.text)

/-- The `Cookie` field lines that a request has. -/
def CookieLines (headers : HeaderMap) (lines : List (List CookiePair)) : Prop :=
  (headers.getAll .cookie).map HeaderValue.bytes = lines.map fun line => utf8 (cookieLine line)

/-- The captured text decodes to the map of these cookies. -/
def CookiesCaptured (json : Option String) (pairs : List CookiePair) : Prop :=
  ∃ text members, json = some text ∧ Json.parse text.toList = some (.obj members) ∧
    members.Perm (pairs.map fun pair => (pair.entry.1, .str pair.entry.2))

/-- What one segment of a `Cookie` field line adds. -/
def insertCookie (cookies : SortedMap String String) (segment : List Char) : SortedMap String String :=
  match splitOnce '=' (trim segment) with
  | some (name, val) => cookies.insert (String.ofList (trim name)) (String.ofList (trim val))
  | none => cookies

theorem insertCookie_of_trim {cookies : SortedMap String String} {segment : List Char} {pair : CookiePair}
    (h : trim segment = pair.text) :
    insertCookie cookies segment = cookies.insert pair.entry.1 pair.entry.2 := by
  unfold insertCookie
  rw [h, pair.splitOnce_text]
  dsimp only
  rw [pair.name_trimmed.trim_eq, pair.value_trimmed.trim_eq]
  rfl

/-- The segments of a line give back its cookies. -/
theorem foldl_insertCookie (pairs : List CookiePair) (cookies : SortedMap String String) :
    ((cookieLine pairs).splitOn ';').foldl insertCookie cookies =
      (pairs.map CookiePair.entry).foldl (fun m e => m.insert e.1 e.2) cookies := by
  cases pairs with
  | nil => rfl
  | cons first rest =>
    have hsemicolon : ∀ part ∈ first.text :: rest.map CookiePair.text, ';' ∉ part := by
      intro part hpart
      obtain ⟨pair, -, rfl⟩ := List.mem_map.mp (show part ∈ (first :: rest).map CookiePair.text from hpart)
      exact pair.text_semicolon
    have hblanks : ((rest.map CookiePair.text).map (' ' :: ·)).foldl insertCookie
        (cookies.insert first.entry.1 first.entry.2) =
          (rest.map CookiePair.entry).foldl (fun m e => m.insert e.1 e.2)
            (cookies.insert first.entry.1 first.entry.2) := by
      rw [List.map_map, List.foldl_map, List.foldl_map]
      exact List.foldl_ext _ _ _ fun m pair _ => insertCookie_of_trim pair.text_trimmed.trim_blank_cons
    unfold cookieLine
    rw [List.map_cons, splitOn_joinParts (by decide) hsemicolon, List.foldl_cons,
      insertCookie_of_trim first.text_trimmed.trim_eq, hblanks, List.map_cons, List.foldl_cons]

/-- The captured cookies are those of the first field line, if it is a text. -/
theorem parseCookies_line {v : HeaderValue} {pairs : List CookiePair}
    (h : v.bytes = utf8 (cookieLine pairs)) :
    parseCookies (some v) =
      if (pairs.all fun pair => pair.text.all isVisibleChar) = true then
        some (Json.obj (((pairs.map CookiePair.entry).foldl (fun m e => m.insert e.1 e.2)
          SortedMap.empty).entries.map fun e => (e.1, .str e.2))).text
      else none := by
  have hvisible : (cookieLine pairs).all isVisibleChar =
      pairs.all fun pair => pair.text.all isVisibleChar := by
    unfold cookieLine
    rw [all_joinParts (by decide) (by decide), List.all_map]
    rfl
  unfold parseCookies
  rw [Option.bind_some, HeaderValue.toStr_of_bytes h, hvisible]
  split_ifs
  · rw [Option.map_some, ← foldl_insertCookie]
    rfl
  · rfl

theorem cookiesCaptured_text {members : List (String × Json)} {pairs : List CookiePair} :
    CookiesCaptured (some (Json.obj members).text) pairs ↔
      members.Perm (pairs.map fun pair => (pair.entry.1, .str pair.entry.2)) := by
  constructor
  · rintro ⟨text, members', htext, hparse, hperm⟩
    obtain rfl := Option.some.inj htext
    rw [Json.parse_text] at hparse
    obtain rfl := Json.obj.inj (Option.some.inj hparse)
    exact hperm
  · intro hperm
    exact ⟨_, members, rfl, Json.parse_text _, hperm⟩

theorem perm_cookies {pairs : List CookiePair} (hnames : (pairs.map CookiePair.name).Nodup) :
    (((pairs.map CookiePair.entry).foldl (fun m e => m.insert e.1 e.2) SortedMap.empty).entries.map
      fun e => (e.1, Json.str e.2)).Perm (pairs.map fun pair => (pair.entry.1, .str pair.entry.2)) := by
  have hkeys : ((pairs.map CookiePair.entry ++ SortedMap.empty.entries).map Prod.fst).Nodup := by
    have hentries : (pairs.map CookiePair.entry ++ SortedMap.empty.entries).map Prod.fst =
        (pairs.map CookiePair.name).map String.ofList := by
      rw [show (SortedMap.empty : SortedMap String String).entries = [] from rfl, List.append_nil,
        List.map_map, List.map_map]
      rfl
    rw [hentries]
    exact List.Nodup.map (fun _ _ h => String.ofList_injective h) hnames
  have hperm := (SortedMap.perm_foldl_insert hkeys).map fun e => (e.1, Json.str e.2)
  rw [show (SortedMap.empty : SortedMap String String).entries = [] from rfl, List.append_nil,
    List.map_map] at hperm
  exact hperm

/-- All cookies of a request are captured exactly when they are in its first field line and this is visible
ASCII. -/
theorem request_cookies_captured_iff [Net] {B : Type} (cfg : RuntimeConfig) (req : Request B)
    (now : OffsetDateTime) (eventId connectionId : Uuid) (first : List CookiePair)
    (rest : List (List CookiePair)) (hlines : CookieLines req.headers (first :: rest))
    (hnames : ((first ++ rest.flatten).map CookiePair.name).Nodup) :
    CookiesCaptured (SharedExchangeCapture.new cfg req now eventId connectionId).guard.requestCookiesJson
        (first ++ rest.flatten) ↔
      rest.flatten = [] ∧ ∀ pair ∈ first, pair.text.all isVisibleChar = true := by
  obtain ⟨v, vs, hvalues, hv⟩ : ∃ v vs, req.headers.getAll .cookie = v :: vs ∧
      v.bytes = utf8 (cookieLine first) := by
    obtain ⟨v, vs, hvalues, hv, -⟩ := List.map_eq_cons_iff.mp hlines
    exact ⟨v, vs, hvalues, hv⟩
  have hjson : (SharedExchangeCapture.new cfg req now eventId connectionId).guard.requestCookiesJson =
      parseCookies (some v) := by
    show parseCookies (req.headers.getAll .cookie).head? = _
    rw [hvalues]
    rfl
  have hfirst : (first.map CookiePair.name).Nodup := by
    rw [List.map_append] at hnames
    exact (List.nodup_append.mp hnames).1
  have hperm := perm_cookies hfirst
  rw [hjson, parseCookies_line hv]
  split_ifs with hvisible
  · rw [cookiesCaptured_text]
    constructor
    · intro hall
      have hlength := (hperm.symm.trans hall).length_eq
      rw [List.length_map, List.length_map, List.length_append] at hlength
      exact ⟨List.length_eq_zero_iff.mp (by omega), List.all_eq_true.mp hvisible⟩
    · rintro ⟨hrest, -⟩
      rw [hrest, List.append_nil]
      exact hperm
  · constructor
    · rintro ⟨text, members, htext, -⟩
      cases htext
    · rintro ⟨-, hall⟩
      exact absurd (List.all_eq_true.mpr hall) hvisible

/-! ### Two cookies -/

def sampleTheme : CookiePair where
  name := "theme".toList
  value := "dark".toList
  name_equals := by decide
  name_semicolon := by decide
  value_semicolon := by decide
  name_trimmed := trimmedBy_of_all (by decide)
  value_trimmed := trimmedBy_of_all (by decide)

def sampleLang : CookiePair where
  name := "lang".toList
  value := "en=GB".toList
  name_equals := by decide
  name_semicolon := by decide
  value_semicolon := by decide
  name_trimmed := trimmedBy_of_all (by decide)
  value_trimmed := trimmedBy_of_all (by decide)

/-- The sample request with `Cookie` field lines. -/
def sampleCookies (values : List HeaderValue) : Request Body :=
  { sampleRequest with headers := ⟨values.map fun value => (.cookie, value)⟩ }

/-- What the capture of a request says of its cookies. -/
def capturedCookies (req : Request Body) : Option String :=
  letI := sampleNet
  (SharedExchangeCapture.new sampleConfig req sampleTime ⟨1⟩ ⟨2⟩).guard.requestCookiesJson

def sampleTwoLines : Request Body :=
  sampleCookies [⟨utf8 (cookieLine [sampleTheme]), by decide⟩, ⟨utf8 (cookieLine [sampleLang]), by decide⟩]

/-- The second field line is not read. -/
theorem second_cookie_line_is_lost : CookieLines sampleTwoLines.headers [[sampleTheme], [sampleLang]] ∧
    ¬ CookiesCaptured (capturedCookies sampleTwoLines) [sampleTheme, sampleLang] := by
  refine ⟨rfl, ?_⟩
  have hjson : capturedCookies sampleTwoLines = some (Json.obj [("theme", .str "dark")]).text := by rfl
  rw [hjson, cookiesCaptured_text]
  intro hperm
  exact absurd hperm.length_eq (by decide)

def sampleOneLine : Request Body := sampleCookies [⟨utf8 (cookieLine [sampleTheme, sampleLang]), by decide⟩]

/-- Both cookies in one field line. -/
theorem one_cookie_line_is_captured :
    CookiesCaptured (capturedCookies sampleOneLine) [sampleTheme, sampleLang] := by
  let _ := sampleNet
  refine (request_cookies_captured_iff sampleConfig sampleOneLine sampleTime ⟨1⟩ ⟨2⟩
    [sampleTheme, sampleLang] [] rfl ?_).mpr ⟨rfl, ?_⟩
  · decide
  · exact List.all_eq_true.mp (by decide)

/-! ### The cookies of a response -/

/-- An attribute of a cookie: a key with a value, or a flag. -/
structure CookieAttribute where
  key : List Char
  val : Option (List Char)
  key_equals : '=' ∉ key
  key_semicolon : ';' ∉ key
  val_semicolon : ∀ text ∈ val, ';' ∉ text
  key_trimmed : Trimmed key
  val_trimmed : ∀ text ∈ val, Trimmed text

namespace CookieAttribute

def text (a : CookieAttribute) : List Char :=
  match a.val with
  | some val => a.key ++ '=' :: val
  | none => a.key

/-- A flag without a name. -/
def isBlank (a : CookieAttribute) : Bool := a.key.isEmpty && a.val.isNone

def entry (a : CookieAttribute) : String × Json :=
  (String.ofList (asciiLower a.key), match a.val with
    | some val => .str (String.ofList val)
    | none => .bool true)

theorem text_semicolon (a : CookieAttribute) : ';' ∉ a.text := by
  unfold text
  cases hval : a.val with
  | none => exact a.key_semicolon
  | some val =>
    intro h
    rcases List.mem_append.mp h with h | h
    · exact a.key_semicolon h
    · rcases List.mem_cons.mp h with h | h
      · exact absurd h (by decide)
      · exact a.val_semicolon val hval h

theorem text_trimmed (a : CookieAttribute) : Trimmed a.text := by
  unfold text
  cases hval : a.val with
  | none => exact a.key_trimmed
  | some val => exact a.key_trimmed.append_cons (a.val_trimmed val hval) (by decide)

end CookieAttribute

/-- A `Set-Cookie` field line. -/
structure SetCookieLine extends CookiePair where
  attributes : List CookieAttribute
  keys : (attributes.map fun a => asciiLower a.key).Nodup

namespace SetCookieLine

def parts (line : SetCookieLine) : List (List Char) :=
  line.toCookiePair.text :: line.attributes.map CookieAttribute.text

def raw (line : SetCookieLine) : List Char := joinParts ';' line.parts

def isText (line : SetCookieLine) : Bool := line.raw.all isVisibleChar

/-- What the parsed line has to say. -/
def Describes (line : SetCookieLine) (item : Json) : Prop :=
  ∃ attributes, item = .obj [("attributes", .obj attributes), ("name", .str (String.ofList line.name)),
      ("raw", .str (String.ofList line.raw)), ("value", .str (String.ofList line.value))] ∧
    attributes.Perm ((line.attributes.filter fun a => !a.isBlank).map CookieAttribute.entry)

theorem splitOn_raw (line : SetCookieLine) : line.raw.splitOn ';' =
    line.toCookiePair.text :: (line.attributes.map CookieAttribute.text).map (' ' :: ·) := by
  refine splitOn_joinParts (by decide) ?_
  intro part hpart
  rcases List.mem_cons.mp hpart with rfl | hpart
  · exact line.text_semicolon
  · obtain ⟨a, -, rfl⟩ := List.mem_map.mp hpart
    exact a.text_semicolon

end SetCookieLine

/-- The `Set-Cookie` field lines that a response has. -/
def SetCookieLines (headers : HeaderMap) (lines : List SetCookieLine) : Prop :=
  (headers.getAll .setCookie).map HeaderValue.bytes = lines.map fun line => utf8 line.raw

/-- The parsed text has one entry for each line, and there is none exactly when there are no lines. -/
def SetCookiesParsed (json : Option String) (lines : List SetCookieLine) : Prop :=
  (json = none ↔ lines = []) ∧ ∀ text, json = some text →
    ∃ items, Json.parse text.toList = some (.arr items) ∧ List.Forall₂ SetCookieLine.Describes lines items

/-- What one attribute adds. -/
def insertAttribute (attrs : SortedMap String Json) (attr : List Char) : SortedMap String Json :=
  let trimmed := trim attr
  match splitOnce '=' trimmed with
  | some (key, val) => attrs.insert (String.ofList (asciiLower key)) (.str (String.ofList val))
  | none =>
    if trimmed.isEmpty then attrs else attrs.insert (String.ofList (asciiLower trimmed)) (.bool true)

theorem insertAttribute_text (attrs : SortedMap String Json) (a : CookieAttribute) :
    insertAttribute attrs (' ' :: a.text) =
      if a.isBlank then attrs else attrs.insert a.entry.1 a.entry.2 := by
  unfold insertAttribute CookieAttribute.isBlank CookieAttribute.entry
  rw [a.text_trimmed.trim_blank_cons]
  unfold CookieAttribute.text
  cases a.val with
  | none =>
    dsimp only
    rw [splitOnce_eq_none a.key_equals]
    simp
  | some val =>
    dsimp only
    rw [splitOnce_append a.key_equals]
    simp

theorem foldl_insertAttribute (attributes : List CookieAttribute) (attrs : SortedMap String Json) :
    ((attributes.map CookieAttribute.text).map (' ' :: ·)).foldl insertAttribute attrs =
      ((attributes.filter fun a => !a.isBlank).map CookieAttribute.entry).foldl
        (fun m e => m.insert e.1 e.2) attrs := by
  induction attributes generalizing attrs with
  | nil => rfl
  | cons a attributes ih =>
    rw [List.map_cons, List.map_cons, List.foldl_cons, insertAttribute_text, ih]
    cases ha : a.isBlank with
    | true => simp [ha]
    | false => simp [ha]

theorem perm_attributes (line : SetCookieLine) :
    (((line.attributes.filter fun a => !a.isBlank).map CookieAttribute.entry).foldl
      (fun m e => m.insert e.1 e.2) SortedMap.empty).entries.Perm
        ((line.attributes.filter fun a => !a.isBlank).map CookieAttribute.entry) := by
  have hempty : (SortedMap.empty : SortedMap String Json).entries = [] := rfl
  have hkeys : ((line.attributes.map fun a => asciiLower a.key).map String.ofList).Nodup :=
    List.Nodup.map (fun _ _ h => String.ofList_injective h) line.keys
  have hsublist :
      (((line.attributes.filter fun a => !a.isBlank).map CookieAttribute.entry).map Prod.fst).Sublist
      ((line.attributes.map fun a => asciiLower a.key).map String.ofList) := by
    rw [List.map_map, List.map_map]
    exact List.filter_sublist.map _
  have hnodup : ((((line.attributes.filter fun a => !a.isBlank).map CookieAttribute.entry) ++
      (SortedMap.empty : SortedMap String Json).entries).map Prod.fst).Nodup := by
    rw [hempty, List.append_nil]
    exact hsublist.nodup hkeys
  have hperm := SortedMap.perm_foldl_insert hnodup
  rw [hempty, List.append_nil] at hperm
  exact hperm

/-- A line is read as what it was written from. -/
theorem describes_parseSetCookieValue (line : SetCookieLine) :
    line.Describes (parseSetCookieValue line.raw) := by
  refine ⟨_, ?_, perm_attributes line⟩
  rw [← foldl_insertAttribute]
  unfold parseSetCookieValue
  rw [line.splitOn_raw, List.headD_cons, List.tail_cons]
  dsimp only
  rw [line.splitOnce_text, Option.getD_some]
  dsimp only
  rw [line.name_trimmed.trim_eq, line.value_trimmed.trim_eq]
  rfl

/-- The lines that are texts, as they are read. -/
theorem filterMap_toStr {values : List HeaderValue} {lines : List SetCookieLine}
    (h : values.map HeaderValue.bytes = lines.map fun line => utf8 line.raw) :
    values.filterMap HeaderValue.toStr =
      (lines.filter SetCookieLine.isText).map SetCookieLine.raw := by
  induction values generalizing lines with
  | nil =>
    cases lines with
    | nil => rfl
    | cons line lines => cases h
  | cons v values ih =>
    cases lines with
    | nil => cases h
    | cons line lines =>
      obtain ⟨hv, hvalues⟩ := List.cons.inj h
      have htoStr : v.toStr = if line.isText = true then some line.raw else none :=
        HeaderValue.toStr_of_bytes hv
      by_cases hvisible : line.isText = true
      · rw [if_pos hvisible] at htoStr
        rw [List.filterMap_cons_some htoStr, ih hvalues, List.filter_cons_of_pos hvisible, List.map_cons]
      · rw [if_neg hvisible] at htoStr
        rw [List.filterMap_cons_none htoStr, ih hvalues, List.filter_cons_of_neg hvisible]

/-- Every `Set-Cookie` field line that is a text is parsed, in order, and gives back what it was rendered
from. -/
theorem set_cookies_parsed (headers : HeaderMap) (lines : List SetCookieLine)
    (hlines : SetCookieLines headers lines) :
    SetCookiesParsed (parseSetCookies headers) (lines.filter SetCookieLine.isText) := by
  have htexts := filterMap_toStr hlines
  generalize lines.filter SetCookieLine.isText = kept at htexts
  have hitems : parseSetCookies headers =
      if kept.isEmpty then none
      else some (Json.arr ((kept.map SetCookieLine.raw).map parseSetCookieValue)).text := by
    unfold parseSetCookies
    rw [htexts]
    simp
  rw [hitems]
  cases kept with
  | nil => exact ⟨⟨fun _ => rfl, fun _ => rfl⟩, nofun⟩
  | cons first rest =>
    refine ⟨⟨nofun, nofun⟩, ?_⟩
    intro text htext
    obtain rfl := Option.some.inj htext
    refine ⟨_, Json.parse_text _, ?_⟩
    rw [List.map_map, List.forall₂_map_right_iff]
    exact List.forall₂_same.mpr fun line _ => describes_parseSetCookieValue line

/-! ### A cookie with two attributes, and one that is no text -/

def sampleSession : SetCookieLine where
  name := "id".toList
  value := "a=b".toList
  name_equals := by decide
  name_semicolon := by decide
  value_semicolon := by decide
  name_trimmed := trimmedBy_of_all (by decide)
  value_trimmed := trimmedBy_of_all (by decide)
  attributes :=
    [⟨"Path".toList, some "/".toList, by decide, by decide, by decide, trimmedBy_of_all (by decide),
      fun text htext => by
        obtain rfl := Option.some.inj htext
        exact trimmedBy_of_all (by decide)⟩,
      ⟨"Secure".toList, none, by decide, by decide, nofun, trimmedBy_of_all (by decide), nofun⟩]
  keys := by decide

def sampleAccent : SetCookieLine where
  name := "name".toList
  value := "é".toList
  name_equals := by decide
  name_semicolon := by decide
  value_semicolon := by decide
  name_trimmed := trimmedBy_of_all (by decide)
  value_trimmed := trimmedBy_of_all (by decide)
  attributes := []
  keys := by decide

/-- A response that sets one cookie. -/
def sampleSetCookie (line : SetCookieLine) (h : (utf8 line.raw).all isValueByte = true) : HeaderMap :=
  ⟨[(.setCookie, ⟨utf8 line.raw, h⟩)]⟩

/-- A line that is no text has no entry, so that there is none although there is a line. -/
theorem set_cookie_without_text : ∃ h, SetCookieLines (sampleSetCookie sampleAccent h) [sampleAccent] ∧
    ¬ SetCookiesParsed (parseSetCookies (sampleSetCookie sampleAccent h)) [sampleAccent] := by
  refine ⟨by decide, rfl, ?_⟩
  rintro ⟨hnone, -⟩
  exact absurd (hnone.mp rfl) (List.cons_ne_nil _ _)

theorem set_cookies_parsed_sample : ∃ h,
    SetCookiesParsed (parseSetCookies (sampleSetCookie sampleSession h)) [sampleSession] := by
  refine ⟨by decide, ?_⟩
  exact set_cookies_parsed (sampleSetCookie sampleSession (by decide)) [sampleSession] rfl

end KidProxy
