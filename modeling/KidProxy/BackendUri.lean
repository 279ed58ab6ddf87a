import KidProxy.HostCheck
import KidProxy.Lib.Rfc3986
import KidProxy.Lib.Whatwg

/-!
# BackendUri — where a request path leads on the backend

`build_backend_uri` puts the prefix and the request path together as one text, and the URL parser
resolves dot segments in it afterwards.  Scheme, host and port stay those of the backend URL; the path
stays under the prefix when the dot segments of the request path do not climb out of it, or when the path
goes down again where it climbed.
-/

namespace KidProxy

/-! ### URLs and URIs in their components -/

namespace Url

/-- `username [":" password]`, when the URL includes credentials. -/
def userinfo (url : Url) : Option (List Char) :=
  let password := (url.password.getD "").toList
  if url.username.isEmpty && password.isEmpty then none
  else some (url.username.toList ++ if password.isEmpty then [] else ':' :: password)

def authorityText (url : Url) : List Char :=
  let userinfo := match url.userinfo with
    | some userinfo => userinfo ++ ['@']
    | none => []
  let port := match url.port with
    | some port => ':' :: Nat.toDigits 10 port
    | none => []
  userinfo ++ ((url.hostStr.getD "").toList ++ port)

/-- What the URL serializer writes, component by component. -/
def components (url : Url) : Rfc3986.Components where
  scheme := some url.scheme.toList
  authority := some url.authorityText
  path := url.path.toList
  query := url.query.map String.toList
  fragment := url.fragment.map String.toList

/-- An `https` URL as the URL standard keeps it: with a host, with a path of segments, and with encoded
delimiters in its credentials. -/
structure Canonical (url : Url) : Prop where
  host : ∃ host : AuthorityHost, url.hostStr = some (String.ofList host.text)
  credentials : ∀ c ∈ url.username.toList ++ (url.password.getD "").toList, c ∉ ['/', '?', '#']
  path : ∃ input, url.path = String.ofList (Whatwg.pathText (Whatwg.parsePath input))

end Url

/-- The URL standard for `url::Url`, and RFC 3986 for what a URI is cut into. -/
structure Net.Standard [Net] : Prop where
  parsed : ∀ s url, Net.parseUrl s = .ok url → url.scheme = "https" → url.Canonical
  setPath : ∀ url path, url.scheme = "https" → Net.setPath url path =
    { url with path := String.ofList (Whatwg.pathText (Whatwg.parsePath path.toList)) }
  setQuery : ∀ url query, url.scheme = "https" → ∃ encoded : Option String,
    Net.setQuery url query = { url with query := encoded } ∧ ∀ text ∈ encoded, '#' ∉ text.toList
  urlText : ∀ url, url.scheme = "https" → url.hostStr.isSome →
    Net.urlText url = String.ofList url.components.recompose
  /-- The path is that of the text; the accessor of `rama` encodes `^`, `|` and a stray `%` anew. -/
  parseUri : ∀ text uri, Net.parseUri text = .ok uri →
    let c := Rfc3986.components text.toList
    uri.scheme = c.scheme.map String.ofList ∧ uri.authority = c.authority.map String.ofList ∧
      (c.path ≠ [] → uri.path = some (String.ofList c.path))

namespace Authority

/-- The port that stands after the host. -/
def portAfterHost (text : List Char) : Option ℕ :=
  match text.drop (hostAtStart text).length with
  | ':' :: digits => parseDigits digits
  | _ => none

theorem portAfterHost_hostPort (a : Authority) : portAfterHost a.hostPort = a.port.bind parseDigits := by
  unfold portAfterHost
  rw [hostAtStart_hostPort]
  unfold hostPort
  rw [List.drop_left]
  unfold portText
  cases a.port with
  | none => rfl
  | some digits => rfl

end Authority

namespace Uri

def host (uri : Uri) : Option String :=
  uri.authority.map fun text => String.ofList (Authority.hostAtStart (Authority.afterUserinfo text.toList))

def port (uri : Uri) : Option ℕ :=
  uri.authority.bind fun text => Authority.portAfterHost (Authority.afterUserinfo text.toList)

def SameOrigin (uri : Uri) (url : Url) : Prop :=
  uri.scheme = some url.scheme ∧ uri.host = url.hostStr ∧ uri.port = url.port

instance (uri : Uri) (url : Url) : Decidable (uri.SameOrigin url) :=
  inferInstanceAs
    (Decidable (uri.scheme = some url.scheme ∧ uri.host = url.hostStr ∧ uri.port = url.port))

/-- The path is the prefix without trailing slashes, or goes on with a slash after it. -/
def Under (uri : Uri) (pathPrefix : String) : Prop :=
  ∃ path, uri.path = some path ∧
    (path.toList = Text.trimEndBy (· = '/') pathPrefix.toList ∨
      Text.trimEndBy (· = '/') pathPrefix.toList ++ ['/'] <+: path.toList)

end Uri

/-- The segments that dot segments of the request path climb up from the prefix are the ones it goes down
again. -/
def StaysUnder (pathPrefix path : String) : Prop :=
  let base := ((Text.trimEndBy (· = '/') pathPrefix.toList).splitOn '/').tail
  let t := Whatwg.trail (normalizeRequestPath path).toList
  base.drop (base.length - t.up) <+: t.down

instance (pathPrefix path : String) : Decidable (StaysUnder pathPrefix path) :=
  inferInstanceAs (Decidable (List.IsPrefix _ _))

/-- A path that never climbs above its start stays under every prefix. -/
theorem staysUnder_of_not_climbing {path : String}
    (h : (Whatwg.trail (normalizeRequestPath path).toList).up = 0) (pathPrefix : String) :
    StaysUnder pathPrefix path := by
  unfold StaysUnder
  dsimp only
  rw [h, Nat.sub_zero, List.drop_length]
  exact List.nil_prefix

/-! ### What the serializer writes can be read back -/

theorem AuthorityHost.not_delimiter_of_mem_text (host : AuthorityHost) :
    ∀ c ∈ host.text, c ∉ ['/', '?', '#'] := by
  intro c hc hmem
  cases host with
  | name text plain =>
    refine plain c hc ?_
    have hsub : ∀ x ∈ ['/', '?', '#'], x ∈ ['@', ':', '[', ']', '/', '?', '#'] := by simp
    exact hsub c hmem
  | ipv6 address colon digits =>
    have hnone : ∀ x ∈ ['/', '?', '#'], x ≠ '[' ∧ x ≠ ']' ∧ x ∉ "0123456789abcdefABCDEF:.".toList := by
      simp
    obtain ⟨hopen, hclose, hdigit⟩ := hnone c hmem
    rcases List.mem_cons.mp hc with heq | hc
    · exact hopen heq
    · rcases List.mem_append.mp hc with hc | hc
      · exact hdigit (digits c hc)
      · exact hclose (List.mem_singleton.mp hc)

theorem Authority.not_delimiter_of_mem_text {a : Authority}
    (h : ∀ userinfo ∈ a.userinfo, ∀ c ∈ userinfo, c ∉ ['/', '?', '#']) :
    ∀ c ∈ a.text, c ∉ ['/', '?', '#'] := by
  have hport : ∀ c ∈ a.portText, c ∉ ['/', '?', '#'] := by
    intro c hc hmem
    have hnone : ∀ x ∈ ['/', '?', '#'], x ≠ ':' ∧ x.isDigit = false := by simp
    unfold Authority.portText at hc
    cases hp : a.port with
    | none => rw [hp] at hc; exact List.not_mem_nil hc
    | some digits =>
      rw [hp] at hc
      rcases List.mem_cons.mp hc with heq | hc
      · exact (hnone c hmem).1 heq
      · exact absurd (a.port_digits digits hp c hc) (ne_true_of_eq_false (hnone c hmem).2)
  have hhostPort : ∀ c ∈ a.hostPort, c ∉ ['/', '?', '#'] := fun c hc =>
    (List.mem_append.mp hc).elim (a.host.not_delimiter_of_mem_text c) (hport c)
  intro c hc
  unfold Authority.text at hc
  cases hu : a.userinfo with
  | none => rw [hu] at hc; exact hhostPort c hc
  | some userinfo =>
    rw [hu] at hc
    rcases List.mem_append.mp hc with hc | hc
    · exact h userinfo hu c hc
    · rcases List.mem_cons.mp hc with rfl | hc
      · decide
      · exact hhostPort c hc

namespace Url

theorem not_delimiter_of_mem_userinfo {url : Url}
    (h : ∀ c ∈ url.username.toList ++ (url.password.getD "").toList, c ∉ ['/', '?', '#']) :
    ∀ userinfo ∈ url.userinfo, ∀ c ∈ userinfo, c ∉ ['/', '?', '#'] := by
  intro userinfo hu c hc
  unfold Url.userinfo at hu
  dsimp only at hu
  split_ifs at hu with hempty hpassword
  · cases hu
  · obtain rfl := Option.some.inj hu
    rw [List.append_nil] at hc
    exact h c (List.mem_append_left _ hc)
  · obtain rfl := Option.some.inj hu
    rcases List.mem_append.mp hc with hc | hc
    · exact h c (List.mem_append_left _ hc)
    · rcases List.mem_cons.mp hc with rfl | hc
      · decide
      · exact h c (List.mem_append_right _ hc)

/-- The authority of a URL with a host. -/
def authority (url : Url) (host : AuthorityHost) : Authority where
  userinfo := url.userinfo
  host := host
  port := url.port.map (Nat.toDigits 10)
  port_digits := by
    intro digits hdigits c hc
    obtain ⟨port, -, rfl⟩ := Option.map_eq_some_iff.mp hdigits
    exact List.all_eq_true.mp (Text.all_isDigit_toDigits port) c hc

theorem authorityText_eq {url : Url} {host : AuthorityHost}
    (hhost : url.hostStr = some (String.ofList host.text)) :
    url.authorityText = (url.authority host).text := by
  have hport : (url.authority host).portText = match url.port with
      | some port => ':' :: Nat.toDigits 10 port
      | none => [] := by
    show (match url.port.map (Nat.toDigits 10) with
      | some digits => ':' :: digits
      | none => []) = _
    cases url.port with
    | none => rfl
    | some port => rfl
  unfold authorityText Authority.text Authority.hostPort
  rw [hport, hhost, Option.getD_some, String.toList_ofList]
  show _ = match url.userinfo with
    | some userinfo => userinfo ++ '@' :: (host.text ++ _)
    | none => host.text ++ _
  cases url.userinfo with
  | none => rfl
  | some userinfo => exact List.append_assoc _ _ _

/-- The text of an `https` URL has its components. -/
theorem hierarchical_components {url : Url} {host : AuthorityHost} (hscheme : url.scheme = "https")
    (hhost : url.hostStr = some (String.ofList host.text))
    (hcredentials : ∀ c ∈ url.username.toList ++ (url.password.getD "").toList, c ∉ ['/', '?', '#'])
    {segments : List (List Char)} (hpath : url.path = String.ofList (Whatwg.pathText segments))
    (hnormal : ∀ s ∈ segments, Whatwg.Normal s) (hquery : ∀ text ∈ url.query, '#' ∉ text.toList) :
    url.components.Hierarchical where
  scheme := by
    refine ⟨"https".toList, by decide, ?_, by simp⟩
    rw [← hscheme]
    rfl
  authority := by
    refine ⟨url.authorityText, rfl, ?_⟩
    rw [authorityText_eq hhost]
    exact Authority.not_delimiter_of_mem_text (not_delimiter_of_mem_userinfo hcredentials)
  path := by
    show ∀ x ∈ url.path.toList, x ∉ ['?', '#']
    rw [hpath, String.toList_ofList]
    exact Whatwg.not_delimiter_of_mem_pathText hnormal
  rooted := by
    show url.path.toList.head?.all (· = '/') = true
    rw [hpath, String.toList_ofList]
    cases segments with
    | nil => rfl
    | cons s segments => rfl
  query := by
    intro query hq
    obtain ⟨text, htext, rfl⟩ := Option.map_eq_some_iff.mp hq
    exact hquery text htext

end Url

/-! ### The upstream URI -/

theorem exists_normalizeRequestPath (path : String) :
    ∃ rest, (normalizeRequestPath path).toList = '/' :: rest := by
  unfold normalizeRequestPath
  split_ifs with hempty hslash
  · exact ⟨[], rfl⟩
  · obtain ⟨rest, hrest⟩ := List.head?_eq_some_iff.mp hslash
    exact ⟨rest, hrest⟩
  · exact ⟨path.toList, String.toList_append⟩

/-- A path that starts with a slash is its own prefix. -/
theorem normalizeBackendPrefix_pathText {segments : List (List Char)} (hne : segments ≠ []) :
    normalizeBackendPrefix (String.ofList (Whatwg.pathText segments)) =
      String.ofList (Whatwg.pathText segments) := by
  obtain ⟨s, rest, rfl⟩ := List.exists_cons_of_ne_nil hne
  have hhead : (String.ofList (Whatwg.pathText (s :: rest))).toList.head? = some '/' := by
    rw [String.toList_ofList]
    rfl
  have hempty : (String.ofList (Whatwg.pathText (s :: rest))).isEmpty = false := by
    rw [← Bool.not_eq_true, String.isEmpty_iff]
    intro h
    rw [h] at hhead
    cases hhead
  unfold normalizeBackendPrefix normalizeRequestPath
  rw [hempty, if_neg Bool.false_ne_true, if_pos hhead, Bool.false_or]
  split_ifs with hroot
  · exact (of_decide_eq_true hroot).symm
  · rfl

namespace RuntimeConfig

/-- The text that is given to `set_path`, on both ways. -/
theorem combinedPath_toList (cfg : RuntimeConfig) (path : String) :
    (if cfg.backendPathPrefix = "/" then normalizeRequestPath path
      else String.ofList (Text.trimEndBy (· = '/') cfg.backendPathPrefix.toList) ++
        normalizeRequestPath path).toList =
      Text.trimEndBy (· = '/') cfg.backendPathPrefix.toList ++ (normalizeRequestPath path).toList := by
  split_ifs with hroot
  · rw [hroot]
    rfl
  · rw [String.toList_append, String.toList_ofList]

variable [Net]

/-- The components of the upstream URI. -/
theorem buildBackendUri_components (hnet : Net.Standard) {cfg : RuntimeConfig} {path : String}
    {query : Option String} {uri : Uri} {host : AuthorityHost} (hscheme : cfg.backendUrl.scheme = "https")
    (hcanonical : cfg.backendUrl.Canonical)
    (hhost : cfg.backendUrl.hostStr = some (String.ofList host.text))
    (huri : cfg.buildBackendUri path query = .ok uri) :
    uri.scheme = some "https" ∧
      uri.authority = some (String.ofList (cfg.backendUrl.authority host).text) ∧
      uri.path = some (String.ofList (Whatwg.pathText (Whatwg.parsePath
        (Text.trimEndBy (· = '/') cfg.backendPathPrefix.toList ++
          (normalizeRequestPath path).toList)))) := by
  rw [← cfg.combinedPath_toList path]
  unfold buildBackendUri at huri
  dsimp only at huri
  generalize (if cfg.backendPathPrefix = "/" then normalizeRequestPath path
    else String.ofList (Text.trimEndBy (· = '/') cfg.backendPathPrefix.toList) ++
      normalizeRequestPath path) = combinedPath at huri ⊢
  have hset := hnet.setPath cfg.backendUrl combinedPath hscheme
  obtain ⟨encoded, hencoded, hhash⟩ := hnet.setQuery (Net.setPath cfg.backendUrl combinedPath) query
    (by rw [hset]; exact hscheme)
  let url : Url :=
    { cfg.backendUrl with
      path := String.ofList (Whatwg.pathText (Whatwg.parsePath combinedPath.toList))
      query := encoded
      fragment := none }
  have hurl :
      { Net.setQuery (Net.setPath cfg.backendUrl combinedPath) query with fragment := none } = url := by
    rw [hencoded, hset]
  have hsome : url.hostStr.isSome := by
    show cfg.backendUrl.hostStr.isSome = true
    rw [hhost]
    rfl
  have hread : Rfc3986.components (Net.urlText url).toList = url.components := by
    rw [hnet.urlText url hscheme hsome, String.toList_ofList]
    exact Rfc3986.components_recompose (Url.hierarchical_components hscheme hhost hcanonical.credentials
      rfl (Whatwg.normal_parsePath _) hhash)
  rw [hurl] at huri
  obtain ⟨huriScheme, huriAuthority, huriPath⟩ := hnet.parseUri _ _ (external_eq_ok.mp huri)
  rw [hread] at huriScheme huriAuthority huriPath
  refine ⟨?_, ?_, ?_⟩
  · rw [huriScheme, ← hscheme]
    show some (String.ofList cfg.backendUrl.scheme.toList) = _
    rw [String.ofList_toList]
  · rw [huriAuthority, ← Url.authorityText_eq hhost]
    rfl
  · have hpath : url.components.path = Whatwg.pathText (Whatwg.parsePath combinedPath.toList) := by
      simp only [url, Url.components, String.toList_ofList]
    rw [hpath] at huriPath
    exact huriPath (Whatwg.pathText_ne_nil (Whatwg.parsePath_ne_nil combinedPath.toList))

/-- The upstream URI has the scheme, the host and the port of the backend URL. -/
theorem sameOrigin_of_buildBackendUri (hnet : Net.Standard) {cfg : RuntimeConfig} {path : String}
    {query : Option String} {uri : Uri} (hscheme : cfg.backendUrl.scheme = "https")
    (hcanonical : cfg.backendUrl.Canonical) (huri : cfg.buildBackendUri path query = .ok uri) :
    uri.SameOrigin cfg.backendUrl := by
  obtain ⟨host, hhost⟩ := hcanonical.host
  obtain ⟨huriScheme, huriAuthority, -⟩ := buildBackendUri_components hnet hscheme hcanonical hhost huri
  have hafter := (cfg.backendUrl.authority host).afterUserinfo_text
  refine ⟨huriScheme.trans (congrArg some hscheme.symm), ?_, ?_⟩
  · unfold Uri.host
    rw [huriAuthority, hhost, Option.map_some, String.toList_ofList, hafter,
      Authority.hostAtStart_hostPort]
    rfl
  · unfold Uri.port
    rw [huriAuthority, Option.bind_some, String.toList_ofList, hafter, Authority.portAfterHost_hostPort]
    show (cfg.backendUrl.port.map (Nat.toDigits 10)).bind parseDigits = cfg.backendUrl.port
    cases cfg.backendUrl.port with
    | none => rfl
    | some port => exact parseDigits_toDigits port

omit [Net] in
/-- Without its trailing slashes, the prefix is a text of normal segments. -/
theorem exists_trimEnd_backendPathPrefix {cfg : RuntimeConfig} (hcanonical : cfg.backendUrl.Canonical)
    (hstart : cfg.backendPathPrefix = normalizeBackendPrefix cfg.backendUrl.path) :
    ∃ base, Text.trimEndBy (· = '/') cfg.backendPathPrefix.toList = Whatwg.pathText base ∧
      ∀ s ∈ base, Whatwg.Normal s := by
  obtain ⟨input, hinput⟩ := hcanonical.path
  have hnormal := Whatwg.normal_parsePath input
  obtain ⟨base, htrim, hbase⟩ :=
    Whatwg.exists_trimEnd_pathText fun s hs => (hnormal s hs).slash_notMem
  refine ⟨base, ?_, fun s hs => hnormal s (hbase.subset hs)⟩
  rw [hstart, hinput, normalizeBackendPrefix_pathText (Whatwg.parsePath_ne_nil input),
    String.toList_ofList, htrim]

/-- The path is under the prefix when the trail of the request path stays under it. -/
theorem under_iff_of_buildBackendUri (hnet : Net.Standard) {cfg : RuntimeConfig} {path : String}
    {query : Option String} {uri : Uri} (hscheme : cfg.backendUrl.scheme = "https")
    (hcanonical : cfg.backendUrl.Canonical)
    (hstart : cfg.backendPathPrefix = normalizeBackendPrefix cfg.backendUrl.path)
    (huri : cfg.buildBackendUri path query = .ok uri) :
    uri.Under cfg.backendPathPrefix ↔ StaysUnder cfg.backendPathPrefix path := by
  obtain ⟨host, hhost⟩ := hcanonical.host
  obtain ⟨-, -, huriPath⟩ := buildBackendUri_components hnet hscheme hcanonical hhost huri
  obtain ⟨base, htrim, hbase⟩ := exists_trimEnd_backendPathPrefix hcanonical hstart
  obtain ⟨rest, hrest⟩ := exists_normalizeRequestPath path
  let reached := (Whatwg.trail (normalizeRequestPath path).toList).startingAt base
  have hparse :
      Whatwg.parsePath (Whatwg.pathText base ++ (normalizeRequestPath path).toList) = reached := by
    dsimp only [reached]
    rw [hrest, Whatwg.parsePath_append hbase]
  have hreached : ∀ s ∈ reached, Whatwg.Normal s := hparse ▸ Whatwg.normal_parsePath _
  have hsplit : ((Whatwg.pathText base).splitOn '/').tail = base := by
    rw [Whatwg.splitOn_pathText fun s hs => (hbase s hs).slash_notMem]
    rfl
  rw [htrim, hparse] at huriPath
  unfold Uri.Under StaysUnder
  rw [huriPath, htrim, hsplit, ← Whatwg.Trail.prefix_startingAt_iff,
    ← Whatwg.pathText_prefix_iff (fun s hs => (hbase s hs).slash_notMem)
      fun s hs => (hreached s hs).slash_notMem]
  constructor
  · rintro ⟨text, htext, hunder⟩
    obtain rfl := Option.some.inj htext
    rwa [String.toList_ofList] at hunder
  · intro hunder
    refine ⟨_, rfl, ?_⟩
    rwa [String.toList_ofList]

end RuntimeConfig

/-! ### One backend with a prefix -/

def encodeHash (query : String) : String :=
  String.ofList (query.toList.flatMap fun c => if c = '#' then ['%', '2', '3'] else [c])

/-- The standards, where one backend URL is known; of a query only `#` is encoded. -/
@[reducible] def standardNet : Net :=
  { sampleNet with
    parseUrl := fun s =>
      if s = "https://backend.example/base" then
        .ok ⟨"https", "", none, some "backend.example", none, "/base", none, none⟩
      else .error "relative URL without a base"
    setPath := fun url path =>
      { url with path := String.ofList (Whatwg.pathText (Whatwg.parsePath path.toList)) }
    setQuery := fun url query => { url with query := query.map encodeHash }
    urlText := fun url => String.ofList url.components.recompose
    parseUri := fun text =>
      let c := Rfc3986.components text.toList
      .ok ⟨c.scheme.map String.ofList, c.authority.map String.ofList, some (String.ofList c.path),
        c.query.map String.ofList⟩ }

theorem standardNet_standard : @Net.Standard standardNet := by
  let _ : Net := standardNet
  refine ⟨?_, fun _ _ _ => rfl, ?_, fun _ _ _ => rfl, ?_⟩
  · intro s url hparse _
    have hurl : (if s = "https://backend.example/base" then
        (.ok ⟨"https", "", none, some "backend.example", none, "/base", none, none⟩ : Except String Url)
        else .error "relative URL without a base") = .ok url := hparse
    split_ifs at hurl
    obtain rfl := Except.ok.inj hurl
    exact ⟨⟨.name "backend.example".toList (by simp), by decide⟩, nofun, "/base".toList, by decide⟩
  · intro url query _
    refine ⟨_, rfl, ?_⟩
    intro text htext hmem
    obtain ⟨raw, -, rfl⟩ := Option.map_eq_some_iff.mp htext
    unfold encodeHash at hmem
    rw [String.toList_ofList] at hmem
    obtain ⟨c, -, hc⟩ := List.mem_flatMap.mp hmem
    split_ifs at hc with hhash
    · exact absurd hc (by decide)
    · exact hhash (List.mem_singleton.mp hc).symm
  · intro text uri hparse
    obtain rfl := Except.ok.inj hparse
    exact ⟨rfl, rfl, fun _ => rfl⟩

/-- The default file with a prefix. -/
def prefixSettings : RuntimeSettingsFile :=
  { RuntimeSettingsFile.default with backendUrl := "https://backend.example/base" }

def prefixConfig : RuntimeConfig :=
  { sampleConfig with
    backendUrl := ⟨"https", "", none, some "backend.example", none, "/base", none, none⟩
    backendPathPrefix := "/base" }

theorem prefixSettings_accepted :
    @RuntimeSettingsFile.toRuntimeConfig standardNet sampleGlob sampleFs prefixSettings [] =
      .ok prefixConfig := rfl

theorem buildBackendUri_hello :
    @RuntimeConfig.buildBackendUri standardNet prefixConfig "/hello" (some "a=1") =
      .ok ⟨some "https", some "backend.example", some "/base/hello", some "a=1"⟩ := by
  decide

/-! ### Confinement -/

/-- The request is confined to the prefix exactly when its path stays under it. -/
theorem buildBackendUri_confined_iff [Net] [Glob] (hnet : Net.Standard) {fs : Fs}
    {settings : RuntimeSettingsFile} {transformRules : List TransformRuleFile} {cfg : RuntimeConfig}
    (hcfg : settings.toRuntimeConfig fs transformRules = .ok cfg) {path : String} {query : Option String}
    {uri : Uri} (huri : cfg.buildBackendUri path query = .ok uri) :
    uri.SameOrigin cfg.backendUrl ∧ uri.Under cfg.backendPathPrefix ↔
      StaysUnder cfg.backendPathPrefix path := by
  have haccepted := settings.acceptedAs cfg hcfg
  have hcanonical := hnet.parsed _ _ haccepted.parsed haccepted.https
  have horigin := cfg.sameOrigin_of_buildBackendUri hnet haccepted.https hcanonical huri
  have hunder :=
    cfg.under_iff_of_buildBackendUri hnet haccepted.https hcanonical haccepted.pathPrefix huri
  exact ⟨fun h => hunder.mp h.2, fun h => ⟨horigin, hunder.mpr h⟩⟩

example : ¬StaysUnder "/base/" "x/%2e%2E\\..\\admin" ∧ StaysUnder "/a/b" "/../b/c" := by decide

theorem hello_confined :
    Uri.SameOrigin ⟨some "https", some "backend.example", some "/base/hello", some "a=1"⟩
        prefixConfig.backendUrl ∧
      Uri.Under ⟨some "https", some "backend.example", some "/base/hello", some "a=1"⟩
        prefixConfig.backendPathPrefix :=
  (@buildBackendUri_confined_iff standardNet sampleGlob standardNet_standard _ _ _ _
    prefixSettings_accepted _ _ _ buildBackendUri_hello).mpr (by decide)

/-- With the prefix `/base`, a request for `/../admin` is sent to `/admin`. -/
theorem dot_segment_leaves_prefix :
    @Net.Standard standardNet ∧
      @RuntimeSettingsFile.toRuntimeConfig standardNet sampleGlob sampleFs prefixSettings [] =
        .ok prefixConfig ∧
      ∃ uri, @RuntimeConfig.buildBackendUri standardNet prefixConfig "/../admin" none = .ok uri ∧
        uri.path = some "/admin" ∧ ¬uri.Under prefixConfig.backendPathPrefix := by
  refine ⟨standardNet_standard, prefixSettings_accepted, ⟨some "https", some "backend.example",
    some "/admin", none⟩, by decide, rfl, ?_⟩
  rintro ⟨path, hpath, hunder⟩
  obtain rfl := Option.some.inj hpath
  exact absurd hunder (by decide)

end KidProxy
