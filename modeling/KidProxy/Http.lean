import KidProxy.Lib.MultiMap
import KidProxy.Lib.Text

/-!
# Http — the HTTP types the proxy works on

Header names are lower-case tokens and header values have no control bytes, as the types of the
`http` layer guarantee.  A body is what it answers to successive polls.
-/

namespace KidProxy

/-! ### Headers -/

/-- The characters of an HTTP token, upper-case letters excepted. -/
def isNameChar (c : Char) : Bool :=
  ('a' ≤ c && c ≤ 'z') || ('0' ≤ c && c ≤ '9') || "!#$%&'*+-.^_`|~".toList.contains c

theorem toNat_of_isNameChar {c : Char} (h : isNameChar c = true) : 33 ≤ c.toNat ∧ c.toNat ≤ 126 := by
  unfold isNameChar at h
  rw [Bool.or_eq_true, Bool.or_eq_true, Bool.and_eq_true, Bool.and_eq_true] at h
  have hle : ∀ a b : Char, decide (a ≤ b) = true → a.toNat ≤ b.toNat := fun a b hab => of_decide_eq_true hab
  rcases h with (⟨hlow, hhigh⟩ | ⟨hlow, hhigh⟩) | hmem
  · have hlow : 97 ≤ c.toNat := hle _ _ hlow
    have hhigh : c.toNat ≤ 122 := hle _ _ hhigh
    omega
  · have hlow : 48 ≤ c.toNat := hle _ _ hlow
    have hhigh : c.toNat ≤ 57 := hle _ _ hhigh
    omega
  · have hall : ("!#$%&'*+-.^_`|~".toList.all fun c => decide (33 ≤ c.toNat ∧ c.toNat ≤ 126)) = true := by
      decide
    exact of_decide_eq_true (List.all_eq_true.mp hall c (List.contains_iff_mem.mp hmem))

/-- A header name, in lower case. -/
structure HeaderName where
  text : String
  valid : (!text.toList.isEmpty && text.toList.all isNameChar) = true
  deriving DecidableEq

namespace HeaderName

/-- `HeaderName::from_bytes`. -/
def fromChars (cs : List Char) : Option HeaderName :=
  let text := String.ofList (Text.asciiLower cs)
  if h : (!text.toList.isEmpty && text.toList.all isNameChar) = true then some ⟨text, h⟩ else none

def acceptEncoding : HeaderName := ⟨"accept-encoding", by decide⟩
def connection : HeaderName := ⟨"connection", by decide⟩
def contentEncoding : HeaderName := ⟨"content-encoding", by decide⟩
def contentLength : HeaderName := ⟨"content-length", by decide⟩
def contentType : HeaderName := ⟨"content-type", by decide⟩
def cookie : HeaderName := ⟨"cookie", by decide⟩
def forwarded : HeaderName := ⟨"forwarded", by decide⟩
def host : HeaderName := ⟨"host", by decide⟩
def keepAlive : HeaderName := ⟨"keep-alive", by decide⟩
def proxyAuthenticate : HeaderName := ⟨"proxy-authenticate", by decide⟩
def proxyAuthorization : HeaderName := ⟨"proxy-authorization", by decide⟩
def setCookie : HeaderName := ⟨"set-cookie", by decide⟩
def te : HeaderName := ⟨"te", by decide⟩
def trailer : HeaderName := ⟨"trailer", by decide⟩
def transferEncoding : HeaderName := ⟨"transfer-encoding", by decide⟩
def upgrade : HeaderName := ⟨"upgrade", by decide⟩
def xForwardedFor : HeaderName := ⟨"x-forwarded-for", by decide⟩
def xForwardedProto : HeaderName := ⟨"x-forwarded-proto", by decide⟩

end HeaderName

/-- The bytes a header value may hold: no control bytes except the tab. -/
def isValueByte (b : UInt8) : Bool := (32 ≤ b && b != 127) || b == 9

/-- The bytes that `to_str` accepts. -/
def isVisibleAscii (b : UInt8) : Bool := (32 ≤ b && b < 127) || b == 9

structure HeaderValue where
  bytes : List UInt8
  valid : bytes.all isValueByte = true
  deriving DecidableEq

namespace HeaderValue

/-- `HeaderValue::from_str`. -/
def fromStr (cs : List Char) : Option HeaderValue :=
  if h : (Text.utf8 cs).all isValueByte = true then some ⟨Text.utf8 cs, h⟩ else none

/-- `HeaderValue::to_str`. -/
def toStr (v : HeaderValue) : Option (List Char) :=
  if v.bytes.all isVisibleAscii then some (v.bytes.map fun b => Char.ofNat b.toNat) else none

theorem isValueByte_of_isVisibleAscii {b : UInt8} (h : isVisibleAscii b = true) :
    isValueByte b = true := by
  simp only [isVisibleAscii, isValueByte, Bool.or_eq_true, Bool.and_eq_true, decide_eq_true_eq,
    bne_iff_ne] at h ⊢
  rcases h with ⟨hlow, hhigh⟩ | htab
  · exact .inl ⟨hlow, fun heq => by rw [heq] at hhigh; exact absurd hhigh (by decide)⟩
  · exact .inr htab

theorem toNat_of_isVisibleAscii {b : UInt8} (h : isVisibleAscii b = true) :
    32 ≤ b.toNat ∧ b.toNat < 127 ∨ b.toNat = 9 := by
  simp only [isVisibleAscii, Bool.or_eq_true, Bool.and_eq_true, decide_eq_true_eq, beq_iff_eq] at h
  rcases h with ⟨hlow, hhigh⟩ | htab
  · exact .inl ⟨hlow, hhigh⟩
  · exact .inr (congrArg UInt8.toNat htab)

/-- A visible byte is read as the character with its number. -/
theorem toNat_ofNat_of_isVisibleAscii {b : UInt8} (h : isVisibleAscii b = true) :
    (Char.ofNat b.toNat).toNat = b.toNat := by
  have hbyte := toNat_of_isVisibleAscii h
  exact Text.val_ofNat (.inl (by omega))

theorem isVisibleAscii_ofNat {n : ℕ} (hlow : 32 ≤ n) (hhigh : n < 127) :
    isVisibleAscii (UInt8.ofNat n) = true := by
  have hn : (UInt8.ofNat n).toNat = n := by
    rw [UInt8.toNat_ofNat']
    omega
  simp only [isVisibleAscii, Bool.or_eq_true, Bool.and_eq_true, decide_eq_true_eq]
  refine .inl ⟨UInt8.le_iff_toNat_le.mpr ?_, UInt8.lt_iff_toNat_lt.mpr ?_⟩
  · rw [hn]
    exact hlow
  · rw [hn]
    exact hhigh

/-- A value made of visible ASCII reads back. -/
theorem toStr_fromStr {cs : List Char} (h : ∀ c ∈ cs, 32 ≤ c.toNat ∧ c.toNat < 127) :
    ∃ v, fromStr cs = some v ∧ v.toStr = some cs := by
  have hbytes : Text.utf8 cs = cs.map fun c => UInt8.ofNat c.toNat :=
    Text.utf8_ascii fun c hc => Nat.lt_trans (h c hc).2 (by decide)
  have hvisible : (Text.utf8 cs).all isVisibleAscii = true := by
    rw [hbytes, List.all_map]
    exact List.all_eq_true.mpr fun c hc => isVisibleAscii_ofNat (h c hc).1 (h c hc).2
  have hvalid : (Text.utf8 cs).all isValueByte = true :=
    List.all_eq_true.mpr fun b hb => isValueByte_of_isVisibleAscii (List.all_eq_true.mp hvisible b hb)
  refine ⟨⟨Text.utf8 cs, hvalid⟩, by rw [fromStr, dif_pos hvalid], ?_⟩
  unfold toStr
  rw [if_pos hvisible]
  show some ((Text.utf8 cs).map fun b => Char.ofNat b.toNat) = some cs
  rw [hbytes, List.map_map]
  refine congrArg some ((List.map_congr_left fun c hc => ?_).trans (List.map_id cs))
  have hn : (UInt8.ofNat c.toNat).toNat = c.toNat := by
    have := (h c hc).2
    rw [UInt8.toNat_ofNat']
    omega
  show Char.ofNat (UInt8.ofNat c.toNat).toNat = c
  rw [hn, Char.ofNat_toNat]

end HeaderValue

/-- The headers of a message.  The map promises the order of the values of one name only; here the
names keep their order too. -/
abbrev HeaderMap := MultiMap HeaderName HeaderValue

/-! ### Status, version and target -/

inductive Version
  | http09
  | http10
  | http11
  | http2
  | http3
  deriving DecidableEq, Repr

/-- A status code, `as_u16`. -/
abbrev StatusCode := ℕ

namespace StatusCode

def noContent : StatusCode := 204
def notModified : StatusCode := 304
def badRequest : StatusCode := 400
def misdirectedRequest : StatusCode := 421
def badGateway : StatusCode := 502
def gatewayTimeout : StatusCode := 504

/-- The registered reason phrases. -/
def reasons : List (StatusCode × String) :=
  [(100, "Continue"), (101, "Switching Protocols"), (102, "Processing"), (103, "Early Hints"),
   (200, "OK"), (201, "Created"), (202, "Accepted"), (203, "Non Authoritative Information"),
   (204, "No Content"), (205, "Reset Content"), (206, "Partial Content"), (207, "Multi-Status"),
   (208, "Already Reported"), (226, "IM Used"), (300, "Multiple Choices"),
   (301, "Moved Permanently"), (302, "Found"), (303, "See Other"), (304, "Not Modified"),
   (305, "Use Proxy"), (307, "Temporary Redirect"), (308, "Permanent Redirect"),
   (400, "Bad Request"), (401, "Unauthorized"), (402, "Payment Required"), (403, "Forbidden"),
   (404, "Not Found"), (405, "Method Not Allowed"), (406, "Not Acceptable"),
   (407, "Proxy Authentication Required"), (408, "Request Timeout"), (409, "Conflict"),
   (410, "Gone"), (411, "Length Required"), (412, "Precondition Failed"),
   (413, "Payload Too Large"), (414, "URI Too Long"), (415, "Unsupported Media Type"),
   (416, "Range Not Satisfiable"), (417, "Expectation Failed"), (418, "I'm a teapot"),
   (421, "Misdirected Request"), (422, "Unprocessable Entity"), (423, "Locked"),
   (424, "Failed Dependency"), (425, "Too Early"), (426, "Upgrade Required"),
   (428, "Precondition Required"), (429, "Too Many Requests"),
   (431, "Request Header Fields Too Large"), (451, "Unavailable For Legal Reasons"),
   (500, "Internal Server Error"), (501, "Not Implemented"), (502, "Bad Gateway"),
   (503, "Service Unavailable"), (504, "Gateway Timeout"), (505, "HTTP Version Not Supported"),
   (506, "Variant Also Negotiates"), (507, "Insufficient Storage"), (508, "Loop Detected"),
   (510, "Not Extended"), (511, "Network Authentication Required")]

def canonicalReason (status : StatusCode) : Option String := reasons.lookup status

end StatusCode

/-- A request target in the parts the proxy reads. -/
structure Uri where
  scheme : Option String
  authority : Option String
  path : Option String
  query : Option String
  deriving DecidableEq, Repr

/-! ### Bodies -/

inductive Frame
  | data (bytes : List UInt8)
  | trailers (headers : HeaderMap)
  deriving DecidableEq

/-- `Frame::data_ref`. -/
def Frame.dataRef : Frame → Option (List UInt8)
  | .data bytes => some bytes
  | .trailers _ => none

/-- What `poll_frame` answers: `Pending`, `Some(Ok(frame))`, `Some(Err(err))` or `None`. -/
inductive Poll
  | pending
  | frame (frame : Frame)
  | err (error : String)
  | done
  deriving DecidableEq

/-- The two methods of `http_body::Body` that the proxy forwards and observes. -/
class StreamingBody (B : Type) where
  pollFrame : B → Poll × B
  isEndStream : B → Bool

/-- A body as its answers to the coming polls, each with what `is_end_stream` says after it; past
the last one it answers `None`. -/
structure Body where
  answers : List (Poll × Bool)
  /-- What `is_end_stream` says now. -/
  atEnd : Bool
  deriving DecidableEq

namespace Body

def pollFrame (body : Body) : Poll × Body :=
  match body.answers with
  | [] => (.done, body)
  | (poll, atEnd) :: answers => (poll, ⟨answers, atEnd⟩)

instance : StreamingBody Body := ⟨pollFrame, Body.atEnd⟩

/-- `Body::from(bytes)`: one data frame, or no frame at all when there are no bytes. -/
def fromBytes (bytes : List UInt8) : Body :=
  ⟨if bytes.isEmpty then [] else [(.frame (.data bytes), true)], bytes.isEmpty⟩

/-- The bytes of the data frames up to the end, and the error that it came with. -/
def readFrom : List (Poll × Bool) → List UInt8 × Option String
  | [] => ([], none)
  | (.pending, _) :: answers => readFrom answers
  | (.frame (.data bytes), _) :: answers => (readFrom answers).map (bytes ++ ·) id
  | (.frame (.trailers _), _) :: answers => readFrom answers
  | (.err err, _) :: _ => ([], some err)
  | (.done, _) :: _ => ([], none)

def readAll (body : Body) : List UInt8 × Option String := readFrom body.answers

/-- `body.collect().await`, then `to_bytes`; the error is the text of `CollectError`. -/
def collect (body : Body) : Except String (List UInt8) :=
  match body.readAll with
  | (bytes, none) => .ok bytes
  | (bytes, some err) => .error s!"body collect failed after {bytes.length} bytes: {err}"

theorem collect_eq_ok {body : Body} {bytes : List UInt8} :
    body.collect = .ok bytes ↔ body.readAll = (bytes, none) := by
  unfold collect
  rcases body.readAll with ⟨read, _ | err⟩
  · exact ⟨fun h => by rw [Except.ok.inj h], fun h => by rw [(Prod.mk.inj h).1]⟩
  · exact ⟨nofun, nofun⟩

@[simp] theorem collect_fromBytes (bytes : List UInt8) : (fromBytes bytes).collect = .ok bytes := by
  cases bytes <;> simp [fromBytes, collect, readAll, readFrom]

end Body

/-! ### Messages -/

structure SocketAddr where
  ip : String
  port : ℕ
  deriving DecidableEq, Repr

/-- `SocketInfo` of the accepted connection. -/
structure SocketInfo where
  peerAddr : SocketAddr
  localAddr : Option SocketAddr
  deriving DecidableEq, Repr

structure FrontendTlsMetadata where
  version : Option String
  cipherSuite : Option String
  alpn : Option String
  sni : Option String
  ja3 : Option String
  ja4 : Option String
  deriving DecidableEq, Repr

/-- A request with the connection data its extensions carry. -/
structure Request (B : Type) where
  method : String
  uri : Uri
  version : Version
  headers : HeaderMap
  socketInfo : Option SocketInfo
  frontendTls : FrontendTlsMetadata
  body : B

structure Response (B : Type) where
  status : StatusCode
  version : Version
  headers : HeaderMap
  body : B

end KidProxy
