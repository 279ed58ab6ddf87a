import KidProxy.Config
import KidProxy.Lib.Json
import KidProxy.Lib.SortedMap
import Mathlib.Algebra.Group.Int.Defs
import Mathlib.Data.String.Basic

/-!
# Headers — what the capture reads from headers, and the hop-by-hop headers

The helper functions of the capture: the authority of a request and the host check, the JSON of
headers and cookies, the forwarding headers, the stripping of hop-by-hop headers and the answers the
proxy generates itself.
-/

namespace KidProxy

/-! ### Header values -/

/-- A value that is not visible ASCII is shown in hexadecimal. -/
def stringifyHeaderValue (value : HeaderValue) : String :=
  match value.toStr with
  | some text => String.ofList text
  | none => "0x" ++ Text.hexEncode value.bytes

def headerValue (headers : HeaderMap) (name : HeaderName) : Option String :=
  (headers.get name).map stringifyHeaderValue

/-- The number that decimal digits write; there must be a digit. -/
def parseDigits (cs : List Char) : Option ℕ :=
  if !cs.isEmpty && cs.all Char.isDigit then some (Nat.ofDigitChars 10 cs 0) else none

theorem parseDigits_toDigits (n : ℕ) : parseDigits (Nat.toDigits 10 n) = some n := by
  have hne : (Nat.toDigits 10 n).isEmpty = false := by simp
  unfold parseDigits
  rw [hne, Text.all_isDigit_toDigits, Nat.ofDigitChars_ten_toDigits]
  rfl

/-- `parse::<i64>`. -/
def parseI64 (cs : List Char) : Option ℤ :=
  let value : Option ℤ := match cs with
    | '-' :: digits => (parseDigits digits).map fun n => -(n : ℤ)
    | '+' :: digits => (parseDigits digits).map fun n => (n : ℤ)
    | digits => (parseDigits digits).map fun n => (n : ℤ)
  value.filter fun z => -(2 ^ 63) ≤ z && z < 2 ^ 63

def parseContentLength (headers : HeaderMap) : Option ℤ :=
  ((headers.get .contentLength).bind HeaderValue.toStr).bind parseI64

/-- `serialize_headers`: the values of each logged header, in order. -/
def serializeHeaders (headers : HeaderMap) (policy : HeaderLogPolicy) : String :=
  let jsonHeaders : SortedMap String (List String) := headers.entries.foldl
    (fun m e =>
      let normalized := String.ofList (Text.asciiLower e.1.text.toList)
      if policy.allows normalized then
        m.upsert normalized fun values => values.getD [] ++ [stringifyHeaderValue e.2]
      else m) SortedMap.empty
  (Json.obj (jsonHeaders.entries.map fun e => (e.1, .arr (e.2.map .str)))).text

/-! ### Cookies -/

def parseCookies (value : Option HeaderValue) : Option String :=
  (value.bind HeaderValue.toStr).map fun raw =>
    let cookies : SortedMap String String := (raw.splitOn ';').foldl
      (fun m segment =>
        match Text.splitOnce '=' (Text.trim segment) with
        | some (name, val) =>
          m.insert (String.ofList (Text.trim name)) (String.ofList (Text.trim val))
        | none => m) SortedMap.empty
    (Json.obj (cookies.entries.map fun e => (e.1, .str e.2))).text

/-- `parse_set_cookie_value`. -/
def parseSetCookieValue (raw : List Char) : Json :=
  let first := (raw.splitOn ';').headD []
  let (name, value) := (Text.splitOnce '=' first).getD (first, [])
  let attrs : SortedMap String Json := (raw.splitOn ';').tail.foldl
    (fun m attr =>
      let trimmed := Text.trim attr
      match Text.splitOnce '=' trimmed with
      | some (key, val) =>
        m.insert (String.ofList (Text.asciiLower key)) (.str (String.ofList val))
      | none =>
        if trimmed.isEmpty then m else m.insert (String.ofList (Text.asciiLower trimmed)) (.bool true))
    SortedMap.empty
  .obj [("attributes", .obj attrs.entries), ("name", .str (String.ofList (Text.trim name))),
    ("raw", .str (String.ofList raw)), ("value", .str (String.ofList (Text.trim value)))]

def parseSetCookies (headers : HeaderMap) : Option String :=
  let items := ((headers.getAll .setCookie).filterMap HeaderValue.toStr).map parseSetCookieValue
  if items.isEmpty then none else some (Json.arr items).text

/-! ### Forwarding headers -/

/-- The value of the first `;`-separated part of `Forwarded` that starts with the parameter. -/
def forwardedParameter (headers : HeaderMap) (parameter : String) : Option (List Char) :=
  match (headers.get .forwarded).bind HeaderValue.toStr with
  | some forwarded =>
    (forwarded.splitOn ';').findSome? fun part =>
      Text.stripPrefix parameter.toList (Text.trim part)
  | none => none

def forwardedClientIp (headers : HeaderMap) : Option String :=
  match forwardedParameter headers "for=" with
  | some value =>
    some (String.ofList
      (Text.trimBy (· = ']') (Text.trimBy (· = '[') (Text.trimBy (· = '"') value))))
  | none =>
    ((headers.get .xForwardedFor).bind HeaderValue.toStr).map fun value =>
      String.ofList (Text.trim ((value.splitOn ',').headD []))

def forwardedProto (headers : HeaderMap) : Option String :=
  match forwardedParameter headers "proto=" with
  | some value => some (String.ofList (Text.trimBy (· = '"') value))
  | none => ((headers.get .xForwardedProto).bind HeaderValue.toStr).map String.ofList

def formatHttpVersion : Version → String
  | .http09 => "HTTP/0.9"
  | .http10 => "HTTP/1.0"
  | .http11 => "HTTP/1.1"
  | .http2 => "HTTP/2"
  | .http3 => "HTTP/3"

/-! ### The host check -/

def requestAuthority {B : Type} (req : Request B) : Option String :=
  match req.uri.authority with
  | some authority => some authority
  | none => headerValue req.headers .host

def authorityHost (authority : List Char) : Option (List Char) :=
  let value := match Text.rsplitOnce '@' authority with
    | some (_, value) => value
    | none => authority
  match Text.splitOnce ':' value with
  | none => some (Text.asciiLower authority)
  | some (host, _) => some (Text.asciiLower host)

def hostMatchesFrontend {B : Type} (req : Request B) (frontendDomain : String) : Bool :=
  match (requestAuthority req).bind fun authority => authorityHost authority.toList with
  | some host => Text.eqIgnoreAsciiCase host frontendDomain.toList
  | none => false

example : authorityHost "user@example.test:8443".toList = some "example.test".toList := by decide

/-! ### Hop-by-hop headers -/

/-- The names listed by the first `Connection` field line. -/
def connectionTokens (headers : HeaderMap) : List (List Char) :=
  match (headers.get .connection).bind HeaderValue.toStr with
  | some value =>
    ((value.splitOn ',').map fun token => Text.asciiLower (Text.trim token)).filter
      fun token => !token.isEmpty
  | none => []

/-- The headers that end at each hop. -/
def hopByHop : List HeaderName :=
  [.connection, .proxyAuthenticate, .proxyAuthorization, .te, .trailer, .transferEncoding, .upgrade,
   .keepAlive]

def removeToken (headers : HeaderMap) (token : List Char) : HeaderMap :=
  match HeaderName.fromChars token with
  | some name => headers.remove name
  | none => headers

def stripHopByHopHeaders (headers : HeaderMap) : HeaderMap :=
  let headers := (connectionTokens headers).foldl removeToken headers
  hopByHop.foldl MultiMap.remove headers

/-! ### Generated answers -/

def HeaderValue.textPlain : HeaderValue := ⟨Text.utf8 "text/plain; charset=utf-8".toList, by decide⟩

def HeaderValue.identity : HeaderValue := ⟨Text.utf8 "identity".toList, by decide⟩

def makeGatewayError (status : StatusCode) (message : String) : Response Body where
  status := status
  version := .http11
  headers := MultiMap.empty.insert .contentType .textPlain
  body := .fromBytes (Text.utf8 message.toList)

end KidProxy
