import KidProxy.Error
import KidProxy.Http
import KidProxy.Lib.Replace
import KidProxy.Lib.Utf8

/-!
# Transform — compiled response transforms

The rules of the config file, their compilation, and the two loops that apply them to a response:
`applyUntilBody` on the headers alone, up to the first matching rule that needs the body, and
`applyWithBody` from there on.  A function that takes `&mut` headers or body answers with their last
value, also when it fails.
-/

namespace KidProxy

/-! ### The rules of the config file -/

inductive TransformMatcherFile
  | urlGlob (pattern : String)
  | contentTypeGlob (pattern : String)
  | everything
  deriving DecidableEq, Repr

inductive TransformActionFile
  | replace (fromText toText : String)
  deriving DecidableEq, Repr

inductive TransformTargetFile
  | everything
  | body
  | allHeaders
  | header (name : String)
  | cookies
  deriving DecidableEq, Repr

structure TransformRuleFile where
  matcher : TransformMatcherFile
  action : TransformActionFile
  target : TransformTargetFile
  stop : Bool
  deriving DecidableEq, Repr

/-! ### Compiled rules -/

/-- `glob::Pattern`. -/
structure Pattern where
  original : String
  deriving DecidableEq, Repr

/-- The `glob` crate. -/
class Glob where
  new : String → Except String Pattern
  isMatch : Pattern → String → Bool

inductive TransformMatcher
  | urlGlob (pattern : Pattern)
  | contentTypeGlob (pattern : Pattern)
  | everything

/-- Compilation refuses an empty `fromText`. -/
inductive TransformAction
  | replace (fromText toText : String) (nonempty : fromText.toList ≠ [])

inductive TransformTarget
  | everything
  | body
  | allHeaders
  | header (name : HeaderName)
  | cookies

structure TransformRule where
  matcher : TransformMatcher
  action : TransformAction
  target : TransformTarget
  stop : Bool

structure TransformConfig where
  transforms : List TransformRule

inductive PrebufferDisposition
  | stream
  | bufferFrom (index : ℕ)
  deriving DecidableEq, Repr

structure PrebufferOutcome where
  disposition : PrebufferDisposition
  headersChanged : Bool
  deriving DecidableEq, Repr

structure ApplyOutcome where
  headersChanged : Bool
  bodyChanged : Bool
  deriving DecidableEq, Repr

structure RuleApplyOutcome where
  triggered : Bool
  headersChanged : Bool
  bodyChanged : Bool
  deriving DecidableEq, Repr

/-- `request_url`: the path, with the query unless it is empty. -/
def requestUrl (path : String) : Option String → String
  | some query => if query.isEmpty then path else path ++ "?" ++ query
  | none => path

def normalizedContentType (headers : HeaderMap) : Option String :=
  match (headers.get .contentType).bind HeaderValue.toStr with
  | none => none
  | some value =>
    let essence := Text.asciiLower (Text.trim ((value.splitOn ';').headD []))
    if essence.isEmpty then none else some (String.ofList essence)

section Compile

variable [Glob]

/-- `TransformRule::try_from`. -/
def TransformRule.tryFrom (value : TransformRuleFile) : Except AnyError TransformRule := do
  let matcher ← match value.matcher with
    | .urlGlob pattern =>
      match Glob.new pattern with
      | .ok p => pure (.urlGlob p)
      | .error err => throw ((AnyError.msg err).context s!"invalid url_glob {pattern}")
    | .contentTypeGlob pattern =>
      match Glob.new (String.ofList (Text.asciiLower pattern.toList)) with
      | .ok p => pure (.contentTypeGlob p)
      | .error err => throw ((AnyError.msg err).context s!"invalid content_type_glob {pattern}")
    | .everything => pure .everything
  let action ← match value.action with
    | .replace fromText toText =>
      if h : fromText.toList = [] then
        throw (AnyError.msg "replace transform requires a non-empty from value")
      else pure (TransformAction.replace fromText toText h)
  let target ← match value.target with
    | .everything => pure .everything
    | .body => pure .body
    | .allHeaders => pure .allHeaders
    | .header name =>
      let normalized := Text.asciiLower (Text.trim name.toList)
      if normalized.isEmpty then throw (AnyError.msg "header target requires a header name")
      else match HeaderName.fromChars normalized with
        | some headerName => pure (.header headerName)
        | none =>
          throw ((AnyError.msg "invalid HTTP header name").context s!"invalid header target name {name}")
    | .cookies => pure .cookies
  return { matcher, action, target, stop := value.stop }

def TransformConfig.compile (rules : List TransformRuleFile) : Except AnyError TransformConfig := do
  let transforms ← rules.mapM TransformRule.tryFrom
  return { transforms }

end Compile

/-! ### One rule -/

namespace TransformRule

/-- `TransformRule::matches`. -/
def ruleMatches [Glob] (rule : TransformRule) (requestUrl : String) (headers : HeaderMap) : Bool :=
  match rule.matcher with
  | .urlGlob pattern => Glob.isMatch pattern requestUrl
  | .contentTypeGlob pattern =>
    match normalizedContentType headers with
    | some value => Glob.isMatch pattern value
    | none => false
  | .everything => true

def requiresBody (rule : TransformRule) : Bool :=
  match rule.target with
  | .body | .everything => true
  | .allHeaders | .header _ | .cookies => false

def replaceText (rule : TransformRule) (input : List Char) : List Char :=
  match rule.action with
  | .replace fromText toText _ => Replace.replaceAll fromText.toList toText.toList input

/-- The collecting loop of `apply_selected_headers`: the entries to write back and whether a selected
value changed. -/
def rewriteEntries (rule : TransformRule) (selector : HeaderName → Bool) :
    List (HeaderName × HeaderValue) → Except AnyError (List (HeaderName × HeaderValue) × Bool)
  | [] => .ok ([], false)
  | (name, value) :: rest =>
    if selector name then
      match value.toStr with
      | none => .error ((AnyError.msg "failed to convert header to a str").context
          s!"response header {name.text} is not valid text")
      | some current =>
        match HeaderValue.fromStr (rule.replaceText current) with
        | none => .error ((AnyError.msg "failed to parse header value").context
            s!"rewritten response header {name.text} is invalid")
        | some updated =>
          match rule.rewriteEntries selector rest with
          | .error err => .error err
          | .ok (entries, changed) =>
            .ok ((name, updated) :: entries, rule.replaceText current != current || changed)
    else
      match rule.rewriteEntries selector rest with
      | .error err => .error err
      | .ok (entries, changed) => .ok ((name, value) :: entries, changed)

/-- An error leaves the headers as they are: they are only cleared after the loop. -/
def applySelectedHeaders (rule : TransformRule) (headers : HeaderMap) (selector : HeaderName → Bool) :
    Except AnyError Bool × HeaderMap :=
  match rule.rewriteEntries selector headers.entries with
  | .error err => (.error err, headers)
  | .ok (entries, changed) =>
    (.ok changed,
      if changed then entries.foldl (fun m e => m.append e.1 e.2) MultiMap.empty else headers)

def applyHeaders (rule : TransformRule) (headers : HeaderMap) : Except AnyError Bool × HeaderMap :=
  match rule.target with
  | .everything => rule.applySelectedHeaders headers fun _ => true
  | .body => (.ok false, headers)
  | .allHeaders => rule.applySelectedHeaders headers fun _ => true
  | .header name => rule.applySelectedHeaders headers fun current => current = name
  | .cookies => rule.applySelectedHeaders headers fun current => current = .setCookie

def applyBody (rule : TransformRule) (body : List UInt8) : Bool × List UInt8 :=
  let text := Utf8.fromUtf8Lossy body
  let updated := rule.replaceText text
  if updated = text then (false, body) else (true, Text.utf8 updated)

def apply (rule : TransformRule) (headers : HeaderMap) (body : List UInt8) :
    Except AnyError RuleApplyOutcome × HeaderMap × List UInt8 :=
  match rule.applyHeaders headers with
  | (.error err, headers) => (.error err, headers, body)
  | (.ok headersChanged, headers) =>
    let (bodyChanged, body) := match rule.target with
      | .everything | .body => rule.applyBody body
      | .allHeaders | .header _ | .cookies => (false, body)
    (.ok { triggered := headersChanged || bodyChanged, headersChanged, bodyChanged }, headers, body)

end TransformRule

/-! ### The two loops -/

namespace TransformConfig

variable [Glob]

/-- The loop of `apply_until_body`; `index` is the position of the next rule. -/
def applyUntilBodyFrom (requestUrl : String) : List TransformRule → ℕ → Bool → HeaderMap →
    Except AnyError PrebufferOutcome × HeaderMap
  | [], _, headersChanged, headers => (.ok ⟨.stream, headersChanged⟩, headers)
  | rule :: rules, index, headersChanged, headers =>
    if !rule.ruleMatches requestUrl headers then
      applyUntilBodyFrom requestUrl rules (index + 1) headersChanged headers
    else if rule.requiresBody then (.ok ⟨.bufferFrom index, headersChanged⟩, headers)
    else match rule.applyHeaders headers with
      | (.error err, headers) => (.error err, headers)
      | (.ok triggered, headers) =>
        if triggered && rule.stop then (.ok ⟨.stream, headersChanged || triggered⟩, headers)
        else applyUntilBodyFrom requestUrl rules (index + 1) (headersChanged || triggered) headers

def applyUntilBody (cfg : TransformConfig) (requestUrl : String) (headers : HeaderMap) :
    Except AnyError PrebufferOutcome × HeaderMap :=
  applyUntilBodyFrom requestUrl cfg.transforms 0 false headers

/-- The loop of `apply_with_body`. -/
def applyWithBodyFrom (requestUrl : String) : List TransformRule → ApplyOutcome → HeaderMap →
    List UInt8 → Except AnyError ApplyOutcome × HeaderMap × List UInt8
  | [], outcome, headers, body => (.ok outcome, headers, body)
  | rule :: rules, outcome, headers, body =>
    if !rule.ruleMatches requestUrl headers then
      applyWithBodyFrom requestUrl rules outcome headers body
    else match rule.apply headers body with
      | (.error err, headers, body) => (.error err, headers, body)
      | (.ok triggered, headers, body) =>
        let outcome : ApplyOutcome := ⟨outcome.headersChanged || triggered.headersChanged,
          outcome.bodyChanged || triggered.bodyChanged⟩
        if triggered.triggered && rule.stop then (.ok outcome, headers, body)
        else applyWithBodyFrom requestUrl rules outcome headers body

def applyWithBody (cfg : TransformConfig) (startIndex : ℕ) (requestUrl : String) (headers : HeaderMap)
    (body : List UInt8) : Except AnyError ApplyOutcome × HeaderMap × List UInt8 :=
  applyWithBodyFrom requestUrl (cfg.transforms.drop startIndex) ⟨false, false⟩ headers body

def needsPlaintextUpstreamBody (cfg : TransformConfig) (requestUrl : String) : Bool :=
  cfg.transforms.any fun rule =>
    rule.requiresBody && match rule.matcher with
      | .urlGlob pattern => Glob.isMatch pattern requestUrl
      | .contentTypeGlob _ | .everything => true

end TransformConfig

end KidProxy
