import KidProxy.Proxy
import Mathlib.Data.String.Basic
import Mathlib.Tactic.SplitIfs

/-!
# HostCheck — which part of an authority the host check compares

An authority is `[userinfo "@"] host [":" port]`.  `authority_host` cuts the user information off, but
where no `:` follows it falls back to the text that was not cut; and it takes the first `:` for the one
before the port, also inside the brackets of an IPv6 address.  `hostMatches_iff` says which requests are
judged by their host.
-/

namespace KidProxy

/-- A registered name or IPv4 address, or an IPv6 address in brackets. -/
inductive AuthorityHost
  | name (text : List Char) (plain : ∀ c ∈ text, c ∉ ['@', ':', '[', ']', '/', '?', '#'])
  | ipv6 (address : List Char) (colon : ':' ∈ address)
      (digits : ∀ c ∈ address, c ∈ "0123456789abcdefABCDEF:.".toList)

/-- `[userinfo "@"] host [":" port]`. -/
structure Authority where
  userinfo : Option (List Char)
  host : AuthorityHost
  port : Option (List Char)
  port_digits : ∀ digits ∈ port, ∀ c ∈ digits, c.isDigit = true

namespace AuthorityHost

/-- The host component; the brackets belong to it. -/
def text : AuthorityHost → List Char
  | name text _ => text
  | ipv6 address _ _ => '[' :: (address ++ [']'])

def IsName : AuthorityHost → Prop
  | name _ _ => True
  | ipv6 _ _ _ => False

end AuthorityHost

namespace Authority

/-- The port with its separator. -/
def portText (a : Authority) : List Char :=
  match a.port with
  | some digits => ':' :: digits
  | none => []

/-- Host and port. -/
def hostPort (a : Authority) : List Char := a.host.text ++ a.portText

def text (a : Authority) : List Char :=
  match a.userinfo with
  | some userinfo => userinfo ++ '@' :: a.hostPort
  | none => a.hostPort

/-- The host is a name or an IPv4 address, and where there is user information there is a port. -/
def Plain (a : Authority) : Prop := a.host.IsName ∧ (a.userinfo = none ∨ a.port ≠ none)

theorem at_notMem_portText (a : Authority) : '@' ∉ a.portText := by
  unfold portText
  cases hport : a.port with
  | none => exact List.not_mem_nil
  | some digits =>
    intro hmem
    rcases List.mem_cons.mp hmem with heq | hmem
    · exact absurd heq (by decide)
    · exact absurd (a.port_digits digits hport _ hmem) (by decide)

theorem at_notMem_hostPort (a : Authority) : '@' ∉ a.hostPort := by
  have hhost : '@' ∉ a.host.text := by
    cases a.host with
    | name text plain => exact fun hmem => plain _ hmem (by simp)
    | ipv6 address colon digits =>
      intro hmem
      have hmem : '@' ∈ address := by simpa [AuthorityHost.text] using hmem
      exact absurd (digits _ hmem) (by decide)
  unfold hostPort
  rw [List.mem_append]
  exact fun hmem => hmem.elim hhost a.at_notMem_portText

/-! ### One text, one host -/

/-- The host component at the start of a text without user information. -/
def hostAtStart : List Char → List Char
  | '[' :: rest => '[' :: (rest.takeWhile (· ≠ ']') ++ [']'])
  | text => text.takeWhile (· ≠ ':')

theorem hostAtStart_hostPort (a : Authority) : hostAtStart a.hostPort = a.host.text := by
  unfold hostPort
  cases a.host with
  | ipv6 address colon digits =>
    have hbracket : ']' ∉ address := fun hmem => absurd (digits _ hmem) (by decide)
    show hostAtStart ('[' :: (address ++ [']']) ++ a.portText) = _
    rw [List.cons_append, List.append_assoc, List.singleton_append]
    show '[' :: ((address ++ ']' :: a.portText).takeWhile (· ≠ ']') ++ [']']) = _
    rw [Text.takeWhile_append_cons hbracket]
    rfl
  | name text plain =>
    have hcolon : ':' ∉ text := fun hmem => plain _ hmem (by simp)
    have htake : (text ++ a.portText).takeWhile (· ≠ ':') = text := by
      unfold portText
      cases a.port with
      | none => rw [List.append_nil]; exact Text.takeWhile_of_notMem hcolon
      | some digits => exact Text.takeWhile_append_cons hcolon digits
    show hostAtStart (text ++ a.portText) = text
    unfold hostAtStart
    split
    · next rest heq =>
      -- a name does not start with a bracket, and neither does `:`
      exfalso
      rcases List.append_eq_cons_iff.mp heq with ⟨hnil, hport⟩ | ⟨text', htext, -⟩
      · unfold portText at hport
        cases hp : a.port with
        | none => rw [hp] at hport; cases hport
        | some digits => rw [hp] at hport; exact absurd (List.cons.inj hport).1 (by decide)
      · exact plain '[' (htext ▸ List.mem_cons_self) (by simp)
    · exact htake

/-- What follows the last `@`. -/
def afterUserinfo (text : List Char) : List Char := ((Text.rsplitOnce '@' text).map (·.2)).getD text

theorem afterUserinfo_text (a : Authority) : afterUserinfo a.text = a.hostPort := by
  unfold afterUserinfo text
  cases a.userinfo with
  | none => dsimp only; rw [Text.rsplitOnce_eq_none a.at_notMem_hostPort]; rfl
  | some userinfo => dsimp only; rw [Text.rsplitOnce_append a.at_notMem_hostPort]; rfl

/-- Two authorities with one text have one host component. -/
theorem host_eq_of_text_eq {a b : Authority} (h : a.text = b.text) : a.host.text = b.host.text := by
  rw [← hostAtStart_hostPort a, ← hostAtStart_hostPort b, ← afterUserinfo_text a, ← afterUserinfo_text b, h]

end Authority

/-! ### What `authority_host` returns -/

namespace Authority

/-- What `authority_host` returns, before it is put into lower case. -/
def returned (a : Authority) : List Char :=
  match a.host, a.userinfo, a.port with
  | .ipv6 address _ _, _, _ => '[' :: address.takeWhile (· ≠ ':')
  | .name text _, some userinfo, none => userinfo ++ '@' :: text
  | .name text _, _, _ => text

/-- What stands before the first `:` after the user information, and the fallback to all of it. -/
theorem authorityHost_eq (a : Authority) : authorityHost a.text = some (Text.asciiLower
    (match Text.splitOnce ':' a.hostPort with
      | some (host, _) => host
      | none => a.text)) := by
  unfold authorityHost
  have hnone := Text.rsplitOnce_eq_none a.at_notMem_hostPort
  have hsome := fun userinfo => Text.rsplitOnce_append a.at_notMem_hostPort userinfo
  unfold text
  cases a.userinfo with
  | none =>
    dsimp only
    rw [hnone]
    cases Text.splitOnce ':' a.hostPort with
    | none => rfl
    | some p => rfl
  | some userinfo =>
    dsimp only
    rw [hsome]
    cases Text.splitOnce ':' a.hostPort with
    | none => rfl
    | some p => rfl

theorem splitOnce_hostPort_ipv6 {a : Authority} {address : List Char} {colon digits}
    (h : a.host = .ipv6 address colon digits) :
    ∃ rest, Text.splitOnce ':' a.hostPort = some ('[' :: address.takeWhile (· ≠ ':'), rest) := by
  obtain ⟨before, rest, rfl, hbefore⟩ := List.eq_append_cons_of_mem colon
  refine ⟨rest ++ [']'] ++ a.portText, ?_⟩
  have hstart : ':' ∉ '[' :: before := by
    intro hmem
    rcases List.mem_cons.mp hmem with heq | hmem
    · exact absurd heq (by decide)
    · exact hbefore hmem
  have heq : a.hostPort = ('[' :: before) ++ ':' :: (rest ++ [']'] ++ a.portText) := by
    unfold hostPort
    rw [h]
    simp [AuthorityHost.text]
  rw [heq, Text.splitOnce_append hstart, Text.takeWhile_append_cons hbefore]

theorem authorityHost_returned (a : Authority) :
    authorityHost a.text = some (Text.asciiLower a.returned) := by
  rw [a.authorityHost_eq]
  unfold returned
  cases hhost : a.host with
  | ipv6 address colon digits =>
    obtain ⟨rest, hsplit⟩ := splitOnce_hostPort_ipv6 hhost
    rw [hsplit]
  | name text plain =>
    have hcolon : ':' ∉ text := fun hmem => plain _ hmem (by simp)
    cases hport : a.port with
    | some digits =>
      have heq : a.hostPort = text ++ ':' :: digits := by
        unfold hostPort portText; rw [hhost, hport]; rfl
      rw [heq, Text.splitOnce_append hcolon]
      cases a.userinfo with
      | none => rfl
      | some userinfo => rfl
    | none =>
      have heq : a.hostPort = text := by
        unfold hostPort portText; rw [hhost, hport]; exact List.append_nil text
      rw [heq, Text.splitOnce_eq_none hcolon]
      unfold Authority.text
      rw [heq]
      cases a.userinfo with
      | none => rfl
      | some userinfo => rfl

/-- Only a plain authority is answered by its host. -/
theorem returned_eq_host_iff (a : Authority) :
    Text.asciiLower a.returned = Text.asciiLower a.host.text ↔ a.Plain := by
  -- otherwise what is returned is shorter or longer than the host
  have hlength : Text.asciiLower a.returned = Text.asciiLower a.host.text →
      a.returned.length = a.host.text.length := fun heq => by
    simpa [Text.asciiLower] using congrArg List.length heq
  unfold Plain
  unfold returned at hlength ⊢
  cases hhost : a.host with
  | ipv6 address colon digits =>
    refine ⟨fun heq => ?_, fun hplain => hplain.1.elim⟩
    rw [hhost] at hlength
    have hlen := hlength heq
    have hle := (List.takeWhile_prefix (fun c => decide (c ≠ ':')) (l := address)).length_le
    simp only [AuthorityHost.text, List.length_cons, List.length_append, List.length_nil] at hlen
    omega
  | name text plain =>
    rw [hhost] at hlength
    cases hui : a.userinfo with
    | none => exact ⟨fun _ => ⟨trivial, .inl rfl⟩, fun _ => rfl⟩
    | some userinfo =>
      cases hport : a.port with
      | some digits => exact ⟨fun _ => ⟨trivial, .inr (by simp)⟩, fun _ => rfl⟩
      | none =>
        rw [hui, hport] at hlength
        refine ⟨fun heq => ?_, fun hplain => absurd hplain.2 (by simp)⟩
        have hlen := hlength heq
        simp only [AuthorityHost.text, List.length_cons, List.length_append] at hlen
        omega

end Authority

/-! ### Requests -/

/-- The request's authority is that of its URI, or where the URI has none that of its first `Host`. -/
def Request.Carries {B : Type} (req : Request B) (a : Authority) : Prop :=
  req.uri.authority = some (String.ofList a.text) ∨
    req.uri.authority = none ∧
      ∃ value, req.headers.get .host = some value ∧ value.toStr = some a.text

theorem Request.Carries.requestAuthority {B : Type} {req : Request B} {a : Authority}
    (h : req.Carries a) : requestAuthority req = some (String.ofList a.text) := by
  unfold KidProxy.requestAuthority
  rcases h with huri | ⟨huri, value, hget, htext⟩
  · rw [huri]
  · rw [huri]
    show headerValue req.headers .host = _
    unfold headerValue stringifyHeaderValue
    rw [hget, Option.map_some, htext]

/-- `host_matches_frontend` compares what `authority_host` returns. -/
theorem hostMatches_of_returned {B : Type} {req : Request B} {authority : String} {host : List Char}
    (ha : requestAuthority req = some authority) (hr : authorityHost authority.toList = some host)
    (frontendDomain : String) : hostMatchesFrontend req frontendDomain =
      Text.eqIgnoreAsciiCase host frontendDomain.toList := by
  unfold hostMatchesFrontend
  rw [ha]
  show (match authorityHost authority.toList with
    | some host => Text.eqIgnoreAsciiCase host frontendDomain.toList
    | none => false) = _
  rw [hr]

theorem Request.Carries.hostMatches {B : Type} {req : Request B} {a : Authority} (h : req.Carries a)
    (frontendDomain : String) : hostMatchesFrontend req frontendDomain =
      Text.eqIgnoreAsciiCase (Text.asciiLower a.returned) frontendDomain.toList := by
  refine hostMatches_of_returned h.requestAuthority ?_ frontendDomain
  rw [String.toList_ofList]
  exact a.authorityHost_returned

/-- Whatever text a request has for its authority, some domain passes the check. -/
theorem exists_hostMatches {B : Type} {req : Request B} {authority : String}
    (ha : requestAuthority req = some authority) :
    ∃ host, authorityHost authority.toList = some (Text.asciiLower host) ∧
      hostMatchesFrontend req (String.ofList (Text.asciiLower host)) = true := by
  obtain ⟨host, hhost⟩ : ∃ host, authorityHost authority.toList = some (Text.asciiLower host) := by
    unfold authorityHost
    dsimp only
    split
    · exact ⟨_, rfl⟩
    · exact ⟨_, rfl⟩
  refine ⟨host, hhost, ?_⟩
  rw [hostMatches_of_returned ha hhost, String.toList_ofList]
  exact decide_eq_true rfl

/-- **The host check is exact** for a plain authority, and only then: `authority_host` returns the host
component in lower case, and a request passes for exactly the domains that are its host, ignoring case. -/
theorem hostMatches_iff (a : Authority) {B : Type} (req : Request B) :
    (authorityHost a.text = some (Text.asciiLower a.host.text) ↔ a.Plain) ∧
      ((∀ frontendDomain, hostMatchesFrontend req frontendDomain = true ↔
          ∃ a, req.Carries a ∧ Text.eqIgnoreAsciiCase a.host.text frontendDomain.toList = true) ↔
        requestAuthority req = none ∨ ∃ a, req.Carries a ∧ a.Plain) := by
  refine ⟨?_, fun hexact => ?_, fun hcond frontendDomain => ?_⟩
  · rw [a.authorityHost_returned, ← a.returned_eq_host_iff]
    exact ⟨fun heq => Option.some.inj heq, fun heq => congrArg some heq⟩
  · by_cases hnone : requestAuthority req = none
    · exact .inl hnone
    obtain ⟨authority, ha⟩ := Option.ne_none_iff_exists'.mp hnone
    -- the domain that passes is the host of an authority the request carries
    obtain ⟨host, hhost, hpass⟩ := exists_hostMatches ha
    obtain ⟨a, hcarries, heq⟩ := (hexact _).mp hpass
    refine .inr ⟨a, hcarries, a.returned_eq_host_iff.mp ?_⟩
    rw [hcarries.hostMatches] at hpass
    have hreturned := of_decide_eq_true hpass
    have hname := of_decide_eq_true heq
    rw [hname, ← hreturned, Text.asciiLower_asciiLower]
  · rcases hcond with hnone | ⟨a, hcarries, hplain⟩
    · have hno : ∀ a, ¬ req.Carries a := fun a hcarries => by
        rw [hcarries.requestAuthority] at hnone
        cases hnone
      have hreject : hostMatchesFrontend req frontendDomain = false := by
        unfold hostMatchesFrontend
        rw [hnone]
        rfl
      rw [hreject]
      exact ⟨fun h => (by cases h), fun ⟨a, hcarries, _⟩ => absurd hcarries (hno a)⟩
    · have hreturned := a.returned_eq_host_iff.mpr hplain
      have hjudged : hostMatchesFrontend req frontendDomain =
          Text.eqIgnoreAsciiCase a.host.text frontendDomain.toList := by
        rw [hcarries.hostMatches, hreturned]
        unfold Text.eqIgnoreAsciiCase
        rw [Text.asciiLower_asciiLower]
      rw [hjudged]
      refine ⟨fun heq => ⟨a, hcarries, heq⟩, fun ⟨b, hb, heq⟩ => ?_⟩
      have htext : a.text = b.text := by
        have hsame := hcarries.requestAuthority.symm.trans hb.requestAuthority
        exact String.ofList_injective (Option.some.inj hsame)
      rw [Authority.host_eq_of_text_eq htext]
      exact heq

/-- User information without a port. -/
def sampleAuthority : Authority where
  userinfo := some "user".toList
  host := .name "example.test".toList (by simp)
  port := none
  port_digits := fun digits hdigits => by cases hdigits

/-- The user information stays, and the request for `example.test` is rejected. -/
theorem userinfo_without_port_not_host :
    authorityHost sampleAuthority.text = some "user@example.test".toList ∧
      sampleAuthority.host.text = "example.test".toList ∧
      ({ sampleRequest with
        uri := ⟨some "https", some "user@example.test", some "/", none⟩ }).Carries sampleAuthority ∧
      hostMatchesFrontend { sampleRequest with
        uri := ⟨some "https", some "user@example.test", some "/", none⟩ } "example.test" = false := by
  refine ⟨by decide, rfl, .inl ?_, by decide⟩
  rfl

end KidProxy
