import KidProxy.HeaderRewrite
import KidProxy.HopByHop
import KidProxy.Lib.Components
import KidProxy.Relay

/-!
# RuleTrace — what the rules do to each header of a response

The pass of the rules read header by header: of the rules that act, in their order, those that select a
header rewrite each of its values, and those that ask for the body rewrite the body.  A header that no
rule selects is passed on as it came.  The pass fails at a value that the next rule cannot rewrite.
-/

namespace KidProxy

open Transition

/-! ### Values and bodies -/

/-- The rules, one after the other, make `updated` of `value`. -/
inductive RewrittenBy : List TransformRule → HeaderValue → HeaderValue → Prop
  | nil (value : HeaderValue) : RewrittenBy [] value value
  | concat {rules : List TransformRule} {rule : TransformRule} {value middle updated : HeaderValue} :
      RewrittenBy rules value middle → rule.Rewrites middle updated →
      RewrittenBy (rules ++ [rule]) value updated

/-- The rules that select a header. -/
def selecting (rules : List TransformRule) (name : HeaderName) : List TransformRule :=
  rules.filter fun rule => rule.target.selects name

/-- What the rules that ask for the body make of it. -/
def rewriteBody (rules : List TransformRule) (body : List UInt8) : List UInt8 :=
  (rules.filter TransformRule.requiresBody).foldl (fun bytes rule => (rule.applyBody bytes).2) body

/-- Headers and body are those that the rules leave. -/
structure LeftBy (headers : HeaderMap) (body : List UInt8) (rules : List TransformRule)
    (s : HeaderMap × List UInt8) : Prop where
  headers : ∀ name, List.Forall₂ (RewrittenBy (selecting rules name)) (headers.getAll name) (s.1.getAll name)
  body : s.2 = rewriteBody rules body

theorem leftBy_nil (headers : HeaderMap) (body : List UInt8) : LeftBy headers body [] (headers, body) :=
  ⟨fun _ => List.forall₂_same.mpr fun value _ => .nil value, rfl⟩

theorem selecting_concat (rules : List TransformRule) (rule : TransformRule) (name : HeaderName) :
    selecting (rules ++ [rule]) name =
      if rule.target.selects name then selecting rules name ++ [rule] else selecting rules name := by
  unfold selecting
  rw [List.filter_append, List.filter_singleton]
  by_cases hsel : rule.target.selects name = true
  · simp [hsel]
  · simp [hsel]

theorem rewriteBody_concat (rules : List TransformRule) (rule : TransformRule) (body : List UInt8) :
    rewriteBody (rules ++ [rule]) body =
      if rule.requiresBody then (rule.applyBody (rewriteBody rules body)).2 else rewriteBody rules body := by
  unfold rewriteBody
  rw [List.filter_append]
  by_cases hreq : rule.requiresBody = true
  · rw [if_pos hreq, List.filter_cons_of_pos hreq, List.filter_nil, List.foldl_append]
    rfl
  · rw [if_neg hreq, List.filter_cons_of_neg hreq, List.filter_nil, List.append_nil]

/-! ### One rule -/

namespace TransformRule

variable {rule : TransformRule}

theorem rewriteEntries_of_unselected (entries : List (HeaderName × HeaderValue)) :
    rule.rewriteEntries (fun _ => false) entries = .ok (entries, false) := by
  induction entries with
  | nil => rfl
  | cons e entries ih =>
    unfold rewriteEntries
    rw [ih]
    rfl

/-- Every target is a choice of headers; the body is the choice of none. -/
theorem applyHeaders_eq_selected (headers : HeaderMap) :
    rule.applyHeaders headers = rule.applySelectedHeaders headers rule.target.selects := by
  unfold applyHeaders
  cases rule.target with
  | body =>
    show _ = rule.applySelectedHeaders headers fun _ => false
    unfold applySelectedHeaders
    rw [rewriteEntries_of_unselected]
    rfl
  | _ => rfl

/-- What the rule makes of headers and body, where it does not fail. -/
theorem apply_exact {headers headers' : HeaderMap} {body body' : List UInt8} {outcome : RuleApplyOutcome}
    (h : rule.apply headers body = (.ok outcome, headers', body')) :
    (∀ name, List.Forall₂ (rule.Becomes rule.target.selects name) (headers.getAll name)
      (headers'.getAll name)) ∧
    body' = if rule.requiresBody then (rule.applyBody body).2 else body := by
  have hspec := rule.applySelectedHeaders_exact rule.target.selects headers
  rw [← applyHeaders_eq_selected] at hspec
  unfold apply at h
  rcases hr : rule.applyHeaders headers with ⟨err | changed, headers₁⟩
  · rw [hr] at h
    cases h
  · rw [hr] at h hspec
    simp only [Prod.mk.injEq, Except.ok.injEq] at h
    obtain ⟨-, rfl, rfl⟩ := h
    refine ⟨hspec.1, ?_⟩
    unfold requiresBody
    cases rule.target <;> rfl

theorem apply_rejects {headers headers' : HeaderMap} {body body' : List UInt8} {err : AnyError}
    (h : rule.apply headers body = (.error err, headers', body')) :
    ∃ name, rule.target.selects name = true ∧ ∃ value ∈ headers.getAll name, rule.Rejects value := by
  have hspec := rule.applySelectedHeaders_exact rule.target.selects headers
  rw [← applyHeaders_eq_selected] at hspec
  unfold apply at h
  rcases hr : rule.applyHeaders headers with ⟨err | changed, headers₁⟩
  · rw [hr] at hspec
    exact hspec.2
  · rw [hr] at h
    cases h

end TransformRule

section

variable [Glob] {url : String} {rule : TransformRule} {headers : HeaderMap} {body : List UInt8}
  {rules : List TransformRule} {s t : HeaderMap × List UInt8} {sig : Pass.Signal AnyError}

theorem LeftBy.step (h : LeftBy headers body rules s) (hf : rule.ruleStep url s = (t, sig))
    (hsig : ∀ err, sig ≠ .fail err) :
    LeftBy headers body (if rule.ruleMatches url s.1 then rules ++ [rule] else rules) t := by
  unfold TransformRule.ruleStep at hf
  by_cases hm : rule.ruleMatches url s.1 = true
  · rw [if_pos hm] at hf ⊢
    rcases ha : rule.apply s.1 s.2 with ⟨err | outcome, headers', body'⟩
    · rw [ha] at hf
      exact absurd (Prod.mk.inj hf).2.symm (hsig err)
    · rw [ha] at hf
      obtain rfl : (headers', body') = t := (Prod.mk.inj hf).1
      obtain ⟨hbecomes, hbody⟩ := TransformRule.apply_exact ha
      refine ⟨fun name => ?_, ?_⟩
      · rw [selecting_concat]
        have hboth := h.headers name
        have hthis := hbecomes name
        unfold TransformRule.Becomes at hthis
        by_cases hsel : rule.target.selects name = true
        · simp only [if_pos hsel] at hthis ⊢
          exact Components.forall₂_comp (fun _ _ _ hold hnew => .concat hold hnew) hboth hthis
        · simp only [if_neg hsel] at hthis ⊢
          exact Components.forall₂_comp (fun _ _ _ hold hnew => hnew ▸ hold) hboth hthis
      · rw [rewriteBody_concat, ← h.body]
        exact hbody
  · rw [if_neg hm] at hf ⊢
    obtain rfl : s = t := (Prod.mk.inj hf).1
    exact h

theorem rejects_of_fail {err : AnyError} (hf : rule.ruleStep url s = (t, .fail err)) :
    ∃ name, rule.target.selects name = true ∧ ∃ value ∈ s.1.getAll name, rule.Rejects value := by
  unfold TransformRule.ruleStep at hf
  by_cases hm : rule.ruleMatches url s.1 = true
  · rw [if_pos hm] at hf
    rcases ha : rule.apply s.1 s.2 with ⟨err' | outcome, headers', body'⟩
    · exact TransformRule.apply_rejects ha
    · rw [ha] at hf
      by_cases hs : (outcome.triggered && rule.stop) = true
      · simp [hs] at hf
      · simp [hs] at hf
  · rw [if_neg hm] at hf
    cases hf

/-! ### The pass -/

/-- The rules that act on a response, in order: their matcher holds when their turn comes. -/
def TransformConfig.acting (cfg : TransformConfig) (url : String) (headers : HeaderMap)
    (body : List UInt8) : List TransformRule :=
  Pass.acting (TransformRule.ruleStep url) (fun rule s => rule.ruleMatches url s.1) cfg.transforms
    (headers, body)

/-- Some rule meets a value, as those before it left it, that it cannot rewrite. -/
def TransformConfig.Refuses (cfg : TransformConfig) (url : String) (headers : HeaderMap)
    (body : List UInt8) : Prop :=
  ∃ rule name value middle, (cfg.acting url headers body ++ [rule]).Sublist cfg.transforms ∧
    rule.target.selects name = true ∧ value ∈ headers.getAll name ∧
    RewrittenBy (selecting (cfg.acting url headers body) name) value middle ∧ rule.Rejects middle

/-- **The pass, header by header.** -/
theorem leftBy_onePass (cfg : TransformConfig) (url : String) (headers : HeaderMap) (body : List UInt8) :
    match cfg.onePass url headers body with
    | (s, .ok ()) => LeftBy headers body (cfg.acting url headers body) s
    | (_, .error _) => cfg.Refuses url headers body := by
  have hpass := @Pass.pass_acting _ _ _ (TransformRule.ruleStep url)
    (fun rule s => rule.ruleMatches url s.1) (LeftBy headers body)
    (fun done rule s t sig h hf hsig => h.step hf hsig) cfg.transforms (headers, body)
    (leftBy_nil headers body)
  unfold TransformConfig.onePass
  rcases hp : Pass.pass (TransformRule.ruleStep url) cfg.transforms (headers, body) with ⟨t, err | _⟩
  · rw [hp] at hpass
    obtain ⟨rule, u, hleft, hfail, hsub⟩ := hpass
    obtain ⟨name, hsel, middle, hmem, hrejects⟩ := rejects_of_fail hfail
    obtain ⟨value, hvalue, hrewritten⟩ := Components.forall₂_of_mem (hleft.headers name) hmem
    exact ⟨rule, name, value, middle, hsub, hsel, hvalue, hrewritten, hrejects⟩
  · rw [hp] at hpass
    exact hpass

/-! ### The answer -/

/-- The answer carries the response of the upstream as the rules that act leave it: of the headers that
are passed on, apart from `Content-Length`, each value is rewritten by the rules that select it, and `bytes`
becomes `body`. -/
structure Carries (cfg : TransformConfig) (url : String) (upstream : Response Body)
    (bytes body : List UInt8) (answer : Response ServedBody) (acting : List TransformRule) : Prop where
  status : answer.status = upstream.status
  version : answer.version = upstream.version
  rules : acting = cfg.acting url (stripHopByHopHeaders upstream.headers) bytes
  gone : ∀ name, name ≠ .contentLength → name ∈ hopByHop ∨ FirstLineNames upstream.headers name →
    answer.headers.getAll name = []
  rewritten : ∀ name, name ≠ .contentLength → ¬ (name ∈ hopByHop ∨ FirstLineNames upstream.headers name) →
    List.Forall₂ (RewrittenBy (selecting acting name)) (upstream.headers.getAll name)
      (answer.headers.getAll name)
  body : rewriteBody acting bytes = body

/-- What an answer to a response of the upstream is, in terms of the rules that act. -/
inductive Follows (cfg : TransformConfig) (url : String) (upstream : Response Body) :
    Response ServedBody → Prop
  /-- Whatever the body will be, no rule that acts rewrites it. -/
  | streamed {answer} (hask : ¬ AsksForBody cfg url upstream)
      (hcarries : ∀ bytes, ∃ acting, Carries cfg url upstream bytes bytes answer acting)
      (hbody : answer.body = .observed (.response upstream.body)) : Follows cfg url upstream answer
  | buffered {answer bytes body acting} (hask : AsksForBody cfg url upstream)
      (hbytes : upstream.body.collect = .ok bytes)
      (hcarries : Carries cfg url upstream bytes body answer acting)
      (hbody : answer.body = .observed (.response (.fromBytes body))) : Follows cfg url upstream answer
  | unread {err} (hask : AsksForBody cfg url upstream) (hbytes : upstream.body.collect = .error err) :
      Follows cfg url upstream (generatedAnswer .badGateway "bad gateway")
  | refused (hask : ¬ AsksForBody cfg url upstream)
      (hrefuses : ∀ bytes, cfg.Refuses url (stripHopByHopHeaders upstream.headers) bytes) :
      Follows cfg url upstream (generatedAnswer .badGateway "bad gateway")
  | refusedBuffered {bytes} (hask : AsksForBody cfg url upstream)
      (hbytes : upstream.body.collect = .ok bytes)
      (hrefuses : cfg.Refuses url (stripHopByHopHeaders upstream.headers) bytes) :
      Follows cfg url upstream (generatedAnswer .badGateway "bad gateway")

variable {cfg : TransformConfig} {upstream : Response Body} {answer : Response ServedBody}

theorem relay_of_onePass {bytes body : List UInt8} {headers : HeaderMap}
    (h : cfg.onePass url (stripHopByHopHeaders upstream.headers) bytes = ((headers, body), .ok ())) :
    relay cfg url (upstream.withBytes bytes) = .ok { upstream.withBytes bytes with headers, body } := by
  unfold relay
  rw [show cfg.onePass url (stripHopByHopHeaders (upstream.withBytes bytes).headers)
    (upstream.withBytes bytes).body = _ from h]

theorem relay_of_onePass_error {bytes : List UInt8} {s : HeaderMap × List UInt8} {err : AnyError}
    (h : cfg.onePass url (stripHopByHopHeaders upstream.headers) bytes = (s, .error err)) :
    relay cfg url (upstream.withBytes bytes) = .error err := by
  unfold relay
  rw [show cfg.onePass url (stripHopByHopHeaders (upstream.withBytes bytes).headers)
    (upstream.withBytes bytes).body = _ from h]

theorem carries_of_relay {bytes : List UInt8} {meant : Response (List UInt8)}
    (h : relay cfg url (upstream.withBytes bytes) = .ok meant) (hhead : Heads upstream meant answer) :
    Carries cfg url upstream bytes meant.body answer
      (cfg.acting url (stripHopByHopHeaders upstream.headers) bytes) := by
  have hpass := leftBy_onePass cfg url (stripHopByHopHeaders upstream.headers) bytes
  generalize hacting : cfg.acting url (stripHopByHopHeaders upstream.headers) bytes = acting at hpass ⊢
  rcases hp : cfg.onePass url (stripHopByHopHeaders upstream.headers) bytes with ⟨⟨headers, body⟩, err | _⟩
  · rw [relay_of_onePass_error hp] at h
    cases h
  · rw [hp] at hpass
    obtain rfl := Except.ok.inj ((relay_of_onePass hp).symm.trans h)
    have hvalues : ∀ name, name ≠ .contentLength → List.Forall₂ (RewrittenBy (selecting acting name))
        ((stripHopByHopHeaders upstream.headers).getAll name) (answer.headers.getAll name) := by
      intro name hname
      rw [hhead.headers name hname]
      exact hpass.headers name
    refine ⟨hhead.status, hhead.version, hacting.symm, fun name hname hgone => ?_,
      fun name hname hkept => ?_, hpass.body.symm⟩
    · have hboth := hvalues name hname
      rw [(getAll_stripHopByHop upstream.headers name).1 hgone] at hboth
      exact List.forall₂_nil_left_iff.mp hboth
    · rw [← (getAll_stripHopByHop upstream.headers name).2 hkept]
      exact hvalues name hname

theorem refuses_of_relay {bytes : List UInt8} {err : AnyError}
    (h : relay cfg url (upstream.withBytes bytes) = .error err) :
    cfg.Refuses url (stripHopByHopHeaders upstream.headers) bytes := by
  have hpass := leftBy_onePass cfg url (stripHopByHopHeaders upstream.headers) bytes
  rcases hp : cfg.onePass url (stripHopByHopHeaders upstream.headers) bytes with ⟨⟨headers, body⟩, err | _⟩
  · rw [hp] at hpass
    exact hpass
  · rw [relay_of_onePass hp] at h
    cases h

theorem follows_of_reply (h : Reply cfg url upstream answer) : Follows cfg url upstream answer := by
  cases h with
  | streamed hask hmeant hbody =>
    refine .streamed hask (fun bytes => ?_) hbody
    obtain ⟨meant, hrelay, hsame, hhead⟩ := hmeant bytes
    have hcarries := carries_of_relay hrelay hhead
    rw [hsame] at hcarries
    exact ⟨_, hcarries⟩
  | buffered hask hbytes hmeant hhead hlength hbody =>
    exact .buffered hask hbytes (carries_of_relay hmeant hhead) hbody
  | unread hask hbytes => exact .unread hask hbytes
  | failed hask hmeant =>
    refine .refused hask fun bytes => ?_
    obtain ⟨err, herr⟩ := hmeant bytes
    exact refuses_of_relay herr
  | failedBuffered hask hbytes hmeant => exact .refusedBuffered hask hbytes (refuses_of_relay hmeant)

omit [Glob] in
theorem RewrittenBy.eq_of_nil {value updated : HeaderValue} {rules : List TransformRule}
    (h : RewrittenBy rules value updated) (hrules : rules = []) : updated = value := by
  cases h with
  | nil => rfl
  | concat _ _ => exact absurd hrules (List.append_ne_nil_of_right_ne_nil _ (List.cons_ne_nil _ _))

/-- **What no rule selects is passed on as it came.** -/
theorem Carries.untouched {bytes body : List UInt8} {acting : List TransformRule} {name : HeaderName}
    (h : Carries cfg url upstream bytes body answer acting) (hname : name ≠ .contentLength)
    (hkept : ¬ (name ∈ hopByHop ∨ FirstLineNames upstream.headers name))
    (hnone : ∀ rule ∈ cfg.transforms, rule.target.selects name = false) :
    answer.headers.getAll name = upstream.headers.getAll name := by
  have hsub : acting.Sublist cfg.transforms := h.rules ▸ Pass.acting_sublist _ _
  have hnil : selecting acting name = [] := by
    refine List.filter_eq_nil_iff.mpr fun rule hrule => ?_
    rw [hnone rule (hsub.subset hrule)]
    exact Bool.false_ne_true
  have hall := (h.rewritten name hname hkept).imp fun _ _ hby => (hby.eq_of_nil hnil).symm
  exact (List.forall₂_eq_eq_eq ▸ hall : upstream.headers.getAll name = _).symm

/-- **The answer in terms of the rules**: in every run, the answer to a response of the upstream is that
response, each header that is passed on rewritten value by value by the acting rules that select it, and
the body by those that ask for it; or it is `bad gateway`, where the body that a rule asks for cannot be
read or a rule meets a value it cannot rewrite. -/
theorem Exchange.answer_follows_rules [Net] [Digest] {svc : ProxyService} {req : Request Body}
    {startedAt now : OffsetDateTime} {eventId connectionId : Uuid} {as : List ExchangeAction}
    {a : ExchangeAction} {e t : Exchange}
    (hrun : run step (init svc req startedAt eventId connectionId now) as = some e)
    (hstep : e.step a = some t) (hopen : e.answer = none) (hanswer : t.stage = .running (.answered answer)) :
    ∃ outcome, upstreamOutcomes (as ++ [a]) = [outcome] ∧ ∀ upstream, outcome = .response upstream →
      Follows svc.cfg.transforms (requestUrl (req.uri.path.getD "/") req.uri.query) upstream answer := by
  have hone : OneOutcome svc (requestUrl (req.uri.path.getD "/") req.uri.query) as e :=
    run_history (fun _ _ _ _ h hs => (oneOutcome_step h hs).1)
      (oneOutcome_init svc req startedAt now eventId connectionId) hrun
  obtain ⟨outcome, hsame, hreplies⟩ := (oneOutcome_step hone hstep).2 answer hopen hanswer
  refine ⟨outcome, hsame, ?_⟩
  rintro upstream rfl
  exact follows_of_reply hreplies

end

theorem answer_follows_rules_sample : ∃ e t answer,
    sampleRun sampleBodyRule
      [.upstream (.response (sampleUpstreamOk (.fromBytes [97, 97]))) sampleTime sampleTime] = some e ∧
    @Exchange.step sampleGlob sampleDigest e (.collected sampleTime) = some t ∧
    t.stage = .running (.answered answer) ∧ @Follows sampleGlob sampleBodyRule.transforms "/"
      (sampleUpstreamOk (.fromBytes [97, 97])) answer := by
  obtain ⟨e, t, answer, hrun, hstep, hopen, hanswer⟩ : ∃ e t answer,
      sampleRun sampleBodyRule
        [.upstream (.response (sampleUpstreamOk (.fromBytes [97, 97]))) sampleTime sampleTime] = some e ∧
      @Exchange.step sampleGlob sampleDigest e (.collected sampleTime) = some t ∧
      e.answer = none ∧ t.stage = .running (.answered answer) := ⟨_, _, _, rfl, rfl, rfl, rfl⟩
  obtain ⟨outcome, hone, hfollows⟩ := @Exchange.answer_follows_rules sampleGlob _ sampleNet sampleDigest
    _ _ _ _ _ _ _ _ _ _ hrun hstep hopen hanswer
  obtain rfl := (List.singleton_inj.mp hone).symm
  exact ⟨e, t, answer, hrun, hstep, hanswer, hfollows _ rfl⟩

end KidProxy
