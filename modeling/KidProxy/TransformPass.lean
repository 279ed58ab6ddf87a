import KidProxy.Lib.Pass
import KidProxy.Transform

/-!
# TransformPass — the two loops are one left-to-right pass

The meaning of a rule list is one pass over headers and body (`onePass`).  The proxy runs it in two
parts, so that a response whose rules only touch headers is never buffered: `applyUntilBody` is the
pass cut at the first matching rule that needs the body (`Pass.passUntil`), `applyWithBody` the pass
from there, and `Pass.passUntil_handover` puts them together.
-/

namespace KidProxy

open Pass

/-! ### The one-pass meaning -/

/-- A rule that matches the current headers acts on headers and body, and ends the pass if it has
`stop` and changed something. -/
def TransformRule.ruleStep [Glob] (requestUrl : String) (rule : TransformRule)
    (s : HeaderMap × List UInt8) : (HeaderMap × List UInt8) × Signal AnyError :=
  if rule.ruleMatches requestUrl s.1 then
    match rule.apply s.1 s.2 with
    | (.error err, s) => (s, .fail err)
    | (.ok outcome, s) => (s, if outcome.triggered && rule.stop then .stop else .next)
  else (s, .next)

/-- **The reference**: one pass over headers and body. -/
def TransformConfig.onePass [Glob] (cfg : TransformConfig) (requestUrl : String) (headers : HeaderMap)
    (body : List UInt8) : (HeaderMap × List UInt8) × Except AnyError Unit :=
  pass (TransformRule.ruleStep requestUrl) cfg.transforms (headers, body)

/-- What the proxy does: `apply_until_body`, and `apply_with_body` where that asks for the body.  The
outcome says what changed over both phases. -/
def TransformConfig.twoPhase [Glob] (cfg : TransformConfig) (requestUrl : String)
    (headers : HeaderMap) (body : List UInt8) :
    (HeaderMap × List UInt8) × Except AnyError ApplyOutcome :=
  match cfg.applyUntilBody requestUrl headers with
  | (.error err, headers) => ((headers, body), .error err)
  | (.ok ⟨.stream, headersChanged⟩, headers) => ((headers, body), .ok ⟨headersChanged, false⟩)
  | (.ok ⟨.bufferFrom index, headersChanged⟩, headers) =>
    match cfg.applyWithBody index requestUrl headers body with
    | (.error err, s) => (s, .error err)
    | (.ok outcome, s) => (s, .ok ⟨headersChanged || outcome.headersChanged, outcome.bodyChanged⟩)

/-! ### What a rule reports as changed -/

theorem TransformRule.applySelectedHeaders_unchanged {rule : TransformRule}
    {headers headers' : HeaderMap} {selector : HeaderName → Bool}
    (h : rule.applySelectedHeaders headers selector = (.ok false, headers')) : headers' = headers := by
  unfold applySelectedHeaders at h
  rcases hr : rule.rewriteEntries selector headers.entries with _ | ⟨entries, changed⟩
  · rw [hr] at h; simp at h
  · rw [hr] at h
    simp only [Prod.mk.injEq, Except.ok.injEq] at h
    obtain ⟨rfl, rfl⟩ := h
    rfl

theorem TransformRule.applyHeaders_unchanged {rule : TransformRule} {headers headers' : HeaderMap}
    (h : rule.applyHeaders headers = (.ok false, headers')) : headers' = headers := by
  unfold applyHeaders at h
  cases ht : rule.target with
  | everything => rw [ht] at h; exact applySelectedHeaders_unchanged h
  | body => rw [ht] at h; exact (Prod.mk.inj h).2.symm
  | allHeaders => rw [ht] at h; exact applySelectedHeaders_unchanged h
  | header name => rw [ht] at h; exact applySelectedHeaders_unchanged h
  | cookies => rw [ht] at h; exact applySelectedHeaders_unchanged h

theorem TransformRule.applyBody_unchanged {rule : TransformRule} {body : List UInt8}
    (h : (rule.applyBody body).1 = false) : (rule.applyBody body).2 = body := by
  by_cases hu : rule.replaceText (Utf8.fromUtf8Lossy body) = Utf8.fromUtf8Lossy body
  · simp [applyBody, hu]
  · simp [applyBody, hu] at h

/-- What a rule reports as unchanged is unchanged. -/
theorem TransformRule.apply_unchanged {rule : TransformRule} {headers headers' : HeaderMap}
    {body body' : List UInt8} {outcome : RuleApplyOutcome}
    (h : rule.apply headers body = (.ok outcome, headers', body')) :
    (outcome.headersChanged = false → headers' = headers) ∧
      (outcome.bodyChanged = false → body' = body) := by
  unfold apply at h
  rcases hr : rule.applyHeaders headers with ⟨_ | changed, headers₁⟩
  · rw [hr] at h; simp at h
  · rw [hr] at h
    simp only [Prod.mk.injEq, Except.ok.injEq] at h
    obtain ⟨rfl, rfl, rfl⟩ := h
    refine ⟨fun hc => ?_, fun hc => ?_⟩
    · obtain rfl : changed = false := hc
      exact applyHeaders_unchanged hr
    · cases ht : rule.target with
      | everything => simp only [ht] at hc ⊢; exact applyBody_unchanged hc
      | body => simp only [ht] at hc ⊢; exact applyBody_unchanged hc
      | allHeaders => rfl
      | header name => rfl
      | cookies => rfl

section

variable [Glob] {requestUrl : String}

/-! ### The first loop is the cut pass on the headers -/

/-- The rule as the first loop runs it, on the headers alone. -/
def TransformRule.headerStep (requestUrl : String) (rule : TransformRule) (headers : HeaderMap) :
    HeaderMap × Signal AnyError :=
  if rule.ruleMatches requestUrl headers then
    match rule.applyHeaders headers with
    | (.error err, headers) => (headers, .fail err)
    | (.ok triggered, headers) => (headers, if triggered && rule.stop then .stop else .next)
  else (headers, .next)

/-- The rules that `apply_until_body` leaves to the second phase. -/
def TransformRule.deferred (requestUrl : String) (rule : TransformRule) (headers : HeaderMap) : Bool :=
  rule.ruleMatches requestUrl headers && rule.requiresBody

def PrebufferDisposition.ofIndex : Option ℕ → PrebufferDisposition
  | none => .stream
  | some index => .bufferFrom index

theorem TransformRule.headerStep_of_matches {rule : TransformRule} {headers : HeaderMap}
    (h : rule.ruleMatches requestUrl headers = true) :
    rule.headerStep requestUrl headers = match rule.applyHeaders headers with
      | (.error err, headers) => (headers, .fail err)
      | (.ok triggered, headers) => (headers, if triggered && rule.stop then .stop else .next) := by
  rw [headerStep, if_pos h]

theorem TransformRule.headerStep_of_not_matches {rule : TransformRule} {headers : HeaderMap}
    (h : ¬ rule.ruleMatches requestUrl headers = true) :
    rule.headerStep requestUrl headers = (headers, .next) := by
  rw [headerStep, if_neg h]

/-- A rule that is not deferred does to headers and body what it does to the headers alone. -/
theorem TransformRule.ruleStep_of_not_deferred {rule : TransformRule} {headers : HeaderMap}
    {body : List UInt8} (h : rule.deferred requestUrl headers = false) :
    rule.ruleStep requestUrl (headers, body) =
      (((rule.headerStep requestUrl headers).1, body), (rule.headerStep requestUrl headers).2) := by
  unfold ruleStep
  by_cases hm : rule.ruleMatches requestUrl headers = true
  · have hb : rule.requiresBody = false := by simpa [deferred, hm] using h
    rw [if_pos hm, headerStep_of_matches hm]
    rcases hr : rule.applyHeaders headers with ⟨_ | changed, headers'⟩
    · simp only [apply, hr]
    · -- a target that does not need the body leaves it alone
      unfold requiresBody at hb
      cases ht : rule.target with
      | everything => rw [ht] at hb; simp at hb
      | body => rw [ht] at hb; simp at hb
      | allHeaders => simp only [apply, hr, ht, Bool.or_false]
      | header name => simp only [apply, hr, ht, Bool.or_false]
      | cookies => simp only [apply, hr, ht, Bool.or_false]
  · rw [if_neg hm, headerStep_of_not_matches hm]

/-- **First phase**: `apply_until_body` is the pass on the headers, cut at the first deferred rule. -/
theorem TransformConfig.applyUntilBodyFrom_eq (requestUrl : String) (rules : List TransformRule)
    (index : ℕ) (changed : Bool) (headers : HeaderMap) :
    (applyUntilBodyFrom requestUrl rules index changed headers).2 =
        (passUntil (TransformRule.headerStep requestUrl) (TransformRule.deferred requestUrl) index rules
          headers).1 ∧
      (applyUntilBodyFrom requestUrl rules index changed headers).1.map (·.disposition) =
        (passUntil (TransformRule.headerStep requestUrl) (TransformRule.deferred requestUrl) index rules
          headers).2.map PrebufferDisposition.ofIndex := by
  induction rules generalizing index changed headers with
  | nil => exact ⟨rfl, rfl⟩
  | cons rule rules ih =>
    by_cases hm : rule.ruleMatches requestUrl headers = true
    · by_cases hb : rule.requiresBody = true
      · have hd : rule.deferred requestUrl headers = true := by simp [TransformRule.deferred, hm, hb]
        rw [passUntil, if_pos hd, applyUntilBodyFrom]
        simp [hm, hb, Except.map, PrebufferDisposition.ofIndex]
      · have hd : ¬ rule.deferred requestUrl headers = true := by
          simp [TransformRule.deferred, hm, hb]
        rw [passUntil, if_neg hd, applyUntilBodyFrom, TransformRule.headerStep_of_matches hm]
        rcases rule.applyHeaders headers with ⟨_ | triggered, headers'⟩
        · simp [hm, hb, Except.map]
        · by_cases hs : (triggered && rule.stop) = true
          · simp [hm, hb, hs, Except.map, PrebufferDisposition.ofIndex]
          · simpa [hm, hb, hs] using ih (index + 1) (changed || triggered) headers'
    · have hd : ¬ rule.deferred requestUrl headers = true := by simp [TransformRule.deferred, hm]
      rw [passUntil, if_neg hd, applyUntilBodyFrom, TransformRule.headerStep_of_not_matches hm]
      simpa [hm] using ih (index + 1) changed headers

/-- The index handed over is that of a rule which matches the headers so far and needs the body. -/
theorem TransformConfig.applyUntilBody_handsOver {cfg : TransformConfig} {headers headers' : HeaderMap}
    {index : ℕ} {changed : Bool}
    (h : cfg.applyUntilBody requestUrl headers = (.ok ⟨.bufferFrom index, changed⟩, headers')) :
    ∃ rule, cfg.transforms[index]? = some rule ∧ rule.ruleMatches requestUrl headers' = true ∧
      rule.requiresBody = true := by
  obtain ⟨hheaders, hindex⟩ := applyUntilBodyFrom_eq requestUrl cfg.transforms 0 false headers
  rw [show applyUntilBodyFrom requestUrl cfg.transforms 0 false headers = _ from h] at hheaders hindex
  rcases hp : passUntil (TransformRule.headerStep requestUrl) (TransformRule.deferred requestUrl) 0
    cfg.transforms headers with ⟨t, err | _ | i⟩
  · rw [hp] at hindex
    cases hindex
  · rw [hp] at hindex
    cases hindex
  · rw [hp] at hheaders hindex
    obtain rfl : index = i := by cases hindex; rfl
    obtain rfl : headers' = t := hheaders
    obtain ⟨-, rule, hrule, hd⟩ := passUntil_index hp
    rw [Nat.sub_zero] at hrule
    unfold TransformRule.deferred at hd
    exact ⟨rule, hrule, (Bool.and_eq_true_iff.mp hd).1, (Bool.and_eq_true_iff.mp hd).2⟩

/-- **Second phase**: `apply_with_body` is the pass on headers and body. -/
theorem TransformConfig.applyWithBodyFrom_eq (requestUrl : String) (rules : List TransformRule)
    (outcome : ApplyOutcome) (headers : HeaderMap) (body : List UInt8) :
    ((applyWithBodyFrom requestUrl rules outcome headers body).2,
        (applyWithBodyFrom requestUrl rules outcome headers body).1.map fun _ => ()) =
      pass (TransformRule.ruleStep requestUrl) rules (headers, body) := by
  induction rules generalizing outcome headers body with
  | nil => rfl
  | cons rule rules ih =>
    unfold Pass.pass applyWithBodyFrom TransformRule.ruleStep
    by_cases hm : rule.ruleMatches requestUrl headers = true
    · simp only [hm, Bool.not_true, Bool.false_eq_true, if_false, if_true]
      rcases rule.apply headers body with ⟨_ | triggered, headers', body'⟩
      · rfl
      · by_cases hs : (triggered.triggered && rule.stop) = true
        · simp only [hs, if_true]; rfl
        · simp only [hs, Bool.false_eq_true, if_false]
          exact ih _ headers' body'
    · simp only [hm, Bool.not_false, if_true, Bool.false_eq_true, if_false]
      exact ih outcome headers body

/-! ### What the phases report as changed -/

theorem TransformConfig.applyUntilBodyFrom_unchanged {rules : List TransformRule} {index : ℕ}
    {changed : Bool} {headers headers' : HeaderMap} {outcome : PrebufferOutcome}
    (h : applyUntilBodyFrom requestUrl rules index changed headers = (.ok outcome, headers'))
    (hc : outcome.headersChanged = false) : changed = false ∧ headers' = headers := by
  induction rules generalizing index changed headers with
  | nil =>
    simp only [applyUntilBodyFrom, Prod.mk.injEq, Except.ok.injEq] at h
    obtain ⟨rfl, rfl⟩ := h
    exact ⟨hc, rfl⟩
  | cons rule rules ih =>
    unfold applyUntilBodyFrom at h
    split_ifs at h with hm hb
    · exact ih h
    · simp only [Prod.mk.injEq, Except.ok.injEq] at h
      obtain ⟨rfl, rfl⟩ := h
      exact ⟨hc, rfl⟩
    · rcases hr : rule.applyHeaders headers with ⟨_ | triggered, headers₁⟩
      · rw [hr] at h; simp at h
      · rw [hr] at h
        have hboth : (changed || triggered) = false ∧ headers' = headers₁ := by
          by_cases hs : (triggered && rule.stop) = true
          · simp only [hs, if_true, Prod.mk.injEq, Except.ok.injEq] at h
            obtain ⟨rfl, rfl⟩ := h
            exact ⟨hc, rfl⟩
          · simp only [hs, Bool.false_eq_true, if_false] at h
            exact ih h
        obtain ⟨h₁, h₂⟩ := Bool.or_eq_false_iff.mp hboth.1
        subst h₂
        exact ⟨h₁, hboth.2.trans (TransformRule.applyHeaders_unchanged hr)⟩

theorem TransformConfig.applyWithBodyFrom_unchanged {rules : List TransformRule}
    {outcome outcome' : ApplyOutcome} {headers headers' : HeaderMap} {body body' : List UInt8}
    (h : applyWithBodyFrom requestUrl rules outcome headers body = (.ok outcome', headers', body')) :
    (outcome'.headersChanged = false → outcome.headersChanged = false ∧ headers' = headers) ∧
      (outcome'.bodyChanged = false → outcome.bodyChanged = false ∧ body' = body) := by
  induction rules generalizing outcome headers body with
  | nil =>
    simp only [applyWithBodyFrom, Prod.mk.injEq, Except.ok.injEq] at h
    obtain ⟨rfl, rfl, rfl⟩ := h
    exact ⟨fun hc => ⟨hc, rfl⟩, fun hc => ⟨hc, rfl⟩⟩
  | cons rule rules ih =>
    unfold applyWithBodyFrom at h
    split_ifs at h with hm
    · exact ih h
    · rcases hr : rule.apply headers body with ⟨_ | triggered, headers₁, body₁⟩
      · rw [hr] at h; simp at h
      · rw [hr] at h
        obtain ⟨hh, hb⟩ := TransformRule.apply_unchanged hr
        -- what the rest of the loop says about the flags after this rule
        have hrest : (outcome'.headersChanged = false →
              (outcome.headersChanged || triggered.headersChanged) = false ∧ headers' = headers₁) ∧
            (outcome'.bodyChanged = false →
              (outcome.bodyChanged || triggered.bodyChanged) = false ∧ body' = body₁) := by
          by_cases hs : (triggered.triggered && rule.stop) = true
          · simp only [hs, if_true, Prod.mk.injEq, Except.ok.injEq] at h
            obtain ⟨rfl, rfl, rfl⟩ := h
            exact ⟨fun hc => ⟨hc, rfl⟩, fun hc => ⟨hc, rfl⟩⟩
          · simp only [hs, Bool.false_eq_true, if_false] at h
            exact ih h
        refine ⟨fun hc => ?_, fun hc => ?_⟩
        · obtain ⟨hor, he⟩ := hrest.1 hc
          obtain ⟨h₁, h₂⟩ := Bool.or_eq_false_iff.mp hor
          exact ⟨h₁, he.trans (hh h₂)⟩
        · obtain ⟨hor, he⟩ := hrest.2 hc
          obtain ⟨h₁, h₂⟩ := Bool.or_eq_false_iff.mp hor
          exact ⟨h₁, he.trans (hb h₂)⟩

/-! ### Both phases together -/

/-- What the two phases report as unchanged is unchanged. -/
theorem TransformConfig.twoPhase_unchanged {cfg : TransformConfig} {headers : HeaderMap}
    {body : List UInt8} {outcome : ApplyOutcome}
    (h : (cfg.twoPhase requestUrl headers body).2 = .ok outcome) :
    (outcome.headersChanged = false → (cfg.twoPhase requestUrl headers body).1.1 = headers) ∧
      (outcome.bodyChanged = false → (cfg.twoPhase requestUrl headers body).1.2 = body) := by
  unfold twoPhase at h ⊢
  rcases hu : cfg.applyUntilBody requestUrl headers with ⟨_ | ⟨_ | index, changed⟩, headers₁⟩
  · rw [hu] at h; simp at h
  · rw [hu] at h
    obtain rfl := Except.ok.inj h
    exact ⟨fun hc => (applyUntilBodyFrom_unchanged hu hc).2, fun _ => rfl⟩
  · rw [hu] at h
    rcases hw : cfg.applyWithBody index requestUrl headers₁ body with ⟨_ | second, headers₂, body₂⟩
    · simp only [hw] at h; simp at h
    · simp only [hw] at h ⊢
      obtain rfl := Except.ok.inj h
      obtain ⟨hh, hb⟩ := applyWithBodyFrom_unchanged hw
      refine ⟨fun hc => ?_, fun hc => (hb hc).2⟩
      obtain ⟨h₁, h₂⟩ := Bool.or_eq_false_iff.mp hc
      exact (hh h₂).2.trans (applyUntilBodyFrom_unchanged hu h₁).2

/-- The pass cut at the hand-over index and resumed there is the pass. -/
theorem TransformConfig.twoPhase_pass (cfg : TransformConfig) (headers : HeaderMap)
    (body : List UInt8) :
    ((cfg.twoPhase requestUrl headers body).1,
      (cfg.twoPhase requestUrl headers body).2.map fun _ => ()) =
      cfg.onePass requestUrl headers body := by
  have hover := passUntil_handover (f := TransformRule.ruleStep requestUrl)
    (g := TransformRule.headerStep requestUrl)
    (fun r h b (hd : r.deferred requestUrl h = false) => TransformRule.ruleStep_of_not_deferred hd)
    cfg.transforms headers body
  obtain ⟨hs, hr⟩ := applyUntilBodyFrom_eq requestUrl cfg.transforms 0 false headers
  unfold onePass
  rw [hover]
  rcases hp : passUntil (TransformRule.headerStep requestUrl) (TransformRule.deferred requestUrl) 0
    cfg.transforms headers with ⟨headers₁, result⟩
  rw [hp] at hs hr
  unfold twoPhase applyUntilBody
  rcases hu : applyUntilBodyFrom requestUrl cfg.transforms 0 false headers with ⟨first, headers₂⟩
  rw [hu] at hs hr
  obtain rfl : headers₂ = headers₁ := hs
  rcases first with err | ⟨disposition, changed⟩
  · -- the first phase failed, so did the cut pass
    rcases result with err' | index
    · obtain rfl : err = err' := Except.error.inj hr
      rfl
    · exact absurd hr (by simp [Except.map])
  · rcases result with err' | index
    · exact absurd hr (by simp [Except.map])
    · obtain rfl : disposition = PrebufferDisposition.ofIndex index := Except.ok.inj hr
      cases index with
      | none => rfl
      | some index =>
        have hw := applyWithBodyFrom_eq requestUrl (cfg.transforms.drop index)
          ⟨false, false⟩ headers₂ body
        simp only [PrebufferDisposition.ofIndex, resume, applyWithBody]
        rw [← hw]
        rcases applyWithBodyFrom requestUrl (cfg.transforms.drop index) ⟨false, false⟩ headers₂ body
          with ⟨_ | outcome, s⟩ <;> rfl

end

/-- **Two phases, one pass**: for every compiled rule list, URL, headers and body, `apply_until_body`
and the `apply_with_body` it asks for give the headers, the body and the success or error of one
left-to-right pass, and what they report as unchanged is unchanged. -/
theorem twoPhase_eq_onePass [Glob] (cfg : TransformConfig) (requestUrl : String)
    (headers : HeaderMap) (body : List UInt8) :
    ((cfg.twoPhase requestUrl headers body).1,
        (cfg.twoPhase requestUrl headers body).2.map fun _ => ()) =
      cfg.onePass requestUrl headers body ∧
    ∀ outcome, (cfg.twoPhase requestUrl headers body).2 = .ok outcome →
      (outcome.headersChanged = false → (cfg.twoPhase requestUrl headers body).1.1 = headers) ∧
      (outcome.bodyChanged = false → (cfg.twoPhase requestUrl headers body).1.2 = body) :=
  ⟨cfg.twoPhase_pass headers body, fun _ h => TransformConfig.twoPhase_unchanged h⟩

end KidProxy
