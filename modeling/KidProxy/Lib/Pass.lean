import Mathlib.Data.List.Basic

/-!
# Lib.Pass — left-to-right passes over a rule list

A pass applies the rules in order to a state; each rule tells it to go on, to stop or to fail.
`passUntil` is the same pass cut at the first rule that `defer` holds back: it ends as the pass does
or hands over the index of that rule.  `passUntil_handover`: where the cut pass works on one component
of the state only, resuming the full pass at the index gives the full pass.
-/

namespace Pass

variable {ρ σ β ε : Type*}

/-- What a rule tells the pass. -/
inductive Signal (ε : Type*)
  | next
  | stop
  | fail (err : ε)

/-- The pass over `rules`: the last state, and whether it failed. -/
def pass (f : ρ → σ → σ × Signal ε) : List ρ → σ → σ × Except ε Unit
  | [], s => (s, .ok ())
  | r :: rs, s =>
    match f r s with
    | (t, .next) => pass f rs t
    | (t, .stop) => (t, .ok ())
    | (t, .fail err) => (t, .error err)

/-- The pass up to the first deferred rule, whose index it answers; `i` counts from the start. -/
def passUntil (f : ρ → σ → σ × Signal ε) (defer : ρ → σ → Bool) :
    ℕ → List ρ → σ → σ × Except ε (Option ℕ)
  | _, [], s => (s, .ok none)
  | i, r :: rs, s =>
    if defer r s then (s, .ok (some i))
    else match f r s with
      | (t, .next) => passUntil f defer (i + 1) rs t
      | (t, .stop) => (t, .ok none)
      | (t, .fail err) => (t, .error err)

/-- The rest of a full pass after the cut: nothing more, or the rules from the handed over one. -/
def resume (f : ρ → σ → σ × Signal ε) (rules : List ρ) (s : σ) : Except ε (Option ℕ) → σ × Except ε Unit
  | .ok none => (s, .ok ())
  | .ok (some i) => pass f (rules.drop i) s
  | .error err => (s, .error err)

/-- The index handed over lies in the list. -/
theorem passUntil_index {f : ρ → σ → σ × Signal ε} {defer : ρ → σ → Bool} {rules : List ρ} {s t : σ}
    {i j : ℕ} (h : passUntil f defer i rules s = (t, .ok (some j))) :
    i ≤ j ∧ ∃ r, rules[j - i]? = some r ∧ defer r t = true := by
  induction rules generalizing i s with
  | nil => simp [passUntil] at h
  | cons r rs ih =>
    unfold passUntil at h
    by_cases hd : defer r s = true
    · rw [if_pos hd] at h
      simp only [Prod.mk.injEq, Except.ok.injEq, Option.some.injEq] at h
      obtain ⟨rfl, rfl⟩ := h
      exact ⟨Nat.le_refl _, r, by simp, hd⟩
    · rw [if_neg hd] at h
      rcases hf : f r s with ⟨u, sig⟩
      rw [hf] at h
      cases sig with
      | next =>
        obtain ⟨hij, q, hq, hdq⟩ := ih h
        have hsub : j - i = (j - (i + 1)) + 1 := by omega
        exact ⟨by omega, q, by rw [hsub, List.getElem?_cons_succ]; exact hq, hdq⟩
      | stop => simp at h
      | fail err => simp at h

/-- **Hand-over**: let the rules that are not held back act on the first component of the state as `g`
does and leave the second one alone.  Then the full pass is the cut pass of `g` on the first
component, resumed where it was cut. -/
theorem passUntil_handover {f : ρ → σ × β → (σ × β) × Signal ε} {g : ρ → σ → σ × Signal ε}
    {defer : ρ → σ → Bool}
    (hfg : ∀ r s b, defer r s = false → f r (s, b) = (((g r s).1, b), (g r s).2))
    (rules : List ρ) (s : σ) (b : β) :
    pass f rules (s, b) =
      resume f rules ((passUntil g defer 0 rules s).1, b) (passUntil g defer 0 rules s).2 := by
  -- the induction runs over the rules that are left, with those already passed in front of them
  have key : ∀ (rest done : List ρ) (s : σ), pass f rest (s, b) =
      resume f (done ++ rest) ((passUntil g defer done.length rest s).1, b)
        (passUntil g defer done.length rest s).2 := by
    intro rest
    induction rest with
    | nil => intro done s; rfl
    | cons r rs ih =>
      intro done s
      by_cases hd : defer r s = true
      · have hu : passUntil g defer done.length (r :: rs) s = (s, .ok (some done.length)) := by
          unfold passUntil; rw [if_pos hd]
        rw [hu]
        simp only [resume, List.drop_left]
      · have hf := hfg r s b (by simpa using hd)
        rcases hg : g r s with ⟨t, sig⟩
        rw [hg] at hf
        have hstep : done ++ r :: rs = (done ++ [r]) ++ rs := by simp
        have hlen : (done ++ [r]).length = done.length + 1 := by simp
        cases sig with
        | next =>
          have hp : pass f (r :: rs) (s, b) = pass f rs (t, b) := by rw [pass, hf]
          have hu : passUntil g defer done.length (r :: rs) s =
              passUntil g defer (done ++ [r]).length rs t := by
            rw [passUntil, if_neg hd, hg, hlen]
          rw [hp, hu, hstep]
          exact ih (done ++ [r]) t
        | stop =>
          have hu : passUntil g defer done.length (r :: rs) s = (t, .ok none) := by
            rw [passUntil, if_neg hd, hg]
          rw [pass, hf, hu]
          rfl
        | fail err =>
          have hu : passUntil g defer done.length (r :: rs) s = (t, .error err) := by
            rw [passUntil, if_neg hd, hg]
          rw [pass, hf, hu]
          rfl
  exact key rules [] s

/-! ### The rules that act -/

/-- The rules that act on the way of the pass: those of which `acts` says so when their turn comes.  One
that fails has not acted. -/
def acting (f : ρ → σ → σ × Signal ε) (acts : ρ → σ → Bool) : List ρ → σ → List ρ
  | [], _ => []
  | r :: rs, s =>
    match f r s with
    | (t, .next) => if acts r s then r :: acting f acts rs t else acting f acts rs t
    | (_, .stop) => if acts r s then [r] else []
    | (_, .fail _) => []

section

variable {f : ρ → σ → σ × Signal ε} {acts : ρ → σ → Bool}

theorem append_acted (done rest : List ρ) (r : ρ) (a : Bool) :
    done ++ (if a then r :: rest else rest) = (if a then done ++ [r] else done) ++ rest := by
  cases a with
  | false => rfl
  | true => exact (List.append_assoc done [r] rest).symm

theorem acted_sublist {l more rs : List ρ} (h : (l ++ more).Sublist rs) (r : ρ) (a : Bool) :
    ((if a then r :: l else l) ++ more).Sublist (r :: rs) := by
  cases a with
  | false => exact h.cons r
  | true => exact h.cons_cons r

theorem acting_sublist (rules : List ρ) (s : σ) : (acting f acts rules s).Sublist rules := by
  induction rules generalizing s with
  | nil => exact List.Sublist.refl _
  | cons r rs ih =>
    unfold acting
    rcases f r s with ⟨t, _ | _ | err⟩
    · have hrest : (acting f acts rs t ++ []).Sublist rs := by
        rw [List.append_nil]
        exact ih t
      simpa only [List.append_nil] using acted_sublist hrest r (acts r s)
    · have hnone : ([] ++ [] : List ρ).Sublist rs := List.nil_sublist rs
      simpa only [List.append_nil] using acted_sublist hnone r (acts r s)
    · exact List.nil_sublist _

/-- **Induction over a pass**: what each step carries from the rules that acted so far to those that acted
after it holds of the rules that act in the pass and its last state; and where the pass fails, it holds
of the state in which the failing rule was met. -/
theorem pass_acting {P : List ρ → σ → Prop}
    (hstep : ∀ done r s t sig, P done s → f r s = (t, sig) → (∀ err, sig ≠ .fail err) →
      P (if acts r s then done ++ [r] else done) t)
    (rules : List ρ) (s : σ) (hstart : P [] s) :
    match pass f rules s with
    | (t, .ok ()) => P (acting f acts rules s) t
    | (t, .error err) => ∃ r u, P (acting f acts rules s) u ∧ f r u = (t, .fail err) ∧
      (acting f acts rules s ++ [r]).Sublist rules := by
  -- the induction runs over the rules that are left, with those that acted in front of them
  have key : ∀ (rest done : List ρ) (s : σ), P done s →
      match pass f rest s with
      | (t, .ok ()) => P (done ++ acting f acts rest s) t
      | (t, .error err) => ∃ r u, P (done ++ acting f acts rest s) u ∧ f r u = (t, .fail err) ∧
        (acting f acts rest s ++ [r]).Sublist rest := by
    intro rest
    induction rest with
    | nil =>
      intro done s hs
      show P (done ++ []) s
      rw [List.append_nil]
      exact hs
    | cons r rs ih =>
      intro done s hs
      unfold pass acting
      rcases hf : f r s with ⟨t, _ | _ | err⟩
      · have ht := hstep done r s t .next hs hf (fun err h => nomatch h)
        have hrest := ih (if acts r s then done ++ [r] else done) t ht
        simp only [append_acted]
        rcases hp : pass f rs t with ⟨last, err | _⟩
        · rw [hp] at hrest
          obtain ⟨q, u, hu, hq, hsub⟩ := hrest
          exact ⟨q, u, hu, hq, acted_sublist hsub r (acts r s)⟩
        · rw [hp] at hrest
          exact hrest
      · have ht := hstep done r s t .stop hs hf (fun err h => nomatch h)
        show P (done ++ if acts r s = true then [r] else []) t
        rw [append_acted, List.append_nil]
        exact ht
      · refine ⟨r, s, ?_, hf, ?_⟩
        · rw [List.append_nil]
          exact hs
        · exact (List.nil_sublist rs).cons_cons r
  have hall := key rules [] s hstart
  rcases hp : pass f rules s with ⟨t, err | _⟩
  · rw [hp] at hall
    exact hall
  · rw [hp] at hall
    exact hall

end

end Pass
