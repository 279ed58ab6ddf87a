import Mathlib.Data.List.Basic

/-!
# Lib.Run — finite runs of a partial step function

A transition system is a function `step : σ → α → Option σ`: `none` means that the action is not
enabled in the state.  `run` takes a list of actions in order, `Always P` says that `P` holds in
every state a run visits, `Along C` that every action of a run meets the condition `C` in the state
it is taken from.  The rules: an invariant holds at the end of a run (`run_invariant`), a preorder
that every step follows relates both ends (`run_rel`), and where each step keeps `P` exactly under
`C`, a run stays in `P` exactly when all its steps meet `C` (`always_iff_along`), or ends in `P` exactly
then (`run_iff_along`) if `P` never comes back; a rank bounds how often some steps are taken (`run_rank`).
`gathered` collects what the steps give.
-/

namespace Transition

variable {σ α : Type*} (step : σ → α → Option σ)

/-- The actions `as` in order, from `s`; `none` as soon as one of them is not enabled. -/
def run : σ → List α → Option σ
  | s, [] => some s
  | s, a :: as => (step s a).bind fun t => run t as

/-- `P` holds in every state that the actions visit from `s`, both ends included. -/
def Always (P : σ → Prop) : σ → List α → Prop
  | s, [] => P s
  | s, a :: as => P s ∧ ∀ t, step s a = some t → Always P t as

/-- Every action meets the condition `C` in the state it is taken from. -/
def Along (C : σ → α → Prop) : σ → List α → Prop
  | _, [] => True
  | s, a :: as => C s a ∧ ∀ t, step s a = some t → Along C t as

/-- What the steps of a run give, in order. -/
def gathered {β : Type*} (give : σ → α → List β) : σ → List α → List β
  | _, [] => []
  | s, a :: as =>
    give s a ++ match step s a with
      | some t => gathered give t as
      | none => []

instance Along.decidable (C : σ → α → Prop) [∀ s a, Decidable (C s a)] :
    ∀ s as, Decidable (Along step C s as)
  | _, [] => .isTrue trivial
  | s, a :: as =>
    match h : step s a with
    | none => decidable_of_iff (C s a) ⟨fun hC => ⟨hC, fun t ht => by rw [h] at ht; cases ht⟩, And.left⟩
    | some t =>
      haveI := Along.decidable C t as
      decidable_of_iff (C s a ∧ Along step C t as)
        ⟨fun hC => ⟨hC.1, fun u hu => by rw [h] at hu; cases hu; exact hC.2⟩,
          fun hC => ⟨hC.1, hC.2 t h⟩⟩

@[simp] theorem run_nil (s : σ) : run step s [] = some s := rfl

@[simp] theorem run_cons (s : σ) (a : α) (as : List α) :
    run step s (a :: as) = (step s a).bind fun t => run step t as := rfl

variable {step}

theorem run_cons_some {s u : σ} {a : α} {as : List α} (h : run step s (a :: as) = some u) :
    ∃ t, step s a = some t ∧ run step t as = some u := by
  rw [run_cons, Option.bind_eq_some_iff] at h
  exact h

theorem run_append {s : σ} {as bs : List α} :
    run step s (as ++ bs) = (run step s as).bind fun t => run step t bs := by
  induction as generalizing s with
  | nil => rfl
  | cons a as ih =>
    rw [List.cons_append, run_cons, run_cons, Option.bind_assoc]
    exact Option.bind_congr fun t _ => ih

theorem run_append_some {s t u : σ} {as bs : List α} (h₁ : run step s as = some t)
    (h₂ : run step t bs = some u) : run step s (as ++ bs) = some u := by
  rw [run_append, h₁]
  exact h₂

/-- **Invariant rule**: what every action of the run keeps holds at its end. -/
theorem run_invariant_of_mem {P : σ → Prop} {s t : σ} {as : List α}
    (hstep : ∀ s a t, a ∈ as → P s → step s a = some t → P t) (hs : P s)
    (h : run step s as = some t) : P t := by
  induction as generalizing s with
  | nil => obtain rfl : s = t := Option.some.inj h; exact hs
  | cons a as ih =>
    obtain ⟨u, hu, ht⟩ := run_cons_some h
    refine ih (fun s b t hb => hstep s b t (List.mem_cons_of_mem a hb)) ?_ ht
    exact hstep s a u List.mem_cons_self hs hu

/-- The invariant rule for what every action keeps. -/
theorem run_invariant {P : σ → Prop} (hstep : ∀ s a t, P s → step s a = some t → P t) {s t : σ}
    {as : List α} (hs : P s) (h : run step s as = some t) : P t :=
  run_invariant_of_mem (fun s a t _ => hstep s a t) hs h

/-- **Two-run rule**: where what is left of two states after erasing decides what is left after a step,
the same actions lead from states that agree so to states that agree so. -/
theorem run_erased {τ : Type*} {erase : σ → τ}
    (hstep : ∀ s t a, erase s = erase t → (step s a).map erase = (step t a).map erase) {s t : σ}
    (h : erase s = erase t) (as : List α) : (run step s as).map erase = (run step t as).map erase := by
  induction as generalizing s t with
  | nil => exact congrArg some h
  | cons a as ih =>
    have ha := hstep s t a h
    rw [run_cons, run_cons]
    cases hs : step s a with
    | none =>
      rw [hs] at ha
      rw [Option.map_eq_none_iff.mp ha.symm]
    | some s' =>
      rw [hs] at ha
      obtain ⟨t', ht, herase⟩ := Option.map_eq_some_iff.mp ha.symm
      rw [ht]
      exact ih herase.symm

/-- **Image rule**: where each step of the images is the image of the step, in the states of an
invariant, so is each run. -/
theorem run_image {P : σ → Prop} {f : σ → σ} {g : α → α}
    (hstep : ∀ s a, P s → step (f s) (g a) = (step s a).map f)
    (hP : ∀ s a t, P s → step s a = some t → P t) {s : σ} (hs : P s) (as : List α) :
    run step (f s) (as.map g) = (run step s as).map f := by
  induction as generalizing s with
  | nil => rfl
  | cons a as ih =>
    rw [List.map_cons, run_cons, run_cons, hstep s a hs]
    cases ha : step s a with
    | none => rfl
    | some t => exact ih (hP s a t hs ha)

/-- **Relation rule**: a reflexive and transitive relation that every step follows from a state of
an invariant relates the ends of a run. -/
theorem run_rel {P : σ → Prop} {R : σ → σ → Prop} (hrefl : ∀ s, R s s)
    (htrans : ∀ s t u, R s t → R t u → R s u) (hP : ∀ s a t, P s → step s a = some t → P t)
    (hstep : ∀ s a t, P s → step s a = some t → R s t) {s t : σ} {as : List α} (hs : P s)
    (h : run step s as = some t) : R s t := by
  induction as generalizing s with
  | nil => obtain rfl : s = t := Option.some.inj h; exact hrefl s
  | cons a as ih =>
    obtain ⟨u, hu, ht⟩ := run_cons_some h
    exact htrans s u t (hstep s a u hs hu) (ih (hP s a u hs hu) ht)

/-- The invariant rule for states and what the steps gave on the way. -/
theorem run_gathered {β : Type*} {give : σ → α → List β} {P : List β → σ → Prop} {l : List β}
    {s t : σ} {as : List α} (hstep : ∀ l s a t, P l s → step s a = some t → P (l ++ give s a) t)
    (hs : P l s) (h : run step s as = some t) : P (l ++ gathered step give s as) t := by
  induction as generalizing l s with
  | nil =>
    obtain rfl : s = t := Option.some.inj h
    rw [gathered, List.append_nil]
    exact hs
  | cons a as ih =>
    obtain ⟨u, hu, ht⟩ := run_cons_some h
    rw [gathered, hu, ← List.append_assoc]
    exact ih (hstep l s a u hs hu) ht

/-- The invariant rule for states and the actions that led there. -/
theorem run_history {P : List α → σ → Prop} {s t : σ} {as : List α}
    (hstep : ∀ bs s a t, P bs s → step s a = some t → P (bs ++ [a]) t) (hs : P [] s)
    (h : run step s as = some t) : P as t := by
  suffices hall : ∀ bs s, P bs s → run step s as = some t → P (bs ++ as) t from hall [] s hs h
  clear hs h
  induction as with
  | nil =>
    intro bs s hs h
    obtain rfl : s = t := Option.some.inj h
    rwa [List.append_nil]
  | cons a as ih =>
    intro bs s hs h
    obtain ⟨u, hu, ht⟩ := run_cons_some h
    have hnext := ih (bs ++ [a]) u (hstep bs s a u hs hu) ht
    rwa [List.append_assoc] at hnext

/-- **Simulation rule**: where every step of a system is a run of one of its parts, a run of the system
is a run of the part, of the actions gathered on the way. -/
theorem run_simulates {τ β : Type*} {part : τ → β → Option τ} {proj : σ → τ} {acts : σ → α → List β}
    (hstep : ∀ s a t, step s a = some t → run part (proj s) (acts s a) = some (proj t)) {s t : σ}
    {as : List α} (h : run step s as = some t) :
    run part (proj s) (gathered step acts s as) = some (proj t) := by
  induction as generalizing s with
  | nil => obtain rfl : s = t := Option.some.inj h; rfl
  | cons a as ih =>
    obtain ⟨u, hu, ht⟩ := run_cons_some h
    rw [gathered, hu]
    exact run_append_some (hstep s a u hu) (ih ht)

/-- **Refinement rule**: where each step of a system is the step of its specification, under a condition `C`
that the run of the specification meets, both can take the same runs, and come to the same. -/
theorem run_refines {τ : Type*} {spec : τ → α → Option τ} {proj : σ → τ} {C : τ → α → Prop} {s : σ}
    {as : List α} (hstep : ∀ s a, C (proj s) a → (step s a).map proj = spec (proj s) a)
    (hC : Along spec C (proj s) as) : (run step s as).map proj = run spec (proj s) as := by
  induction as generalizing s with
  | nil => rfl
  | cons a as ih =>
    have hone := hstep s a hC.1
    rw [run_cons, run_cons, ← hone]
    cases ht : step s a with
    | none => rfl
    | some t =>
      rw [ht] at hone
      exact ih (hC.2 (proj t) hone.symm)

/-- **Rank rule**: where a step of `p` lowers the rank `r`, and only one of `q` raises it, by one at most, the
steps of `p` are at most as many as the rank at the start and the steps of `q` together. -/
theorem run_rank {r : σ → ℕ} {p q : α → Bool} {s t : σ} {as : List α}
    (hstep : ∀ s a t, step s a = some t →
      r t + (if p a then 1 else 0) ≤ r s + (if q a then 1 else 0))
    (h : run step s as = some t) : as.countP p + r t ≤ r s + as.countP q := by
  induction as generalizing s with
  | nil => obtain rfl : s = t := Option.some.inj h; simp
  | cons a as ih =>
    obtain ⟨u, hu, ht⟩ := run_cons_some h
    have hone := hstep s a u hu
    have hrest := ih ht
    rw [List.countP_cons, List.countP_cons]
    omega

theorem gathered_append {β : Type*} {give : σ → α → List β} {s t : σ} {as bs : List α}
    (h : run step s as = some t) :
    gathered step give s (as ++ bs) = gathered step give s as ++ gathered step give t bs := by
  induction as generalizing s with
  | nil => obtain rfl : s = t := Option.some.inj h; rfl
  | cons a as ih =>
    obtain ⟨u, hu, ht⟩ := run_cons_some h
    rw [List.cons_append, gathered, gathered, hu, List.append_assoc, ← ih ht]

theorem along_mono {C D : σ → α → Prop} {s : σ} {as : List α} (hCD : ∀ s a, C s a → D s a)
    (h : Along step C s as) : Along step D s as := by
  induction as generalizing s with
  | nil => trivial
  | cons a as ih => exact ⟨hCD s a h.1, fun t ht => ih (h.2 t ht)⟩

theorem along_cons {C : σ → α → Prop} {s t : σ} {a : α} {as : List α} (hC : C s a)
    (ht : step s a = some t) (h : Along step C t as) : Along step C s (a :: as) :=
  ⟨hC, fun _ hu => Option.some.inj (ht.symm.trans hu) ▸ h⟩

theorem along_and {C D : σ → α → Prop} {s : σ} {as : List α} (hC : Along step C s as)
    (hD : Along step D s as) : Along step (fun s a => C s a ∧ D s a) s as := by
  induction as generalizing s with
  | nil => trivial
  | cons a as ih => exact ⟨⟨hC.1, hD.1⟩, fun t ht => ih (hC.2 t ht) (hD.2 t ht)⟩

/-- Where a step never leaves `Q`, the steps of a run that ends outside of it do not come to `Q`. -/
theorem along_avoids {Q : σ → Prop} {s u : σ} {as : List α}
    (hQ : ∀ s a t, Q s → step s a = some t → Q t) (h : run step s as = some u) (hu : ¬ Q u) :
    Along step (fun s a => ∀ t, step s a = some t → ¬ Q t) s as := by
  induction as generalizing s with
  | nil => trivial
  | cons a as ih =>
    obtain ⟨t, ht, hrun⟩ := run_cons_some h
    refine along_cons (fun t' ht' hQt => ?_) ht (ih hrun)
    obtain rfl : t = t' := Option.some.inj (ht.symm.trans ht')
    exact hu (run_invariant hQ hQt hrun)

theorem along_append {C : σ → α → Prop} {s t : σ} {as bs : List α} (h : run step s as = some t)
    (hC : Along step C s (as ++ bs)) : Along step C t bs := by
  induction as generalizing s with
  | nil => obtain rfl : s = t := Option.some.inj h; exact hC
  | cons a as ih =>
    obtain ⟨u, hu, ht⟩ := run_cons_some h
    exact ih ht (hC.2 u hu)

/-- From a state of `I`, which every step keeps, steps that give nothing there give nothing at all. -/
theorem gathered_eq_nil {β : Type*} {give : σ → α → List β} {I : σ → Prop} {s : σ} {as : List α}
    (hI : ∀ s a t, I s → step s a = some t → I t) (hs : I s)
    (hC : Along step (fun s a => I s → give s a = []) s as) : gathered step give s as = [] := by
  induction as generalizing s with
  | nil => rfl
  | cons a as ih =>
    rw [gathered, hC.1 hs, List.nil_append]
    cases ht : step s a with
    | none => rfl
    | some t => exact ih (hI s a t hs ht) (hC.2 t ht)

/-- A run that comes to `Q` has a step that brings it there. -/
theorem run_enters {Q : σ → Prop} {s u : σ} {as : List α} (h : run step s as = some u) (hs : ¬ Q s)
    (hu : Q u) : ∃ bs a cs t v, as = bs ++ a :: cs ∧ run step s bs = some t ∧ ¬ Q t ∧
      step t a = some v ∧ Q v ∧ run step v cs = some u := by
  induction as generalizing s with
  | nil => obtain rfl : s = u := Option.some.inj h; exact absurd hu hs
  | cons a as ih =>
    obtain ⟨t, ht, hrun⟩ := run_cons_some h
    by_cases hQ : Q t
    · exact ⟨[], a, as, s, t, rfl, rfl, hs, ht, hQ, hrun⟩
    · obtain ⟨bs, b, cs, v, w, rfl, hbs, hv, hb, hw, hcs⟩ := ih hrun hQ
      exact ⟨a :: bs, b, cs, v, w, rfl, by rw [run_cons, ht]; exact hbs, hv, hb, hw, hcs⟩

/-- `Always` in terms of the prefixes of a run. -/
theorem always_iff_prefix {P : σ → Prop} {s : σ} {as : List α} :
    Always step P s as ↔ ∀ bs cs t, as = bs ++ cs → run step s bs = some t → P t := by
  induction as generalizing s with
  | nil =>
    constructor
    · rintro h bs cs t hbc ht
      obtain ⟨rfl, -⟩ := List.append_eq_nil_iff.mp hbc.symm
      obtain rfl : s = t := Option.some.inj ht
      exact h
    · exact fun h => h [] [] s rfl rfl
  | cons a as ih =>
    constructor
    · rintro ⟨hs, h⟩ bs cs t hbc ht
      cases bs with
      | nil => obtain rfl : s = t := Option.some.inj ht; exact hs
      | cons b bs =>
        obtain ⟨rfl, rfl⟩ := List.cons_eq_cons.mp hbc
        obtain ⟨u, hu, ht⟩ := run_cons_some ht
        exact ih.mp (h u hu) bs cs t rfl ht
    · refine fun h => ⟨h [] (a :: as) s rfl rfl, fun u hu => ih.mpr fun bs cs t hbc ht => ?_⟩
      exact h (a :: bs) cs t (by rw [hbc]; rfl) (by rw [run_cons, hu]; exact ht)

/-- The invariant rule for what the steps that meet `F` keep. -/
theorem run_invariant_along {P : σ → Prop} {F : σ → α → Prop} {s t : σ} {as : List α}
    (hstep : ∀ s a t, F s a → P s → step s a = some t → P t) (hs : P s) (hF : Along step F s as)
    (h : run step s as = some t) : P t := by
  induction as generalizing s with
  | nil => obtain rfl : s = t := Option.some.inj h; exact hs
  | cons a as ih =>
    obtain ⟨u, hu, ht⟩ := run_cons_some h
    exact ih (hstep s a u hF.1 hs hu) (hF.2 u hu) ht

/-- Where the steps that meet `C` keep an invariant, a run of such steps visits only states of it. -/
theorem always_of_along {I P : σ → Prop} {C : σ → α → Prop} {s : σ} {as : List α}
    (hP : ∀ s, I s → P s) (hstep : ∀ s a t, C s a → I s → step s a = some t → I t) (hs : I s)
    (hC : Along step C s as) : Always step P s as := by
  induction as generalizing s with
  | nil => exact hP s hs
  | cons a as ih =>
    exact ⟨hP s hs, fun t ht => ih (hstep s a t hC.1 hs ht) (hC.2 t ht)⟩

theorem along_of_forall {C : σ → α → Prop} {s : σ} {as : List α} (h : ∀ s, ∀ a ∈ as, C s a) :
    Along step C s as := by
  induction as generalizing s with
  | nil => trivial
  | cons a as ih =>
    exact ⟨h s a List.mem_cons_self, fun _ _ => ih fun s b hb => h s b (List.mem_cons_of_mem a hb)⟩

theorem always_mono {P Q : σ → Prop} {s : σ} {as : List α} (hPQ : ∀ s, P s → Q s)
    (h : Always step P s as) : Always step Q s as := by
  induction as generalizing s with
  | nil => exact hPQ s h
  | cons a as ih => exact ⟨hPQ s h.1, fun t ht => ih (h.2 t ht)⟩

/-- **Exact condition rule**: in a run of steps that meet `F` and keep `I`, and each of which leads from
`P` to `P` exactly under the condition `C`, all states are in `P` exactly when all steps meet `C`. -/
theorem always_iff_along {I P : σ → Prop} {F C : σ → α → Prop} {s u : σ} {as : List α}
    (hI : ∀ s a t, F s a → I s → step s a = some t → I t)
    (hstep : ∀ s a t, F s a → I s → P s → step s a = some t → (P t ↔ C s a)) (hs : I s) (hP : P s)
    (hF : Along step F s as) (h : run step s as = some u) :
    Always step P s as ↔ Along step C s as := by
  induction as generalizing s with
  | nil => exact ⟨fun _ => trivial, fun _ => hP⟩
  | cons a as ih =>
    obtain ⟨t, ht, hu⟩ := run_cons_some h
    have hC := hstep s a t hF.1 hs hP ht
    have htail := fun hPt => ih (hI s a t hF.1 hs ht) hPt (hF.2 t ht) hu
    constructor
    · rintro ⟨-, hall⟩
      have hPt : P t := always_iff_prefix.mp (hall t ht) [] as t rfl rfl
      refine ⟨hC.mp hPt, fun t' ht' => ?_⟩
      obtain rfl : t = t' := Option.some.inj (ht.symm.trans ht')
      exact (htail hPt).mp (hall t ht)
    · rintro ⟨hCs, hall⟩
      refine ⟨hP, fun t' ht' => ?_⟩
      obtain rfl : t = t' := Option.some.inj (ht.symm.trans ht')
      exact (htail (hC.mpr hCs)).mpr (hall t ht)

/-- The exact condition rule with a stronger invariant `Q`: from a state of `Q`, the steps that meet `C`
keep it and all others leave `P`. -/
theorem always_iff_along_of_strong {Q P : σ → Prop} {C : σ → α → Prop} {s u : σ} {as : List α}
    (hQP : ∀ s, Q s → P s) (hkeep : ∀ s a t, Q s → C s a → step s a = some t → Q t)
    (hbreak : ∀ s a t, Q s → ¬ C s a → step s a = some t → ¬ P t) (hs : Q s)
    (h : run step s as = some u) : Always step P s as ↔ Along step C s as := by
  refine ⟨fun hall => ?_, fun hC => always_of_along hQP (fun s a t hC hQ => hkeep s a t hQ hC) hs hC⟩
  induction as generalizing s with
  | nil => trivial
  | cons a as ih =>
    obtain ⟨t, ht, hu⟩ := run_cons_some h
    have htail := hall.2 t ht
    have hPt : P t := always_iff_prefix.mp htail [] as t rfl rfl
    have hC : C s a := by
      by_contra hC
      exact hbreak s a t hs hC ht hPt
    exact along_cons hC ht (ih (hkeep s a t hs hC ht) hu htail)

/-- The exact condition rule for the end of a run of steps that meet `F` and keep `I`: each of them
leads to `P` exactly from `P` and under the condition `C`. -/
theorem run_iff_along {I P : σ → Prop} {F C : σ → α → Prop} {s u : σ} {as : List α}
    (hI : ∀ s a t, F s a → I s → step s a = some t → I t)
    (hstep : ∀ s a t, F s a → I s → step s a = some t → (P t ↔ P s ∧ C s a)) (hs : I s)
    (hF : Along step F s as) (h : run step s as = some u) : P u ↔ P s ∧ Along step C s as := by
  induction as generalizing s with
  | nil =>
    obtain rfl : s = u := Option.some.inj h
    exact ⟨fun hP => ⟨hP, trivial⟩, And.left⟩
  | cons a as ih =>
    obtain ⟨t, ht, hu⟩ := run_cons_some h
    rw [ih (hI s a t hF.1 hs ht) (hF.2 t ht) hu, hstep s a t hF.1 hs ht]
    constructor
    · rintro ⟨⟨hP, hC⟩, hall⟩
      refine ⟨hP, hC, fun t' ht' => ?_⟩
      obtain rfl : t = t' := Option.some.inj (ht.symm.trans ht')
      exact hall
    · rintro ⟨hP, hC, hall⟩
      exact ⟨⟨hP, hC⟩, hall t ht⟩

end Transition
