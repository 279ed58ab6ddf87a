import KidProxy.AdminForm
import KidProxy.Agreement

/-!
# AdminSaves — one form of each page at the same time

Each handler reads the snapshot and later saves a whole config, in which the part of the other page is the
one it read.  What the other page saved in between is overwritten, so that both forms are kept exactly when
a save finds the part of the other page as its handler read it (`saves_kept_iff`).
-/

namespace KidProxy

open Transition

/-- Where a handler stands; `answered` is after `save_config`. -/
inductive PostStage
  | reading
  | submitted (next : Submitted)
  | answered (draft : AppConfigFile) (result : Except AnyError RuntimeManagerState)

/-- The manager, the config file and the two handlers. -/
structure Posts where
  manager : RuntimeManager
  file : String
  stage : Page → PostStage

inductive PostAction
  /-- A handler reads the snapshot and builds its draft. -/
  | read (page : Page)
  /-- It calls `save_config`. -/
  | save (page : Page) (env : CallEnv)

/-- What `save_config` comes to. -/
theorem saveConfig_cases [Net] [Glob] [ConfigText] (m : RuntimeManager) (env : CallEnv)
    (appConfig : AppConfigFile) (file : String) :
    (∃ snapshot m' file', m.saveConfig env appConfig file = (.ok snapshot, m', file') ∧
      m'.snapshot.savedConfig = appConfig ∧ ConfigText.print appConfig = .ok file') ∨
    ∃ err m' file', m.saveConfig env appConfig file = (.error err, m', file') := by
  unfold RuntimeManager.saveConfig
  cases appConfig.toRuntimeConfig env.fs with
  | error err => exact .inr ⟨err, m, file, rfl⟩
  | ok runtime =>
    dsimp only
    rcases hw : appConfig.writeJson env.write m.configPath file with ⟨err | ⟨⟨⟩⟩, file'⟩
    · exact .inr ⟨err, m, file', rfl⟩
    · exact .inl ⟨_, _, file', rfl, rfl, print_of_writeJson hw⟩

namespace Posts

def init (manager : RuntimeManager) (file : String) : Posts := ⟨manager, file, fun _ => .reading⟩

def setStage (s : Posts) (page : Page) (stage : PostStage) : Posts :=
  { s with stage := fun p => if p = page then stage else s.stage p }

def afterSave (s : Posts) (page : Page) (draft : AppConfigFile)
    (result : Except AnyError RuntimeManagerState) (manager : RuntimeManager) (file : String) : Posts :=
  setStage { s with manager, file } page (.answered draft result)

/-- The steps of the handlers for the given forms: to read the snapshot, and to call `save_config`, which is
one step here and several in `ManagerCalls.step`. -/
def step [Net] [Glob] [ConfigText] (forms : Page → FormValues) (s : Posts) :
    PostAction → Option Posts
  | .read page =>
    match s.stage page with
    | .reading =>
      match page.submit (forms page) s.manager.snapshot with
      | .ok next => some (s.setStage page (.submitted next))
      | .error _ => none
    | .submitted _ | .answered _ _ => none
  | .save page env =>
    match s.stage page with
    | .submitted (.save _ draft) =>
      let (result, manager, file) := s.manager.saveConfig env draft s.file
      some (s.afterSave page draft result manager file)
    | .submitted (.render _) | .submitted .reload | .reading | .answered _ _ => none

variable (s : Posts)

/-- A save was refused. -/
def Refused : Prop := ∃ page draft err, s.stage page = .answered draft (.error err)

def Answered (page : Page) : Prop := ∃ draft result, s.stage page = .answered draft result

/-- Each form that was saved is kept. -/
def Kept : Prop :=
  ∀ page draft result, s.stage page = .answered draft result →
    page.Same draft s.manager.snapshot.savedConfig

/-- A save finds the part of the other page as its handler read it. -/
def FindsOther : PostAction → Prop
  | .read _ => True
  | .save page _ => ∀ snapshot draft, s.stage page = .submitted (.save snapshot draft) →
    page.other.Same draft s.manager.snapshot.savedConfig

@[simp] theorem setStage_self (page : Page) (stage : PostStage) :
    (s.setStage page stage).stage page = stage := if_pos rfl

theorem setStage_ne {page p : Page} (stage : PostStage) (h : p ≠ page) :
    (s.setStage page stage).stage p = s.stage p := if_neg h

section AfterSave

variable (page : Page) (draft : AppConfigFile) (result : Except AnyError RuntimeManagerState)
  (manager : RuntimeManager) (file : String)

@[simp] theorem afterSave_self :
    (s.afterSave page draft result manager file).stage page = .answered draft result := if_pos rfl

@[simp] theorem afterSave_other :
    (s.afterSave page draft result manager file).stage page.other = s.stage page.other :=
  if_neg page.other_ne

@[simp] theorem afterSave_manager :
    (s.afterSave page draft result manager file).manager = manager := rfl

@[simp] theorem afterSave_file : (s.afterSave page draft result manager file).file = file := rfl

end AfterSave

/-- The effect of each action. -/
inductive Effect [ConfigText] (forms : Page → FormValues) (s : Posts) : PostAction → Posts → Prop
  | read {page next} (hstage : s.stage page = .reading)
      (h : page.submit (forms page) s.manager.snapshot = .ok next) :
      Effect forms s (.read page) (s.setStage page (.submitted next))
  | saved {page env snapshot draft manager file result}
      (hstage : s.stage page = .submitted (.save snapshot draft))
      (hsaved : manager.snapshot.savedConfig = draft) (hprint : ConfigText.print draft = .ok file) :
      Effect forms s (.save page env)
        (s.afterSave page draft (.ok result) manager file)
  | refused {page env snapshot draft manager file err}
      (hstage : s.stage page = .submitted (.save snapshot draft)) :
      Effect forms s (.save page env) (s.afterSave page draft (.error err) manager file)

variable {s} {t : Posts} {forms : Page → FormValues} {a : PostAction}

theorem step_effect [Net] [Glob] [ConfigText] (h : step forms s a = some t) : Effect forms s a t := by
  cases a with
  | read page =>
    simp only [step] at h
    split at h
    · rename_i hstage
      split at h
      · rename_i next hsubmit
        cases h
        exact .read hstage hsubmit
      · cases h
    · cases h
    · cases h
  | save page env =>
    simp only [step] at h
    split at h
    · rename_i snapshot draft hstage
      rcases saveConfig_cases s.manager env draft s.file with
        ⟨result, manager, file, hm, hsaved, hprint⟩ | ⟨err, manager, file, hm⟩
      · rw [hm] at h
        cases h
        exact .saved hstage hsaved hprint
      · rw [hm] at h
        cases h
        exact .refused hstage
    all_goals cases h

/-- A handler that meets no other one saves and answers as in one piece. -/
theorem handle_alone [Net] [Glob] [ConfigText] {page : Page} {env : CallEnv}
    {snapshot : RuntimeManagerState} {draft : AppConfigFile} (hstage : s.stage page = .reading)
    (hsubmit : page.submit (forms page) s.manager.snapshot = .ok (.save snapshot draft)) :
    ∃ t result, run (step forms) s [.read page, .save page env] = some t ∧
      t.stage page = .answered draft result ∧
      page.handle (forms page) s.manager env s.file =
        .ok (savedPage snapshot draft result, t.manager, t.file) := by
  rcases hsaved : s.manager.saveConfig env draft s.file with ⟨result, manager, file⟩
  have hread : step forms s (.read page) = some (s.setStage page (.submitted (.save snapshot draft))) := by
    simp only [step, hstage, hsubmit]
  generalize hu : s.setStage page (.submitted (.save snapshot draft)) = u at hread
  have hsave : step forms u (.save page env) = some (u.afterSave page draft result manager file) := by
    subst hu
    simp only [step, setStage, if_true, hsaved]
  refine ⟨u.afterSave page draft result manager file, result, ?_, afterSave_self _ _ _ _ _ _, ?_⟩
  · rw [run_cons, hread]
    exact congrArg (·.bind some) hsave
  · refine bind_eq_ok.mpr ⟨_, hsubmit, ?_⟩
    dsimp only
    rw [hsaved]
    rfl

section Kept

variable [ConfigText]

omit [ConfigText] in
theorem afterSave_stays {page p : Page} {draft other : AppConfigFile} {manager : RuntimeManager}
    {file : String} {result result' : Except AnyError RuntimeManagerState}
    (hp : s.stage p = .answered other result') (hpage : p ≠ page) :
    (s.afterSave page draft result manager file).stage p = .answered other result' := by
  obtain rfl := (page.eq_or_eq_other p).resolve_left hpage
  rw [afterSave_other, hp]

/-- A handler that has answered stays so. -/
theorem Effect.stays (h : Effect forms s a t) {page : Page} {draft : AppConfigFile}
    {result : Except AnyError RuntimeManagerState} (hp : s.stage page = .answered draft result) :
    t.stage page = .answered draft result := by
  have hne {p : Page} {stage : PostStage} (hstage : s.stage p = stage)
      (hstage' : stage ≠ .answered draft result) : page ≠ p := by
    rintro rfl
    exact hstage' (hstage.symm.trans hp)
  cases h with
  | read hstage hsubmit => rwa [setStage_ne _ _ (hne hstage nofun)]
  | saved hstage hsaved hprint => exact afterSave_stays hp (hne hstage nofun)
  | refused hstage => exact afterSave_stays hp (hne hstage nofun)

/-- What holds between the handlers while no save was refused. -/
structure Sane (s : Posts) : Prop where
  drafts : ∀ page snapshot draft, s.stage page = .submitted (.save snapshot draft) →
    page.other.Same draft snapshot.savedConfig ∧
      (¬ s.Answered page.other → snapshot.savedConfig = s.manager.snapshot.savedConfig)
  first : ∀ page, ¬ s.Answered page → s.Kept
  file : ∀ page, s.Answered page →
    ConfigText.print s.manager.snapshot.savedConfig = .ok s.file

/-- While a handler has yet to save, the other form is kept. -/
theorem Sane.kept (h : Sane s) {page : Page} {next : Submitted}
    (hstage : s.stage page = .submitted next) : s.Kept :=
  h.first page fun ⟨_, _, hd⟩ => by cases hstage.symm.trans hd

theorem sane_init (manager : RuntimeManager) (file : String) : Sane (init manager file) where
  drafts page snapshot draft h := nomatch h
  first page _ p draft result h := by cases h
  file page h := by
    obtain ⟨draft, result, h⟩ := h
    cases h

omit [ConfigText] in
/-- A read answers nothing. -/
theorem answered_read {page p : Page} {next : Submitted} {draft : AppConfigFile}
    {result : Except AnyError RuntimeManagerState} (hstage : s.stage page = .reading) :
    (s.setStage page (.submitted next)).stage p = .answered draft result ↔
      s.stage p = .answered draft result := by
  by_cases hp : p = page
  · subst hp
    rw [setStage_self, hstage]
    exact ⟨fun h => (nomatch h), fun h => (nomatch h)⟩
  · rw [setStage_ne _ _ hp]

omit [ConfigText] in
theorem kept_read {page : Page} {next : Submitted} (hstage : s.stage page = .reading) :
    (s.setStage page (.submitted next)).Kept ↔ s.Kept :=
  ⟨fun h p d r hp => h p d r ((answered_read hstage).mpr hp),
    fun h p d r hp => h p d r ((answered_read hstage).mp hp)⟩

theorem sane_read (h : Sane s) {page : Page} {next : Submitted} (hstage : s.stage page = .reading)
    (hsubmit : page.submit (forms page) s.manager.snapshot = .ok next) :
    Sane (s.setStage page (.submitted next)) := by
  have hanswered (p : Page) : (s.setStage page (.submitted next)).Answered p ↔ s.Answered p :=
    exists₂_congr fun _ _ => answered_read hstage
  refine ⟨fun p snapshot draft hp => ?_, fun p hp => ?_, fun p hp => h.file p ((hanswered p).mp hp)⟩
  · rw [hanswered]
    by_cases hpage : p = page
    · subst hpage
      rw [setStage_self] at hp
      obtain rfl := PostStage.submitted.inj hp
      obtain ⟨rfl, hdraft⟩ := Page.submit_save hsubmit
      exact ⟨Page.draft_same hdraft, fun _ => rfl⟩
    · rw [setStage_ne _ _ hpage] at hp
      exact h.drafts p snapshot draft hp
  · exact (kept_read hstage).mpr (h.first p fun ha => hp ((hanswered p).mpr ha))

section Saved

variable {page : Page} {draft : AppConfigFile} {manager : RuntimeManager} {file : String}
  {result : RuntimeManagerState}

omit [ConfigText] in
/-- While the other handler has not answered, a save keeps the one form that was saved. -/
theorem kept_first (hsaved : manager.snapshot.savedConfig = draft) (hother : ¬ s.Answered page.other) :
    (s.afterSave page draft (.ok result) manager file).Kept := by
  intro p d r hp
  rcases page.eq_or_eq_other p with rfl | rfl
  · rw [afterSave_self] at hp
    obtain ⟨rfl, -⟩ := PostStage.answered.inj hp
    rw [afterSave_manager, hsaved]
    exact .refl _ _
  · rw [afterSave_other] at hp
    exact absurd ⟨d, r, hp⟩ hother

theorem sane_saved (h : Sane s) (hsaved : manager.snapshot.savedConfig = draft)
    (hprint : ConfigText.print draft = .ok file) :
    Sane (s.afterSave page draft (.ok result) manager file) := by
  refine ⟨fun p snapshot other hp => ?_, fun p hp => ?_, fun p _ => ?_⟩
  · rcases page.eq_or_eq_other p with rfl | rfl
    · rw [afterSave_self] at hp
      cases hp
    · rw [afterSave_other] at hp
      refine ⟨(h.drafts _ snapshot other hp).1, fun hn => absurd ⟨draft, .ok result, ?_⟩ hn⟩
      rw [Page.other_other, afterSave_self]
  · rcases page.eq_or_eq_other p with rfl | rfl
    · exact absurd ⟨draft, .ok result, afterSave_self _ _ _ _ _ _⟩ hp
    · refine kept_first hsaved fun ⟨d, r, hd⟩ => hp ⟨d, r, ?_⟩
      rw [afterSave_other, hd]
  · rw [afterSave_manager, afterSave_file, hsaved]
    exact hprint

/-- A save of the second handler keeps the first form exactly when it finds it in its draft. -/
theorem kept_saved (h : Sane s) {snapshot : RuntimeManagerState}
    (hstage : s.stage page = .submitted (.save snapshot draft))
    (hsaved : manager.snapshot.savedConfig = draft) :
    (s.afterSave page draft (.ok result) manager file).Kept ↔
      page.other.Same draft s.manager.snapshot.savedConfig := by
  have hkept : s.Kept := h.kept hstage
  by_cases hother : s.Answered page.other
  · obtain ⟨d, r, hd⟩ := hother
    have hsame := hkept _ d r hd
    constructor
    · intro ht
      have hd' := ht page.other d r (by rw [afterSave_other, hd])
      rw [afterSave_manager, hsaved] at hd'
      exact hd'.symm.trans hsame
    · intro hfinds p d' r' hp
      rw [afterSave_manager, hsaved]
      rcases page.eq_or_eq_other p with rfl | rfl
      · rw [afterSave_self] at hp
        obtain ⟨rfl, -⟩ := PostStage.answered.inj hp
        exact .refl _ _
      · rw [afterSave_other] at hp
        exact (hkept _ d' r' hp).trans hfinds.symm
  · obtain ⟨hsame, hread⟩ := h.drafts page snapshot draft hstage
    rw [hread hother] at hsame
    exact ⟨fun _ => hsame, fun _ => kept_first hsaved hother⟩

end Saved

/-- **Step lemma**. -/
theorem sane_step (h : Sane s) (heff : Effect forms s a t) (hrefused : ¬ t.Refused) : Sane t := by
  cases heff with
  | read hstage hsubmit => exact sane_read h hstage hsubmit
  | saved hstage hsaved hprint => exact sane_saved h hsaved hprint
  | @refused page env snapshot draft manager file err hstage =>
    exact absurd ⟨page, draft, err, afterSave_self _ _ _ _ _ _⟩ hrefused

/-- **Step lemma** for what is kept. -/
theorem kept_step (h : Sane s) (heff : Effect forms s a t) (hrefused : ¬ t.Refused) :
    t.Kept ↔ s.Kept ∧ s.FindsOther a := by
  cases heff with
  | read hstage hsubmit => exact (kept_read hstage).trans ⟨fun hk => ⟨hk, trivial⟩, And.left⟩
  | @saved page env snapshot draft manager file result hstage hsaved hprint =>
    rw [kept_saved h hstage hsaved]
    constructor
    · refine fun hfinds => ⟨h.kept hstage, fun snapshot' draft' hstage' => ?_⟩
      cases hstage.symm.trans hstage'
      exact hfinds
    · exact fun ⟨_, hfinds⟩ => hfinds snapshot draft hstage
  | @refused page env snapshot draft manager file err hstage =>
    exact absurd ⟨page, draft, err, afterSave_self _ _ _ _ _ _⟩ hrefused

/-- The draft of a handler comes from its form and a config that was saved. -/
def Built (forms : Page → FormValues) (s : Posts) : Prop :=
  ∀ page draft, ((∃ snapshot, s.stage page = .submitted (.save snapshot draft)) ∨
      ∃ result, s.stage page = .answered draft result) →
    ∃ savedConfig, page.draft (forms page) savedConfig = .ok draft

omit [ConfigText] in
theorem built_afterSave (h : Built forms s) {page : Page} {snapshot : RuntimeManagerState}
    {draft : AppConfigFile} (hstage : s.stage page = .submitted (.save snapshot draft))
    (result : Except AnyError RuntimeManagerState) (manager : RuntimeManager) (file : String) :
    Built forms (s.afterSave page draft result manager file) := by
  intro p d hd
  rcases page.eq_or_eq_other p with rfl | rfl
  · rw [afterSave_self] at hd
    rcases hd with ⟨_, hd⟩ | ⟨_, hd⟩
    · cases hd
    · cases hd
      exact h p draft (.inl ⟨snapshot, hstage⟩)
  · rw [afterSave_other] at hd
    exact h _ d hd

theorem built_step (h : Built forms s) (heff : Effect forms s a t) : Built forms t := by
  cases heff with
  | @read page next hstage hsubmit =>
    intro p d hd
    by_cases hpage : p = page
    · subst hpage
      rw [setStage_self] at hd
      rcases hd with ⟨snapshot, hd⟩ | ⟨_, hd⟩
      · cases hd
        exact ⟨_, (Page.submit_save hsubmit).2⟩
      · cases hd
    · rw [setStage_ne _ _ hpage] at hd
      exact h p d hd
  | saved hstage hsaved hprint => exact built_afterSave h hstage _ _ _
  | refused hstage => exact built_afterSave h hstage _ _ _

end Kept

section BothForms

variable [Net] [Glob] [ConfigText] {manager : RuntimeManager} {file : String} {as : List PostAction}

theorem refused_step (h : s.Refused) (hs : step forms s a = some t) : t.Refused := by
  obtain ⟨page, draft, err, hp⟩ := h
  exact ⟨page, draft, err, (step_effect hs).stays hp⟩

theorem built_run (hrun : run (step forms) (init manager file) as = some s) : Built forms s :=
  run_invariant (fun _ _ _ h hs => built_step h (step_effect hs))
    (fun page draft hd => by rcases hd with ⟨_, hd⟩ | ⟨_, hd⟩ <;> cases hd) hrun

/-- **Both forms are kept**: when a `/config` form and a `/transforms` form were both saved, the saved
config has the settings of the one and the rules of the other exactly when each save found the part of the
other page as its handler had read it. -/
theorem saves_kept_iff (hrun : run (step forms) (init manager file) as = some s)
    {configDraft transformsDraft : AppConfigFile} {configResult transformsResult : RuntimeManagerState}
    (hconfig : s.stage .config = .answered configDraft (.ok configResult))
    (htransforms : s.stage .transforms = .answered transformsDraft (.ok transformsResult)) :
    (∃ savedConfig, Page.config.draft (forms .config) savedConfig = .ok configDraft) ∧
    (∃ savedConfig, Page.transforms.draft (forms .transforms) savedConfig = .ok transformsDraft) ∧
    ConfigText.print s.manager.snapshot.savedConfig = .ok s.file ∧
      (configDraft.runtime = s.manager.snapshot.savedConfig.runtime ∧
          transformsDraft.transforms = s.manager.snapshot.savedConfig.transforms ↔
        Along (step forms) FindsOther (init manager file) as) := by
  have hunrefused : ¬ s.Refused := by
    rintro ⟨page, draft, err, hp⟩
    cases page with
    | config => cases hconfig.symm.trans hp
    | transforms => cases htransforms.symm.trans hp
  have havoids := along_avoids (fun _ _ _ => refused_step) hrun hunrefused
  have hsane : Sane s := run_invariant_along
    (fun s a t ht h hs => sane_step h (step_effect hs) (ht t hs)) (sane_init manager file) havoids hrun
  have hkept : s.Kept ↔ (init manager file).Kept ∧
      Along (step forms) FindsOther (init manager file) as :=
    run_iff_along (fun s a t ht h hs => sane_step h (step_effect hs) (ht t hs))
      (fun s a t ht h hs => kept_step h (step_effect hs) (ht t hs)) (sane_init manager file) havoids hrun
  have hinit : (init manager file).Kept := fun p d r hp => nomatch hp
  have hbuilt := built_run hrun
  refine ⟨hbuilt .config _ (.inr ⟨_, hconfig⟩), hbuilt .transforms _ (.inr ⟨_, htransforms⟩),
    hsane.file .config ⟨_, _, hconfig⟩, ?_⟩
  rw [and_iff_right hinit] at hkept
  rw [← hkept]
  constructor
  · rintro ⟨hruntime, hrules⟩ page draft result hp
    cases page with
    | config =>
      cases hconfig.symm.trans hp
      exact hruntime
    | transforms =>
      cases htransforms.symm.trans hp
      exact hrules
  · exact fun hk => ⟨hk .config _ _ hconfig, hk .transforms _ _ htransforms⟩

end BothForms

end Posts

/-! ### Two forms -/

/-- `/config` with another frontend domain, and `/transforms` without rules. -/
def sampleForms : Page → FormValues
  | .config => ⟨[("frontend_domain", "other.test"), ("editor_action", "save")]⟩
  | .transforms => ⟨[("transform_count", "0"), ("editor_action", "save")]⟩

def samplePosts (as : List PostAction) : Option Posts :=
  letI := sampleNet; letI := sampleGlob; letI := sampleText
  run (Posts.step sampleForms) (.init sampleStarted (sampleSaved "example.test")) as

/-- Both read the same snapshot; `/transforms` saves last and brings the old domain back. -/
theorem settings_overwritten : ∃ s configDraft configResult transformsDraft transformsResult,
    samplePosts [.read .config, .read .transforms, .save .config sampleOk, .save .transforms sampleOk] =
      some s ∧
    s.stage .config = .answered configDraft (.ok configResult) ∧
    s.stage .transforms = .answered transformsDraft (.ok transformsResult) ∧
    configDraft.runtime = runtimeFromForm (sampleForms .config) (sampleApp "example.test").runtime ∧
    configDraft.runtime.frontendDomain = "other.test" ∧
    s.manager.snapshot.savedConfig = sampleApp "example.test" ∧
    ¬ (configDraft.runtime = s.manager.snapshot.savedConfig.runtime ∧
      transformsDraft.transforms = s.manager.snapshot.savedConfig.transforms) :=
  ⟨_, _, _, _, _, rfl, rfl, rfl, rfl, rfl, rfl, by decide⟩

/-- One after the other, as an administrator would submit them. -/
def inTurn : List PostAction :=
  [.read .config, .save .config sampleOk, .read .transforms, .save .transforms sampleOk]

theorem saves_kept_iff_sample : ∃ s configDraft configResult transformsDraft transformsResult,
    samplePosts inTurn = some s ∧
    s.stage .config = .answered configDraft (.ok configResult) ∧
    s.stage .transforms = .answered transformsDraft (.ok transformsResult) ∧
    configDraft.runtime.frontendDomain = "other.test" ∧
    configDraft.runtime = s.manager.snapshot.savedConfig.runtime ∧
    transformsDraft.transforms = s.manager.snapshot.savedConfig.transforms := by
  obtain ⟨s, c, rc, t, rt, hrun, hc, ht, hdomain⟩ : ∃ s c rc t rt, samplePosts inTurn = some s ∧
      s.stage .config = .answered c (.ok rc) ∧ s.stage .transforms = .answered t (.ok rt) ∧
      c.runtime.frontendDomain = "other.test" := ⟨_, _, _, _, _, rfl, rfl, rfl, rfl⟩
  have hfinds : @Along _ _ (@Posts.step sampleNet sampleGlob sampleText sampleForms) Posts.FindsOther
      (.init sampleStarted (sampleSaved "example.test")) inTurn := by
    refine along_cons trivial rfl (along_cons ?_ rfl (along_cons trivial rfl (along_cons ?_ rfl trivial)))
    · intro snapshot draft hstage
      cases hstage
      rfl
    · intro snapshot draft hstage
      cases hstage
      rfl
  have hiff :=
    (@Posts.saves_kept_iff s _ sampleNet sampleGlob sampleText _ _ _ hrun _ _ _ _ hc ht).2.2.2
  exact ⟨s, c, rc, t, rt, hrun, hc, ht, hdomain, hiff.mpr hfinds⟩

end KidProxy
