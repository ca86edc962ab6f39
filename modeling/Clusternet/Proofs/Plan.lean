import Clusternet.Proofs.Effects

/-! What installing a batch of API groups is for, as a flat plan: group after group, publish
the routes of each version that has resources, then advertise the group. Running the plan
stops at the first route InstallREST refuses, and ends the process at the first web service
whose root path is taken. `installAPIGroups_eq_runPlan` shows that the
nested loops of the source, with the skip test of installAPIResources and the advertise test
of installAPIGroups written apart, run exactly this plan on a batch that passes validation. -/

namespace Clusternet

/-- The versions of a group that get routes: those whose storage map is not empty. -/
def servedVersions (info : APIGroupInfo) : List GroupVersion :=
  info.prioritizedVersions.filter fun gv => (info.storageFor gv.version).entries.length ≠ 0

def discoveryVersion (gv : GroupVersion) : GroupVersionForDiscovery := ⟨gv.toString, gv.version⟩

/-- The discovery entry of a group: named after its first prioritized version, which it
prefers, and advertising the versions that get routes. -/
def discoveryEntry (info : APIGroupInfo) : APIGroup :=
  let gv0 := info.prioritizedVersions.headD ⟨"", ""⟩
  ⟨gv0.group, (servedVersions info).map discoveryVersion, discoveryVersion gv0⟩

/-- One step of an install: publish the routes of a group-version, or advertise a group. -/
inductive Action
  | publish (info : APIGroupInfo) (v : APIGroupVersion)
  | advertise (g : APIGroup)

def Action.webService : Action → WebService
  | .publish _ v => .rest v
  | .advertise g => .apiGroupHandler g

def Action.entry? : Action → Option APIGroup
  | .publish .. => none
  | .advertise g => some g

section Plan

variable (ss : ShadowAPIServer) (env : Env)

def publications (info : APIGroupInfo) (gvs : List GroupVersion) : List Action :=
  (gvs.filter fun gv => (info.storageFor gv.version).entries.length ≠ 0).map fun gv =>
    .publish info (versionRoute ss env info gv apiGroupPrefix)

def plan (batch : List APIGroupInfo) : List Action :=
  batch.flatMap fun info =>
    publications ss env info info.prioritizedVersions ++ [.advertise (discoveryEntry info)]

/-- Running a plan. The resource infos of a group's publications wait in `pending` until the
group is advertised, and go to the storage-version manager when both gates are on. -/
def runPlan : List Action → List ResourceInfo → Go Unit
  | [], _ => pure ()
  | .publish info v :: acts, pending => do
    match ← installREST env v with
    | .error err => throw (.installAPIResources (.setupAPI info err))
    | .ok r => runPlan acts (pending ++ r)
  | .advertise g :: acts, pending => do
    if ss.storageVersionAPI && ss.apiServerIdentity then addResourceInfo pending
    addGroup g
    addWebService env (.apiGroupHandler g)
    runPlan acts []

end Plan

/-! ### The source runs the plan -/

section Refinement

variable {ss : ShadowAPIServer} {env : Env} {α β : Type}

theorem adaptExcept_bind (f : GoError → GoError) (x : Go α) (g : α → Go β) :
    EStateM.adaptExcept f (x >>= g) = EStateM.adaptExcept f x >>= fun a => EStateM.adaptExcept f (g a) := by
  funext s
  simp only [EStateM.adaptExcept, bind, EStateM.bind]
  cases x s <;> rfl

theorem adaptExcept_installREST (f : GoError → GoError) (v : APIGroupVersion) :
    EStateM.adaptExcept (GoError.wrap f) (installREST env v) = installREST env v := by
  funext s
  rw [adaptExcept_apply]
  by_cases h : rootPathFree env s.container (.rest v)
  · rw [installREST_of_free h]
  · rw [installREST_of_taken h]; rfl

theorem publications_cons (info : APIGroupInfo) (gv : GroupVersion) (gvs : List GroupVersion) :
    publications ss env info (gv :: gvs) =
      if (info.storageFor gv.version).entries.length = 0 then publications ss env info gvs
      else .publish info (versionRoute ss env info gv apiGroupPrefix) :: publications ss env info gvs := by
  simp only [publications, List.filter_cons]
  split_ifs <;> simp_all

theorem versionsForDiscovery_eq (info : APIGroupInfo) (gvs : List GroupVersion) :
    versionsForDiscovery info gvs =
      (gvs.filter fun gv => (info.storageFor gv.version).entries.length ≠ 0).map discoveryVersion := by
  induction gvs with
  | nil => rfl
  | cons gv gvs ih =>
    simp only [versionsForDiscovery, List.filter_cons, ih]
    split_ifs <;> simp_all [discoveryVersion]

theorem apiGroupForDiscovery_eq {info : APIGroupInfo} {gv0 : GroupVersion} {gvs : List GroupVersion}
    (h : info.prioritizedVersions = gv0 :: gvs) : apiGroupForDiscovery info gv0 = discoveryEntry info := by
  simp [apiGroupForDiscovery, discoveryEntry, servedVersions, versionsForDiscovery_eq, h, discoveryVersion]

theorem runPlan_publications (info : APIGroupInfo) (acts : List Action) :
    ∀ (gvs : List GroupVersion) (pending : List ResourceInfo),
      runPlan ss env (publications ss env info gvs ++ acts) pending =
        EStateM.adaptExcept (GoError.wrap .installAPIResources)
          (installVersions ss env apiGroupPrefix info gvs pending) >>= runPlan ss env acts
  | [], pending => rfl
  | gv :: gvs, pending => by
    rw [publications_cons, installVersions]
    split_ifs with h
    · exact runPlan_publications info acts gvs pending
    · rw [List.cons_append, runPlan, adaptExcept_bind, adaptExcept_installREST, bind_assoc]
      congr 1
      funext x
      cases x with
      | error err => rfl
      | ok r => exact runPlan_publications info acts gvs (pending ++ r)

theorem plan_cons (info : APIGroupInfo) (infos : List APIGroupInfo) :
    plan ss env (info :: infos) =
      publications ss env info info.prioritizedVersions ++
        .advertise (discoveryEntry info) :: plan ss env infos := by
  simp [plan]

theorem installGroups_eq_runPlan :
    ∀ {batch : List APIGroupInfo}, (∀ info ∈ batch, info.prioritizedVersions ≠ []) →
      installGroups ss env batch = runPlan ss env (plan ss env batch) []
  | [], _ => rfl
  | info :: infos, h => by
    obtain ⟨gv0, gvs, hpv⟩ := List.exists_cons_of_ne_nil (h info (List.mem_cons_self _ _))
    have ih := installGroups_eq_runPlan fun i hi => h i (List.mem_cons_of_mem _ hi)
    rw [installGroups, plan_cons, runPlan_publications, installAPIResources, adaptExcept_bind,
      bind_assoc]
    congr 1
    funext pending
    have hflush : EStateM.adaptExcept (GoError.wrap GoError.installAPIResources)
        (if ss.storageVersionAPI && ss.apiServerIdentity then addResourceInfo pending
          else pure ()) =
        if ss.storageVersionAPI && ss.apiServerIdentity then addResourceInfo pending
          else pure () := by
      split <;> rfl
    simp only [hflush, runPlan, hpv, apiGroupForDiscovery_eq hpv, ih]
    split <;> rfl

/-- On a batch that passes validation, installAPIGroups runs the plan of the batch. -/
theorem installAPIGroups_eq_runPlan {batch : List APIGroupInfo}
    (h : ∀ info ∈ batch, info.wellFormed) :
    installAPIGroups ss env batch = runPlan ss env (plan ss env batch) [] := by
  rw [installAPIGroups, validateGroups_of_wellFormed h, pure_bind]
  refine installGroups_eq_runPlan fun info hi hpv => ?_
  simpa [APIGroupInfo.wellFormed, hpv] using h info hi

end Refinement

/-! ### Running a plan -/

/-- Whether InstallREST registers every route of a step; an advertisement has none. -/
def accepts (env : Env) (sch : Scheme) : Action → Bool
  | .publish _ v => (env.installREST sch v).isOk
  | .advertise _ => true

/-- The state after a step that goes on: its web service is added, and an advertisement has
handed the pending resource infos over and added its discovery entry. -/
def Action.apply (ss : ShadowAPIServer) (pending : List ResourceInfo) (s : State) : Action → State
  | .publish _ v => { s with container := s.container ++ [.rest v] }
  | .advertise g =>
    { s with
      resourceInfos := if ss.storageVersionAPI && ss.apiServerIdentity then
        s.resourceInfos ++ pending else s.resourceInfos,
      groups := addedGroups s.groups g,
      container := s.container ++ [.apiGroupHandler g] }

@[simp] theorem Action.apply_container (ss : ShadowAPIServer) (pending : List ResourceInfo)
    (s : State) (a : Action) : (a.apply ss pending s).container = s.container ++ [a.webService] := by
  cases a <;> rfl

@[simp] theorem Action.apply_scheme (ss : ShadowAPIServer) (pending : List ResourceInfo)
    (s : State) (a : Action) : (a.apply ss pending s).scheme = s.scheme := by
  cases a <;> rfl

section Run

variable {ss : ShadowAPIServer} {env : Env} {sch : Scheme}

theorem runPlan_publish_taken {info : APIGroupInfo} {v : APIGroupVersion} {acts : List Action}
    {pending : List ResourceInfo} {s : State} (h : ¬ rootPathFree env s.container (.rest v)) :
    runPlan ss env (.publish info v :: acts) pending s =
      .error (.duplicateRootPath ((WebService.rest v).rootPath env)) s := by
  rw [runPlan, go_bind_error (installREST_of_taken h)]

theorem runPlan_publish_refused {info : APIGroupInfo} {v : APIGroupVersion} {acts : List Action}
    {pending : List ResourceInfo} {s : State} {err : String}
    (hf : rootPathFree env s.container (.rest v)) (h : env.installREST s.scheme v = .error err) :
    runPlan ss env (.publish info v :: acts) pending s =
      .error (.installAPIResources (.setupAPI info err)) { s with container := s.container ++ [.rest v] } := by
  rw [runPlan, go_bind_ok (installREST_of_free hf), h]; rfl

theorem runPlan_publish_ok {info : APIGroupInfo} {v : APIGroupVersion} {acts : List Action}
    {pending r : List ResourceInfo} {s : State} (hf : rootPathFree env s.container (.rest v))
    (h : env.installREST s.scheme v = .ok r) :
    runPlan ss env (.publish info v :: acts) pending s =
      runPlan ss env acts (pending ++ r) { s with container := s.container ++ [.rest v] } := by
  rw [runPlan, go_bind_ok (installREST_of_free hf), h]

theorem runPlan_advertise (g : APIGroup) (acts : List Action) (pending : List ResourceInfo)
    (s : State) :
    runPlan ss env (.advertise g :: acts) pending s =
      (addWebService env (.apiGroupHandler g) >>= fun _ => runPlan ss env acts [])
        { s with
          resourceInfos := if ss.storageVersionAPI && ss.apiServerIdentity then
            s.resourceInfos ++ pending else s.resourceInfos,
          groups := addedGroups s.groups g } := by
  rw [runPlan]
  split <;> rfl

/-- What one step of a plan can do: end the process on a taken root path, with the container
and the scheme as they were; stop the run after adding a publication's web service when
InstallREST refuses some of its routes; or add its web service and go on. -/
theorem runPlan_cons_cases (a : Action) (acts : List Action) (pending : List ResourceInfo)
    (s : State) :
    ¬ rootPathFree env s.container a.webService ∧
        (∃ p s', runPlan ss env (a :: acts) pending s = .error (.duplicateRootPath p) s' ∧
          s'.container = s.container ∧ s'.scheme = s.scheme) ∨
      rootPathFree env s.container a.webService ∧
        ((accepts env s.scheme a = false ∧ ∃ info v err, a = .publish info v ∧
            runPlan ss env (a :: acts) pending s =
              .error (.installAPIResources (.setupAPI info err)) (a.apply ss pending s)) ∨
          accepts env s.scheme a = true ∧ ∃ pending',
            runPlan ss env (a :: acts) pending s = runPlan ss env acts pending' (a.apply ss pending s)) := by
  cases a with
  | publish info v =>
    by_cases hf : rootPathFree env s.container (.rest v)
    · refine .inr ⟨hf, ?_⟩
      cases h : env.installREST s.scheme v with
      | error err =>
        exact .inl ⟨by simp [accepts, h, Except.isOk, Except.toBool], info, v, err, rfl,
          runPlan_publish_refused hf h⟩
      | ok r =>
        exact .inr ⟨by simp [accepts, h, Except.isOk, Except.toBool], _, runPlan_publish_ok hf h⟩
    · exact .inl ⟨hf, _, s, runPlan_publish_taken hf, rfl, rfl⟩
  | advertise g =>
    rw [runPlan_advertise]
    by_cases hf : rootPathFree env s.container (.apiGroupHandler g)
    · exact .inr ⟨hf, .inr ⟨rfl, [], go_bind_ok (addWebService_of_free hf)⟩⟩
    · exact .inl ⟨hf, _, _, go_bind_error (addWebService_of_taken hf), rfl, rfl⟩

/-- What every step that goes on keeps, a run keeps, unless it ends the process. -/
theorem runPlan_preserves (P : State → Prop)
    (hstep : ∀ (a : Action) (pending : List ResourceInfo) (s : State), P s →
      rootPathFree env s.container a.webService → P (a.apply ss pending s)) :
    ∀ (acts : List Action) (pending : List ResourceInfo) (s : State), P s →
      exited (runPlan ss env acts pending s) = false → P (resultState (runPlan ss env acts pending s))
  | [], _, _, h, _ => h
  | a :: acts, pending, s, h, hx => by
    rcases @runPlan_cons_cases ss env a acts pending s with
      ⟨-, p, s', he, -⟩ | ⟨hf, ⟨-, info, v, err, -, he⟩ | ⟨-, pending', he⟩⟩
    · rw [he] at hx; exact nomatch hx
    · rw [he, resultState_error]; exact hstep a pending s h hf
    · rw [he] at hx ⊢
      exact runPlan_preserves P hstep acts pending' _ (hstep a pending s h hf) hx

theorem runPlan_new_services :
    ∀ (acts : List Action) (pending : List ResourceInfo) (s : State),
      ∃ new, (resultState (runPlan ss env acts pending s)).container = s.container ++ new ∧
        ∀ w ∈ new, ∃ a ∈ acts, a.webService = w
  | [], _, s => ⟨[], by simp [runPlan], by simp⟩
  | a :: acts, pending, s => by
    rcases @runPlan_cons_cases ss env a acts pending s with
      ⟨-, p, s', h, hc, -⟩ | ⟨-, ⟨-, info, v, err, -, h⟩ | ⟨-, pending', h⟩⟩
    · exact ⟨[], by rw [h, resultState_error, hc, List.append_nil], by simp⟩
    · refine ⟨[a.webService], by rw [h, resultState_error, Action.apply_container], ?_⟩
      simp
    · obtain ⟨new, hc, hnew⟩ := runPlan_new_services acts pending' (a.apply ss pending s)
      refine ⟨a.webService :: new, by rw [h, hc]; simp, ?_⟩
      intro w hw
      rcases List.mem_cons.1 hw with rfl | hw
      · exact ⟨a, List.mem_cons_self _ _, rfl⟩
      · obtain ⟨b, hb, rfl⟩ := hnew w hw
        exact ⟨b, List.mem_cons_of_mem _ hb, rfl⟩

theorem runPlan_keeps_scheme :
    ∀ (acts : List Action) (pending : List ResourceInfo) (s : State),
      (resultState (runPlan ss env acts pending s)).scheme = s.scheme
  | [], _, _ => rfl
  | a :: acts, pending, s => by
    rcases @runPlan_cons_cases ss env a acts pending s with
      ⟨-, p, s', h, -, hs⟩ | ⟨-, ⟨-, info, v, err, -, h⟩ | ⟨-, pending', h⟩⟩
    · rw [h, resultState_error, hs]
    · rw [h, resultState_error, Action.apply_scheme]
    · rw [h, runPlan_keeps_scheme, Action.apply_scheme]

theorem runPlan_ok_first {a : Action} {acts : List Action} {pending : List ResourceInfo}
    {s s' : State} (h : runPlan ss env (a :: acts) pending s = .ok () s') :
    a.webService ∈ s'.container := by
  rcases @runPlan_cons_cases ss env a acts pending s with
    ⟨-, p, s'', he, -⟩ | ⟨-, ⟨-, info, v, err, -, he⟩ | ⟨-, pending', he⟩⟩
  · rw [he] at h; exact nomatch h
  · rw [he] at h; exact nomatch h
  · obtain ⟨new, hc, -⟩ := runPlan_new_services acts pending' (a.apply ss pending s)
    rw [← he, h, resultState_ok, Action.apply_container] at hc
    rw [hc]
    simp

end Run

end Clusternet
