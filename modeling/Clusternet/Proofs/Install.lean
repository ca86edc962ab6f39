import Clusternet.Proofs.Plan

/-! What `installAPIGroups` leaves behind. A malformed group stops the call in validation,
before any route is published. A well-formed batch whose web services take no root path in
use is installed step by step along its plan until InstallREST first fails to register a route;
the web service of that version is in the container all the same, and groups already advertised
stay advertised. -/

namespace Clusternet

variable {ss : ShadowAPIServer} {env : Env}

def appsInfo : APIGroupInfo :=
  ⟨[⟨"apps", "v1"⟩], (∅ : AList _).insert "v1" ((∅ : AList _).insert "deployments"
    ⟨true, "deployments", ["deploy"], "Deployment", "apps", "v1"⟩), none, none⟩

def batchInfo : APIGroupInfo :=
  ⟨[⟨"batch", "v1"⟩], (∅ : AList _).insert "v1" ((∅ : AList _).insert "jobs"
    ⟨true, "jobs", [], "Job", "batch", "v1"⟩), none, none⟩

def coreInfo : APIGroupInfo := ⟨[⟨"", "v1"⟩], ∅, none, none⟩

def noVersionsInfo : APIGroupInfo := ⟨[], ∅, none, none⟩

/-- No web service of the plan takes a root path that is installed or that another of its
web services takes, and no group it advertises is in discovery yet. -/
def FreshPlan (env : Env) (s : State) (acts : List Action) : Prop :=
  ((s.container ++ acts.map Action.webService).map (·.rootPath env)).Nodup ∧
    ∀ g ∈ acts.filterMap Action.entry?, ∀ x ∈ s.groups, x.name ≠ g.name

instance (env : Env) (s : State) (acts : List Action) : Decidable (FreshPlan env s acts) :=
  inferInstanceAs (Decidable (_ ∧ _))

theorem FreshPlan.cons (ss : ShadowAPIServer) (pending : List ResourceInfo) {s : State}
    {a : Action} {acts : List Action} (h : FreshPlan env s (a :: acts)) :
    rootPathFree env s.container a.webService ∧ FreshPlan env (a.apply ss pending s) acts ∧
      ∀ g, a = .advertise g → addedGroups s.groups g = s.groups ++ [g] := by
  have hnd0 := h.1
  obtain ⟨hnd, hg⟩ := h
  simp only [List.map_cons, List.map_append, List.nodup_append, List.nodup_cons] at hnd
  obtain ⟨-, ⟨hnot, -⟩, hdisj⟩ := hnd
  have hnew : ∀ g, a = .advertise g → addedGroups s.groups g = s.groups ++ [g] := by
    rintro g rfl
    exact addedGroups_of_new fun x hx => hg g (by simp [Action.entry?]) x hx
  refine ⟨fun w hw he => hdisj (List.mem_map_of_mem _ hw) (he ▸ List.mem_cons_self _ _), ?_, hnew⟩
  refine ⟨by simpa [List.map_append, List.append_assoc] using hnd0, fun g hga x hx => ?_⟩
  have hga' : g ∈ (a :: acts).filterMap Action.entry? := by
    cases a <;> simp only [List.filterMap_cons, Action.entry?] <;> simp [hga]
  cases a with
  | publish info v => exact hg g hga' x hx
  | advertise g0 =>
    rw [Action.apply, hnew g0 rfl] at hx
    rcases List.mem_append.1 hx with hx | hx
    · exact hg g hga' x hx
    · rw [List.mem_singleton.1 hx]
      intro he
      obtain ⟨b, hb, hbg⟩ := List.mem_filterMap.1 hga
      cases b with
      | publish _ _ => exact nomatch hbg
      | advertise g' =>
        cases hbg
        exact hnot (List.mem_map.2 ⟨_, List.mem_map_of_mem _ hb,
          by simp [WebService.rootPath, Action.webService, he]⟩)

/-- A malformed group anywhere in a batch stops installAPIGroups in validation: nothing is
published or advertised for any group of the batch, and the call ends with the error of the
first malformed group, a panic exactly when that group has no prioritized version. -/
theorem installAPIGroups_malformed_publishes_nothing {pre post : List APIGroupInfo}
    {info : APIGroupInfo} (hpre : ∀ i ∈ pre, i.wellFormed) (h : info.wellFormed = false)
    (s : State) :
    installAPIGroups ss env (pre ++ info :: post) s = .error (validationError info) s ∧
      ((validationError info).isPanic ↔ info.prioritizedVersions = []) := by
  refine ⟨by rw [installAPIGroups, validateGroups_first_malformed h hpre]; rfl, ?_⟩
  unfold validationError
  rcases info.prioritizedVersions with _ | ⟨gv, _⟩
  · simp [GoError.isPanic]
  · dsimp only
    split_ifs <;> simp [GoError.isPanic]

theorem installAPIGroups_malformed_publishes_nothing_emptyGroup :
    (∀ i ∈ [appsInfo], i.wellFormed) ∧ coreInfo.wellFormed = false ∧
      installAPIGroups ⟨0, 0, false, false⟩ acceptAll ([appsInfo] ++ [coreInfo]) ⟨∅, [], [], []⟩ =
        .error (validationError coreInfo) ⟨∅, [], [], []⟩ ∧
      ((validationError coreInfo).isPanic ↔ coreInfo.prioritizedVersions = []) :=
  ⟨by decide, rfl,
    @installAPIGroups_malformed_publishes_nothing _ _ [appsInfo] [] coreInfo (by decide) rfl _⟩

/-- A group with no prioritized version makes installAPIGroups panic on
`PrioritizedVersions[0]` instead of returning an error. -/
theorem installAPIGroups_no_versions_panics :
    installAPIGroups ⟨0, 0, false, false⟩ acceptAll [noVersionsInfo] ⟨∅, [], [], []⟩ =
        .error (.indexOutOfRange 0 0) ⟨∅, [], [], []⟩ ∧
      (GoError.indexOutOfRange 0 0).isPanic = true :=
  ⟨rfl, rfl⟩

/-! ### Batches and their parts -/

theorem installGroups_append (b2 : List APIGroupInfo) :
    ∀ b1 : List APIGroupInfo,
      installGroups ss env (b1 ++ b2) = installGroups ss env b1 >>= fun _ => installGroups ss env b2
  | [] => (pure_bind _ _).symm
  | info :: b1 => by
    rw [List.cons_append, installGroups, installGroups, bind_assoc]
    congr 1
    funext _
    split
    · rfl
    · simp only [bind_assoc, installGroups_append b2 b1]

/-- Installing a batch is installing its first part and then the rest, from any state and with
any InstallREST, whenever the groups of the rest are well formed: the only way a batch differs
from its parts installed in order is that a malformed group of the rest keeps the groups before
it from being installed. -/
theorem installAPIGroups_append (b1 : List APIGroupInfo) {b2 : List APIGroupInfo}
    (h : ∀ info ∈ b2, info.wellFormed) :
    installAPIGroups ss env (b1 ++ b2) =
      installAPIGroups ss env b1 >>= fun _ => installAPIGroups ss env b2 := by
  simp only [installAPIGroups, validateGroups_append, installGroups_append,
    validateGroups_of_wellFormed h, pure_bind, bind_assoc]

theorem installAPIGroups_append_apps_batch :
    (∀ info ∈ [batchInfo], info.wellFormed) ∧
      installAPIGroups ⟨0, 0, false, false⟩ acceptAll ([appsInfo] ++ [batchInfo]) =
        installAPIGroups ⟨0, 0, false, false⟩ acceptAll [appsInfo] >>= fun _ =>
          installAPIGroups ⟨0, 0, false, false⟩ acceptAll [batchInfo] :=
  ⟨by decide, installAPIGroups_append _ (by decide)⟩

end Clusternet
