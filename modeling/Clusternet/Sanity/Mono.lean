import Clusternet.Sanity.Reachable
import Mathlib.Logic.Relation

/-! The installer never takes anything back. Over any run of installAPIGroups and
InstallShadowAPIGroups calls, whatever each returned as long as the process runs, the container,
the discovery entries and the resource infos only grow at their ends and no registration of the
scheme is lost: a group that fails half way keeps the routes it published, as the calls before
it keep theirs, but the storage-version manager gets resource infos only along with a new
discovery entry. That needs every discovery entry to have its `/apis/<group>` handler, since
AddGroup replaces an entry of the same name: the handler of a new entry takes the root path of
the old one's, so go-restful ends the process before such a run goes on. The bookkeeping also
stays in step with the container: the discovery entries are the groups whose handler is
installed, in order, and no REST route serves an empty map. -/

namespace Clusternet

/-- One call of the installer, with any server, collaborators and arguments, whatever it
returned, that leaves the process running. -/
inductive Call : State → State → Prop
  | installAPIGroups (s : State) (ss : ShadowAPIServer) (env : Env) (batch : List APIGroupInfo) :
      exited (installAPIGroups ss env batch s) = false →
        Call s (resultState (installAPIGroups ss env batch s))
  | installShadowAPIGroups (s : State) (ss : ShadowAPIServer) (env : Env) (GroupName : String)
      (d : Except String (List APIGroupResources)) :
      exited (installShadowAPIGroups ss env GroupName d s) = false →
        Call s (resultState (installShadowAPIGroups ss env GroupName d s))

/-- What a later state keeps of an earlier one: its container, discovery entries and resource
infos as prefixes, and every registration of its scheme; and resource infos are added only
together with a discovery entry. -/
structure Grows (s s' : State) : Prop where
  container : s.container <+: s'.container
  groups : s.groups <+: s'.groups
  resourceInfos : s.resourceInfos <+: s'.resourceInfos
  scheme : ∀ gvk t, s.scheme.lookup gvk = some t → s'.scheme.lookup gvk = some t
  infosWithGroups : s'.groups = s.groups → s'.resourceInfos = s.resourceInfos

theorem Grows.refl (s : State) : Grows s s :=
  ⟨List.prefix_refl _, List.prefix_refl _, List.prefix_refl _, fun _ _ h => h, fun _ => rfl⟩

theorem Grows.trans {a b c : State} (h1 : Grows a b) (h2 : Grows b c) : Grows a c where
  container := h1.container.trans h2.container
  groups := h1.groups.trans h2.groups
  resourceInfos := h1.resourceInfos.trans h2.resourceInfos
  scheme gvk t h := h2.scheme gvk t (h1.scheme gvk t h)
  infosWithGroups hc := by
    have hab := h1.groups.length_le
    have hbc := hc ▸ h2.groups.length_le
    have hb : b.groups = a.groups := (h1.groups.eq_of_length (by omega)).symm
    rw [h2.infosWithGroups (hc.trans hb.symm), h1.infosWithGroups hb]

theorem SchemeGrows.grows {s s' : State} (h : SchemeGrows s s') : Grows s s' :=
  ⟨h.container ▸ List.prefix_refl _, h.groups ▸ List.prefix_refl _,
    h.resourceInfos ▸ List.prefix_refl _, h.keeps, fun _ => h.resourceInfos⟩

/-- Every discovery entry has its `/apis/<group>` handler in the container. -/
def HandlersInstalled (s : State) : Prop :=
  ∀ g ∈ s.groups, WebService.apiGroupHandler g ∈ s.container

theorem HandlersInstalled.of_schemeGrows {s s' : State} (h : HandlersInstalled s)
    (hg : SchemeGrows s s') : HandlersInstalled s' := by
  rw [HandlersInstalled, hg.container, hg.groups]; exact h

section Steps

variable {ss : ShadowAPIServer} {env : Env}

/-- A handler's root path names its group, so while every discovery entry has its handler, a
handler that goes in belongs to no entry yet. -/
theorem HandlersInstalled.names_ne {s : State} (h : HandlersInstalled s) {g : APIGroup}
    (hf : rootPathFree env s.container (.apiGroupHandler g)) : ∀ x ∈ s.groups, x.name ≠ g.name :=
  fun x hx hn => hf _ (h x hx) (by rw [WebService.rootPath, WebService.rootPath, hn])

theorem Action.apply_groups_of_free {a : Action} {pending : List ResourceInfo} {s : State}
    (h : HandlersInstalled s) (hf : rootPathFree env s.container a.webService) :
    (a.apply ss pending s).groups = s.groups ++ a.entry?.toList := by
  cases a with
  | publish info v => exact (List.append_nil _).symm
  | advertise g => exact addedGroups_of_new (h.names_ne hf)

theorem Action.apply_grows {a : Action} {pending : List ResourceInfo} {s : State}
    (h : HandlersInstalled s) (hf : rootPathFree env s.container a.webService) :
    Grows s (a.apply ss pending s) ∧ HandlersInstalled (a.apply ss pending s) := by
  have hc : s.container <+: (a.apply ss pending s).container := by
    rw [Action.apply_container]; exact List.prefix_append _ _
  cases a with
  | publish info v =>
    exact ⟨⟨hc, List.prefix_refl _, List.prefix_refl _, fun _ _ h => h, fun _ => rfl⟩,
      fun g hg => hc.subset (h g hg)⟩
  | advertise g =>
    have hg : ((Action.advertise g).apply ss pending s).groups = s.groups ++ [g] :=
      Action.apply_groups_of_free h hf
    refine ⟨⟨hc, hg ▸ List.prefix_append _ _, ?_, fun _ _ h => h,
      fun he => absurd (congrArg List.length (hg ▸ he)) (by simp [Action.entry?])⟩, fun g' hg' => ?_⟩
    · dsimp only [Action.apply]
      split
      · exact List.prefix_append _ _
      · exact List.prefix_refl _
    · rw [hg] at hg'
      rcases List.mem_append.1 hg' with hg' | hg'
      · exact hc.subset (h g' hg')
      · cases List.mem_singleton.1 hg'
        exact List.mem_append_right _ (List.mem_singleton_self _)

/-- installAPIGroups keeps what every step of a plan that goes on keeps, unless it ends the
process. -/
theorem installAPIGroups_preserves (P : State → Prop)
    (hstep : ∀ (a : Action) (pending : List ResourceInfo) (s : State), P s →
      rootPathFree env s.container a.webService → P (a.apply ss pending s))
    (batch : List APIGroupInfo) {s : State} (h : P s)
    (hx : exited (installAPIGroups ss env batch s) = false) :
    P (resultState (installAPIGroups ss env batch s)) := by
  rcases validateGroups_cases batch s with hv | ⟨e, he⟩
  · rw [installAPIGroups_eq_runPlan hv] at hx ⊢
    exact runPlan_preserves P hstep _ [] s h hx
  · rw [installAPIGroups, go_bind_error he]; exact h

theorem installAPIGroups_grows (batch : List APIGroupInfo) {s : State} (h : HandlersInstalled s)
    (hx : exited (installAPIGroups ss env batch s) = false) :
    Grows s (resultState (installAPIGroups ss env batch s)) ∧
      HandlersInstalled (resultState (installAPIGroups ss env batch s)) :=
  installAPIGroups_preserves (fun t => Grows s t ∧ HandlersInstalled t)
    (fun _ _ _ ⟨hg, ht⟩ hf => ⟨hg.trans (Action.apply_grows ht hf).1, (Action.apply_grows ht hf).2⟩)
    batch ⟨Grows.refl s, h⟩ hx

theorem installShadowAPIGroups_grows (GroupName : String)
    (d : Except String (List APIGroupResources)) {s : State} (h : HandlersInstalled s)
    (hx : exited (installShadowAPIGroups ss env GroupName d s) = false) :
    Grows s (resultState (installShadowAPIGroups ss env GroupName d s)) ∧
      HandlersInstalled (resultState (installShadowAPIGroups ss env GroupName d s)) := by
  obtain ⟨s1, hg, he | ⟨batch, he⟩⟩ := @installShadowAPIGroups_result ss env GroupName d s
  · rw [he]; exact ⟨hg.grows, h.of_schemeGrows hg⟩
  · rw [he] at hx ⊢
    obtain ⟨hg', h'⟩ := installAPIGroups_grows batch (h.of_schemeGrows hg) hx
    exact ⟨hg.grows.trans hg', h'⟩

end Steps

theorem Call.grows {s s' : State} (hc : Call s s') (h : HandlersInstalled s) :
    Grows s s' ∧ HandlersInstalled s' := by
  cases hc with
  | installAPIGroups ss env batch hx => exact installAPIGroups_grows batch h hx
  | installShadowAPIGroups ss env GroupName d hx => exact installShadowAPIGroups_grows GroupName d h hx

/-- Over any run of installer calls that leaves the process running, from a state whose every
discovery entry has its handler and whatever each call returned, no REST route, handler,
discovery entry or resource info is removed or reordered, no registration of the scheme is lost
or changed, and a run that advertises no group adds no resource info. -/
theorem run_grows {s s' : State} (hs : HandlersInstalled s) (h : Relation.ReflTransGen Call s s') :
    Grows s s' := by
  suffices Grows s s' ∧ HandlersInstalled s' from this.1
  induction h with
  | refl => exact ⟨Grows.refl s, hs⟩
  | tail _ hc ih =>
    obtain ⟨hg, h'⟩ := hc.grows ih.2
    exact ⟨ih.1.trans hg, h'⟩

theorem run_grows_two_installs :
    HandlersInstalled ⟨∅, [], [], []⟩ ∧
      Relation.ReflTransGen Call ⟨∅, [], [], []⟩
        (resultState (installShadowAPIGroups ⟨0, 0, false, false⟩ acceptAll "shadow.clusternet.io"
          (.ok [coreGroup]) (resultState (installAPIGroups ⟨0, 0, false, false⟩ acceptAll
            [appsInfo] ⟨∅, [], [], []⟩)))) ∧
      Grows ⟨∅, [], [], []⟩
        (resultState (installShadowAPIGroups ⟨0, 0, false, false⟩ acceptAll "shadow.clusternet.io"
          (.ok [coreGroup]) (resultState (installAPIGroups ⟨0, 0, false, false⟩ acceptAll
            [appsInfo] ⟨∅, [], [], []⟩)))) :=
  have hs : HandlersInstalled ⟨∅, [], [], []⟩ := fun _ h => nomatch h
  have h := (Relation.ReflTransGen.single
    (Call.installAPIGroups ⟨∅, [], [], []⟩ ⟨0, 0, false, false⟩ acceptAll [appsInfo] rfl)).tail
    (Call.installShadowAPIGroups _ ⟨0, 0, false, false⟩ acceptAll "shadow.clusternet.io"
      (.ok [coreGroup]) rfl)
  ⟨hs, h, run_grows hs h⟩

/-! ### The bookkeeping agrees with the container -/

def groupHandlers (c : List WebService) : List APIGroup :=
  c.filterMap fun
    | .apiGroupHandler g => some g
    | .rest _ => none

theorem groupHandlers_append (c c' : List WebService) :
    groupHandlers (c ++ c') = groupHandlers c ++ groupHandlers c' :=
  List.filterMap_append _ _ _

theorem groupHandlers_webService (a : Action) : groupHandlers [a.webService] = a.entry?.toList := by
  cases a <;> rfl

theorem mem_groupHandlers {c : List WebService} {g : APIGroup} :
    g ∈ groupHandlers c ↔ WebService.apiGroupHandler g ∈ c := by
  simp only [groupHandlers, List.mem_filterMap]
  constructor
  · rintro ⟨_ | g', hw, h⟩
    · exact nomatch h
    · cases h; exact hw
  · exact fun h => ⟨_, h, rfl⟩

/-- The discovery entries are the groups whose handler is installed, in the order of the
handlers, and every REST route serves a non-empty map. -/
structure Consistent (s : State) : Prop where
  handlers : groupHandlers s.container = s.groups
  routes : ∀ v, WebService.rest v ∈ s.container → v.storage.entries ≠ []

theorem Consistent.of_schemeGrows {s s' : State} (h : Consistent s) (hg : SchemeGrows s s') :
    Consistent s' :=
  ⟨by rw [hg.container, hg.groups]; exact h.handlers, hg.container ▸ h.routes⟩

section Steps

variable {ss : ShadowAPIServer} {env : Env}

theorem Action.apply_handlers {a : Action} {pending : List ResourceInfo} {s : State}
    (h : groupHandlers s.container = s.groups) (hf : rootPathFree env s.container a.webService) :
    groupHandlers (a.apply ss pending s).container = (a.apply ss pending s).groups := by
  rw [Action.apply_groups_of_free (fun g hg => mem_groupHandlers.1 (h ▸ hg)) hf,
    Action.apply_container, groupHandlers_append, h, groupHandlers_webService]

theorem installAPIGroups_consistent (batch : List APIGroupInfo) {s : State} (h : Consistent s)
    (hx : exited (installAPIGroups ss env batch s) = false) :
    Consistent (resultState (installAPIGroups ss env batch s)) := by
  refine ⟨installAPIGroups_preserves (fun t => groupHandlers t.container = t.groups)
    (fun _ _ _ => Action.apply_handlers) batch h.handlers hx, fun v hv => ?_⟩
  obtain ⟨new, hnew, hroutes⟩ := @installAPIGroups_new_routes ss env batch s
  rcases List.mem_append.1 (hnew ▸ hv) with hv | hv
  · exact h.routes v hv
  · obtain ⟨info, hp⟩ := hroutes v hv
    obtain ⟨-, gv, hgv, rfl⟩ := mem_plan_publish hp
    exact versionRoute_entries_ne_nil hgv _

theorem installShadowAPIGroups_consistent (GroupName : String)
    (d : Except String (List APIGroupResources)) {s : State} (h : Consistent s)
    (hx : exited (installShadowAPIGroups ss env GroupName d s) = false) :
    Consistent (resultState (installShadowAPIGroups ss env GroupName d s)) := by
  obtain ⟨s1, hg, he | ⟨batch, he⟩⟩ := @installShadowAPIGroups_result ss env GroupName d s
  · rw [he]; exact h.of_schemeGrows hg
  · rw [he] at hx ⊢; exact installAPIGroups_consistent batch (h.of_schemeGrows hg) hx

end Steps

/-- In every state of a running shadow server, whatever the calls returned, the discovery
entries are exactly the groups whose `/apis/<group>` handler is installed, in the order of the
handlers, and no REST route serves an empty map. -/
theorem reachable_handlers_match_discovery {s : State} (h : Reachable s) : Consistent s := by
  induction h with
  | init scheme => exact ⟨rfl, fun _ h => nomatch h⟩
  | installAPIGroups ss env batch _ hx ih => exact installAPIGroups_consistent batch ih hx
  | installShadowAPIGroups ss env GroupName d _ hx ih =>
    exact installShadowAPIGroups_consistent GroupName d ih hx

theorem reachable_handlers_match_discovery_shadow :
    Reachable (resultState (installShadowAPIGroups ⟨0, 0, false, false⟩ acceptAll
      "shadow.clusternet.io" (.ok [coreGroup]) ⟨∅, [], [], []⟩)) ∧
      Consistent (resultState (installShadowAPIGroups ⟨0, 0, false, false⟩ acceptAll
        "shadow.clusternet.io" (.ok [coreGroup]) ⟨∅, [], [], []⟩)) :=
  have h := Reachable.installShadowAPIGroups ⟨0, 0, false, false⟩ acceptAll
    "shadow.clusternet.io" (.ok [coreGroup]) (Reachable.init ∅) rfl
  ⟨h, reachable_handlers_match_discovery h⟩

end Clusternet
