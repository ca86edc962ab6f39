import Clusternet.Proofs.Shadow

/-! The states the shadow server reaches, from the scheme `init()` fills and an empty container
and discovery, through any sequence of installAPIGroups and InstallShadowAPIGroups calls, each
with any server, collaborators and arguments and whatever it returned, as long as the process
runs: a call that ends it in go-restful leaves no state to reach. In all of them every version
a discovery entry advertises has REST routes: a plan publishes a group's versions before it
advertises the group, and nothing is ever taken off the container. The preferred version is
another matter, since installAPIGroups prefers the first prioritized version whether or not it
has resources. -/

namespace Clusternet

/-- The states of a running shadow server. -/
inductive Reachable : State → Prop
  | init (scheme : Scheme) : Reachable ⟨scheme, [], [], []⟩
  | installAPIGroups {s : State} (ss : ShadowAPIServer) (env : Env) (batch : List APIGroupInfo) :
      Reachable s → exited (installAPIGroups ss env batch s) = false →
        Reachable (resultState (installAPIGroups ss env batch s))
  | installShadowAPIGroups {s : State} (ss : ShadowAPIServer) (env : Env) (GroupName : String)
      (d : Except String (List APIGroupResources)) :
      Reachable s → exited (installShadowAPIGroups ss env GroupName d s) = false →
        Reachable (resultState (installShadowAPIGroups ss env GroupName d s))

/-- Every advertised group has its `/apis/<group>` handler, and every version it advertises
has REST routes at that group-version. -/
def Advertised (s : State) : Prop :=
  ∀ g ∈ s.groups, WebService.apiGroupHandler g ∈ s.container ∧
    ∀ dv ∈ g.versions, ∃ v, WebService.rest v ∈ s.container ∧ discoveryVersion v.groupVersion = dv

theorem Advertised.of_eq {s s' : State} (h : Advertised s) (hc : s'.container = s.container)
    (hg : s'.groups = s.groups) : Advertised s' := by
  rw [Advertised, hc, hg]; exact h

/-- A plan whose every advertised version was published before it: earlier in the plan, or
already among `pub`. -/
def Ordered : List APIGroupVersion → List Action → Prop
  | _, [] => True
  | pub, .publish _ v :: acts => Ordered (v :: pub) acts
  | pub, .advertise g :: acts =>
    (∀ dv ∈ g.versions, ∃ v ∈ pub, discoveryVersion v.groupVersion = dv) ∧ Ordered pub acts

theorem Ordered.mono : ∀ {pub pub' : List APIGroupVersion} {acts : List Action},
    Ordered pub acts → pub ⊆ pub' → Ordered pub' acts
  | _, _, [], _, _ => trivial
  | pub, pub', .publish _ v :: acts, h, hp =>
    @Ordered.mono (v :: pub) (v :: pub') acts h (List.cons_subset_cons v hp)
  | _, _, .advertise _ :: _, ⟨hv, h⟩, hp =>
    ⟨fun dv hdv => (hv dv hdv).imp fun _ ⟨hm, he⟩ => ⟨hp hm, he⟩, Ordered.mono h hp⟩

theorem ordered_publish_append (info : APIGroupInfo) :
    ∀ (vs : List APIGroupVersion) (pub : List APIGroupVersion) (acts : List Action),
      Ordered pub (vs.map (.publish info) ++ acts) ↔ Ordered (vs.reverse ++ pub) acts
  | [], _, _ => Iff.rfl
  | v :: vs, pub, acts => by
    simp only [List.map_cons, List.cons_append, Ordered, List.reverse_cons, List.append_assoc,
      List.singleton_append]
    exact ordered_publish_append info vs (v :: pub) acts

theorem versionRoute_groupVersion {ss : ShadowAPIServer} {env : Env} (info : APIGroupInfo)
    (gv : GroupVersion) (p : String) : (versionRoute ss env info gv p).groupVersion = gv := by
  unfold versionRoute; split <;> rfl

theorem plan_ordered {ss : ShadowAPIServer} {env : Env} :
    ∀ (batch : List APIGroupInfo) (pub : List APIGroupVersion), Ordered pub (plan ss env batch)
  | [], _ => trivial
  | info :: infos, pub => by
    have hp : publications ss env info info.prioritizedVersions =
        ((servedVersions info).map fun gv => versionRoute ss env info gv apiGroupPrefix).map
          (.publish info) := by
      rw [List.map_map]; rfl
    rw [plan_cons, hp, ordered_publish_append]
    refine ⟨fun dv hdv => ?_, (plan_ordered infos _).mono (List.subset_append_right _ _)⟩
    obtain ⟨gv, hgv, rfl⟩ := List.mem_map.1 hdv
    exact ⟨versionRoute ss env info gv apiGroupPrefix,
      List.mem_append_left _ (List.mem_reverse.2 (List.mem_map_of_mem _ hgv)),
      by rw [versionRoute_groupVersion]⟩

theorem routed_mono {c c' : List WebService} (hc : c ⊆ c') {g : APIGroup}
    (h : WebService.apiGroupHandler g ∈ c ∧
      ∀ dv ∈ g.versions, ∃ v, WebService.rest v ∈ c ∧ discoveryVersion v.groupVersion = dv) :
    WebService.apiGroupHandler g ∈ c' ∧
      ∀ dv ∈ g.versions, ∃ v, WebService.rest v ∈ c' ∧ discoveryVersion v.groupVersion = dv :=
  ⟨hc h.1, fun dv hdv => (h.2 dv hdv).imp fun _ ⟨hw, he⟩ => ⟨hc hw, he⟩⟩

section Steps

variable {ss : ShadowAPIServer} {env : Env}

/-- Running an ordered plan keeps every advertised version routed, unless it ends the
process. -/
theorem runPlan_advertised :
    ∀ (acts : List Action) (pub : List APIGroupVersion) (pending : List ResourceInfo) (s : State),
      Ordered pub acts → (∀ v ∈ pub, WebService.rest v ∈ s.container) → Advertised s →
        exited (runPlan ss env acts pending s) = false →
          Advertised (resultState (runPlan ss env acts pending s))
  | [], _, _, _, _, _, h, _ => h
  | a :: acts, pub, pending, s, ho, hp, h, hx => by
    have hsub : s.container ⊆ (a.apply ss pending s).container := by
      rw [Action.apply_container]; exact List.subset_append_left _ _
    have hgrow : ∀ g ∈ s.groups, WebService.apiGroupHandler g ∈ (a.apply ss pending s).container ∧
        ∀ dv ∈ g.versions, ∃ v, WebService.rest v ∈ (a.apply ss pending s).container ∧
          discoveryVersion v.groupVersion = dv := fun g hg => routed_mono hsub (h g hg)
    rcases @runPlan_cons_cases ss env a acts pending s with
      ⟨-, p, s', he, -⟩ | ⟨-, ⟨-, info, v, err, rfl, he⟩ | ⟨-, pending', he⟩⟩
    · rw [he] at hx; exact nomatch hx
    · rw [he, resultState_error]; exact hgrow
    · rw [he] at hx ⊢
      cases a with
      | publish info v =>
        refine runPlan_advertised acts (v :: pub) _ _ ho ?_ hgrow hx
        exact List.forall_mem_cons.2 ⟨by simp [Action.apply], fun w hw => hsub (hp w hw)⟩
      | advertise g =>
        obtain ⟨hgv, ho⟩ := ho
        refine runPlan_advertised acts pub _ _ ho (fun w hw => hsub (hp w hw)) (fun g' hg' => ?_) hx
        rcases mem_addedGroups hg' with rfl | hg'
        · refine ⟨by simp [Action.apply], fun dv hdv => ?_⟩
          obtain ⟨w, hw, hwe⟩ := hgv dv hdv
          exact ⟨w, hsub (hp w hw), hwe⟩
        · exact hgrow g' hg'

theorem installAPIGroups_advertised (batch : List APIGroupInfo) {s : State} (h : Advertised s)
    (hx : exited (installAPIGroups ss env batch s) = false) :
    Advertised (resultState (installAPIGroups ss env batch s)) := by
  rcases validateGroups_cases batch s with hv | ⟨e, he⟩
  · rw [installAPIGroups_eq_runPlan hv] at hx ⊢
    exact runPlan_advertised _ [] [] s (plan_ordered batch []) (fun _ h => nomatch h) h hx
  · rw [installAPIGroups, go_bind_error he]; exact h

theorem installShadowAPIGroups_advertised (GroupName : String)
    (d : Except String (List APIGroupResources)) {s : State} (h : Advertised s)
    (hx : exited (installShadowAPIGroups ss env GroupName d s) = false) :
    Advertised (resultState (installShadowAPIGroups ss env GroupName d s)) := by
  obtain ⟨s1, hg, he | ⟨batch, he⟩⟩ := @installShadowAPIGroups_result ss env GroupName d s
  · rw [he]; exact h.of_eq hg.container hg.groups
  · rw [he] at hx ⊢; exact installAPIGroups_advertised batch (h.of_eq hg.container hg.groups) hx

end Steps

/-- In every reachable state, every version a discovery entry advertises has REST routes at
that group-version, and the group's `/apis/<group>` handler is installed. -/
theorem reachable_advertised_versions_routed {s : State} (h : Reachable s) : Advertised s := by
  induction h with
  | init scheme => exact fun _ h => nomatch h
  | installAPIGroups ss env batch _ hx ih => exact installAPIGroups_advertised batch ih hx
  | installShadowAPIGroups ss env GroupName d _ hx ih =>
    exact installShadowAPIGroups_advertised GroupName d ih hx

theorem reachable_advertised_versions_routed_apps :
    Reachable (resultState (installAPIGroups ⟨0, 0, false, false⟩ acceptAll [appsInfo] ⟨∅, [], [], []⟩)) ∧
      Advertised (resultState (installAPIGroups ⟨0, 0, false, false⟩ acceptAll [appsInfo] ⟨∅, [], [], []⟩)) :=
  have h := Reachable.installAPIGroups ⟨0, 0, false, false⟩ acceptAll [appsInfo] (Reachable.init ∅) rfl
  ⟨h, reachable_advertised_versions_routed h⟩

/-- The shadow group installed from a discovery answer with no group is advertised with no
version, preferring v1alpha1, which serves nothing. -/
theorem shadow_empty_discovery_preferred_unserved :
    ¬ ∀ s, Reachable s → ∀ g ∈ s.groups, g.preferredVersion ∈ g.versions := by
  intro h
  have hr := Reachable.installShadowAPIGroups ⟨0, 0, false, false⟩ acceptAll "shadow.clusternet.io"
    (.ok []) (Reachable.init ∅) rfl
  have hg : (resultState (installShadowAPIGroups ⟨0, 0, false, false⟩ acceptAll
      "shadow.clusternet.io" (.ok []) ⟨∅, [], [], []⟩)).groups =
      [⟨"shadow.clusternet.io", [], ⟨"shadow.clusternet.io/v1alpha1", "v1alpha1"⟩⟩] := by
    decide
  have := h _ hr _ (hg ▸ List.mem_singleton_self _)
  simp at this

end Clusternet
