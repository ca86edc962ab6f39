import Clusternet.Proofs.Storage

/-! InstallShadowAPIGroups end to end. The only REST route it adds is that of the shadow
group's version, whose storage is the mirrored template RESTs re-keyed by lower-cased name;
every kind that route serves is registered as unstructured before installAPIGroups is
entered, so an InstallREST that refused unregistered kinds would change nothing. Two mirrored
resources of one name are not both served, and installing the same discovery answer again ends
the process on a root path the first install took. -/

namespace Clusternet

variable {ss : ShadowAPIServer} {env : Env}

theorem validateGroups_cases :
    ∀ (batch : List APIGroupInfo) (s : State),
      (∀ i ∈ batch, i.wellFormed) ∨ ∃ e, validateGroups batch s = .error e s
  | [], _ => .inl fun _ h => nomatch h
  | info :: infos, s => by
    rw [validateGroups_cons]
    by_cases h : info.wellFormed
    · rw [if_pos h]
      rcases validateGroups_cases infos s with h' | h'
      · exact .inl fun i hi => (List.mem_cons.1 hi).elim (· ▸ h) (h' i)
      · exact .inr h'
    · rw [if_neg h]
      exact .inr ⟨_, rfl⟩

theorem mem_plan_publish {batch : List APIGroupInfo} {info : APIGroupInfo} {v : APIGroupVersion}
    (h : Action.publish info v ∈ plan ss env batch) :
    info ∈ batch ∧ ∃ gv ∈ servedVersions info, v = versionRoute ss env info gv apiGroupPrefix := by
  simp only [plan, List.mem_flatMap, List.mem_append, List.mem_singleton, publications,
    List.mem_map] at h
  obtain ⟨info', hinfo', ⟨gv, hgv, heq⟩ | heq⟩ := h
  · cases heq
    exact ⟨hinfo', gv, hgv, rfl⟩
  · cases heq

theorem installAPIGroups_new_routes (batch : List APIGroupInfo) (s : State) :
    ∃ new, (resultState (installAPIGroups ss env batch s)).container = s.container ++ new ∧
      ∀ v, WebService.rest v ∈ new → ∃ info, Action.publish info v ∈ plan ss env batch := by
  rcases validateGroups_cases batch s with hv | ⟨e, h⟩
  · obtain ⟨new, hc, hnew⟩ := @runPlan_new_services ss env (plan ss env batch) [] s
    rw [← installAPIGroups_eq_runPlan hv] at hc
    refine ⟨new, hc, fun v hv' => ?_⟩
    obtain ⟨a, ha, hav⟩ := hnew _ hv'
    cases a with
    | publish info w => cases hav; exact ⟨info, ha⟩
    | advertise g => cases hav
  · exact ⟨[], by rw [installAPIGroups, go_bind_error h]; simp, by simp⟩

theorem installAPIGroups_keeps_scheme (batch : List APIGroupInfo) (s : State) :
    (resultState (installAPIGroups ss env batch s)).scheme = s.scheme := by
  rcases validateGroups_cases batch s with hv | ⟨e, h⟩
  · rw [installAPIGroups_eq_runPlan hv]; exact runPlan_keeps_scheme _ [] s
  · rw [installAPIGroups, go_bind_error h]; rfl

theorem versionRoute_storage (info : APIGroupInfo) (gv : GroupVersion) (p : String) :
    (versionRoute ss env info gv p).storage =
      lowerKeys env.toLower (env.iterate (info.storageFor gv.version)) ∅ := by
  unfold versionRoute; split <;> rfl

theorem versionRoute_entries_ne_nil {info : APIGroupInfo} {gv : GroupVersion}
    (h : gv ∈ servedVersions info) (p : String) :
    (versionRoute ss env info gv p).storage.entries ≠ [] := by
  rw [versionRoute_storage]
  refine lowerKeys_entries_ne_nil ?_ ∅
  rw [← List.length_pos, (env.iterate_perm _).length_eq, Nat.pos_iff_ne_zero]
  exact (List.mem_filter.1 h).2 |> of_decide_eq_true

theorem shadowAPIGroupInfo_storageFor (GroupName : String) (storage : StorageMap) :
    (shadowAPIGroupInfo GroupName storage).storageFor shadowVersion = storage := by
  simp only [shadowAPIGroupInfo, APIGroupInfo.storageFor, newDefaultAPIGroupInfo, shadowVersion,
    AList.lookup_insert, Option.getD_some]

theorem shadow_servedVersion {GroupName : String} {storage : StorageMap} {gv : GroupVersion}
    (h : gv ∈ servedVersions (shadowAPIGroupInfo GroupName storage)) :
    gv = ⟨GroupName, shadowVersion⟩ := by
  simpa [servedVersions, shadowAPIGroupInfo] using (List.mem_filter.1 h).1

theorem shadow_plan_storage {GroupName : String} {storage : StorageMap} {info : APIGroupInfo}
    {v : APIGroupVersion} (h : Action.publish info v ∈ plan ss env [shadowAPIGroupInfo GroupName storage]) :
    v.storage = lowerKeys env.toLower (env.iterate storage) ∅ := by
  obtain ⟨hmem, gv, hgv, rfl⟩ := mem_plan_publish h
  rw [List.mem_singleton] at hmem
  subst hmem
  rw [versionRoute_storage, shadow_servedVersion hgv, shadowAPIGroupInfo_storageFor]

/-- InstallShadowAPIGroups either panics while mirroring, having changed nothing but the
scheme, or enters installAPIGroups with the shadow group info around the stored mirrored
RESTs, in a state that differs from the start only by a scheme in which every mirrored kind is
unstructured. -/
theorem installShadowAPIGroups_spec (GroupName : String) (d : List APIGroupResources)
    (s : State) :
    (∃ e s1, installShadowAPIGroups ss env GroupName (.ok d) s = .error e s1 ∧ SchemeGrows s s1) ∨
      ∃ s1, SchemeGrows s s1 ∧
        (∀ a ∈ mirroredRESTs GroupName d, s1.scheme.lookup a.gvk = some .unstructured) ∧
        installShadowAPIGroups ss env GroupName (.ok d) s =
          installAPIGroups ss env [shadowAPIGroupInfo GroupName (storeAll (mirroredRESTs GroupName d) ∅)] s1 := by
  obtain ⟨hg, hok⟩ := mirrorGroups_spec GroupName d ∅ s
  simp only [installShadowAPIGroups]
  cases h : mirrorGroups GroupName d ∅ s with
  | error e s1 => exact .inl ⟨e, s1, go_bind_error h, by simpa [h] using hg⟩
  | ok st s1 =>
    obtain ⟨rfl, hreg⟩ := hok st s1 h
    exact .inr ⟨s1, by simpa [h] using hg, hreg, go_bind_ok h⟩

theorem installShadowAPIGroups_result (GroupName : String)
    (d : Except String (List APIGroupResources)) (s : State) :
    ∃ s1, SchemeGrows s s1 ∧
      (resultState (installShadowAPIGroups ss env GroupName d s) = s1 ∨
        ∃ batch, installShadowAPIGroups ss env GroupName d s = installAPIGroups ss env batch s1) := by
  cases d with
  | error err => exact ⟨s, SchemeGrows.refl s, .inl rfl⟩
  | ok d =>
    rcases installShadowAPIGroups_spec GroupName d s with ⟨e, s1, he, hg⟩ | ⟨s1, hg, -, he⟩
    · exact ⟨s1, hg, .inl (by rw [he]; rfl)⟩
    · exact ⟨s1, hg, .inr ⟨_, he⟩⟩

/-- The REST routes InstallShadowAPIGroups adds serve the mirrored RESTs re-keyed by
lower-cased name, in the order Go ranges over the stored map. -/
theorem installShadowAPIGroups_new_routes (GroupName : String) (d : List APIGroupResources)
    (s : State) :
    ∃ new, (resultState (installShadowAPIGroups ss env GroupName (.ok d) s)).container =
        s.container ++ new ∧
      ∀ v, WebService.rest v ∈ new →
        v.storage = lowerKeys env.toLower (env.iterate (storeAll (mirroredRESTs GroupName d) ∅)) ∅ := by
  rcases installShadowAPIGroups_spec GroupName d s with ⟨e, s1, h, hg⟩ | ⟨s1, hg, -, h⟩
  · exact ⟨[], by rw [h, resultState_error, hg.container, List.append_nil], by simp⟩
  · obtain ⟨new, hc, hnew⟩ := @installAPIGroups_new_routes ss env
      [shadowAPIGroupInfo GroupName (storeAll (mirroredRESTs GroupName d) ∅)] s1
    refine ⟨new, by rw [h, hc, hg.container], fun v hv => ?_⟩
    obtain ⟨info, hplan⟩ := hnew v hv
    exact shadow_plan_storage hplan

def registersUnstructured (sch : Scheme) (v : APIGroupVersion) : Bool :=
  v.storage.entries.all fun e => sch.lookup e.2.gvk = some .unstructured

/-- InstallREST made to refuse a route that serves a kind the scheme does not know as
unstructured. -/
def Env.requireUnstructured (env : Env) : Env :=
  { env with
    installREST := fun sch v =>
      if registersUnstructured sch v then env.installREST sch v
      else .error "kind not registered as unstructured" }

theorem runPlan_requireUnstructured :
    ∀ (acts : List Action) (pending : List ResourceInfo) (s : State),
      (∀ info v, Action.publish info v ∈ acts → registersUnstructured s.scheme v) →
        runPlan ss env.requireUnstructured acts pending s = runPlan ss env acts pending s
  | [], _, _, _ => rfl
  | .publish info v :: acts, pending, s, h => by
    have hv : registersUnstructured s.scheme v := h info v (List.mem_cons_self _ _)
    by_cases hf : rootPathFree env s.container (.rest v)
    · have hf' : rootPathFree env.requireUnstructured s.container (.rest v) := hf
      cases hr : env.installREST s.scheme v with
      | error err =>
        have hr' : env.requireUnstructured.installREST s.scheme v = .error err := by
          simp [Env.requireUnstructured, hv, hr]
        rw [runPlan_publish_refused hf' hr', runPlan_publish_refused hf hr]
      | ok r =>
        have hr' : env.requireUnstructured.installREST s.scheme v = .ok r := by
          simp [Env.requireUnstructured, hv, hr]
        rw [runPlan_publish_ok hf' hr', runPlan_publish_ok hf hr]
        exact runPlan_requireUnstructured acts _ _ fun i w hw => h i w (List.mem_cons_of_mem _ hw)
    · have hf' : ¬ rootPathFree env.requireUnstructured s.container (.rest v) := hf
      rw [runPlan_publish_taken hf', runPlan_publish_taken hf]
      rfl
  | .advertise g :: acts, pending, s, h => by
    have hw : addWebService env.requireUnstructured (.apiGroupHandler g) =
        addWebService env (.apiGroupHandler g) := rfl
    rw [runPlan_advertise, runPlan_advertise, hw]
    simp only [go_bind]
    split
    · next s' hs' =>
      exact runPlan_requireUnstructured acts [] s' fun i w hw =>
        addWebService_ok_scheme hs' ▸ h i w (List.mem_cons_of_mem _ hw)
    · rfl

/-- An install whose planned routes serve only kinds registered as unstructured runs the same
under an InstallREST that refuses unregistered kinds. -/
theorem installAPIGroups_requireUnstructured (batch : List APIGroupInfo) (s : State)
    (h : ∀ info v, Action.publish info v ∈ plan ss env batch → registersUnstructured s.scheme v) :
    installAPIGroups ss env.requireUnstructured batch s = installAPIGroups ss env batch s := by
  rcases validateGroups_cases batch s with hv | ⟨e, he⟩
  · rw [installAPIGroups_eq_runPlan hv, installAPIGroups_eq_runPlan hv]
    exact runPlan_requireUnstructured _ _ _ h
  · rw [installAPIGroups, installAPIGroups, go_bind_error he, go_bind_error he]

theorem mem_mirroredRESTs {GroupName : String} {d : List APIGroupResources} {a : REST} :
    a ∈ mirroredRESTs GroupName d ↔
      ∃ g ∈ d, hasSuffix g.group.name clusternetGroupSuffix = false ∧ g.group.name ≠ GroupName ∧
        ∃ r ∈ g.resourcesFor g.group.preferredVersion.version,
          a = newREST g.group.name g.group.preferredVersion.version r := by
  simp only [mirroredRESTs, List.mem_flatMap, List.mem_filter, groupRESTs, List.mem_map, mirrored,
    Bool.and_eq_true, Bool.not_eq_true', decide_eq_true_eq, and_assoc]
  exact exists_congr fun g => and_congr_right fun _ => and_congr_right fun _ =>
    and_congr_right fun _ => exists_congr fun r => and_congr_right fun _ => eq_comm

/-- Every REST route InstallShadowAPIGroups adds serves, under the lower-cased name of a
resource, the template REST built from that resource of the preferred version of a discovered
group that is neither a clusternet group nor the shadow group, with the group's name and
preferred version. Each of those kinds is registered as unstructured before any route is
published: an InstallREST that refused unregistered kinds changes nothing. -/
theorem installShadowAPIGroups_registers_before_publishing (GroupName : String)
    (d : List APIGroupResources) (s : State) :
    (∃ new, (resultState (installShadowAPIGroups ss env GroupName (.ok d) s)).container =
        s.container ++ new ∧
      ∀ v, WebService.rest v ∈ new → ∀ k a, v.storage.lookup k = some a →
        ∃ g ∈ d, hasSuffix g.group.name clusternetGroupSuffix = false ∧ g.group.name ≠ GroupName ∧
          ∃ r ∈ g.resourcesFor g.group.preferredVersion.version,
            a = newREST g.group.name g.group.preferredVersion.version r ∧ k = env.toLower r.name) ∧
    installShadowAPIGroups ss env.requireUnstructured GroupName (.ok d) s =
      installShadowAPIGroups ss env GroupName (.ok d) s := by
  refine ⟨?_, ?_⟩
  · obtain ⟨new, hc, hnew⟩ := @installShadowAPIGroups_new_routes ss env GroupName d s
    refine ⟨new, hc, fun v hv k a h => ?_⟩
    rw [hnew v hv] at h
    obtain ⟨haR, hk, -⟩ := (lowerKeys_serves_last_writer _ _ _ (env.iterate_perm _)).values k a h
    obtain ⟨g, hg, hsuf, hname, r, hr, rfl⟩ := mem_mirroredRESTs.1 haR
    exact ⟨g, hg, hsuf, hname, r, hr, rfl, hk.symm⟩
  · obtain ⟨-, hok⟩ := mirrorGroups_spec GroupName d ∅ s
    simp only [installShadowAPIGroups]
    cases h : mirrorGroups GroupName d ∅ s with
    | error e s1 => rw [go_bind_error h, go_bind_error h]
    | ok st s1 =>
      obtain ⟨rfl, hreg⟩ := hok st s1 h
      rw [go_bind_ok h, go_bind_ok h]
      refine installAPIGroups_requireUnstructured _ _ fun info v hp => ?_
      simp only [registersUnstructured, List.all_eq_true, decide_eq_true_eq]
      intro e he
      have hl : v.storage.lookup e.1 = some e.2 := AList.mem_lookup_iff.2 he
      rw [shadow_plan_storage hp] at hl
      exact hreg _ ((lowerKeys_serves_last_writer _ _ _ (env.iterate_perm _)).values _ _ hl).1

/-! ### Two mirrored resources of one name -/

def corePod : APIResource := ⟨"pods", true, "Pod", ["po"]⟩

def coreGroup : APIGroupResources :=
  ⟨⟨"", [⟨"v1", "v1"⟩], ⟨"v1", "v1"⟩⟩, (∅ : AList _).insert "v1" [corePod]⟩

/-- A mirrored kind that the scheme already registers with a Go type other than unstructured
makes InstallShadowAPIGroups panic on a double registration before anything is published: the
container, the discovery entries and the resource infos are left as they were. -/
theorem installShadowAPIGroups_type_conflict_aborts (GroupName : String) (d : List APIGroupResources)
    (s : State) {a : REST} {t : GoType} (ha : a ∈ mirroredRESTs GroupName d)
    (ht : s.scheme.lookup a.gvk = some t) (hne : t ≠ .unstructured) :
    ∃ gvk s', installShadowAPIGroups ss env GroupName (.ok d) s = .error (.doubleRegistration gvk) s' ∧
      SchemeGrows s s' := by
  obtain ⟨hg, hok⟩ := mirrorGroups_spec GroupName d ∅ s
  simp only [installShadowAPIGroups]
  cases h : mirrorGroups GroupName d ∅ s with
  | ok st s1 =>
    rw [h, resultState_ok] at hg
    have hreg := (hok st s1 h).2 a ha
    rw [hg.keeps _ _ ht] at hreg
    exact absurd (Option.some_inj.1 hreg) hne
  | error e s1 =>
    obtain ⟨gvk, rfl⟩ := mirrorGroups_error GroupName d ∅ s e s1 h
    rw [h, resultState_error] at hg
    exact ⟨gvk, s1, go_bind_error h, hg⟩

theorem installShadowAPIGroups_type_conflict_aborts_typed_pod :
    newREST "" "v1" corePod ∈ mirroredRESTs "shadow.clusternet.io" [coreGroup] ∧
      ((∅ : Scheme).insert ⟨"", "v1", "Pod"⟩ (.typed "Pod")).lookup (newREST "" "v1" corePod).gvk =
        some (.typed "Pod") ∧ GoType.typed "Pod" ≠ .unstructured ∧
      ∃ gvk s', installShadowAPIGroups ⟨0, 0, false, false⟩ acceptAll "shadow.clusternet.io"
          (.ok [coreGroup]) ⟨(∅ : Scheme).insert ⟨"", "v1", "Pod"⟩ (.typed "Pod"), [], [], []⟩ =
          .error (.doubleRegistration gvk) s' ∧
        SchemeGrows ⟨(∅ : Scheme).insert ⟨"", "v1", "Pod"⟩ (.typed "Pod"), [], [], []⟩ s' :=
  have ha : newREST "" "v1" corePod ∈ mirroredRESTs "shadow.clusternet.io" [coreGroup] := by decide
  have ht : ((∅ : Scheme).insert ⟨"", "v1", "Pod"⟩ (.typed "Pod")).lookup (newREST "" "v1" corePod).gvk =
      some (.typed "Pod") := by decide
  ⟨ha, ht, nofun, installShadowAPIGroups_type_conflict_aborts _ _ _ ha ht nofun⟩

/-! ### Installing the same discovery answer twice -/

/-- installAPIGroups of a batch on the state that a successful install of the same batch left
ends the process on the first web service, whose root path is taken. -/
theorem installAPIGroups_again_exits {batch : List APIGroupInfo} (hb : batch ≠ []) {s s1 : State}
    (h : installAPIGroups ss env batch s = .ok () s1) :
    ∃ p s2, installAPIGroups ss env batch s1 = .error (.duplicateRootPath p) s2 ∧
      s2.container = s1.container ∧ s2.scheme = s1.scheme := by
  rcases validateGroups_cases batch s with hv | ⟨e, he⟩
  · obtain ⟨info, infos, rfl⟩ := List.exists_cons_of_ne_nil hb
    obtain ⟨a, acts, hp⟩ : ∃ a acts, plan ss env (info :: infos) = a :: acts := by
      rw [plan_cons]
      cases publications ss env info info.prioritizedVersions <;> exact ⟨_, _, rfl⟩
    rw [installAPIGroups_eq_runPlan hv, hp] at h ⊢
    rcases @runPlan_cons_cases ss env a acts [] s1 with ⟨-, hexit⟩ | ⟨hfree, -⟩
    · exact hexit
    · exact absurd rfl (hfree _ (runPlan_ok_first h))
  · rw [installAPIGroups, go_bind_error he] at h
    exact nomatch h

/-- After an InstallShadowAPIGroups that returned nil, calling it again with the same server,
collaborators and discovery answer registers no kind anew and ends the process on the first
web service it adds, which the first call installed: the shadow group is never published or
advertised twice, and the container and the scheme are left as the first call left them. -/
theorem installShadowAPIGroups_again_exits (GroupName : String) (d : List APIGroupResources)
    {s s1 : State} (h : installShadowAPIGroups ss env GroupName (.ok d) s = .ok () s1) :
    ∃ p s2, installShadowAPIGroups ss env GroupName (.ok d) s1 = .error (.duplicateRootPath p) s2 ∧
      s2.container = s1.container ∧ s2.scheme = s1.scheme := by
  rcases installShadowAPIGroups_spec GroupName d s with ⟨e, s', he, -⟩ | ⟨s', -, hreg, he⟩
  · rw [he] at h; exact nomatch h
  · rw [he] at h
    have hs1 := @installAPIGroups_keeps_scheme ss env
      [shadowAPIGroupInfo GroupName (storeAll (mirroredRESTs GroupName d) ∅)] s'
    rw [h, resultState_ok] at hs1
    have hmirror := mirrorGroups_of_registered GroupName d ∅ s1 fun a ha => hs1 ▸ hreg a ha
    have hrun : installShadowAPIGroups ss env GroupName (.ok d) s1 =
        installAPIGroups ss env [shadowAPIGroupInfo GroupName (storeAll (mirroredRESTs GroupName d) ∅)] s1 :=
      go_bind_ok hmirror
    rw [hrun]
    exact installAPIGroups_again_exits (List.cons_ne_nil _ _) h

theorem installShadowAPIGroups_again_exits_core :
    installShadowAPIGroups ⟨0, 0, false, false⟩ acceptAll "shadow.clusternet.io" (.ok [coreGroup])
        ⟨∅, [], [], []⟩ =
      .ok () (resultState (installShadowAPIGroups ⟨0, 0, false, false⟩ acceptAll
        "shadow.clusternet.io" (.ok [coreGroup]) ⟨∅, [], [], []⟩)) ∧
    ∃ p s2, installShadowAPIGroups ⟨0, 0, false, false⟩ acceptAll "shadow.clusternet.io"
        (.ok [coreGroup]) (resultState (installShadowAPIGroups ⟨0, 0, false, false⟩ acceptAll
          "shadow.clusternet.io" (.ok [coreGroup]) ⟨∅, [], [], []⟩)) =
        .error (.duplicateRootPath p) s2 ∧
      s2.container = (resultState (installShadowAPIGroups ⟨0, 0, false, false⟩ acceptAll
        "shadow.clusternet.io" (.ok [coreGroup]) ⟨∅, [], [], []⟩)).container ∧
      s2.scheme = (resultState (installShadowAPIGroups ⟨0, 0, false, false⟩ acceptAll
        "shadow.clusternet.io" (.ok [coreGroup]) ⟨∅, [], [], []⟩)).scheme :=
  have h : installShadowAPIGroups ⟨0, 0, false, false⟩ acceptAll "shadow.clusternet.io"
      (.ok [coreGroup]) ⟨∅, [], [], []⟩ =
      .ok () (resultState (installShadowAPIGroups ⟨0, 0, false, false⟩ acceptAll
        "shadow.clusternet.io" (.ok [coreGroup]) ⟨∅, [], [], []⟩)) := rfl
  ⟨h, installShadowAPIGroups_again_exits _ _ h⟩

end Clusternet
