import Clusternet.Proofs.Install

/-! What InstallShadowAPIGroups stores and registers. Every resource of a mirrored group's
preferred version becomes a template REST stored under its name, a later resource of the same
name replacing an earlier one, and its kind is registered as unstructured while mirroring,
before installAPIGroups is entered. getAPIGroupVersion then re-keys the map by lower-cased
name, in whatever order Go ranges over it. -/

namespace Clusternet

/-- Whether InstallShadowAPIGroups mirrors a discovered group: neither a clusternet group nor
the shadow group itself. -/
def mirrored (GroupName : String) (g : APIGroupResources) : Bool :=
  !hasSuffix g.group.name clusternetGroupSuffix && g.group.name ≠ GroupName

def groupRESTs (g : APIGroupResources) : List REST :=
  (g.resourcesFor g.group.preferredVersion.version).map
    (newREST g.group.name g.group.preferredVersion.version)

/-- The template RESTs InstallShadowAPIGroups builds, in discovery order. -/
def mirroredRESTs (GroupName : String) (d : List APIGroupResources) : List REST :=
  (d.filter (mirrored GroupName)).flatMap groupRESTs

def storeAll (rs : List REST) (storage : StorageMap) : StorageMap :=
  rs.foldl (fun m a => m.insert a.name a) storage

def REST.gvk (a : REST) : GroupVersionKind := ⟨a.group, a.version, a.kind⟩

/-- A step that changes nothing but the scheme, and forgets no registration. -/
structure SchemeGrows (s s' : State) : Prop where
  container : s'.container = s.container
  groups : s'.groups = s.groups
  resourceInfos : s'.resourceInfos = s.resourceInfos
  keeps : ∀ gvk t, s.scheme.lookup gvk = some t → s'.scheme.lookup gvk = some t

theorem SchemeGrows.refl (s : State) : SchemeGrows s s := ⟨rfl, rfl, rfl, fun _ _ h => h⟩

theorem SchemeGrows.trans {a b c : State} (h1 : SchemeGrows a b) (h2 : SchemeGrows b c) :
    SchemeGrows a c :=
  ⟨h2.container.trans h1.container, h2.groups.trans h1.groups,
    h2.resourceInfos.trans h1.resourceInfos, fun gvk t h => h2.keeps gvk t (h1.keeps gvk t h)⟩

theorem lookup_storeAll (rs : List REST) (m : StorageMap) (k : String) :
    (storeAll rs m).lookup k = (rs.filter (·.name = k)).getLast?.or (m.lookup k) := by
  induction rs using List.reverseRecOn with
  | nil => rfl
  | append_singleton rs a ih =>
    rw [storeAll, List.foldl_append, List.foldl_cons, List.foldl_nil, ← storeAll,
      List.filter_append]
    by_cases h : a.name = k
    · subst h; simp
    · simp [AList.lookup_insert_ne (Ne.symm h), h, ih]

/-- Registering a kind: the scheme learns it, or already knows it with another Go type and
the call panics with the state untouched. -/
theorem addKnownTypeWithName_spec (gvk : GroupVersionKind) (t : GoType) (s : State) :
    (∃ s', addKnownTypeWithName gvk t s = .ok () s' ∧ SchemeGrows s s' ∧
        s'.scheme.lookup gvk = some t) ∨
      addKnownTypeWithName gvk t s = .error (.doubleRegistration gvk) s := by
  unfold addKnownTypeWithName
  cases h : s.scheme.lookup gvk with
  | none =>
    refine .inl ⟨_, rfl, ⟨rfl, rfl, rfl, fun gvk' t' h' => ?_⟩, AList.lookup_insert _⟩
    have hne : gvk' ≠ gvk := by rintro rfl; simp [h] at h'
    simpa [AList.lookup_insert_ne hne] using h'
  | some t' =>
    by_cases ht : t' = t
    · exact .inl ⟨s, by simp [ht], SchemeGrows.refl s, by rw [h, ht]⟩
    · exact .inr (by simp [ht])

/-- The inner mirroring loop only touches the scheme. When it returns, it has stored the
template RESTs of its resources in order and registered each of their kinds as unstructured. -/
theorem mirrorResources_spec (gn pv : String) :
    ∀ (rs : List APIResource) (storage : StorageMap) (s : State),
      SchemeGrows s (resultState (mirrorResources gn pv rs storage s)) ∧
        ∀ st s', mirrorResources gn pv rs storage s = .ok st s' →
          st = storeAll (rs.map (newREST gn pv)) storage ∧
            ∀ a ∈ rs.map (newREST gn pv), s'.scheme.lookup a.gvk = some .unstructured
  | [], storage, s => ⟨SchemeGrows.refl s, fun st s' h => by cases h; exact ⟨rfl, by simp⟩⟩
  | r :: rs, storage, s => by
    rcases addKnownTypeWithName_spec ⟨gn, pv, r.kind⟩ .unstructured s with ⟨s1, h1, hg1, hr1⟩ | h1
    · obtain ⟨hg, hok⟩ := mirrorResources_spec gn pv rs (storage.insert r.name (newREST gn pv r)) s1
      rw [mirrorResources, go_bind_ok h1]
      refine ⟨hg1.trans hg, fun st s' h => ?_⟩
      obtain ⟨rfl, hreg⟩ := hok st s' h
      refine ⟨rfl, ?_⟩
      simp only [List.map_cons, List.mem_cons]
      rintro a (rfl | ha)
      · rw [h] at hg; exact hg.keeps _ _ hr1
      · exact hreg a ha
    · rw [mirrorResources, go_bind_error h1]
      exact ⟨SchemeGrows.refl s, fun _ _ h => nomatch h⟩

theorem mirrorGroups_cons (GroupName : String) (g : APIGroupResources)
    (gs : List APIGroupResources) (storage : StorageMap) :
    mirrorGroups GroupName (g :: gs) storage =
      if mirrored GroupName g then
        mirrorResources g.group.name g.group.preferredVersion.version
          (g.resourcesFor g.group.preferredVersion.version) storage >>= mirrorGroups GroupName gs
      else mirrorGroups GroupName gs storage := by
  rw [mirrorGroups, mirrored]
  by_cases h1 : hasSuffix g.group.name clusternetGroupSuffix <;>
    by_cases h2 : g.group.name = GroupName <;> simp [h1, h2]

theorem mirroredRESTs_cons (GroupName : String) (g : APIGroupResources)
    (gs : List APIGroupResources) :
    mirroredRESTs GroupName (g :: gs) =
      (if mirrored GroupName g then groupRESTs g else []) ++ mirroredRESTs GroupName gs := by
  by_cases hm : mirrored GroupName g <;> simp [mirroredRESTs, hm]

/-- The group loop of InstallShadowAPIGroups only touches the scheme. When it returns, it has
stored the mirrored template RESTs in discovery order and registered each of their kinds as
unstructured. -/
theorem mirrorGroups_spec (GroupName : String) :
    ∀ (d : List APIGroupResources) (storage : StorageMap) (s : State),
      SchemeGrows s (resultState (mirrorGroups GroupName d storage s)) ∧
        ∀ st s', mirrorGroups GroupName d storage s = .ok st s' →
          st = storeAll (mirroredRESTs GroupName d) storage ∧
            ∀ a ∈ mirroredRESTs GroupName d, s'.scheme.lookup a.gvk = some .unstructured
  | [], storage, s =>
    ⟨SchemeGrows.refl s, fun st s' h => by cases h; exact ⟨rfl, by simp [mirroredRESTs]⟩⟩
  | g :: gs, storage, s => by
    rw [mirrorGroups_cons, mirroredRESTs_cons]
    split_ifs with hm
    · obtain ⟨hg1, hok1⟩ := mirrorResources_spec g.group.name g.group.preferredVersion.version
        (g.resourcesFor g.group.preferredVersion.version) storage s
      cases h1 : mirrorResources g.group.name g.group.preferredVersion.version
          (g.resourcesFor g.group.preferredVersion.version) storage s with
      | error e s1 =>
        rw [go_bind_error h1]
        exact ⟨by simpa [h1] using hg1, fun _ _ h => nomatch h⟩
      | ok st1 s1 =>
        obtain ⟨rfl, hreg1⟩ := hok1 st1 s1 h1
        rw [h1] at hg1
        obtain ⟨hg2, hok2⟩ := mirrorGroups_spec GroupName gs (storeAll (groupRESTs g) storage) s1
        simp only [groupRESTs] at hg2 hok2
        rw [go_bind_ok h1]
        refine ⟨hg1.trans hg2, fun st s' h => ?_⟩
        obtain ⟨rfl, hreg2⟩ := hok2 st s' h
        refine ⟨by simp [storeAll, groupRESTs, List.foldl_append], fun a ha => ?_⟩
        rcases List.mem_append.1 ha with ha | ha
        · rw [h] at hg2; exact hg2.keeps _ _ (hreg1 a ha)
        · exact hreg2 a ha
    · simpa using mirrorGroups_spec GroupName gs storage s

theorem mirrorResources_error (gn pv : String) :
    ∀ (rs : List APIResource) (storage : StorageMap) (s : State) (e : GoError) (s' : State),
      mirrorResources gn pv rs storage s = .error e s' → ∃ gvk, e = .doubleRegistration gvk
  | [], _, _, _, _, h => nomatch h
  | r :: rs, storage, s, e, s', h => by
    rcases addKnownTypeWithName_spec ⟨gn, pv, r.kind⟩ .unstructured s with ⟨s1, h1, -, -⟩ | h1
    · rw [mirrorResources, go_bind_ok h1] at h
      exact mirrorResources_error gn pv rs _ s1 e s' h
    · rw [mirrorResources, go_bind_error h1] at h
      cases h; exact ⟨_, rfl⟩

theorem mirrorGroups_error (GroupName : String) :
    ∀ (d : List APIGroupResources) (storage : StorageMap) (s : State) (e : GoError) (s' : State),
      mirrorGroups GroupName d storage s = .error e s' → ∃ gvk, e = .doubleRegistration gvk
  | [], _, _, _, _, h => nomatch h
  | g :: gs, storage, s, e, s', h => by
    rw [mirrorGroups_cons] at h
    split_ifs at h
    · cases h1 : mirrorResources g.group.name g.group.preferredVersion.version
          (g.resourcesFor g.group.preferredVersion.version) storage s with
      | error e1 s1 =>
        rw [go_bind_error h1] at h
        cases h; exact mirrorResources_error _ _ _ _ _ _ _ h1
      | ok st s1 =>
        rw [go_bind_ok h1] at h
        exact mirrorGroups_error GroupName gs st s1 e s' h
    · exact mirrorGroups_error GroupName gs storage s e s' h

/-- On a scheme that already registers each of their kinds as unstructured, the mirroring
loops store their RESTs and leave the state as it was. -/
theorem mirrorResources_of_registered (gn pv : String) :
    ∀ (rs : List APIResource) (storage : StorageMap) (s : State),
      (∀ r ∈ rs, s.scheme.lookup ⟨gn, pv, r.kind⟩ = some .unstructured) →
        mirrorResources gn pv rs storage s = .ok (storeAll (rs.map (newREST gn pv)) storage) s
  | [], _, _, _ => rfl
  | r :: rs, storage, s, h => by
    have h1 : addKnownTypeWithName ⟨gn, pv, r.kind⟩ .unstructured s = .ok () s := by
      simp [addKnownTypeWithName, h r (List.mem_cons_self _ _)]
    rw [mirrorResources, go_bind_ok h1, mirrorResources_of_registered gn pv rs _ s
      fun r' hr' => h r' (List.mem_cons_of_mem _ hr')]
    rfl

theorem mirrorGroups_of_registered (GroupName : String) :
    ∀ (d : List APIGroupResources) (storage : StorageMap) (s : State),
      (∀ a ∈ mirroredRESTs GroupName d, s.scheme.lookup a.gvk = some .unstructured) →
        mirrorGroups GroupName d storage s = .ok (storeAll (mirroredRESTs GroupName d) storage) s
  | [], _, _, _ => rfl
  | g :: gs, storage, s, h => by
    rw [mirroredRESTs_cons] at h ⊢
    rw [mirrorGroups_cons]
    by_cases hm : mirrored GroupName g
    · simp only [hm, if_true] at h ⊢
      rw [go_bind_ok (mirrorResources_of_registered _ _ _ storage s fun r hr =>
          h (newREST g.group.name g.group.preferredVersion.version r)
            (List.mem_append_left _ (List.mem_map_of_mem _ hr))),
        mirrorGroups_of_registered GroupName gs _ s fun a ha => h a (List.mem_append_right _ ha)]
      simp [storeAll, groupRESTs, List.foldl_append]
    · simp only [hm, if_false, List.nil_append] at h ⊢
      exact mirrorGroups_of_registered GroupName gs storage s h

/-! ### Re-keying by lower-cased name -/

section LowerKeys

variable {lower : String → String} {m : StorageMap} {k : String}

theorem mem_lowerKeys :
    ∀ (l : List (Σ _ : String, REST)) (m : StorageMap) (k : String),
      k ∈ lowerKeys lower l m ↔ k ∈ m ∨ ∃ e ∈ l, lower e.1 = k
  | [], m, k => by simp [lowerKeys]
  | ⟨k', v⟩ :: l, m, k => by
    rw [lowerKeys, mem_lowerKeys l, AList.mem_insert]
    simp only [List.mem_cons, exists_eq_or_imp, @eq_comm _ k, or_assoc, or_left_comm]

theorem lowerKeys_entries_ne_nil {l : List (Σ _ : String, REST)} (hl : l ≠ []) (m : StorageMap) :
    (lowerKeys lower l m).entries ≠ [] := by
  obtain ⟨e, he⟩ := List.exists_mem_of_ne_nil l hl
  have hk := (mem_lowerKeys l m (lower e.1)).2 (.inr ⟨e, he, rfl⟩)
  intro h
  rw [AList.mem_keys, AList.keys, h] at hk
  exact List.not_mem_nil _ hk

theorem lookup_lowerKeys_eq_some :
    ∀ (l : List (Σ _ : String, REST)) (m : StorageMap) (k : String) (a : REST),
      (lowerKeys lower l m).lookup k = some a → m.lookup k = some a ∨ ∃ e ∈ l, lower e.1 = k ∧ e.2 = a
  | [], _, _, _, h => .inl h
  | ⟨k', v⟩ :: l, m, k, a, h => by
    rcases lookup_lowerKeys_eq_some l _ k a h with h | ⟨e, he, hk, ha⟩
    · by_cases hk : k = lower k'
      · subst hk
        rw [AList.lookup_insert] at h
        exact .inr ⟨⟨k', v⟩, List.mem_cons_self _ _, rfl, Option.some_inj.1 h⟩
      · rw [AList.lookup_insert_ne hk] at h
        exact .inl h
    · exact .inr ⟨e, List.mem_cons_of_mem _ he, hk, ha⟩

theorem lookup_lowerKeys_of_forall_ne :
    ∀ (l : List (Σ _ : String, REST)) (m : StorageMap),
      (∀ e ∈ l, lower e.1 ≠ k) → (lowerKeys lower l m).lookup k = m.lookup k
  | [], _, _ => rfl
  | ⟨k', v⟩ :: l, m, h => by
    rw [lowerKeys, lookup_lowerKeys_of_forall_ne l _ fun e he => h e (List.mem_cons_of_mem _ he),
      AList.lookup_insert_ne (h _ (List.mem_cons_self _ _)).symm]

theorem lookup_lowerKeys_of_unique (e0 : Σ _ : String, REST) (hk : lower e0.1 = k) :
    ∀ (l : List (Σ _ : String, REST)) (m : StorageMap), e0 ∈ l →
      (∀ e ∈ l, lower e.1 = k → e = e0) → (lowerKeys lower l m).lookup k = some e0.2
  | [], _, h0, _ => nomatch h0
  | ⟨k', v⟩ :: l, m, h0, hu => by
    rw [lowerKeys]
    by_cases hl : e0 ∈ l
    · exact lookup_lowerKeys_of_unique e0 hk l _ hl fun e he => hu e (List.mem_cons_of_mem _ he)
    · have he0 : ⟨k', v⟩ = e0 := (List.mem_cons.1 h0).resolve_right hl |>.symm
      subst he0
      rw [lookup_lowerKeys_of_forall_ne l _ fun e he hek =>
        hl (hu e (List.mem_cons_of_mem _ he) hek ▸ he), ← hk, AList.lookup_insert]

end LowerKeys

/-- What a storage map serves for the template RESTs `R` stored in order: a key for the
lower-cased name of each of them, and under a key a REST of that lower-cased name that no later
one of the same name replaced; when no two names of `R` differ only in case, the last REST of
each name is the one served. -/
structure ServesLastWriter (lower : String → String) (R : List REST) (m : StorageMap) : Prop where
  keys : ∀ k, k ∈ m ↔ ∃ a ∈ R, lower a.name = k
  values : ∀ k a, m.lookup k = some a →
    a ∈ R ∧ lower a.name = k ∧ (R.filter (·.name = a.name)).getLast? = some a
  unique : ∀ r ∈ R, (∀ b ∈ R, lower b.name = lower r.name → b.name = r.name) →
    m.lookup (lower r.name) = (R.filter (·.name = r.name)).getLast?

theorem mem_storeAll_entries {R : List REST} {e : Σ _ : String, REST} :
    e ∈ (storeAll R ∅).entries ↔ (R.filter (·.name = e.1)).getLast? = some e.2 := by
  rw [← AList.mem_lookup_iff, lookup_storeAll, AList.lookup_empty, Option.or_none]
  rfl

theorem last_named {R : List REST} {n : String} {a : REST}
    (h : (R.filter (·.name = n)).getLast? = some a) : a ∈ R ∧ a.name = n := by
  simpa using List.mem_of_getLast?_eq_some h

theorem exists_last_named {R : List REST} {r : REST} (hr : r ∈ R) :
    ∃ a, (R.filter (·.name = r.name)).getLast? = some a :=
  Option.isSome_iff_exists.1
    (List.getLast?_isSome.2 (List.ne_nil_of_mem (List.mem_filter.2 ⟨hr, by simp⟩)))

/-- Re-keying the stored RESTs by lower-cased name, in any order of the entries, serves the
last writer of each name. -/
theorem lowerKeys_serves_last_writer (lower : String → String) (R : List REST) (l : List (Σ _ : String, REST))
    (hl : l.Perm (storeAll R ∅).entries) : ServesLastWriter lower R (lowerKeys lower l ∅) := by
  have hmem : ∀ e, e ∈ l ↔ (R.filter (·.name = e.1)).getLast? = some e.2 := fun e =>
    hl.mem_iff.trans mem_storeAll_entries
  refine ⟨fun k => ?_, fun k a h => ?_, fun r hr hu => ?_⟩
  · rw [mem_lowerKeys]
    simp only [AList.not_mem_empty, false_or]
    constructor
    · rintro ⟨e, he, rfl⟩
      obtain ⟨haR, hname⟩ := last_named ((hmem e).1 he)
      exact ⟨e.2, haR, by rw [hname]⟩
    · rintro ⟨a, haR, rfl⟩
      obtain ⟨b, hb⟩ := exists_last_named haR
      exact ⟨⟨a.name, b⟩, (hmem _).2 hb, rfl⟩
  · rcases lookup_lowerKeys_eq_some l ∅ k a h with h | ⟨e, he, rfl, rfl⟩
    · simp at h
    · have hlast := (hmem e).1 he
      obtain ⟨haR, hname⟩ := last_named hlast
      exact ⟨haR, by rw [hname], by rw [hname]; exact hlast⟩
  · obtain ⟨a, ha⟩ := exists_last_named hr
    rw [ha]
    refine lookup_lowerKeys_of_unique ⟨r.name, a⟩ rfl l ∅ ((hmem _).2 ha) fun ⟨k', b⟩ he hk => ?_
    have hlast := (hmem _).1 he
    obtain ⟨hbR, hname⟩ := last_named hlast
    dsimp only at hk hname hlast
    have hk' : k' = r.name := hname.symm.trans (hu b hbR (by rw [hname]; exact hk))
    subst hk'
    rw [Option.some_inj.1 (hlast.symm.trans ha)]

end Clusternet
