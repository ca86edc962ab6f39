import Clusternet.Spec.Shadow

/-! Evaluating the model one effect at a time: the bind of the Go state monad, one equation
per primitive effect, and the validation loop of `installAPIGroups`, so that no later proof
unfolds the monad or the loop. -/

namespace Clusternet

variable {α β : Type}

@[simp] theorem go_pure (a : α) (s : State) : (pure a : Go α) s = .ok a s := rfl

@[simp] theorem go_throw (e : GoError) (s : State) : (throw e : Go α) s = .error e s := rfl

theorem go_bind (x : Go α) (f : α → Go β) (s : State) :
    (x >>= f) s = match x s with
      | .ok a s' => f a s'
      | .error e s' => .error e s' := by
  cases h : x s <;> simp only [bind, EStateM.bind, h]

theorem go_bind_ok {x : Go α} {f : α → Go β} {s s' : State} {a : α} (h : x s = .ok a s') :
    (x >>= f) s = f a s' := by rw [go_bind, h]

theorem go_bind_error {x : Go α} {f : α → Go β} {s s' : State} {e : GoError}
    (h : x s = .error e s') : (x >>= f) s = .error e s' := by rw [go_bind, h]

theorem adaptExcept_apply (f : GoError → GoError) (x : Go α) (s : State) :
    EStateM.adaptExcept f x s = match x s with
      | .ok a s' => .ok a s'
      | .error e s' => .error (f e) s' := by
  simp only [EStateM.adaptExcept]; cases x s <;> rfl

/-- Whether no web service of a container has the root path of `ws`. -/
def rootPathFree (env : Env) (c : List WebService) (ws : WebService) : Prop :=
  ∀ w ∈ c, w.rootPath env ≠ ws.rootPath env

instance (env : Env) (c : List WebService) (ws : WebService) :
    Decidable (rootPathFree env c ws) :=
  inferInstanceAs (Decidable (∀ w ∈ c, _))

section Container

variable {env : Env} {ws : WebService} {s : State}

theorem addWebService_of_free (h : rootPathFree env s.container ws) :
    addWebService env ws s = .ok () { s with container := s.container ++ [ws] } := by
  have : s.container.any (·.rootPath env = ws.rootPath env) = false := by
    simpa [List.any_eq_false] using h
  simp only [addWebService, this]
  rfl

theorem addWebService_of_taken (h : ¬ rootPathFree env s.container ws) :
    addWebService env ws s = .error (.duplicateRootPath (ws.rootPath env)) s := by
  have : s.container.any (·.rootPath env = ws.rootPath env) = true := by
    simpa [rootPathFree, List.any_eq_true] using h
  simp only [addWebService, this]
  rfl

theorem installREST_of_free {v : APIGroupVersion} (h : rootPathFree env s.container (.rest v)) :
    installREST env v s = .ok (env.installREST s.scheme v) { s with container := s.container ++ [.rest v] } := by
  simp only [installREST, go_bind_ok (addWebService_of_free h)]
  rfl

theorem installREST_of_taken {v : APIGroupVersion} (h : ¬ rootPathFree env s.container (.rest v)) :
    installREST env v s = .error (.duplicateRootPath ((WebService.rest v).rootPath env)) s := by
  simp only [installREST, go_bind_error (addWebService_of_taken h)]

theorem addWebService_ok_scheme {a : Unit} {s' : State} (h : addWebService env ws s = .ok a s') :
    s'.scheme = s.scheme := by
  unfold addWebService at h
  split at h
  · exact nomatch h
  · cases h; rfl

end Container

/-- The discovery entries after `AddGroup g`. -/
def addedGroups (gs : List APIGroup) (g : APIGroup) : List APIGroup :=
  if gs.any (·.name = g.name) then gs.map fun x => if x.name = g.name then g else x
  else gs ++ [g]

theorem addGroup_apply (g : APIGroup) (s : State) :
    addGroup g s = .ok () { s with groups := addedGroups s.groups g } := rfl

theorem addedGroups_of_new {gs : List APIGroup} {g : APIGroup} (h : ∀ x ∈ gs, x.name ≠ g.name) :
    addedGroups gs g = gs ++ [g] := by
  have : gs.any (·.name = g.name) = false := by simpa [List.any_eq_false] using h
  simp only [addedGroups, this]
  rfl

theorem mem_addedGroups {gs : List APIGroup} {g x : APIGroup} (h : x ∈ addedGroups gs g) :
    x = g ∨ x ∈ gs := by
  unfold addedGroups at h
  split at h
  · obtain ⟨y, hy, rfl⟩ := List.mem_map.1 h
    split
    · exact .inl rfl
    · exact .inr hy
  · simpa [or_comm] using h

theorem addResourceInfo_apply (infos : List ResourceInfo) (s : State) :
    addResourceInfo infos s = .ok () { s with resourceInfos := s.resourceInfos ++ infos } := rfl

/-- An InstallREST that accepts every route, with Go ranging over a map in entry order,
ASCII lower-casing and joining the non-empty path elements. -/
def acceptAll : Env :=
  ⟨fun _ _ => .ok [], fun m => m.entries, fun _ => List.Perm.refl _,
    fun s => ⟨s.data.map Char.toLower⟩, fun ps => "/".intercalate (ps.filter (· != ""))⟩

/-! ### Validation -/

/-- What the first loop of `installAPIGroups` asks of a group: a first prioritized version
with a group and a version. -/
def APIGroupInfo.wellFormed (info : APIGroupInfo) : Bool :=
  match info.prioritizedVersions with
  | [] => false
  | gv :: _ => gv.group.length ≠ 0 && gv.version.length ≠ 0

/-- How the first loop of `installAPIGroups` stops at a malformed group. -/
def validationError (info : APIGroupInfo) : GoError :=
  match info.prioritizedVersions with
  | [] => .indexOutOfRange 0 0
  | gv :: _ => if gv.group.length = 0 then .emptyGroup info else .emptyVersion info

theorem validateGroups_cons {info : APIGroupInfo} {infos : List APIGroupInfo} :
    validateGroups (info :: infos) =
      if info.wellFormed then validateGroups infos else throw (validationError info) := by
  simp only [validateGroups, APIGroupInfo.wellFormed, validationError]
  rcases info.prioritizedVersions with _ | ⟨gv, _⟩
  · rfl
  · by_cases hg : gv.group.length = 0 <;> by_cases hv : gv.version.length = 0 <;> simp [hg, hv]

theorem validateGroups_of_wellFormed :
    ∀ {batch : List APIGroupInfo}, (∀ info ∈ batch, info.wellFormed) → validateGroups batch = pure ()
  | [], _ => rfl
  | info :: infos, h => by
    rw [validateGroups_cons, if_pos (h info (List.mem_cons_self _ _))]
    exact validateGroups_of_wellFormed fun i hi => h i (List.mem_cons_of_mem _ hi)

theorem validateGroups_append (b2 : List APIGroupInfo) :
    ∀ b1 : List APIGroupInfo,
      validateGroups (b1 ++ b2) = validateGroups b1 >>= fun _ => validateGroups b2
  | [] => (pure_bind _ _).symm
  | info :: b1 => by
    rw [List.cons_append, validateGroups_cons, validateGroups_cons, validateGroups_append b2 b1]
    split <;> rfl

theorem validateGroups_first_malformed {info : APIGroupInfo} {post : List APIGroupInfo}
    (h : info.wellFormed = false) :
    ∀ {pre : List APIGroupInfo}, (∀ i ∈ pre, i.wellFormed) →
      validateGroups (pre ++ info :: post) = throw (validationError info)
  | [], _ => by rw [List.nil_append, validateGroups_cons, h]; rfl
  | i :: pre, hpre => by
    rw [List.cons_append, validateGroups_cons, if_pos (hpre i (List.mem_cons_self _ _))]
    exact validateGroups_first_malformed h fun j hj => hpre j (List.mem_cons_of_mem _ hj)

end Clusternet
