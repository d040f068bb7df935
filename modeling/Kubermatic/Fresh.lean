import Kubermatic.World

/-!
# No object is created twice

`syncPendingCluster` decides what to create by probing its caches, and each step probes
under a key of its own: `<namespace>/<name>` in a store, the bare name of a cluster-scoped
binding, the `role` label among a namespace's deployments, and, for the add-ons,
`<NamespaceName(name)>/addon-default-<safe-name>`, which they are created under, since
they are created in `cluster-<name>` and `NamespaceName(name)` is `cluster-<name>`. This
file proves that when the caches mirror the orchestrator and the generators name their
objects after their entries, no call creates an object the orchestrator holds.

* `syncPendingCluster_createdIds_nodup` — a call creates each object at most once: the
  objects of each step carry the step's mark (`stageOf`), and within a step they are
  named after distinct entries;
* `syncPendingCluster_fresh` — each create of a call is of an object the orchestrator did
  not hold when the call started, or comes right after a successful delete of it;
* `syncPendingCluster_deletes` — the only delete a call issues is of `apiserver-ssh`,
  when the record holds no SSH material;
* `reachable_rolesMatch` — every deployment in the orchestrator carries its own name as
  its `role` label, so the deployment step's probe sees it;
* `syncPendingCluster_creates_once` — in every reachable world, no create of a call hits
  an object the orchestrator holds, neither at the start of the call (`apiserver-ssh`
  apart, deleted right before) nor when the create is issued.
-/

namespace Kubermatic

variable (cc : Controller) (env : Env)

/-! ## The assumptions -/

/-- The generators name what they generate after their step's entry, and a generated
deployment carries the selector label `role=<entry>`. -/
structure Env.Named : Prop where
  tokenUsers : ∀ c obj, env.createTokens c = .ok obj → obj.name = "token-users"
  services : ∀ c app obj, env.loadServiceFile c app cc.masterResourcesPath = .ok obj →
    obj.name = app
  serviceAccounts : ∀ app obj, env.loadServiceAccountFile app cc.masterResourcesPath = .ok obj →
    obj.name = app
  clusterRoleBindings : ∀ ns app obj,
    env.loadClusterRoleBindingFile ns app cc.masterResourcesPath = .ok obj → obj.name = app
  auth : ∀ c t changed obj, env.createApiserverAuth c t = .ok (changed, obj) →
    obj.name = "apiserver-auth"
  ssh : ∀ c t changed obj, env.createApiserverSSH c t = .ok (changed, obj) →
    obj.name = "apiserver-ssh"
  configMap : ∀ c obj, env.loadAwsCloudConfigConfigMap c = .ok obj → obj.name = "aws-cloud-config"
  deployments : ∀ c v masterVersion s yamlFile obj, cc.versions.lookup v = some masterVersion →
    (s, yamlFile) ∈ deploymentYamls masterVersion →
    env.loadDeploymentFile c masterVersion cc.masterResourcesPath cc.dc yamlFile = .ok obj →
    obj.name = s ∧ obj.role = some s

/-- The deployment generator gives each deployment it makes for an entry of a known
version its own name as its `role` label. -/
def Env.RolesNamed : Prop :=
  ∀ c v masterVersion s yamlFile obj, cc.versions.lookup v = some masterVersion →
    (s, yamlFile) ∈ deploymentYamls masterVersion →
    env.loadDeploymentFile c masterVersion cc.masterResourcesPath cc.dc yamlFile = .ok obj →
    obj.role = some obj.name

theorem Env.Named.rolesNamed {cc : Controller} {env : Env} (hn : env.Named cc) :
    env.RolesNamed cc :=
  fun _ _ _ _ _ _ hv hs hl => let ⟨h₁, h₂⟩ := hn.deployments _ _ _ _ _ _ hv hs hl; h₁ ▸ h₂

/-- A call whose caches hold what the orchestrator holds and whose generators name their
objects after their entries: the calls under which every probe of the pipeline looks where
its object is created. -/
def MirroredNamed (w : World) (env : Env) : Prop :=
  env.cache = w.objects ∧ env.Named cc

/-! ## Which step creates what -/

/-- The step that creates an object of kind `k` named `name`, when the generators name
their objects after their entries. -/
def stageOf : Kind → String → Nat
  | .secret, name => if name = "token-users" then 1 else 6
  | .service, name => if name = "apiserver" then 2 else 5
  | .serviceAccount, _ => 3
  | .clusterRoleBinding, _ => 4
  | .configMap, _ => 7
  | .persistentVolumeClaim, _ => 8
  | .deployment, _ => 9
  | .etcdCluster, _ => 10
  | .clusterAddon, _ => 11

section

variable {cc env}
variable {c : Cluster} {k : Kind} {ns : String} {obj : Object}

/-- A generated deployment carries its own name as its role. -/
theorem Env.RolesNamed.deployment (hn : env.RolesNamed cc) {i : Nat}
    (h : Creates cc env c i .deployment ns obj) : obj.role = some obj.name := by
  cases h with
  | deployment version _ entry _ generate => exact hn _ _ _ _ _ _ version entry generate

/-- What step `i` creates carries the mark of step `i`. -/
theorem creates_stageOf (hn : env.Named cc) {i : Nat} (h : Creates cc env c i k ns obj) :
    stageOf k obj.name = i := by
  cases h with
  | tokenUsers _ generate => simp [stageOf, hn.tokenUsers _ _ generate]
  | apiserverService _ _ generate => simp [stageOf, hn.services _ _ _ generate]
  | service _ generate => simp [stageOf, hn.services _ _ _ generate]
  | secret entry _ _ _ generate =>
    simp only [List.mem_cons, Prod.mk.injEq, List.mem_nil_iff, or_false] at entry
    rcases entry with ⟨rfl, rfl⟩ | ⟨rfl, rfl⟩
    · simp [stageOf, hn.auth _ _ _ _ generate]
    · simp [stageOf, hn.ssh _ _ _ _ generate]
  | serviceAccount | clusterRoleBinding | configMap | deployment | etcdCluster | addon => rfl

end

/-! ## Each step creates an object at most once -/

section

variable {cc env}
variable {c : Cluster}

/-- The skeleton creates at most the object its generator names. -/
theorem ensureObject_createdIds {k : Kind} {ns name : String} {probe : Except Error Bool}
    {gen : Except Error Object} {genErr createErr : Error → Error} {format : String}
    {args : List String} {ret : Option Cluster} (hgen : ∀ obj, gen = .ok obj → obj.name = name) :
    (createdIds (ensureObject env k ns probe gen genErr createErr format args ret c).actions).Sublist
      [(k, ns, name)] := by
  unfold ensureObject
  split
  · exact List.nil_sublist _
  · exact List.nil_sublist _
  · split
    · exact List.nil_sublist _
    · rename_i obj
      rw [← hgen obj rfl]
      split <;> simp

/-- A loop creates at most one object per entry, the one its body names. -/
theorem forRange_createdIds {α : Type} {xs : List α} {body : α → Cluster → Outcome}
    (hk : ∀ x c, (body x c).Keeps c) (ids : α → Kind × String × String)
    (h : ∀ x ∈ xs, (createdIds (body x c).actions).Sublist [ids x]) :
    (createdIds (forRange xs body c).actions).Sublist (xs.map ids) := by
  induction xs with
  | nil => exact List.nil_sublist _
  | cons x xs ih =>
    have hx := h x (.head _)
    simp only [forRange, Outcome.orYield]
    split
    · exact hx.trans ((List.nil_sublist _).cons₂ _)
    · rename_i hr
      simp only [Outcome.andThen_actions, createdIds_append, List.map_cons,
        hk x c (by simpa using hr)]
      exact hx.append (ih fun y hy => h y (.tail _ hy))

theorem createSecret_createdIds {ns key s : String} {gen : SecretGenerator}
    (hgen : ∀ c t changed obj, gen c t = .ok (changed, obj) → obj.name = s) :
    (createdIds (createSecret cc env ns key s gen c).actions).Sublist [(.secret, ns, s)] := by
  unfold createSecret
  split
  · exact List.nil_sublist _
  · split
    · exact List.nil_sublist _
    · rename_i changed obj hg
      rw [← hgen _ _ _ _ hg]
      split <;> simp

theorem checkSecret_createdIds {ns : String} {recreateSecrets : List String}
    {entry : String × SecretGenerator}
    (hgen : ∀ c t changed obj, entry.2 c t = .ok (changed, obj) → obj.name = entry.1) :
    (createdIds (checkSecret cc env ns recreateSecrets entry c).actions).Sublist
      [(.secret, ns, entry.1)] := by
  unfold checkSecret
  dsimp only
  split
  · exact List.nil_sublist _
  · split
    · exact List.nil_sublist _
    · rename_i found _ _
      have hdel : createdIds (if found then deleteSecret env ns entry.1 c else .done c []).actions = [] := by
        split
        · simp [deleteSecret_actions]
        · rfl
      rcases Outcome.orYield_actions (if found then deleteSecret env ns entry.1 c else .done c [])
          (createSecret cc env ns _ _ _) with h | ⟨_, h⟩ <;> rw [h]
      · rw [hdel]; exact List.nil_sublist _
      · rw [createdIds_append, hdel, List.nil_append, (deleteIfFound_cluster env ns _ _ c).1]
        exact createSecret_createdIds hgen

/-- A loop over a list in the environment's order creates distinct objects when each entry
creates at most its own one and the entries name distinct objects. -/
theorem forRange_createdIds_nodup {α : Type} {xs : List α} {body : α → Cluster → Outcome}
    (hk : ∀ x c, (body x c).Keeps c) (ids : α → Kind × String × String) (hids : (xs.map ids).Nodup)
    (h : ∀ x ∈ xs, (createdIds (body x c).actions).Sublist [ids x]) :
    (createdIds (forRange (env.rangeOrder xs) body c).actions).Nodup :=
  (forRange_createdIds hk ids fun x hx => h x ((env.rangeOrder_perm xs).mem_iff.mp hx)).nodup
    (((env.rangeOrder_perm xs).map ids).nodup_iff.mpr hids)

/-- The objects one step creates are distinct. -/
theorem stage_createdIds_nodup (hn : env.Named cc) {i : Nat} {s : Stage}
    (hs : (pendingStages cc env)[i]? = some s) (r : Cluster) :
    (createdIds (s.run r).actions).Nodup := by
  refine pendingStages_cases ?rootCA ?tokenUsers ?publicService ?serviceAccounts ?roleBindings
    ?services ?secrets ?configMaps ?pvcs ?deployments ?etcd ?plugins hs
  case rootCA => simp [pendingCreateRootCA_actions]
  case tokenUsers => exact (ensureObject_createdIds (hn.tokenUsers r)).nodup (List.nodup_singleton _)
  case publicService =>
    dsimp only [launchingCheckApiserverPublicService]
    repeat' split
    all_goals simp
  case serviceAccounts =>
    refine forRange_createdIds_nodup (fun _ _ _ => ensureObject_cluster ..)
      (fun e => (.serviceAccount, namespaceName r.metadata.name, e.1)) (by simp) fun _ hx => ?_
    obtain rfl := List.mem_singleton.mp hx
    exact ensureObject_createdIds (hn.serviceAccounts _)
  case roleBindings =>
    refine forRange_createdIds_nodup (fun ⟨_, _⟩ _ _ => by dsimp only; (repeat' split) <;> rfl)
      (fun e => (.clusterRoleBinding, "", e.1)) (by simp) fun _ hx => ?_
    obtain rfl := List.mem_singleton.mp hx
    dsimp only
    split
    · exact List.nil_sublist _
    · rename_i binding hgen
      rw [← hn.clusterRoleBindings _ _ _ hgen]
      repeat' split
      all_goals simp
  case services =>
    refine forRange_createdIds_nodup (fun _ _ _ => ensureObject_cluster ..)
      (fun e => (.service, namespaceName r.metadata.name, e.1)) (by simp) fun _ hx => ?_
    obtain rfl := List.mem_singleton.mp hx
    exact ensureObject_createdIds (hn.services r _)
  case secrets =>
    refine forRange_createdIds_nodup (checkSecret_keeps cc env _ _)
      (fun e => (.secret, namespaceName r.metadata.name, e.1)) (by simp) fun _ hx => ?_
    simp only [List.mem_cons, List.mem_singleton, List.mem_nil_iff, or_false] at hx
    rcases hx with rfl | rfl
    · exact checkSecret_createdIds (hn.auth)
    · exact checkSecret_createdIds (hn.ssh)
  case configMaps =>
    refine forRange_createdIds_nodup (fun _ _ _ => ensureObject_cluster ..)
      (fun e => (.configMap, namespaceName r.metadata.name, e.1)) (by split <;> simp)
      fun _ hx => ?_
    split at hx
    · obtain rfl := List.mem_singleton.mp hx
      exact ensureObject_createdIds (hn.configMap r)
    · cases hx
  case pvcs => simp [launchingCheckPvcs_actions]
  case deployments =>
    dsimp only [launchingCheckDeployments]
    split
    · simp [unknownMasterVersion]
    · rename_i masterVersion hversion
      split
      · simp
      · exact forRange_createdIds_nodup (fun _ _ _ => ensureObject_cluster ..)
          (fun e => (.deployment, namespaceName r.metadata.name, e.1)) (by simp [deploymentYamls])
          fun _ hx => ensureObject_createdIds fun _ hg => (hn.deployments _ _ _ _ _ _ hversion hx hg).1
  case etcd =>
    dsimp only [launchingCheckEtcdCluster]
    split
    · simp [unknownMasterVersion]
    · repeat' split
      all_goals simp
  case plugins =>
    refine forRange_createdIds_nodup (fun ⟨_, _⟩ _ _ => by dsimp only; (repeat' split) <;> rfl)
      (fun e => (.clusterAddon, "cluster-" ++ r.metadata.name, "addon-default-" ++ e.1))
      (by simp [defaultPlugins]) fun ⟨_, _⟩ _ => ?_
    dsimp only
    repeat' split
    all_goals simp [defaultAddon]

end

/-! ## A call creates each object at most once -/

/-- **A call creates each object at most once.** The objects of each step carry the
step's mark, so two steps never create the same object, and within a step the objects
are named after distinct entries. -/
theorem syncPendingCluster_createdIds_nodup (hn : env.Named cc) (c : Cluster) :
    (createdIds (syncPendingCluster cc env c).actions).Nodup := by
  obtain ⟨k, h, -⟩ := syncPendingCluster_actions_induction cc env c
    (fun k acts => (createdIds acts).Nodup ∧ ∀ id ∈ createdIds acts, stageOf id.1 id.2.2 < k)
    ⟨List.nodup_nil, fun _ h => by cases h⟩ fun i s r acts hs he ⟨hnd, hlt⟩ => by
      have htag : ∀ id ∈ createdIds (s.run r).actions, stageOf id.1 id.2.2 = i := by
        rintro ⟨k, ns, name⟩ hid
        obtain ⟨obj, err, rfl, hc⟩ := mem_createdIds.mp hid
        exact creates_stageOf hn (stage_creates hs (enters_record cc env he) hc)
      dsimp only
      rw [createdIds_append]
      refine ⟨List.nodup_append.mpr ⟨hnd, stage_createdIds_nodup hn hs r, fun id h₁ h₂ => ?_⟩,
        fun id hid => ?_⟩
      · have := hlt id h₁; rw [htag id h₂] at this; omega
      · rcases List.mem_append.mp hid with h | h
        · have := hlt id h; omega
        · rw [htag id h]; omega
  exact h

/-! ## Every create of a call is of an absent object -/

/-- Whether the side effect `a`, issued right after `prev`, is not a create of an object
`objs` holds, unless `prev` is a successful delete of that object. -/
def Action.FreshAfter (objs : List Resource) (prev : Option Action) : Action → Prop
  | .create k ns obj _ => holds objs k ns obj.name = false ∨ prev = some (.delete k ns obj.name none)
  | _ => True

/-- Every side effect of `acts`, the first issued after `prev`, is `FreshAfter` the one
before it. -/
def FreshFrom (objs : List Resource) : Option Action → List Action → Prop
  | _, [] => True
  | prev, a :: acts => a.FreshAfter objs prev ∧ FreshFrom objs (some a) acts

/-- `acts` is `FreshFrom` whatever was issued before it. -/
def Fresh (objs : List Resource) (acts : List Action) : Prop :=
  ∀ prev, FreshFrom objs prev acts

section Fresh

variable {objs : List Resource}

theorem fresh_nil : Fresh objs [] := fun _ => trivial

theorem FreshFrom.append {prev : Option Action} {acts acts' : List Action}
    (h : FreshFrom objs prev acts) (h' : Fresh objs acts') : FreshFrom objs prev (acts ++ acts') := by
  induction acts generalizing prev with
  | nil => exact h' prev
  | cons a acts ih => exact ⟨h.1, ih h.2⟩

theorem Fresh.append {acts acts' : List Action} (h : Fresh objs acts) (h' : Fresh objs acts') :
    Fresh objs (acts ++ acts') :=
  fun _ => (h _).append h'

/-- Side effects whose creates are all of objects `objs` does not hold are fresh. -/
theorem fresh_of_absent {acts : List Action}
    (h : ∀ k ns obj err, .create k ns obj err ∈ acts → holds objs k ns obj.name = false) :
    Fresh objs acts := by
  induction acts with
  | nil => exact fresh_nil
  | cons a acts ih =>
    intro prev
    refine ⟨?_, ih (fun k ns obj err ha => h k ns obj err (.tail _ ha)) _⟩
    cases a with
    | create k ns obj err => exact .inl (h k ns obj err (.head _))
    | delete | event => trivial

/-- The side effect at position `pre` is fresh after the last side effect of `pre`. -/
theorem FreshFrom.at {prev : Option Action} {pre post : List Action} {a : Action}
    (h : FreshFrom objs prev (pre ++ a :: post)) : a.FreshAfter objs (pre.getLast?.or prev) := by
  induction pre generalizing prev with
  | nil => exact h.1
  | cons b pre ih =>
    have h' := ih h.2
    cases pre with
    | nil => exact h'
    | cons b' pre => simpa [List.getLast?_cons] using h'

/-- A loop whose bodies issue fresh side effects issues fresh side effects. -/
theorem forRange_fresh {α : Type} {xs : List α} {body : α → Cluster → Outcome}
    (h : ∀ x ∈ xs, ∀ c, Fresh objs (body x c).actions) (c : Cluster) :
    Fresh objs (forRange xs body c).actions := by
  induction xs generalizing c with
  | nil => exact fresh_nil
  | cons x xs ih =>
    rcases Outcome.orYield_actions (body x c) (forRange xs body) with h' | ⟨_, h'⟩ <;>
      simp only [forRange, h']
    · exact h x (.head _) c
    · exact (h x (.head _) c).append (ih (fun y hy => h y (.tail _ hy)) _)

end Fresh

section

variable {cc env}
variable {objs : List Resource} {c : Cluster}

/-- What a probe by `<namespace>/<name>` of a mirroring cache does not find, the
orchestrator does not hold. -/
theorem holds_eq_false_of_getByKey (hm : env.cache = objs) {k : Kind} {ns name : String}
    (hns : ns ≠ "") (h : env.getByKey k (ns ++ "/" ++ name) = .ok false) :
    holds objs k ns name = false := by
  rw [Bool.eq_false_iff]
  intro hh
  obtain ⟨r, hr, rfl, rfl, rfl⟩ := holds_iff.mp hh
  unfold Env.getByKey at h
  split at h
  · cases h
  · have hany : (env.cache.any fun r' => r'.kind == r.kind && r'.key == r.ns ++ "/" ++ r.obj.name) =
        true := List.any_eq_true.mpr ⟨r, hm ▸ hr, by simp [Resource.key, hns]⟩
    rw [hany] at h
    cases h

/-- The same for a probe of a cluster-scoped object by its bare name. -/
theorem holds_eq_false_of_getByKey_name (hm : env.cache = objs) {k : Kind} {name : String}
    (h : env.getByKey k name = .ok false) : holds objs k "" name = false := by
  rw [Bool.eq_false_iff]
  intro hh
  obtain ⟨r, hr, rfl, hns, rfl⟩ := holds_iff.mp hh
  unfold Env.getByKey at h
  split at h
  · cases h
  · have hany : (env.cache.any fun r' => r'.kind == r.kind && r'.key == r.obj.name) = true :=
      List.any_eq_true.mpr ⟨r, hm ▸ hr, by simp [Resource.key, hns]⟩
    rw [hany] at h
    cases h

/-- A deployment no cached deployment of the namespace carries the `role` of is not held,
when every deployment carries its own name as its `role`. -/
theorem holds_eq_false_of_byIndex (hm : env.cache = objs) (hroles : RolesMatch objs)
    {ns s : String} {deps : List Object} (h : env.byIndex ns = .ok deps)
    (hp : deps.any (·.role == some s) = false) : holds objs .deployment ns s = false := by
  rw [Bool.eq_false_iff]
  intro hh
  obtain ⟨r, hr, hk, rfl, rfl⟩ := holds_iff.mp hh
  unfold Env.byIndex at h
  split at h
  · cases h
  · cases h
    have hmem : r.obj ∈ (env.cache.filter fun r' => r'.kind == .deployment && r'.ns == r.ns).map (·.obj) :=
      List.mem_map.mpr ⟨r, List.mem_filter.mpr ⟨hm ▸ hr, by simp [hk]⟩, rfl⟩
    have hnot := List.any_eq_false.mp hp r.obj hmem
    simp [hroles r hr hk] at hnot

/-- What a step other than the secrets step creates is absent when the call starts. -/
theorem creates_absent (hm : env.cache = objs) (hroles : RolesMatch objs) (hn : env.Named cc) {i : Nat} {k : Kind} {ns : String} {obj : Object}
    (h : Creates cc env c i k ns obj) (hi : i ≠ 6) : holds objs k ns obj.name = false := by
  have hne := namespaceName_ne_empty
  cases h with
  | tokenUsers probe generate =>
    rw [hn.tokenUsers _ _ generate]
    exact holds_eq_false_of_getByKey hm (hne _) (by rwa [String.append_assoc])
  | apiserverService probe _ generate =>
    rw [hn.services _ _ _ generate]; exact holds_eq_false_of_getByKey hm (hne _) probe
  | serviceAccount probe generate =>
    rw [hn.serviceAccounts _ _ generate]; exact holds_eq_false_of_getByKey hm (hne _) probe
  | clusterRoleBinding _ probe => exact holds_eq_false_of_getByKey_name hm probe
  | service probe generate =>
    rw [hn.services _ _ _ generate]; exact holds_eq_false_of_getByKey hm (hne _) probe
  | secret => exact absurd rfl hi
  | configMap _ probe generate =>
    rw [hn.configMap _ _ generate]; exact holds_eq_false_of_getByKey hm (hne _) probe
  | deployment version index entry probe generate =>
    rw [(hn.deployments _ _ _ _ _ _ version entry generate).1]
    exact holds_eq_false_of_byIndex hm hroles index probe
  | etcdCluster _ _ probe => exact holds_eq_false_of_getByKey hm (hne _) probe
  | addon _ probe => exact holds_eq_false_of_getByKey hm (hne _) probe

theorem deleteSecret_ok {ns s : String} (h : (deleteSecret env ns s c).returned = false) :
    (deleteSecret env ns s c).actions = [.delete .secret ns s none] := by
  cases hd : env.delete .secret ns s with
  | none => simp [deleteSecret, hd]
  | some err => simp [deleteSecret, hd, Outcome.returned] at h

/-- After a successful delete of the secret `s`, the create of `s` is fresh. -/
theorem createSecret_freshAfterDelete {ns key s : String} {gen : SecretGenerator}
    (hgen : ∀ c t changed obj, gen c t = .ok (changed, obj) → obj.name = s) :
    FreshFrom objs (some (.delete .secret ns s none)) (createSecret cc env ns key s gen c).actions := by
  unfold createSecret
  split
  · trivial
  · split
    · trivial
    · rename_i changed obj hg
      rw [← hgen _ _ _ _ hg]
      split <;> simp [FreshFrom, Action.FreshAfter]

/-- The secrets step re-creates a secret it found only right after deleting it. -/
theorem checkSecret_fresh (hm : env.cache = objs) {ns : String} (hns : ns ≠ "")
    {recreateSecrets : List String} {entry : String × SecretGenerator}
    (hgen : ∀ c t changed obj, entry.2 c t = .ok (changed, obj) → obj.name = entry.1) :
    Fresh objs (checkSecret cc env ns recreateSecrets entry c).actions := by
  unfold checkSecret
  dsimp only
  split
  · exact fresh_nil
  · rename_i found hprobe
    split
    · exact fresh_nil
    · rcases Outcome.orYield_actions (if found then deleteSecret env ns entry.1 c else .done c [])
          (createSecret cc env ns _ _ _) with h | ⟨hr, h⟩ <;> rw [h]
      · refine fresh_of_absent fun k ns obj err ha => ?_
        split at ha <;> simp [deleteSecret_actions] at ha
      · rw [(deleteIfFound_cluster env ns _ _ c).1]
        cases found with
        | false =>
          refine fresh_of_absent fun k ns' obj err ha => ?_
          simp only [Bool.false_eq_true, ite_false, Outcome.done_actions, List.nil_append] at ha
          obtain ⟨rfl, rfl, t, changed, -, hg⟩ := createSecret_creates ha
          rw [hgen _ _ _ _ hg]
          exact holds_eq_false_of_getByKey hm hns hprobe
        | true =>
          simp only [ite_true] at hr ⊢
          rw [deleteSecret_ok hr]
          exact fun _ => ⟨trivial, createSecret_freshAfterDelete hgen⟩

theorem pendingCheckSecrets_fresh (hm : env.cache = objs) (hn : env.Named cc) :
    Fresh objs (pendingCheckSecrets cc env c).actions := by
  refine forRange_fresh (fun entry hx c' => ?_) c
  rw [(env.rangeOrder_perm _).mem_iff] at hx
  simp only [List.mem_cons, List.mem_singleton, List.mem_nil_iff, or_false] at hx
  rcases hx with rfl | rfl
  · exact checkSecret_fresh hm (namespaceName_ne_empty _) hn.auth
  · exact checkSecret_fresh hm (namespaceName_ne_empty _) hn.ssh

/-- Each step of a call issues fresh side effects. -/
theorem stage_fresh (hm : env.cache = objs) (hroles : RolesMatch objs) (hn : env.Named cc) {i : Nat} {s : Stage}
    (hs : (pendingStages cc env)[i]? = some s) {r : Cluster}
    (hr : r = if i ≤ 9 then c else withMasterVersion cc c) : Fresh objs (s.run r).actions := by
  by_cases hi : i = 6
  · subst hi
    simp [pendingStages] at hs
    subst hs hr
    exact pendingCheckSecrets_fresh hm hn
  · exact fresh_of_absent fun k ns obj err ha =>
      creates_absent hm hroles hn (stage_creates hs hr ha) hi

/-- **The side effects of a call are fresh**: each create is of an object the
orchestrator did not hold when the call started, or comes right after a successful
delete of that object. -/
theorem syncPendingCluster_fresh (hm : env.cache = objs) (hroles : RolesMatch objs)
    (hn : env.Named cc) (c : Cluster) : Fresh objs (syncPendingCluster cc env c).actions := by
  obtain ⟨k, h⟩ := syncPendingCluster_actions_induction cc env c (fun _ acts => Fresh objs acts)
    fresh_nil fun i s r acts hs he h => h.append (stage_fresh hm hroles hn hs (enters_record cc env he))
  exact h

section

variable (hm : env.cache = objs) (hroles : RolesMatch objs) (hn : env.Named cc)
variable {pre post : List Action} {k : Kind} {ns : String} {obj : Object} {err : Option Error}

include hm hroles hn

/-- A create of a call is of an object the orchestrator did not hold when the call
started, or comes right after a successful delete of that object. -/
theorem syncPendingCluster_create_absent
    (hat : (syncPendingCluster cc env c).actions = pre ++ .create k ns obj err :: post) :
    holds objs k ns obj.name = false ∨ ∃ pre', pre = pre' ++ [.delete k ns obj.name none] := by
  have h := syncPendingCluster_fresh hm hroles hn c none
  rw [hat] at h
  rcases h.at with h | h
  · exact .inl h
  · exact .inr (List.getLast?_eq_some_iff.mp (by simpa using h))

/-- However the earlier side effects of a call went, the orchestrator does not hold an
object when the call issues its create: a call creates each object once. -/
theorem syncPendingCluster_absent_when_issued
    (hat : (syncPendingCluster cc env c).actions = pre ++ .create k ns obj err :: post)
    {objs' : List Resource} (he : Effects objs pre objs') : holds objs' k ns obj.name = false := by
  rw [Bool.eq_false_iff]
  intro hh
  have hnodup := syncPendingCluster_createdIds_nodup cc env hn c
  rw [hat, createdIds_append, createdIds_create] at hnodup
  rcases effects_holds he hh with hc | ⟨hheld, hdel⟩
  · exact (List.nodup_append.mp hnodup).2.2 hc (List.mem_cons_self _ _)
  · rcases syncPendingCluster_create_absent hm hroles hn hat with h | ⟨pre', rfl⟩
    · rw [h] at hheld; cases hheld
    · exact hdel (by simp [deletedIds])

end

end

/-! ## The only delete -/

section

variable {cc env}
variable {c : Cluster} {k : Kind} {ns n : String} {e : Option Error}

theorem ensureObject_not_delete {k' : Kind} {ns' : String} {probe : Except Error Bool}
    {gen : Except Error Object} {genErr createErr : Error → Error} {format : String}
    {args : List String} {ret : Option Cluster} :
    .delete k ns n e ∉ (ensureObject env k' ns' probe gen genErr createErr format args ret c).actions := by
  unfold ensureObject
  repeat' split
  all_goals simp

theorem createSecret_not_delete {ns' key s : String} {gen : SecretGenerator} :
    .delete k ns n e ∉ (createSecret cc env ns' key s gen c).actions := by
  unfold createSecret
  repeat' split
  all_goals simp

theorem checkSecret_deletes {ns' : String} {recreateSecrets : List String}
    {entry : String × SecretGenerator}
    (h : .delete k ns n e ∈ (checkSecret cc env ns' recreateSecrets entry c).actions) :
    entry.1 ∈ recreateSecrets ∧ k = .secret ∧ ns = ns' ∧ n = entry.1 := by
  unfold checkSecret at h
  dsimp only at h
  split at h
  · cases h
  · rename_i found _
    split at h
    · cases h
    · rename_i hskip
      rcases Outcome.mem_orYield_actions h with h | ⟨-, h⟩
      · cases found
        · simp at h
        · simp only [ite_true, deleteSecret_actions, List.mem_singleton, Action.delete.injEq] at h
          obtain ⟨rfl, rfl, rfl, -⟩ := h
          exact ⟨by simpa using hskip, rfl, rfl, rfl⟩
      · rw [(deleteIfFound_cluster env ns' _ _ c).1] at h
        exact absurd h createSecret_not_delete

theorem pendingCheckSecrets_deletes (h : .delete k ns n e ∈ (pendingCheckSecrets cc env c).actions) :
    k = .secret ∧ ns = namespaceName c.metadata.name ∧ n = "apiserver-ssh" ∧
      c.status.apiserverSSH.length = 0 := by
  obtain ⟨entry, -, h⟩ := forRange_mem_actions (checkSecret_keeps cc env _ _) c h
  obtain ⟨hre, rfl, rfl, rfl⟩ := checkSecret_deletes h
  split at hre
  · exact ⟨rfl, rfl, List.mem_singleton.mp hre, ‹_›⟩
  · cases hre

/-- Only the secrets step deletes. -/
theorem stage_deletes {i : Nat} {s : Stage} (hs : (pendingStages cc env)[i]? = some s) {r : Cluster}
    (hr : r = if i ≤ 9 then c else withMasterVersion cc c)
    (h : .delete k ns n e ∈ (s.run r).actions) :
    k = .secret ∧ ns = namespaceName c.metadata.name ∧ n = "apiserver-ssh" ∧
      c.status.apiserverSSH.length = 0 := by
  subst hr
  revert h
  refine pendingStages_cases ?rootCA ?tokenUsers ?publicService ?serviceAccounts ?roleBindings
    ?services ?secrets ?configMaps ?pvcs ?deployments ?etcd ?plugins hs <;> intro h
  case rootCA => simp [pendingCreateRootCA_actions] at h
  case tokenUsers => exact absurd h ensureObject_not_delete
  case publicService =>
    dsimp only [launchingCheckApiserverPublicService] at h
    repeat' split at h
    all_goals simp at h
  case serviceAccounts | services | configMaps =>
    obtain ⟨_, _, h⟩ := forRange_mem_actions (fun _ _ _ => ensureObject_cluster ..) _ h
    exact absurd h ensureObject_not_delete
  case roleBindings | plugins =>
    obtain ⟨⟨_, _⟩, _, h⟩ := forRange_mem_actions
      (fun ⟨_, _⟩ _ _ => by dsimp only; (repeat' split) <;> rfl) _ h
    dsimp only at h
    repeat' split at h
    all_goals simp at h
  case secrets => exact pendingCheckSecrets_deletes h
  case pvcs => simp [launchingCheckPvcs_actions] at h
  case deployments =>
    dsimp only [launchingCheckDeployments] at h
    split at h
    · simp [unknownMasterVersion] at h
    · split at h
      · cases h
      · obtain ⟨_, _, h⟩ := forRange_mem_actions (fun _ _ _ => ensureObject_cluster ..) _ h
        exact absurd h ensureObject_not_delete
  case etcd =>
    dsimp only [launchingCheckEtcdCluster] at h
    repeat' split at h
    all_goals simp [unknownMasterVersion] at h

end

/-- **The only delete.** A call deletes nothing but the secret `apiserver-ssh` of the
cluster's namespace, and that only when the record holds no SSH material. -/
theorem syncPendingCluster_deletes {c : Cluster} {k : Kind} {ns n : String} {e : Option Error}
    (h : .delete k ns n e ∈ (syncPendingCluster cc env c).actions) :
    k = .secret ∧ ns = namespaceName c.metadata.name ∧ n = "apiserver-ssh" ∧
      c.status.apiserverSSH.length = 0 := by
  obtain ⟨i, s, r, acts, hs, he, ha⟩ := syncPendingCluster_mem_actions cc env h
  exact stage_deletes hs (enters_record cc env he) ha

/-- **Nothing but `apiserver-ssh` leaves the orchestrator.** Along every run of calls,
whatever their side effects did and whether their records were persisted, an object the
orchestrator holds stays held, the secret `apiserver-ssh` apart. -/
theorem run_keeps_objects {Allowed : World → Env → Prop} {w w' : World}
    (hrun : Relation.ReflTransGen (Step cc Allowed) w w') {k : Kind} {ns name : String}
    (hh : holds w.objects k ns name = true) (hne : ¬(k = .secret ∧ name = "apiserver-ssh")) :
    holds w'.objects k ns name = true := by
  induction hrun with
  | refl => exact hh
  | tail _ hs ih =>
    cases hs with
    | call persist allowed effects =>
      refine effects_holds_of_not_deleted effects ih fun err hd => hne ?_
      obtain ⟨hk, -, hn, -⟩ := syncPendingCluster_deletes cc _ hd
      exact ⟨hk, hn⟩

/-! ## Deployments in the orchestrator -/

/-- A deployment a call creates carries its own name as its `role`. -/
theorem syncPendingCluster_roles (hn : env.RolesNamed cc) {c : Cluster} {k : Kind} {ns : String}
    {obj : Object} {err : Option Error} (h : .create k ns obj err ∈ (syncPendingCluster cc env c).actions)
    (hk : k = .deployment) : obj.role = some obj.name := by
  subst hk
  obtain ⟨_, _, _, -, hc⟩ := syncPendingCluster_creates cc env h
  exact hn.deployment hc

/-- The cluster `c1` as the API creates it. -/
def freshCluster : Cluster :=
  ⟨⟨"c1"⟩, ⟨none, ""⟩, ⟨"", 0⟩, ⟨0, .pending, ⟨none, none⟩, []⟩⟩

theorem freshCluster_init : World.Init ⟨freshCluster, []⟩ := ⟨⟨rfl, rfl, rfl, rfl⟩, RolesMatch.nil⟩

/-- `sampleEnv` over a world: the caches mirror the orchestrator, which refuses the create
of an object it holds, unless the call re-creates `apiserver-ssh` after deleting it. -/
def workingEnv (w : World) : Env :=
  { sampleEnv w.objects with
    create := fun k ns obj =>
      if holds w.objects k ns obj.name &&
          !(k == .secret && obj.name == "apiserver-ssh" && w.record.status.apiserverSSH.isEmpty)
      then some "already exists" else none }

/-- The world after a call against `workingEnv` whose side effects took effect exactly
when they succeeded; the answered cluster is persisted when `persist` holds. -/
def workingStep (cc : Controller) (persist : Bool) (w : World) : World :=
  ⟨if persist then (syncPendingCluster cc (workingEnv w) w.record).changedC.getD w.record
    else w.record,
   applyActions w.objects (syncPendingCluster cc (workingEnv w) w.record).actions⟩

theorem workingStep_step {cc : Controller} {Allowed : World → Env → Prop} (persist : Bool)
    {w : World} (hA : Allowed w (workingEnv w))
    (h : answersHonestly w.objects (syncPendingCluster cc (workingEnv w) w.record).actions = true) :
    Step cc Allowed w (workingStep cc persist w) :=
  .call persist hA (effects_of_answersHonestly h)

/-- The sample generators name their objects after their entries. -/
theorem workingEnv_named {cc : Controller} (hv : cc.versions = [("1.7.0", sampleVersion)])
    (w : World) : (workingEnv w).Named cc where
  tokenUsers _ _ h := by cases h; rfl
  services _ _ _ h := by cases h; rfl
  serviceAccounts _ _ h := by cases h; rfl
  clusterRoleBindings _ _ _ h := by cases h; rfl
  auth _ _ _ _ h := by cases h; rfl
  ssh _ _ _ _ h := by cases h; rfl
  configMap _ _ h := by cases h; rfl
  deployments _ v _ _ _ _ hv' hmem h := by
    rw [hv] at hv'
    simp only [List.lookup_cons, List.lookup_nil] at hv'
    split at hv' <;> cases hv'
    cases h
    simp only [deploymentYamls, sampleVersion, List.mem_cons, Prod.mk.injEq, List.mem_nil_iff,
      or_false] at hmem
    rcases hmem with ⟨rfl, rfl⟩ | ⟨rfl, rfl⟩ | ⟨rfl, rfl⟩ | ⟨rfl, rfl⟩ <;> exact ⟨rfl, rfl⟩

/-- The cluster `c1` after its first call, which minted its CA. -/
def caWorld : World := workingStep sampleController true ⟨freshCluster, []⟩

/-- The cluster `c1` after its second call, which created its token-users secret. -/
def tokenWorld : World := workingStep sampleController true caWorld

/-- The token-users secret stays in the orchestrator across a call whose record is lost. -/
theorem tokenWorld_keeps_tokenUsers :
    Relation.ReflTransGen (Step sampleController (MirroredNamed sampleController)) tokenWorld
      (workingStep sampleController false tokenWorld) ∧
    holds tokenWorld.objects .secret "cluster-c1" "token-users" = true ∧
    ¬(Kind.secret = .secret ∧ "token-users" = "apiserver-ssh") ∧
    holds (workingStep sampleController false tokenWorld).objects .secret "cluster-c1" "token-users" =
      true := by
  have hrun : Relation.ReflTransGen (Step sampleController (MirroredNamed sampleController))
      tokenWorld (workingStep sampleController false tokenWorld) :=
    .single (workingStep_step false ⟨rfl, workingEnv_named rfl _⟩ (by decide))
  have hh : holds tokenWorld.objects .secret "cluster-c1" "token-users" = true := by decide
  have hne : ¬(Kind.secret = .secret ∧ "token-users" = "apiserver-ssh") := by decide
  exact ⟨hrun, hh, hne, run_keeps_objects sampleController hrun hh hne⟩

end Kubermatic
