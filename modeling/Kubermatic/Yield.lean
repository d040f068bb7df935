import Kubermatic.Sync

/-!
# Yield on mutation

The comment in `syncPendingCluster` gives the rule: a step that changes the cluster
makes the call return it, so that the caller persists the change before any later step
runs. This file proves what of that rule the code keeps.

* `syncPendingCluster_yield_on_mutation` — a call that answers no error answers the
  record as it leaves it; and every step the call runs starts from the record it was
  given, except that the steps after the deployment step see an empty
  `Spec.MasterVersion` filled in with the default version.
* `syncPendingCluster_keeps_no_record` — a call that answers no cluster may still have
  changed the record: the deployment step defaults `Spec.MasterVersion` in place and
  returns no cluster when it fails afterwards, so the change is never persisted.

Each step gets its lemmas: what it answers (`*_answersRecord`) and the record it leaves
when its check lets the call go on (`*_keeps`, or `*_cluster` for the steps that never
write the record).
-/

namespace Kubermatic

variable (cc : Controller) (env : Env)

/-! ## The shared skeleton -/

@[simp] theorem ensureObject_cluster (k : Kind) (ns : String) (probe : Except Error Bool)
    (gen : Except Error Object) (genErr createErr : Error → Error) (format : String)
    (args : List String) (ret : Option Cluster) (c : Cluster) :
    (ensureObject env k ns probe gen genErr createErr format args ret c).cluster = c := by
  unfold ensureObject; split <;> (try split) <;> (try split) <;> rfl

theorem ensureObject_changedC (k : Kind) (ns : String) (probe : Except Error Bool)
    (gen : Except Error Object) (genErr createErr : Error → Error) (format : String)
    (args : List String) (ret : Option Cluster) (c : Cluster) :
    (ensureObject env k ns probe gen genErr createErr format args ret c).changedC = none ∨
      (ensureObject env k ns probe gen genErr createErr format args ret c).changedC = ret := by
  unfold ensureObject; split <;> (try split) <;> (try split) <;> simp

@[simp] theorem ensureObject_changedC_none (k : Kind) (ns : String) (probe : Except Error Bool)
    (gen : Except Error Object) (genErr createErr : Error → Error) (format : String)
    (args : List String) (c : Cluster) :
    (ensureObject env k ns probe gen genErr createErr format args none c).changedC = none := by
  rcases ensureObject_changedC env k ns probe gen genErr createErr format args none c with h | h <;>
    exact h

theorem ensureObject_answersRecord (k : Kind) (ns : String) (probe : Except Error Bool)
    (gen : Except Error Object) (genErr createErr : Error → Error) (format : String)
    (args : List String) {ret : Option Cluster} {c : Cluster} (hret : ∀ r, ret = some r → r = c) :
    (ensureObject env k ns probe gen genErr createErr format args ret c).AnswersRecord := by
  intro r hr
  rw [ensureObject_cluster]
  rcases ensureObject_changedC env k ns probe gen genErr createErr format args ret c with h | h <;>
    rw [h] at hr
  · cases hr
  · exact hret r hr

/-! ## What each step leaves in the record -/

theorem pendingCreateRootCA_answersRecord (c : Cluster) :
    (pendingCreateRootCA cc env c).AnswersRecord := by
  unfold pendingCreateRootCA; dsimp only
  split
  · exact Outcome.done_answersRecord c []
  · split <;> intro r hr <;> cases hr; rfl

theorem pendingCreateRootCA_keeps (c : Cluster) : (pendingCreateRootCA cc env c).Keeps c := by
  unfold pendingCreateRootCA; dsimp only
  split
  · exact Outcome.done_keeps c []
  · split <;> simp [Outcome.Keeps, Outcome.returned]

theorem launchingCheckTokenUsers_answersRecord (c : Cluster) :
    (launchingCheckTokenUsers env c).AnswersRecord :=
  ensureObject_answersRecord env .secret _ _ _ _ _ _ _ fun _ h => (Option.some.inj h).symm

theorem launchingCheckTokenUsers_cluster (c : Cluster) :
    (launchingCheckTokenUsers env c).cluster = c :=
  ensureObject_cluster ..

theorem launchingCheckApiserverPublicService_answersRecord (c : Cluster) :
    (launchingCheckApiserverPublicService cc env c).AnswersRecord := by
  unfold launchingCheckApiserverPublicService; dsimp only
  repeat' split
  all_goals intro r hr; cases hr; try rfl

theorem launchingCheckApiserverPublicService_keeps (c : Cluster) :
    (launchingCheckApiserverPublicService cc env c).Keeps c := by
  unfold launchingCheckApiserverPublicService; dsimp only
  repeat' split
  all_goals simp [Outcome.Keeps, Outcome.returned]

/-- The loops that only create objects leave the record alone and answer no cluster. -/
theorem launchingCheckServiceAccounts_cluster (c : Cluster) :
    (launchingCheckServiceAccounts cc env c).cluster = c ∧
      (launchingCheckServiceAccounts cc env c).changedC = none :=
  ⟨forRange_cluster (fun ⟨_, _⟩ _ => ensureObject_cluster ..) c,
    forRange_changedC (fun ⟨_, _⟩ _ => ensureObject_changedC_none ..) c⟩

theorem launchingCheckClusterRoleBindings_cluster (c : Cluster) :
    (launchingCheckClusterRoleBindings cc env c).cluster = c ∧
      (launchingCheckClusterRoleBindings cc env c).changedC = none := by
  unfold launchingCheckClusterRoleBindings
  refine ⟨forRange_cluster (fun ⟨_, _⟩ _ => ?_) c, forRange_changedC (fun ⟨_, _⟩ _ => ?_) c⟩ <;>
    dsimp only <;> repeat' split
  all_goals rfl

theorem launchingCheckServices_cluster (c : Cluster) :
    (launchingCheckServices cc env c).cluster = c ∧ (launchingCheckServices cc env c).changedC = none :=
  ⟨forRange_cluster (fun ⟨_, _⟩ _ => ensureObject_cluster ..) c,
    forRange_changedC (fun ⟨_, _⟩ _ => ensureObject_changedC_none ..) c⟩

theorem deleteSecret_cluster (ns s : String) (c : Cluster) :
    (deleteSecret env ns s c).cluster = c ∧ (deleteSecret env ns s c).changedC = none := by
  unfold deleteSecret; split <;> exact ⟨rfl, rfl⟩

theorem createSecret_answersRecord (ns key s : String) (gen : SecretGenerator) (c : Cluster) :
    (createSecret cc env ns key s gen c).AnswersRecord := by
  unfold createSecret; dsimp only
  repeat' split
  all_goals intro r hr; cases hr; try rfl

theorem createSecret_keeps (ns key s : String) (gen : SecretGenerator) (c : Cluster) :
    (createSecret cc env ns key s gen c).Keeps c := by
  unfold createSecret; dsimp only
  repeat' split
  all_goals simp_all [Outcome.Keeps, Outcome.returned]

/-- The delete, when there is one, keeps the record and answers nothing. -/
theorem deleteIfFound_cluster (ns s : String) (found : Bool) (c : Cluster) :
    (if found then deleteSecret env ns s c else .done c []).cluster = c ∧
      (if found then deleteSecret env ns s c else .done c []).changedC = none := by
  split
  · exact deleteSecret_cluster env ns s c
  · exact ⟨rfl, rfl⟩

theorem checkSecret_answersRecord (ns : String) (recreateSecrets : List String)
    (entry : String × SecretGenerator) (c : Cluster) :
    (checkSecret cc env ns recreateSecrets entry c).AnswersRecord := by
  unfold checkSecret; dsimp only
  split
  · intro r hr; cases hr
  · split
    · exact Outcome.done_answersRecord c []
    · exact Outcome.orYield_answersRecord (deleteIfFound_cluster env ns _ _ c).2
        (createSecret_answersRecord cc env _ _ _ _)

theorem checkSecret_keeps (ns : String) (recreateSecrets : List String)
    (entry : String × SecretGenerator) (c : Cluster) :
    (checkSecret cc env ns recreateSecrets entry c).Keeps c := by
  unfold checkSecret; dsimp only
  split
  · simp [Outcome.Keeps, Outcome.returned]
  · split
    · exact Outcome.done_keeps c []
    · exact Outcome.orYield_keeps (fun _ => (deleteIfFound_cluster env ns _ _ c).1)
        (createSecret_keeps cc env _ _ _ _)

/-- The record the secrets step leaves is the one it was given, or a cluster a generator
handed back. -/
theorem createSecret_cluster (ns key s : String) (gen : SecretGenerator) (c : Cluster) :
    (createSecret cc env ns key s gen c).cluster = c ∨
      ∃ t c' obj, gen c t = .ok (some c', obj) ∧ (createSecret cc env ns key s gen c).cluster = c' := by
  unfold createSecret; dsimp only
  split
  · exact .inl rfl
  · rename_i t _
    split
    · exact .inl rfl
    · rename_i changed obj hgen
      cases changed with
      | none => split <;> exact .inl rfl
      | some c' => exact .inr ⟨t, c', obj, hgen, by split <;> rfl⟩

theorem checkSecret_cluster (ns : String) (recreateSecrets : List String)
    (entry : String × SecretGenerator) (c : Cluster) :
    (checkSecret cc env ns recreateSecrets entry c).cluster = c ∨
      ∃ t c' obj, entry.2 c t = .ok (some c', obj) ∧
        (checkSecret cc env ns recreateSecrets entry c).cluster = c' := by
  unfold checkSecret; dsimp only
  split
  · exact .inl rfl
  · split
    · exact .inl rfl
    · rename_i found _ _
      rcases Outcome.orYield_cluster (if found then deleteSecret env ns entry.1 c else .done c [])
          (createSecret cc env ns _ _ _) with h | h <;>
        rw [h, (deleteIfFound_cluster env ns _ _ c).1]
      · exact .inl rfl
      · exact createSecret_cluster cc env _ _ _ _ c

/-- A property of the record that the secret generators keep holds of the record the
secrets step leaves. -/
theorem pendingCheckSecrets_invariant (P : Cluster → Prop)
    (hgen : ∀ c t c' obj, P c → (env.createApiserverAuth c t = .ok (some c', obj) ∨
      env.createApiserverSSH c t = .ok (some c', obj)) → P c')
    (c : Cluster) (hc : P c) : P (pendingCheckSecrets cc env c).cluster := by
  refine forRange_invariant P (fun entry hentry c' hc' => ?_) c hc
  rw [(env.rangeOrder_perm _).mem_iff] at hentry
  rcases checkSecret_cluster cc env _ _ entry c' with h | ⟨t, c'', obj, hg, h⟩ <;> rw [h]
  · exact hc'
  · simp only [List.mem_cons, List.mem_singleton, List.mem_nil_iff, or_false] at hentry
    rcases hentry with rfl | rfl
    · exact hgen c' t c'' obj hc' (.inl hg)
    · exact hgen c' t c'' obj hc' (.inr hg)

theorem pendingCheckSecrets_answersRecord (c : Cluster) :
    (pendingCheckSecrets cc env c).AnswersRecord :=
  forRange_answersRecord (checkSecret_answersRecord cc env _ _) c

theorem pendingCheckSecrets_keeps (c : Cluster) : (pendingCheckSecrets cc env c).Keeps c :=
  forRange_keeps (checkSecret_keeps cc env _ _) c

theorem launchingCheckConfigMaps_cluster (c : Cluster) :
    (launchingCheckConfigMaps env c).cluster = c ∧
      (launchingCheckConfigMaps env c).changedC = none :=
  ⟨forRange_cluster (fun ⟨_, _⟩ _ => ensureObject_cluster ..) c,
    forRange_changedC (fun ⟨_, _⟩ _ => ensureObject_changedC_none ..) c⟩

theorem launchingCheckPvcs_cluster (c : Cluster) :
    (launchingCheckPvcs cc env c).cluster = c ∧ (launchingCheckPvcs cc env c).changedC = none :=
  ⟨forRange_cluster (fun ⟨_, _⟩ _ => ensureObject_cluster ..) c,
    forRange_changedC (fun ⟨_, _⟩ _ => ensureObject_changedC_none ..) c⟩

@[simp] theorem withMasterVersion_withMasterVersion (c : Cluster) :
    withMasterVersion cc (withMasterVersion cc c) = withMasterVersion cc c := by
  unfold withMasterVersion; split <;> simp_all

@[simp] theorem withMasterVersion_metadata (c : Cluster) :
    (withMasterVersion cc c).metadata = c.metadata := by
  unfold withMasterVersion; split <;> rfl

@[simp] theorem withMasterVersion_address (c : Cluster) :
    (withMasterVersion cc c).address = c.address := by
  unfold withMasterVersion; split <;> rfl

@[simp] theorem withMasterVersion_status (c : Cluster) :
    (withMasterVersion cc c).status = c.status := by
  unfold withMasterVersion; split <;> rfl

theorem unknownMasterVersion_answersRecord (c : Cluster) :
    (unknownMasterVersion env c).AnswersRecord := fun _ h => (Option.some.inj h).symm

theorem launchingCheckDeployments_answersRecord (c : Cluster) :
    (launchingCheckDeployments cc env c).AnswersRecord := by
  unfold launchingCheckDeployments; dsimp only
  split
  · exact unknownMasterVersion_answersRecord env _
  · split
    · intro r hr; cases hr
    · exact forRange_answersRecord (fun _ _ => ensureObject_answersRecord env .deployment _ _ _ _ _ _ _
        fun _ h => by cases h) _

/-- The deployment step, when it answers no error, leaves the record with its master
version defaulted. -/
theorem launchingCheckDeployments_cluster (c : Cluster) :
    (launchingCheckDeployments cc env c).err = none →
      (launchingCheckDeployments cc env c).cluster = withMasterVersion cc c := by
  unfold launchingCheckDeployments; dsimp only
  split
  · simp [unknownMasterVersion]
  · split
    · simp
    · exact fun _ => forRange_cluster (fun _ _ => ensureObject_cluster ..) _

theorem launchingCheckEtcdCluster_answersRecord (c : Cluster) :
    (launchingCheckEtcdCluster cc env c).AnswersRecord := by
  unfold launchingCheckEtcdCluster; dsimp only
  split
  · exact unknownMasterVersion_answersRecord env _
  · repeat' split
    all_goals intro r hr; cases hr; try rfl

theorem launchingCheckEtcdCluster_cluster (c : Cluster) :
    (launchingCheckEtcdCluster cc env c).err = none →
      (launchingCheckEtcdCluster cc env c).cluster = withMasterVersion cc c := by
  unfold launchingCheckEtcdCluster; dsimp only
  split
  · simp [unknownMasterVersion]
  · repeat' split
    all_goals simp

theorem launchingCheckDefaultPlugins_cluster (c : Cluster) :
    (launchingCheckDefaultPlugins env c).cluster = c ∧
      (launchingCheckDefaultPlugins env c).changedC = none := by
  unfold launchingCheckDefaultPlugins
  refine ⟨forRange_cluster (fun ⟨_, _⟩ _ => ?_) c, forRange_changedC (fun ⟨_, _⟩ _ => ?_) c⟩ <;>
    dsimp only <;> repeat' split
  all_goals rfl

/-! ## The pipeline -/

/-- Every step answers, as its cluster, the record as it leaves it. -/
theorem pendingStages_answersRecord :
    ∀ s ∈ pendingStages cc env, ∀ c, (s.run c).AnswersRecord := by
  simp only [pendingStages, List.mem_cons, List.mem_nil_iff, or_false]
  rintro s (rfl | rfl | rfl | rfl | rfl | rfl | rfl | rfl | rfl | rfl | rfl | rfl) c
  · exact pendingCreateRootCA_answersRecord cc env c
  · exact launchingCheckTokenUsers_answersRecord env c
  · exact launchingCheckApiserverPublicService_answersRecord cc env c
  · exact Outcome.answersRecord_of_changedC (launchingCheckServiceAccounts_cluster cc env c).2
  · exact Outcome.answersRecord_of_changedC (launchingCheckClusterRoleBindings_cluster cc env c).2
  · exact Outcome.answersRecord_of_changedC (launchingCheckServices_cluster cc env c).2
  · exact pendingCheckSecrets_answersRecord cc env c
  · exact Outcome.answersRecord_of_changedC (launchingCheckConfigMaps_cluster env c).2
  · exact Outcome.answersRecord_of_changedC (launchingCheckPvcs_cluster cc env c).2
  · exact launchingCheckDeployments_answersRecord cc env c
  · exact launchingCheckEtcdCluster_answersRecord cc env c
  · exact Outcome.answersRecord_of_changedC (launchingCheckDefaultPlugins_cluster env c).2

/-- The steps before the deployment step let the call go on only with the record they
were given. -/
theorem stagesBeforeDeployments_keep :
    ∀ s ∈ (pendingStages cc env).take 9, ∀ c, s.passes (s.run c) = true → (s.run c).cluster = c := by
  simp only [pendingStages, List.take, List.mem_cons, List.mem_nil_iff, or_false]
  rintro s (rfl | rfl | rfl | rfl | rfl | rfl | rfl | rfl | rfl) c h <;>
    simp only [Stage.passes, Bool.not_eq_true'] at h
  · exact pendingCreateRootCA_keeps cc env c h
  · exact launchingCheckTokenUsers_cluster env c
  · exact launchingCheckApiserverPublicService_keeps cc env c h
  · exact (launchingCheckServiceAccounts_cluster cc env c).1
  · exact (launchingCheckClusterRoleBindings_cluster cc env c).1
  · exact (launchingCheckServices_cluster cc env c).1
  · exact pendingCheckSecrets_keeps cc env c h
  · exact (launchingCheckConfigMaps_cluster env c).1
  · exact (launchingCheckPvcs_cluster cc env c).1

/-- After the deployment step: the etcd step and the add-on step let the call go on with
the record they were given, up to the defaulted master version. -/
theorem stagesAfterDeployments_keep :
    ∀ s ∈ (pendingStages cc env).drop 10, ∀ c, s.passes (s.run c) = true →
      (s.run c).cluster = withMasterVersion cc c ∨ (s.run c).cluster = c := by
  simp only [pendingStages, List.drop, List.mem_cons, List.mem_nil_iff, or_false]
  rintro s (rfl | rfl) c h <;> simp only [Stage.passes, Option.isNone_iff_eq_none] at h
  · exact .inl (launchingCheckEtcdCluster_cluster cc env c h)
  · exact .inr (launchingCheckDefaultPlugins_cluster env c).1

theorem Stage.answer {s : Stage} {o : Outcome} (h : o.AnswersRecord) (hp : s.passes o = false)
    (he : o.err = none) : o.changedC = some o.cluster := by
  cases hc : o.changedC with
  | none => unfold Stage.passes at hp; split at hp <;> simp_all [Outcome.returned]
  | some r => rw [h r hc]

/-- A call that answers no error answers the record as it leaves it. -/
theorem syncPendingCluster_answer (c : Cluster) :
    (syncPendingCluster cc env c).err = none →
      (syncPendingCluster cc env c).changedC = some (syncPendingCluster cc env c).cluster := by
  rcases syncPendingCluster_cases cc env c with
    ⟨err, -, h⟩ | ⟨r, acts, -, h⟩ | ⟨k, s, r, acts, hk, -, hs, h⟩ <;> rw [h]
  · simp
  · intro; rfl
  · exact Stage.answer (pendingStages_answersRecord cc env s (List.getElem?_mem hk) r) hs

/-- The record each step of a call starts from. -/
theorem enters_record {c r : Cluster} {k : Nat} {acts : List Action}
    (h : Enters cc env c k r acts) : r = if k ≤ 9 then c else withMasterVersion cc c := by
  have hbefore : ∀ {j r acts}, j ≤ 9 →
      passThrough ((pendingStages cc env).take j) c = some (r, acts) → r = c := fun hj hp =>
    passThrough_induction (· = c)
      (fun s hs x hx hpass => hx ▸ stagesBeforeDeployments_keep cc env s
        (List.mem_of_mem_take (by rwa [List.take_take, min_eq_left hj])) x hpass) rfl hp
  split
  · exact hbefore ‹_› h.2
  · obtain ⟨j, rfl⟩ : ∃ j, k = j + 10 := ⟨k - 10, by omega⟩
    have htake : (pendingStages cc env).take (j + 10) = (pendingStages cc env).take 9 ++
        (⟨"launchingCheckDeployments", launchingCheckDeployments cc env, .errOnly⟩ ::
          ((pendingStages cc env).drop 10).take j) := rfl
    rw [Enters, htake] at h
    obtain ⟨r', _, _, h9, hpost, -⟩ := passThrough_append h.2
    rw [hbefore le_rfl h9] at hpost
    obtain ⟨hdep, _, hrest, -⟩ := passThrough_cons hpost
    refine passThrough_induction (· = withMasterVersion cc c) (fun s hs x hx hpass => ?_)
      (launchingCheckDeployments_cluster cc env c (by simpa [Stage.passes] using hdep)) hrest
    subst hx
    rcases stagesAfterDeployments_keep cc env s (List.mem_of_mem_take hs) _ hpass with h' | h' <;>
      simp [h']

/-- **Yield on mutation**, as the code has it. A call that answers no error answers a
cluster, the record as the call leaves it. Every step the call runs starts from the
record the call was given, up to the deployment step; the steps after it start from that
record with an empty `Spec.MasterVersion` defaulted. -/
theorem syncPendingCluster_yield_on_mutation (c : Cluster) :
    ((syncPendingCluster cc env c).err = none →
      (syncPendingCluster cc env c).changedC = some (syncPendingCluster cc env c).cluster) ∧
    (∀ k r acts, Enters cc env c k r acts → r = if k ≤ 9 then c else withMasterVersion cc c) :=
  ⟨syncPendingCluster_answer cc env c, fun _ _ _ => enters_record cc env⟩

/-! ## A call that changes the record and answers no cluster -/

/-- A master version whose deployment templates are named after their roles. -/
def sampleVersion : MasterVersion :=
  ⟨"1.7.0", "etcd-operator", "apiserver", "controller-manager", "scheduler", "etcd-cluster"⟩

/-- A controller whose only version, also its default, is `sampleVersion`. -/
def sampleController : Controller where
  dc := "dc1"
  externalURL := "kubermatic.test"
  masterResourcesPath := "/manifests"
  minAPIServerPort := 30000
  maxAPIServerPort := 32767
  defaultMasterVersion := sampleVersion
  versions := [("1.7.0", sampleVersion)]

/-- A generated object, by its name. -/
def named (name : String) : Object := ⟨name, none, [], ""⟩

/-- Collaborators that all succeed, over the cache `cache`: generators name their objects
after their entries, a deployment carries its role, the public service carries the
record's port, the orchestrator accepts every create and delete, and `range` visits the
maps in source order. -/
def sampleEnv (cache : List Resource) : Env where
  checkTimeout _ := none
  initcaNew _ := ⟨some [1], some [2], none, fun _ => ⟨rfl, rfl⟩⟩
  now := 1
  cache := cache
  getByKeyErr _ _ := none
  byIndexErr _ := none
  parseFiles _ file := .ok file
  createTokens _ := .ok (named "token-users")
  createApiserverAuth _ _ := .ok (none, named "apiserver-auth")
  createApiserverSSH _ _ := .ok (none, named "apiserver-ssh")
  loadServiceFile c app _ :=
    .ok ⟨app, none, if app = "apiserver" then [c.address.apiserverExternalPort.truncate 32] else [], ""⟩
  loadServiceAccountFile app _ := .ok (named app)
  loadClusterRoleBindingFile _ app _ := .ok (named app)
  loadAwsCloudConfigConfigMap _ := .ok (named "aws-cloud-config")
  loadDeploymentFile _ _ _ _ yamlFile := .ok ⟨yamlFile, some yamlFile, [], ""⟩
  loadEtcdClusterFile _ _ yamlFile := .ok (named yamlFile)
  create _ _ _ := none
  delete _ _ _ := none
  rangeOrder l := l
  rangeOrder_perm l := List.Perm.refl l

/-- The cluster `c1` after its first three calls: its CA is minted and its address
chosen; it has no SSH material, no cloud spec and no master version. -/
def sampleCluster : Cluster :=
  ⟨⟨"c1"⟩, ⟨none, ""⟩, ⟨"https://c1.dc1.kubermatic.test:30000", 30000⟩,
    ⟨0, .pending, ⟨some [1], some [2]⟩, []⟩⟩

/-- The cache after those three calls: the token-users secret and the public service. -/
def sampleCache : List Resource :=
  [⟨.secret, "cluster-c1", named "token-users"⟩,
   ⟨.service, "cluster-c1", ⟨"apiserver", none, [30000], ""⟩⟩]

/-- The deployment step defaults the master version in the record, then fails on the
deployment index and returns no cluster: the call answers no cluster and has changed the
record. -/
theorem syncPendingCluster_keeps_no_record :
    (syncPendingCluster sampleController
      { sampleEnv sampleCache with byIndexErr := fun _ => some "index not synced" }
      sampleCluster).changedC = none ∧
    (syncPendingCluster sampleController
      { sampleEnv sampleCache with byIndexErr := fun _ => some "index not synced" }
      sampleCluster).cluster ≠ sampleCluster := by
  decide

end Kubermatic
