import Kubermatic.Yield

/-!
# What a call creates

Which step of a call issued a side effect, how far a call got, and which objects a call
may create.

* `syncPendingCluster_mem_actions` — every side effect of a call was issued by one of
  the steps the call ran, on the record that step ran on;
* `Creates` — the objects step `i` of a call on the record `c` may create: each is what
  the step's generator produced for one of its entries, after the step's probe did not
  report it;
* `syncPendingCluster_creates` — every create a call issues is one of them.
-/

namespace Kubermatic

variable (cc : Controller) (env : Env)

/-! ## How far a call got -/

theorem passThrough_singleton {s : Stage} {c r : Cluster} {acts : List Action}
    (h : passThrough [s] c = some (r, acts)) :
    s.passes (s.run c) = true ∧ r = (s.run c).cluster ∧ acts = (s.run c).actions := by
  obtain ⟨hs, acts', hp, rfl⟩ := passThrough_cons h
  simp only [passThrough, Option.some.injEq, Prod.mk.injEq] at hp
  exact ⟨hs, hp.1.symm, by rw [← hp.2, List.append_nil]⟩

theorem passThrough_take_mem_actions {ss : List Stage} {k : Nat} {c r : Cluster}
    {acts : List Action} {a : Action} (h : passThrough (ss.take k) c = some (r, acts))
    (ha : a ∈ acts) :
    ∃ j s r' acts', j < k ∧ ss[j]? = some s ∧ passThrough (ss.take j) c = some (r', acts') ∧
      a ∈ (s.run r').actions := by
  induction ss generalizing c k acts with
  | nil => simp only [List.take_nil, passThrough, Option.some.injEq, Prod.mk.injEq] at h
           rw [← h.2] at ha; cases ha
  | cons s ss ih =>
    cases k with
    | zero =>
      simp only [List.take_zero, passThrough, Option.some.injEq, Prod.mk.injEq] at h
      rw [← h.2] at ha; cases ha
    | succ k =>
      obtain ⟨hs, acts', hp, rfl⟩ := passThrough_cons h
      rcases List.mem_append.mp ha with ha | ha
      · exact ⟨0, s, c, [], by omega, by simp, rfl, ha⟩
      · obtain ⟨j, t, r', acts'', hj, ht, hp', ha'⟩ := ih hp ha
        exact ⟨j + 1, t, r', (s.run c).actions ++ acts'', by omega, by simpa using ht,
          by simp [passThrough, hs, hp'], ha'⟩

/-- Every side effect of a call was issued by a step the call ran. -/
theorem syncPendingCluster_mem_actions {c : Cluster} {a : Action}
    (h : a ∈ (syncPendingCluster cc env c).actions) :
    ∃ k s r acts, (pendingStages cc env)[k]? = some s ∧ Enters cc env c k r acts ∧
      a ∈ (s.run r).actions := by
  have hprefix : ∀ {k r acts}, Enters cc env c k r acts → a ∈ acts →
      ∃ k s r acts, (pendingStages cc env)[k]? = some s ∧ Enters cc env c k r acts ∧
        a ∈ (s.run r).actions := fun he ha => by
    obtain ⟨j, s, r', acts', -, hs, hp, ha'⟩ := passThrough_take_mem_actions he.2 ha
    exact ⟨j, s, r', acts', hs, ⟨he.1, hp⟩, ha'⟩
  rcases syncPendingCluster_cases cc env c with
    ⟨err, -, he⟩ | ⟨r, acts, hr, he⟩ | ⟨k, s, r, acts, hk, hr, -, he⟩ <;> rw [he] at h
  · cases h
  · exact hprefix hr h
  · rcases List.mem_append.mp h with h | h
    · exact hprefix hr h
    · exact ⟨k, s, r, acts, hk, hr, h⟩

/-- A call that got to step `j` got to every step before it, with a prefix of the side
effects. -/
theorem enters_le {c r : Cluster} {i j : Nat} {acts : List Action}
    (h : Enters cc env c j r acts) (hij : i ≤ j) :
    ∃ r' acts', Enters cc env c i r' acts' ∧ acts' <+: acts := by
  have htake : (pendingStages cc env).take j = (pendingStages cc env).take i ++
      ((pendingStages cc env).take j).drop i := by
    conv_lhs => rw [← List.take_append_drop i ((pendingStages cc env).take j)]
    rw [List.take_take, min_eq_left hij]
  rw [Enters, htake] at h
  obtain ⟨r', a, a', hp, -, rfl⟩ := passThrough_append h.2
  exact ⟨r', a, ⟨h.1, hp⟩, List.prefix_append a a'⟩

/-- A call that got past step `i` ran step `i` and its check let the call go on. -/
theorem enters_succ {c r' : Cluster} {i : Nat} {acts' : List Action} (hi : i < 12)
    (h : Enters cc env c (i + 1) r' acts') :
    ∃ s r acts, (pendingStages cc env)[i]? = some s ∧ Enters cc env c i r acts ∧
      s.passes (s.run r) = true ∧ r' = (s.run r).cluster ∧ acts' = acts ++ (s.run r).actions := by
  have hlen : i < (pendingStages cc env).length := by
    simp only [pendingStages, List.length_cons, List.length_nil]; omega
  obtain ⟨s, hs⟩ : ∃ s, (pendingStages cc env)[i]? = some s := ⟨_, List.getElem?_eq_getElem hlen⟩
  rw [Enters, List.take_succ, hs, Option.toList_some] at h
  obtain ⟨r, acts, a, hp, hs', rfl⟩ := passThrough_append h.2
  obtain ⟨hpass, rfl, rfl⟩ := passThrough_singleton hs'
  exact ⟨s, r, acts, hs, ⟨h.1, hp⟩, hpass, rfl, rfl⟩

/-- A property of the side effects that holds before any step and that every step a call
runs extends holds of the side effects of the whole call. -/
theorem syncPendingCluster_actions_induction (c : Cluster) (P : Nat → List Action → Prop)
    (hnil : P 0 [])
    (hstage : ∀ i s r acts, (pendingStages cc env)[i]? = some s → Enters cc env c i r acts →
      P i acts → P (i + 1) (acts ++ (s.run r).actions)) :
    ∃ k, P k (syncPendingCluster cc env c).actions := by
  have henters : ∀ k r acts, k ≤ 12 → Enters cc env c k r acts → P k acts := by
    intro k
    induction k with
    | zero =>
      rintro r acts - ⟨-, h⟩
      simp only [List.take_zero, passThrough, Option.some.injEq, Prod.mk.injEq] at h
      exact h.2 ▸ hnil
    | succ k ih =>
      intro r' acts' hk he
      obtain ⟨s, r, acts, hs, he', -, -, rfl⟩ := enters_succ cc env (by omega) he
      exact hstage k s r acts hs he' (ih r acts (by omega) he')
  rcases syncPendingCluster_cases cc env c with
    ⟨err, -, h⟩ | ⟨r, acts, he, h⟩ | ⟨k, s, r, acts, hk, he, -, h⟩ <;> rw [h]
  · exact ⟨0, hnil⟩
  · exact ⟨12, henters 12 r acts le_rfl he⟩
  · have hk12 : k < 12 := by
      have := (List.getElem?_eq_some_iff.mp hk).1
      simpa [pendingStages] using this
    exact ⟨k + 1, hstage k s r acts hk he (henters k r acts hk12.le he)⟩

/-- A call that got to step `j` ran each step `i` before it, its check let the call go
on, and the call issued that step's side effects, in one piece. -/
theorem enters_ran {c r : Cluster} {i j : Nat} {acts : List Action}
    (h : Enters cc env c j r acts) (hij : i < j) (hj : j ≤ 12) :
    ∃ s r' acts', (pendingStages cc env)[i]? = some s ∧ Enters cc env c i r' acts' ∧
      s.passes (s.run r') = true ∧ (s.run r').actions <:+: acts := by
  obtain ⟨r₁, acts₁, h₁, hpre⟩ := enters_le cc env h hij
  obtain ⟨s, r', acts', hs, he, hpass, -, rfl⟩ := enters_succ cc env (by omega) h₁
  exact ⟨s, r', acts', hs, he, hpass, (List.suffix_append _ _).isInfix.trans hpre.isInfix⟩

/-- A call that got past the deployment step knows its master version. -/
theorem enters_version_known {c r : Cluster} {acts : List Action}
    (h : Enters cc env c 10 r acts) :
    (cc.versions.lookup (withMasterVersion cc c).spec.masterVersion).isSome := by
  obtain ⟨s, r', acts', hs, he, hpass, -, -⟩ := enters_succ cc env (by omega) h
  have hs9 : (pendingStages cc env)[9]? =
      some ⟨"launchingCheckDeployments", launchingCheckDeployments cc env, .errOnly⟩ := rfl
  rw [hs9] at hs
  cases hs
  rw [enters_record cc env he, if_pos (by omega)] at hpass
  simp only [Stage.passes, launchingCheckDeployments, Option.isNone_iff_eq_none] at hpass
  split at hpass
  · simp [unknownMasterVersion] at hpass
  · rename_i h; simp [h]

/-! ## The objects a call may create -/

/-- `Creates cc env c i k ns obj`: step `i` of a call on the record `c` may create `obj`
through the client of kind `k` in namespace `ns`. Each constructor is one entry of one
step: its probe did not report the object (or, for `apiserver-ssh`, the object is to be
re-created) and its generator produced `obj`. -/
inductive Creates (c : Cluster) : Nat → Kind → String → Object → Prop
  | tokenUsers {obj : Object}
      (probe : env.getByKey .secret (namespaceName c.metadata.name ++ "/token-users") = .ok false)
      (generate : env.createTokens c = .ok obj) :
      Creates c 1 .secret (namespaceName c.metadata.name) obj
  | apiserverService {obj : Object}
      (probe : env.getByKey .service (namespaceName c.metadata.name ++ "/" ++ "apiserver") =
        .ok false)
      (free : (getFreeNodePort cc env.services).2 = none)
      (generate : env.loadServiceFile
        { c with address.apiserverExternalPort := (getFreeNodePort cc env.services).1,
                 address.url := publicURL cc c.metadata.name (getFreeNodePort cc env.services).1 }
        "apiserver" cc.masterResourcesPath = .ok obj) :
      Creates c 2 .service (namespaceName c.metadata.name) obj
  | serviceAccount {obj : Object}
      (probe : env.getByKey .serviceAccount (namespaceName c.metadata.name ++ "/" ++ "etcd-operator") =
        .ok false)
      (generate : env.loadServiceAccountFile "etcd-operator" cc.masterResourcesPath = .ok obj) :
      Creates c 3 .serviceAccount (namespaceName c.metadata.name) obj
  | clusterRoleBinding {binding : Object}
      (generate : env.loadClusterRoleBindingFile (namespaceName c.metadata.name) "etcd-operator"
        cc.masterResourcesPath = .ok binding)
      (probe : env.getByKey .clusterRoleBinding binding.name = .ok false) :
      Creates c 4 .clusterRoleBinding "" binding
  | service {obj : Object}
      (probe : env.getByKey .service (namespaceName c.metadata.name ++ "/" ++ "apiserver-insecure") =
        .ok false)
      (generate : env.loadServiceFile c "apiserver-insecure" cc.masterResourcesPath = .ok obj) :
      Creates c 5 .service (namespaceName c.metadata.name) obj
  | secret {s : String} {gen : SecretGenerator} {found : Bool} {t : Template}
      {changed : Option Cluster} {obj : Object}
      (entry : (s, gen) ∈
        [("apiserver-auth", env.createApiserverAuth), ("apiserver-ssh", env.createApiserverSSH)])
      (probe : env.getByKey .secret (namespaceName c.metadata.name ++ "/" ++ s) = .ok found)
      (recreate : found = true → c.status.apiserverSSH.length = 0 ∧ s = "apiserver-ssh")
      (parse : env.parseFiles cc.masterResourcesPath (s ++ "-secret.yaml") = .ok t)
      (generate : gen c t = .ok (changed, obj)) :
      Creates c 6 .secret (namespaceName c.metadata.name) obj
  | configMap {obj : Object} (aws : c.hasAWS = true)
      (probe : env.getByKey .configMap (namespaceName c.metadata.name ++ "/" ++ "aws-cloud-config") =
        .ok false)
      (generate : env.loadAwsCloudConfigConfigMap c = .ok obj) :
      Creates c 7 .configMap (namespaceName c.metadata.name) obj
  | deployment {masterVersion : MasterVersion} {existingDeps : List Object} {s yamlFile : String}
      {obj : Object}
      (version : cc.versions.lookup (withMasterVersion cc c).spec.masterVersion = some masterVersion)
      (index : env.byIndex (namespaceName c.metadata.name) = .ok existingDeps)
      (entry : (s, yamlFile) ∈ deploymentYamls masterVersion)
      (probe : existingDeps.any (·.role == some s) = false)
      (generate : env.loadDeploymentFile (withMasterVersion cc c) masterVersion cc.masterResourcesPath
        cc.dc yamlFile = .ok obj) :
      Creates c 9 .deployment (namespaceName c.metadata.name) obj
  | etcdCluster {masterVersion : MasterVersion} {etcd : Object}
      (version : cc.versions.lookup (withMasterVersion cc c).spec.masterVersion = some masterVersion)
      (generate : env.loadEtcdClusterFile masterVersion cc.masterResourcesPath
        masterVersion.etcdClusterYaml = .ok etcd)
      (probe : env.getByKey .etcdCluster (namespaceName c.metadata.name ++ "/" ++ etcd.name) =
        .ok false) :
      Creates c 10 .etcdCluster (namespaceName c.metadata.name) etcd
  | addon {safeName name : String} (entry : (safeName, name) ∈ defaultPlugins)
      (probe : env.getByKey .clusterAddon
        (namespaceName c.metadata.name ++ "/" ++ ("addon-default-" ++ safeName)) = .ok false) :
      Creates c 11 .clusterAddon ("cluster-" ++ c.metadata.name) (defaultAddon safeName name)

/-! ## Each step's creates -/

section

variable {cc env}
variable {c : Cluster} {k : Kind} {ns : String} {obj : Object} {err : Option Error}

theorem ensureObject_creates {k' : Kind} {ns' : String} {probe : Except Error Bool}
    {gen : Except Error Object} {genErr createErr : Error → Error} {format : String}
    {args : List String} {ret : Option Cluster}
    (h : .create k ns obj err ∈
      (ensureObject env k' ns' probe gen genErr createErr format args ret c).actions) :
    k = k' ∧ ns = ns' ∧ probe = .ok false ∧ gen = .ok obj := by
  unfold ensureObject at h
  split at h
  · cases h
  · cases h
  · split at h
    · cases h
    · split at h <;> simp only [List.mem_cons, Action.create.injEq, List.mem_nil_iff,
        reduceCtorEq, or_false] at h <;> obtain ⟨rfl, rfl, rfl, -⟩ := h <;> simp_all

theorem pendingCreateRootCA_actions : (pendingCreateRootCA cc env c).actions = [] := by
  unfold pendingCreateRootCA; dsimp only; split
  · rfl
  · split <;> rfl

theorem launchingCheckTokenUsers_creates
    (h : .create k ns obj err ∈ (launchingCheckTokenUsers env c).actions) :
    Creates cc env c 1 k ns obj := by
  obtain ⟨rfl, rfl, hp, hg⟩ := ensureObject_creates h
  exact .tokenUsers hp hg

theorem launchingCheckApiserverPublicService_creates
    (h : .create k ns obj err ∈ (launchingCheckApiserverPublicService cc env c).actions) :
    Creates cc env c 2 k ns obj := by
  unfold launchingCheckApiserverPublicService at h
  dsimp only at h
  split at h <;> try cases h
  rename_i hp
  split at h
  · cases h
  · rename_i hfree
    split at h
    · cases h
    · rename_i service hgen
      split at h <;> simp only [List.mem_cons, Action.create.injEq, List.mem_nil_iff,
        reduceCtorEq, or_false] at h <;> obtain ⟨rfl, rfl, rfl, -⟩ := h <;>
        exact .apiserverService hp hfree hgen

theorem launchingCheckServiceAccounts_creates
    (h : .create k ns obj err ∈ (launchingCheckServiceAccounts cc env c).actions) :
    Creates cc env c 3 k ns obj := by
  obtain ⟨⟨s, gen⟩, hx, h⟩ := forRange_mem_actions (fun _ _ _ => ensureObject_cluster ..) c h
  rw [(env.rangeOrder_perm _).mem_iff, List.mem_singleton] at hx
  cases hx
  obtain ⟨rfl, rfl, hp, hg⟩ := ensureObject_creates h
  exact .serviceAccount hp hg

theorem launchingCheckClusterRoleBindings_creates
    (h : .create k ns obj err ∈ (launchingCheckClusterRoleBindings cc env c).actions) :
    Creates cc env c 4 k ns obj := by
  obtain ⟨⟨s, gen⟩, hx, h⟩ := forRange_mem_actions
    (fun ⟨_, _⟩ _ _ => by dsimp only; repeat' split
                          all_goals rfl) c h
  rw [(env.rangeOrder_perm _).mem_iff, List.mem_singleton] at hx
  cases hx
  dsimp only at h
  split at h
  · cases h
  · rename_i binding hgen
    split at h
    · cases h
    · cases h
    · rename_i hp
      split at h <;> simp only [Outcome.done_actions, List.mem_cons, Action.create.injEq,
        List.mem_nil_iff, reduceCtorEq, or_false] at h <;> obtain ⟨rfl, rfl, rfl, -⟩ := h <;>
        exact .clusterRoleBinding hgen hp

theorem launchingCheckServices_creates
    (h : .create k ns obj err ∈ (launchingCheckServices cc env c).actions) :
    Creates cc env c 5 k ns obj := by
  obtain ⟨⟨s, gen⟩, hx, h⟩ := forRange_mem_actions (fun _ _ _ => ensureObject_cluster ..) c h
  rw [(env.rangeOrder_perm _).mem_iff, List.mem_singleton] at hx
  cases hx
  obtain ⟨rfl, rfl, hp, hg⟩ := ensureObject_creates h
  exact .service hp hg

theorem deleteSecret_actions (ns s : String) :
    (deleteSecret env ns s c).actions = [.delete .secret ns s (env.delete .secret ns s)] := by
  unfold deleteSecret; split <;> simp_all

theorem createSecret_creates {ns' key s : String} {gen : SecretGenerator}
    (h : .create k ns obj err ∈ (createSecret cc env ns' key s gen c).actions) :
    k = .secret ∧ ns = ns' ∧ ∃ t changed, env.parseFiles cc.masterResourcesPath (s ++ "-secret.yaml") = .ok t ∧
      gen c t = .ok (changed, obj) := by
  unfold createSecret at h
  dsimp only at h
  split at h
  · cases h
  · rename_i t hparse
    split at h
    · cases h
    · rename_i changed secret hgen
      split at h <;> simp only [List.mem_cons, Action.create.injEq, List.mem_nil_iff,
        reduceCtorEq, or_false] at h <;> obtain ⟨rfl, rfl, rfl, -⟩ := h <;>
        exact ⟨rfl, rfl, t, changed, hparse, hgen⟩

theorem checkSecret_creates {ns' : String} {recreateSecrets : List String}
    {entry : String × SecretGenerator}
    (h : .create k ns obj err ∈ (checkSecret cc env ns' recreateSecrets entry c).actions) :
    ∃ found, env.getByKey .secret (ns' ++ "/" ++ entry.1) = .ok found ∧
      (found = true → entry.1 ∈ recreateSecrets) ∧ k = .secret ∧ ns = ns' ∧
      ∃ t changed, env.parseFiles cc.masterResourcesPath (entry.1 ++ "-secret.yaml") = .ok t ∧
        entry.2 c t = .ok (changed, obj) := by
  unfold checkSecret at h
  dsimp only at h
  split at h
  · cases h
  · rename_i found hprobe
    split at h
    · cases h
    · rename_i hskip
      refine ⟨found, hprobe, fun hf => by simpa [hf] using hskip, ?_⟩
      rcases Outcome.mem_orYield_actions h with h | ⟨-, h⟩
      · split at h <;> simp [deleteSecret_actions] at h
      · rw [(deleteIfFound_cluster env _ _ _ c).1] at h
        exact createSecret_creates h

theorem pendingCheckSecrets_creates
    (h : .create k ns obj err ∈ (pendingCheckSecrets cc env c).actions) :
    Creates cc env c 6 k ns obj := by
  obtain ⟨⟨s, gen⟩, hx, h⟩ := forRange_mem_actions (checkSecret_keeps cc env _ _) c h
  rw [(env.rangeOrder_perm _).mem_iff] at hx
  obtain ⟨found, hprobe, hre, rfl, rfl, t, changed, hparse, hgen⟩ := checkSecret_creates h
  refine .secret hx hprobe (fun hf => ?_) hparse hgen
  have hmem := hre hf
  split at hmem <;> simp_all

theorem launchingCheckConfigMaps_creates
    (h : .create k ns obj err ∈ (launchingCheckConfigMaps env c).actions) :
    Creates cc env c 7 k ns obj := by
  obtain ⟨⟨s, gen⟩, hx, h⟩ := forRange_mem_actions (fun _ _ _ => ensureObject_cluster ..) c h
  rw [(env.rangeOrder_perm _).mem_iff] at hx
  split at hx
  · rename_i haws
    rw [List.mem_singleton] at hx
    cases hx
    obtain ⟨rfl, rfl, hp, hg⟩ := ensureObject_creates h
    exact .configMap haws hp hg
  · cases hx

theorem launchingCheckPvcs_actions : (launchingCheckPvcs cc env c).actions = [] := by
  unfold launchingCheckPvcs
  dsimp only
  rw [List.perm_nil.mp (env.rangeOrder_perm _)]
  rfl

theorem launchingCheckDeployments_creates
    (h : .create k ns obj err ∈ (launchingCheckDeployments cc env c).actions) :
    Creates cc env c 9 k ns obj := by
  unfold launchingCheckDeployments at h
  dsimp only at h
  split at h
  · simp [unknownMasterVersion] at h
  · rename_i masterVersion hversion
    split at h
    · cases h
    · rename_i existingDeps hindex
      obtain ⟨⟨s, yamlFile⟩, hx, h⟩ :=
        forRange_mem_actions (fun _ _ _ => ensureObject_cluster ..) _ h
      rw [(env.rangeOrder_perm _).mem_iff] at hx
      obtain ⟨rfl, rfl, hp, hg⟩ := ensureObject_creates h
      exact .deployment hversion hindex hx (by simpa using hp) hg

theorem launchingCheckEtcdCluster_creates
    (h : .create k ns obj err ∈ (launchingCheckEtcdCluster cc env (withMasterVersion cc c)).actions) :
    Creates cc env c 10 k ns obj := by
  unfold launchingCheckEtcdCluster at h
  simp only [withMasterVersion_withMasterVersion, withMasterVersion_metadata] at h
  split at h
  · simp [unknownMasterVersion] at h
  · rename_i masterVersion hversion
    split at h
    · cases h
    · rename_i etcd hgen
      split at h
      · cases h
      · cases h
      · rename_i hp
        split at h <;> simp only [Outcome.done_actions, List.mem_cons, Action.create.injEq,
          List.mem_nil_iff, reduceCtorEq, or_false] at h <;> obtain ⟨rfl, rfl, rfl, -⟩ := h <;>
          exact .etcdCluster hversion hgen hp

theorem launchingCheckDefaultPlugins_creates
    (h : .create k ns obj err ∈ (launchingCheckDefaultPlugins env (withMasterVersion cc c)).actions) :
    Creates cc env c 11 k ns obj := by
  obtain ⟨⟨safeName, name⟩, hx, h⟩ := forRange_mem_actions
    (fun ⟨_, _⟩ _ _ => by dsimp only; repeat' split
                          all_goals rfl) _ h
  rw [(env.rangeOrder_perm _).mem_iff] at hx
  simp only [withMasterVersion_metadata] at h
  split at h
  · cases h
  · cases h
  · rename_i hp
    split at h <;> simp only [Outcome.done_actions, List.mem_cons, Action.create.injEq,
      List.mem_nil_iff, reduceCtorEq, or_false] at h <;> obtain ⟨rfl, rfl, rfl, -⟩ := h <;>
      exact .addon hx hp

/-- What step `k` of a call may create, on the record the call runs it on. -/
theorem stage_creates {i : Nat} {s : Stage} (hs : (pendingStages cc env)[i]? = some s) {r : Cluster}
    (hr : r = if i ≤ 9 then c else withMasterVersion cc c)
    (h : .create k ns obj err ∈ (s.run r).actions) : Creates cc env c i k ns obj := by
  subst hr
  revert h
  refine pendingStages_cases (fun h => ?_) launchingCheckTokenUsers_creates
    launchingCheckApiserverPublicService_creates launchingCheckServiceAccounts_creates
    launchingCheckClusterRoleBindings_creates launchingCheckServices_creates
    pendingCheckSecrets_creates launchingCheckConfigMaps_creates (fun h => ?_)
    launchingCheckDeployments_creates launchingCheckEtcdCluster_creates
    launchingCheckDefaultPlugins_creates hs
  · simp [pendingCreateRootCA_actions] at h
  · simp [launchingCheckPvcs_actions] at h

end

/-- Every create a call issues is one of the objects a step it ran may create. -/
theorem syncPendingCluster_creates {c : Cluster} {k : Kind} {ns : String} {obj : Object}
    {err : Option Error} (h : .create k ns obj err ∈ (syncPendingCluster cc env c).actions) :
    ∃ i r acts, Enters cc env c i r acts ∧ Creates cc env c i k ns obj := by
  obtain ⟨i, s, r, acts, hs, he, ha⟩ := syncPendingCluster_mem_actions cc env h
  exact ⟨i, r, acts, he, stage_creates hs (enters_record cc env he) ha⟩

end Kubermatic
