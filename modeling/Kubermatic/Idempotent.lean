import Kubermatic.Converge

/-!
# A finished call, run again, does nothing

A reconciler is run again whenever its last answer may not have been persisted: after a
crash, a failed write of the record, or a re-queue. At the end of the pending phase
`syncPendingCluster` is idempotent: a call that went through every step answers
`Launching` and leaves every object of the pipeline in the orchestrator, and the same
call run again, on the same record and against the objects the first one left, finds
every object and answers `Launching` again with no side effect.

* `Settled` — every probe of the pipeline finds its object: the records on which the
  pipeline has nothing left to do;
* `syncPendingCluster_of_settled` — on a settled record a call issues no side effect and
  answers the record in `Launching`;
* `launched_settles` — a call that went through every step settles its record for the
  next call, whatever its side effects did, when the record holds SSH material (otherwise
  every call deletes and re-creates `apiserver-ssh`); it reads what each step found or
  made off `launched_provisioned`;
* `syncPendingCluster_idempotent` — the two together: a lost `Launching` write is
  recovered by a call that changes nothing.

Each step gets a lemma `*_quiet`: what it answers when its probes find their objects.
-/

namespace Kubermatic

namespace Outcome

/-- A step that found everything hands the record to the rest of the function. Proved
through `orYield_of_not_returned`, not by `rfl`, so that `simp` rewrites with it and the
kernel does not unfold the rest of the pipeline to check the step. -/
@[simp] theorem done_nil_orYield (c : Cluster) (k : Cluster → Outcome) :
    (done c []).orYield k = k c := by
  rw [orYield_of_not_returned (show (done c []).returned = false from rfl)]; rfl

@[simp] theorem done_nil_orFail (c : Cluster) (k : Cluster → Outcome) :
    (done c []).orFail k = k c := by
  rw [orFail_of_ok (show (done c []).err = none from rfl)]; rfl

@[simp] theorem nil_orFail (c : Cluster) (ch : Option Cluster) (k : Cluster → Outcome) :
    (⟨c, [], ch, none⟩ : Outcome).orFail k = k c := by
  rw [orFail_of_ok (show (⟨c, [], ch, none⟩ : Outcome).err = none from rfl)]; rfl

end Outcome

/-! ## Steps that find their objects -/

section

variable {cc : Controller} {env : Env} {c : Cluster}

theorem forRange_quiet {α : Type} {xs : List α} {body : α → Cluster → Outcome}
    (h : ∀ x ∈ xs, body x c = .done c []) : forRange (env.rangeOrder xs) body c = .done c [] := by
  suffices hall : ∀ ys, (∀ x ∈ ys, body x c = .done c []) → forRange ys body c = .done c [] from
    hall _ fun x hx => h x ((env.rangeOrder_perm xs).mem_iff.mp hx)
  intro ys hys
  induction ys with
  | nil => rfl
  | cons y ys ih =>
    rw [forRange, hys y (.head _), Outcome.done_nil_orYield]
    exact ih fun z hz => hys z (.tail _ hz)

theorem pendingCreateRootCA_quiet (h : c.status.rootCA.key.isSome) :
    pendingCreateRootCA cc env c = .done c [] := by
  rw [pendingCreateRootCA, if_pos h]

theorem launchingCheckTokenUsers_quiet
    (h : env.getByKey .secret (namespaceName c.metadata.name ++ "/token-users") = .ok true) :
    launchingCheckTokenUsers env c = .done c [] := by
  rw [launchingCheckTokenUsers, h]; rfl

theorem launchingCheckApiserverPublicService_quiet
    (h : env.getByKey .service (namespaceName c.metadata.name ++ "/" ++ "apiserver") = .ok true) :
    launchingCheckApiserverPublicService cc env c = .done c [] := by
  rw [launchingCheckApiserverPublicService]; dsimp only; rw [h]

theorem launchingCheckServiceAccounts_quiet
    (h : env.getByKey .serviceAccount (namespaceName c.metadata.name ++ "/" ++ "etcd-operator") =
      .ok true) : launchingCheckServiceAccounts cc env c = .done c [] := by
  refine forRange_quiet fun x hx => ?_
  obtain rfl := List.mem_singleton.mp hx
  dsimp only; rw [h]; rfl

theorem launchingCheckClusterRoleBindings_quiet
    (h : ∃ binding, env.loadClusterRoleBindingFile (namespaceName c.metadata.name) "etcd-operator"
        cc.masterResourcesPath = .ok binding ∧ env.getByKey .clusterRoleBinding binding.name = .ok true) :
    launchingCheckClusterRoleBindings cc env c = .done c [] := by
  obtain ⟨binding, hload, hprobe⟩ := h
  refine forRange_quiet fun x hx => ?_
  obtain rfl := List.mem_singleton.mp hx
  dsimp only; rw [hload]; dsimp only; rw [hprobe]

theorem launchingCheckServices_quiet
    (h : env.getByKey .service (namespaceName c.metadata.name ++ "/" ++ "apiserver-insecure") =
      .ok true) : launchingCheckServices cc env c = .done c [] := by
  refine forRange_quiet fun x hx => ?_
  obtain rfl := List.mem_singleton.mp hx
  dsimp only; rw [h]; rfl

theorem pendingCheckSecrets_quiet (hssh : c.status.apiserverSSH ≠ [])
    (h : ∀ s ∈ ["apiserver-auth", "apiserver-ssh"],
      env.getByKey .secret (namespaceName c.metadata.name ++ "/" ++ s) = .ok true) :
    pendingCheckSecrets cc env c = .done c [] := by
  have hre : (if c.status.apiserverSSH.length = 0 then ["apiserver-ssh"] else []) = [] :=
    if_neg (mt List.length_eq_zero.mp hssh)
  rw [pendingCheckSecrets, hre]
  refine forRange_quiet fun x hx => ?_
  have hx' : x.1 ∈ ["apiserver-auth", "apiserver-ssh"] := by
    simp only [List.mem_cons, List.mem_singleton, List.mem_nil_iff, or_false] at hx
    rcases hx with rfl | rfl <;> simp
  rw [checkSecret, h _ hx']; rfl

theorem launchingCheckConfigMaps_quiet
    (h : c.hasAWS = true →
      env.getByKey .configMap (namespaceName c.metadata.name ++ "/" ++ "aws-cloud-config") = .ok true) :
    launchingCheckConfigMaps env c = .done c [] := by
  rw [launchingCheckConfigMaps]; dsimp only
  split
  · rename_i haws
    refine forRange_quiet fun x hx => ?_
    obtain rfl := List.mem_singleton.mp hx
    dsimp only; rw [h haws]; rfl
  · exact forRange_quiet fun _ hx => nomatch hx

theorem launchingCheckPvcs_quiet : launchingCheckPvcs cc env c = .done c [] :=
  forRange_quiet fun _ hx => nomatch hx

theorem launchingCheckDeployments_quiet
    (h : ∃ masterVersion existingDeps,
      cc.versions.lookup (withMasterVersion cc c).spec.masterVersion = some masterVersion ∧
      env.byIndex (namespaceName c.metadata.name) = .ok existingDeps ∧
      ∀ s yamlFile, (s, yamlFile) ∈ deploymentYamls masterVersion →
        existingDeps.any (·.role == some s) = true) :
    launchingCheckDeployments cc env c = .done (withMasterVersion cc c) [] := by
  obtain ⟨masterVersion, existingDeps, hv, hi, hall⟩ := h
  rw [launchingCheckDeployments]; dsimp only; rw [hv]; dsimp only; rw [hi]
  refine forRange_quiet fun ⟨s, yamlFile⟩ hx => ?_
  dsimp only; rw [hall s yamlFile hx]; rfl

theorem launchingCheckEtcdCluster_quiet
    (h : ∃ masterVersion etcd,
      cc.versions.lookup (withMasterVersion cc c).spec.masterVersion = some masterVersion ∧
      env.loadEtcdClusterFile masterVersion cc.masterResourcesPath masterVersion.etcdClusterYaml =
        .ok etcd ∧
      env.getByKey .etcdCluster (namespaceName c.metadata.name ++ "/" ++ etcd.name) = .ok true) :
    launchingCheckEtcdCluster cc env c =
      ⟨withMasterVersion cc c, [], some (withMasterVersion cc c), none⟩ := by
  obtain ⟨masterVersion, etcd, hv, hload, hprobe⟩ := h
  rw [launchingCheckEtcdCluster, hv]; dsimp only; rw [hload]; dsimp only; rw [hprobe]

theorem launchingCheckDefaultPlugins_quiet
    (h : ∀ safeName name, (safeName, name) ∈ defaultPlugins →
      env.getByKey .clusterAddon
        (namespaceName c.metadata.name ++ "/" ++ ("addon-default-" ++ safeName)) = .ok true) :
    launchingCheckDefaultPlugins env c = .done c [] := by
  refine forRange_quiet fun ⟨safeName, name⟩ hx => ?_
  dsimp only; rw [h safeName name hx]

end

/-! ## Settled records -/

section

variable (cc : Controller) (env : Env)

/-- Every probe of the pipeline, run on `c`, finds its object, and nothing else makes a
step act: the timeout check passes, the root CA is minted, and the record holds SSH
material, so that `apiserver-ssh` is not to be re-created. -/
structure Settled (c : Cluster) : Prop where
  timeout : env.checkTimeout c = none
  rootCA : c.status.rootCA.key.isSome
  ssh : c.status.apiserverSSH ≠ []
  tokenUsers : env.getByKey .secret (namespaceName c.metadata.name ++ "/token-users") = .ok true
  apiserverService :
    env.getByKey .service (namespaceName c.metadata.name ++ "/" ++ "apiserver") = .ok true
  serviceAccount :
    env.getByKey .serviceAccount (namespaceName c.metadata.name ++ "/" ++ "etcd-operator") = .ok true
  clusterRoleBinding : ∃ binding,
    env.loadClusterRoleBindingFile (namespaceName c.metadata.name) "etcd-operator"
      cc.masterResourcesPath = .ok binding ∧
    env.getByKey .clusterRoleBinding binding.name = .ok true
  service :
    env.getByKey .service (namespaceName c.metadata.name ++ "/" ++ "apiserver-insecure") = .ok true
  secrets : ∀ s ∈ ["apiserver-auth", "apiserver-ssh"],
    env.getByKey .secret (namespaceName c.metadata.name ++ "/" ++ s) = .ok true
  configMap : c.hasAWS = true →
    env.getByKey .configMap (namespaceName c.metadata.name ++ "/" ++ "aws-cloud-config") = .ok true
  deployments : ∃ masterVersion existingDeps,
    cc.versions.lookup (withMasterVersion cc c).spec.masterVersion = some masterVersion ∧
    env.byIndex (namespaceName c.metadata.name) = .ok existingDeps ∧
    ∀ s yamlFile, (s, yamlFile) ∈ deploymentYamls masterVersion →
      existingDeps.any (·.role == some s) = true
  etcdCluster : ∃ masterVersion etcd,
    cc.versions.lookup (withMasterVersion cc c).spec.masterVersion = some masterVersion ∧
    env.loadEtcdClusterFile masterVersion cc.masterResourcesPath masterVersion.etcdClusterYaml =
      .ok etcd ∧
    env.getByKey .etcdCluster (namespaceName c.metadata.name ++ "/" ++ etcd.name) = .ok true
  addons : ∀ safeName name, (safeName, name) ∈ defaultPlugins →
    env.getByKey .clusterAddon
      (namespaceName c.metadata.name ++ "/" ++ ("addon-default-" ++ safeName)) = .ok true

variable {cc env}

/-- **A settled record is a fixed point.** A call on it runs every step, each of which
finds its objects, issues no side effect, and answers the record in `Launching`, with its
master version defaulted. -/
theorem syncPendingCluster_of_settled {c : Cluster} (h : Settled cc env c) :
    syncPendingCluster cc env c = launched env (withMasterVersion cc c) := by
  have hetcd : launchingCheckEtcdCluster cc env (withMasterVersion cc c) =
      ⟨withMasterVersion cc c, [], some (withMasterVersion cc c), none⟩ := by
    have := @launchingCheckEtcdCluster_quiet cc env (withMasterVersion cc c)
    simp only [withMasterVersion_withMasterVersion, withMasterVersion_metadata] at this
    exact this h.etcdCluster
  have hplugins : launchingCheckDefaultPlugins env (withMasterVersion cc c) =
      .done (withMasterVersion cc c) [] :=
    launchingCheckDefaultPlugins_quiet (by simpa only [withMasterVersion_metadata] using h.addons)
  rw [syncPendingCluster, h.timeout]
  simp only [pendingCreateRootCA_quiet h.rootCA, launchingCheckTokenUsers_quiet h.tokenUsers,
    launchingCheckApiserverPublicService_quiet h.apiserverService,
    launchingCheckServiceAccounts_quiet h.serviceAccount,
    launchingCheckClusterRoleBindings_quiet h.clusterRoleBinding,
    launchingCheckServices_quiet h.service, pendingCheckSecrets_quiet h.ssh h.secrets,
    launchingCheckConfigMaps_quiet h.configMap, launchingCheckPvcs_quiet,
    launchingCheckDeployments_quiet h.deployments, hetcd, hplugins, Outcome.done_nil_orYield,
    Outcome.done_nil_orFail, Outcome.nil_orFail]

end

/-! ## A call that went through every step settles its record -/

/-- The collaborators `env'` of a call that runs again, on the record `c` and against the
orchestrator's objects `objs`, a call made with `env`: the caches hold `objs`, the timeout
check passes, the stores answer, and the role binding and the etcd cluster are generated
from the same manifests as before. -/
structure Retry (env : Env) (objs : List Resource) (c : Cluster) (env' : Env) : Prop where
  mirrors : env'.cache = objs
  timeout : env'.checkTimeout c = none
  getByKeyErr : ∀ k key, env'.getByKeyErr k key = none
  byIndexErr : ∀ ns, env'.byIndexErr ns = none
  clusterRoleBinding : env'.loadClusterRoleBindingFile = env.loadClusterRoleBindingFile
  etcdCluster : env'.loadEtcdClusterFile = env.loadEtcdClusterFile

section

variable {env : Env} {k : Kind} {key ns : String}

theorem Env.mem_of_getByKey (h : env.getByKey k key = .ok true) :
    ∃ r ∈ env.cache, r.kind = k ∧ r.key = key := by
  unfold Env.getByKey at h
  split at h
  · cases h
  · simpa [List.any_eq_true, and_assoc] using h

theorem Env.getByKey_of_mem (herr : env.getByKeyErr k key = none) {r : Resource} (hr : r ∈ env.cache)
    (hk : r.kind = k) (hkey : r.key = key) : env.getByKey k key = .ok true := by
  simp only [Env.getByKey, herr, Except.ok.injEq, List.any_eq_true, Bool.and_eq_true, beq_iff_eq]
  exact ⟨r, hr, hk, hkey⟩

theorem Env.byIndex_any_iff {deps : List Object} (h : env.byIndex ns = .ok deps) {s : String} :
    deps.any (·.role == some s) = true ↔
      ∃ r ∈ env.cache, r.kind = .deployment ∧ r.ns = ns ∧ r.obj.role = some s := by
  unfold Env.byIndex at h
  split at h
  · cases h
  · cases h
    simp only [List.any_eq_true, List.mem_map, List.mem_filter, Bool.and_eq_true, beq_iff_eq]
    exact ⟨fun ⟨_, ⟨r, ⟨hr, hk, hns⟩, hobj⟩, hrole⟩ => ⟨r, hr, hk, hns, hobj ▸ hrole⟩,
      fun ⟨r, hr, hk, hns, hrole⟩ => ⟨r.obj, ⟨r, ⟨hr, hk, hns⟩, rfl⟩, hrole⟩⟩

theorem Resource.key_of_ne {obj : Object} (h : ns ≠ "") :
    (⟨k, ns, obj⟩ : Resource).key = ns ++ "/" ++ obj.name := if_neg h

end

section

variable {env env' : Env} {objs objs' : List Resource} {acts : List Action}
variable (hm : env.cache = objs) (heff : Effects objs acts objs')
  (hnodel : ∀ k ns n e, .delete k ns n e ∉ acts) (hm' : env'.cache = objs')
include hm heff hnodel hm'

/-- An object the first call found is still held, since the call deleted nothing. -/
theorem getByKey_found_after {k : Kind} {key : String} (herr : env'.getByKeyErr k key = none)
    (h : env.getByKey k key = .ok true) : env'.getByKey k key = .ok true := by
  obtain ⟨r, hr, hk, hkey⟩ := Env.mem_of_getByKey h
  refine Env.getByKey_of_mem herr (hm' ▸ effects_keeps heff (hm ▸ hr) ?_) hk hkey
  exact fun k ns n e hd => absurd hd (hnodel k ns n e)

omit hm in
/-- An object the first call created with success is held. -/
theorem getByKey_created_after {k : Kind} {key ns : String} {obj : Object}
    (herr : env'.getByKeyErr k key = none) (hc : .create k ns obj none ∈ acts)
    (hkey : (⟨k, ns, obj⟩ : Resource).key = key) : env'.getByKey k key = .ok true :=
  Env.getByKey_of_mem herr (hm' ▸ effects_created heff hc fun k ns n e hd => absurd hd (hnodel k ns n e))
    rfl hkey

theorem Ensured.found_after {k : Kind} {key ns : String} {gen : Except Error Object}
    (herr : env'.getByKeyErr k key = none) (he : Ensured (env.getByKey k key) gen k ns acts)
    (hkey : ∀ obj, gen = .ok obj → (⟨k, ns, obj⟩ : Resource).key = key) :
    env'.getByKey k key = .ok true := by
  rcases he with hf | ⟨obj, hg, hc⟩
  · exact getByKey_found_after hm heff hnodel hm' herr hf
  · exact getByKey_created_after heff hnodel hm' herr hc (hkey obj hg)

/-- A deployment of role `s` the first call found in the namespace's index, or created
there, is in the index of the second call. -/
theorem deployment_after {ns s : String} {deps : List Object} {gen : Except Error Object}
    (hi : env.byIndex ns = .ok deps) (he : Ensured (.ok (deps.any (·.role == some s))) gen .deployment ns acts)
    (hrole : ∀ obj, gen = .ok obj → obj.role = some s) {deps' : List Object}
    (hi' : env'.byIndex ns = .ok deps') : deps'.any (·.role == some s) = true := by
  refine (Env.byIndex_any_iff hi').mpr ?_
  rcases he with hf | ⟨obj, hg, hc⟩
  · obtain ⟨r, hr, hk, hns, hrole'⟩ := (Env.byIndex_any_iff hi).mp (Except.ok.inj hf)
    refine ⟨r, hm' ▸ effects_keeps heff (hm ▸ hr) ?_, hk, hns, hrole'⟩
    exact fun k ns n e hd => absurd hd (hnodel k ns n e)
  · exact ⟨_, hm' ▸ effects_created heff hc (fun k ns n e hd => absurd hd (hnodel k ns n e)), rfl, rfl,
      hrole obj hg⟩

end

section

variable {cc : Controller} {env env' : Env} {objs objs' : List Resource} {c c' : Cluster}

/-- **A call that went through every step settles its record.** A call on a `Pending`
record that holds SSH material, answering the record in `Launching` and no error, leaves
the orchestrator, whatever its side effects did, in a state where a second call on the
same record finds every object of the pipeline. -/
theorem launched_settles (hm : env.cache = objs) (hn : env.Named cc) (hgen : env.GeneratorsKeepPhase)
    (hc : c.status.phase = .pending) (hssh : c.status.apiserverSSH ≠ [])
    (herr : (syncPendingCluster cc env c).err = none)
    (hret : (syncPendingCluster cc env c).changedC = some c') (hl : c'.status.phase = .launching)
    (heff : Effects objs (syncPendingCluster cc env c).actions objs') (hr : Retry env objs' c env') :
    Settled cc env' c := by
  obtain ⟨r, acts, he, hsync⟩ := syncPendingCluster_launched hc hgen herr hret hl
  have hacts : (syncPendingCluster cc env c).actions = acts := by rw [hsync]
  have hnodel : ∀ k ns n e, .delete k ns n e ∉ acts := fun k ns n e hd =>
    hssh (List.length_eq_zero.mp (syncPendingCluster_deletes cc env (hacts ▸ hd)).2.2.2)
  rw [hacts] at heff
  have hp := launched_provisioned he hsync
  have hne := namespaceName_ne_empty c.metadata.name
  have hfound : ∀ {k key}, env.getByKey k key = .ok true → env'.getByKey k key = .ok true :=
    getByKey_found_after hm heff hnodel hr.mirrors (hr.getByKeyErr _ _)
  have hafter : ∀ {k key ns gen}, Ensured (env.getByKey k key) gen k ns acts →
      (∀ obj, gen = .ok obj → (⟨k, ns, obj⟩ : Resource).key = key) → env'.getByKey k key = .ok true :=
    fun he hkey => he.found_after hm heff hnodel hr.mirrors (hr.getByKeyErr _ _) hkey
  obtain ⟨binding, hload, hbinding⟩ := hp.clusterRoleBinding
  obtain ⟨masterVersion, deps, hv, hi, hdeps⟩ := hp.deployments
  obtain ⟨masterVersion', etcd, hv', hload', hetcd⟩ := hp.etcdCluster
  have hi' : env'.byIndex (namespaceName c.metadata.name) =
      .ok ((env'.cache.filter fun r => r.kind == .deployment && r.ns == namespaceName c.metadata.name).map
        (·.obj)) := by
    simp only [Env.byIndex, hr.byIndexErr]
  refine {
    timeout := hr.timeout
    rootCA := hp.rootCA
    ssh := hssh
    tokenUsers := hfound hp.tokenUsers
    apiserverService := hfound hp.apiserverService
    serviceAccount := hafter hp.serviceAccount
      fun obj hg => by rw [Resource.key_of_ne hne, hn.serviceAccounts _ _ hg]
    clusterRoleBinding := ⟨binding, hr.clusterRoleBinding ▸ hload, hafter hbinding fun _ h => by cases h; rfl⟩
    service := hafter hp.service fun obj hg => by rw [Resource.key_of_ne hne, hn.services _ _ _ hg]
    secrets := fun s hs => ?_
    configMap := fun haws =>
      hafter (hp.configMap haws) fun obj hg => by rw [Resource.key_of_ne hne, hn.configMap _ _ hg]
    deployments := ⟨masterVersion, _, hv, hi', fun s yamlFile hx =>
      deployment_after hm heff hnodel hr.mirrors hi (hdeps s yamlFile hx)
        (fun obj hg => (hn.deployments _ _ _ _ _ _ hv hx hg).2) hi'⟩
    etcdCluster := ⟨masterVersion', etcd, hv', hr.etcdCluster ▸ hload', hafter hetcd
      fun _ h => by cases h; exact Resource.key_of_ne hne⟩
    addons := fun safeName name hx => hafter (hp.addons safeName name hx)
      fun _ h => by cases h; exact Resource.key_of_ne hne }
  have hsecret : ∀ gen, (s, gen) ∈
      [("apiserver-auth", env.createApiserverAuth), ("apiserver-ssh", env.createApiserverSSH)] →
      (∀ c t changed obj, gen c t = .ok (changed, obj) → obj.name = s) →
      env'.getByKey .secret (namespaceName c.metadata.name ++ "/" ++ s) = .ok true := by
    intro gen hx hname
    rcases hp.secrets s gen hx with ⟨hf, -⟩ | ⟨t, obj, -, hg, hmem, -⟩
    · exact hfound hf
    · exact getByKey_created_after heff hnodel hr.mirrors (hr.getByKeyErr _ _) hmem
        (by rw [Resource.key_of_ne hne, hname _ _ _ _ hg])
  simp only [List.mem_cons, List.mem_singleton, List.mem_nil_iff, or_false] at hs
  rcases hs with rfl | rfl
  · exact hsecret _ (.head _) hn.auth
  · exact hsecret _ (.tail _ (.head _)) hn.ssh

/-- **A finished call, run again, does nothing.** When the write of the `Launching`
record that a call on a `Pending` cluster answered is lost, the call runs again on the
same record, against the objects the first call left. It finds every object of the
pipeline, issues no side effect, and answers the record in `Launching` once more: the
first answer, with the second call's transition time. This needs the record to hold SSH
material, and the generators to name their objects after their entries and keep the
phase of the cluster they hand back. -/
theorem syncPendingCluster_idempotent (hm : env.cache = objs) (hn : env.Named cc)
    (hgen : env.GeneratorsKeepPhase) (hc : c.status.phase = .pending) (hssh : c.status.apiserverSSH ≠ [])
    (herr : (syncPendingCluster cc env c).err = none)
    (hret : (syncPendingCluster cc env c).changedC = some c') (hl : c'.status.phase = .launching)
    (heff : Effects objs (syncPendingCluster cc env c).actions objs') (hr : Retry env objs' c env') :
    syncPendingCluster cc env' c =
      ⟨{ c' with status.lastTransitionTime := env'.now }, [],
        some { c' with status.lastTransitionTime := env'.now }, none⟩ := by
  have hsettled := launched_settles hm hn hgen hc hssh herr hret hl heff hr
  obtain ⟨r, acts, he, hsync⟩ := syncPendingCluster_launched hc hgen herr hret hl
  obtain rfl : r = withMasterVersion cc c := by
    rw [enters_record cc env he, if_neg (by decide)]
  rw [hsync] at hret
  cases hret
  rw [syncPendingCluster_of_settled hsettled]
  rfl

end

/-- The cluster `c1` with SSH material, one call before the end of its pending phase: its
CA is minted, and its token-users secret and public service exist. -/
def settlingWorld : World :=
  ⟨{ sampleCluster with status.apiserverSSH := [3] }, sampleCache⟩

/-- The record the call on `settlingWorld` answers. -/
def settledRecord : Cluster :=
  { withMasterVersion sampleController settlingWorld.record with
    status.lastTransitionTime := 1, status.phase := .launching }

/-- The call on `settlingWorld` creates the rest of the pipeline and answers `Launching`;
its write is lost, and the same call run again on the objects it left does nothing. -/
theorem settlingWorld_idempotent :
    (syncPendingCluster sampleController (workingEnv settlingWorld) settlingWorld.record).changedC =
      some settledRecord ∧
    syncPendingCluster sampleController (workingEnv (workingStep sampleController false settlingWorld))
        settlingWorld.record =
      ⟨{ settledRecord with status.lastTransitionTime := 1 }, [],
        some { settledRecord with status.lastTransitionTime := 1 }, none⟩ := by
  have hret : (syncPendingCluster sampleController (workingEnv settlingWorld)
      settlingWorld.record).changedC = some settledRecord := by decide
  exact ⟨hret, syncPendingCluster_idempotent rfl (workingEnv_named rfl _)
    (fun _ _ _ _ h => by rcases h with h | h <;> cases h) rfl (by decide) (by decide) hret rfl
    (effects_of_answersHonestly (by decide)) ⟨rfl, rfl, fun _ _ => rfl, fun _ => rfl, rfl, rfl⟩⟩

end Kubermatic
