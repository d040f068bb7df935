import Kubermatic.Phase

/-!
# What a call that ends in `Launching` has provisioned

* `syncPendingCluster_provisions` — a call on a `Pending` cluster that answers the cluster
  in `Launching` and no error found the root CA, the token-users secret and the public
  service in place, found or created every other object of the pipeline, re-created a
  secret it found only right after deleting it, and created nothing else (`Provisioned`),
  whatever order the maps were visited in; this needs the secret generators to keep the
  phase of the cluster they hand back;
* `syncPendingCluster_generator_launches` — without that assumption a generator that
  hands back its cluster in `Launching` ends the call before any deployment exists.

Each step gets a lemma `*_ensured`: what it found or created when its check let the call
go on. `launched_provisioned` collects them for a call that ran every step; a step's side
effects sit in the call's as one piece (`enters_ran`), which is what keeps the delete of a
secret next to its re-create.
-/

namespace Kubermatic

variable (cc : Controller) (env : Env)

/-- The probe reported the object, or the call created, with no error, the object the
generator produced, through the client of kind `k` in namespace `ns`. -/
def Ensured (probe : Except Error Bool) (gen : Except Error Object) (k : Kind) (ns : String)
    (acts : List Action) : Prop :=
  probe = .ok true ∨ ∃ obj, gen = .ok obj ∧ .create k ns obj none ∈ acts

theorem Ensured.mono {probe : Except Error Bool} {gen : Except Error Object} {k : Kind}
    {ns : String} {acts acts' : List Action} (h : Ensured probe gen k ns acts)
    (hsub : acts ⊆ acts') : Ensured probe gen k ns acts' :=
  h.imp_right fun ⟨obj, hg, hm⟩ => ⟨obj, hg, hsub hm⟩

/-- What a call on the record `c` that issued `acts` found in place or created. -/
structure Provisioned (c : Cluster) (acts : List Action) : Prop where
  rootCA : c.status.rootCA.key.isSome
  tokenUsers : env.getByKey .secret (namespaceName c.metadata.name ++ "/token-users") = .ok true
  apiserverService :
    env.getByKey .service (namespaceName c.metadata.name ++ "/" ++ "apiserver") = .ok true
  serviceAccount :
    Ensured (env.getByKey .serviceAccount (namespaceName c.metadata.name ++ "/" ++ "etcd-operator"))
      (env.loadServiceAccountFile "etcd-operator" cc.masterResourcesPath)
      .serviceAccount (namespaceName c.metadata.name) acts
  clusterRoleBinding : ∃ binding,
    env.loadClusterRoleBindingFile (namespaceName c.metadata.name) "etcd-operator"
      cc.masterResourcesPath = .ok binding ∧
    Ensured (env.getByKey .clusterRoleBinding binding.name) (.ok binding) .clusterRoleBinding "" acts
  service :
    Ensured (env.getByKey .service (namespaceName c.metadata.name ++ "/" ++ "apiserver-insecure"))
      (env.loadServiceFile c "apiserver-insecure" cc.masterResourcesPath)
      .service (namespaceName c.metadata.name) acts
  /-- Each secret was in place and not to be re-created, or was created from a generator
  that handed back no cluster; when it was in place, its delete came right before that
  create. -/
  secrets : ∀ s gen, (s, gen) ∈
      [("apiserver-auth", env.createApiserverAuth), ("apiserver-ssh", env.createApiserverSSH)] →
    (env.getByKey .secret (namespaceName c.metadata.name ++ "/" ++ s) = .ok true ∧
      ¬ (c.status.apiserverSSH.length = 0 ∧ s = "apiserver-ssh")) ∨
    ∃ t obj, env.parseFiles cc.masterResourcesPath (s ++ "-secret.yaml") = .ok t ∧
      gen c t = .ok (none, obj) ∧ .create .secret (namespaceName c.metadata.name) obj none ∈ acts ∧
      (env.getByKey .secret (namespaceName c.metadata.name ++ "/" ++ s) = .ok true →
        [.delete .secret (namespaceName c.metadata.name) s none,
          .create .secret (namespaceName c.metadata.name) obj none] <:+: acts)
  configMap : c.hasAWS = true →
    Ensured (env.getByKey .configMap (namespaceName c.metadata.name ++ "/" ++ "aws-cloud-config"))
      (env.loadAwsCloudConfigConfigMap c) .configMap (namespaceName c.metadata.name) acts
  deployments : ∃ masterVersion existingDeps,
    cc.versions.lookup (withMasterVersion cc c).spec.masterVersion = some masterVersion ∧
    env.byIndex (namespaceName c.metadata.name) = .ok existingDeps ∧
    ∀ s yamlFile, (s, yamlFile) ∈ deploymentYamls masterVersion →
      Ensured (.ok (existingDeps.any (·.role == some s)))
        (env.loadDeploymentFile (withMasterVersion cc c) masterVersion cc.masterResourcesPath cc.dc
          yamlFile) .deployment (namespaceName c.metadata.name) acts
  etcdCluster : ∃ masterVersion etcd,
    cc.versions.lookup (withMasterVersion cc c).spec.masterVersion = some masterVersion ∧
    env.loadEtcdClusterFile masterVersion cc.masterResourcesPath masterVersion.etcdClusterYaml =
      .ok etcd ∧
    Ensured (env.getByKey .etcdCluster (namespaceName c.metadata.name ++ "/" ++ etcd.name))
      (.ok etcd) .etcdCluster (namespaceName c.metadata.name) acts
  addons : ∀ safeName name, (safeName, name) ∈ defaultPlugins →
    Ensured (env.getByKey .clusterAddon
        (namespaceName c.metadata.name ++ "/" ++ ("addon-default-" ++ safeName)))
      (.ok (defaultAddon safeName name)) .clusterAddon ("cluster-" ++ c.metadata.name) acts
  /-- Every create is of one of the objects the steps may create. -/
  only : ∀ k ns obj err, .create k ns obj err ∈ acts → ∃ i, Creates cc env c i k ns obj

/-! ## What each step found or created -/

section

variable {cc env} {c : Cluster}

theorem returned_eq_false {o : Outcome} (herr : o.err = none) (hch : o.changedC = none) :
    o.returned = false := by
  simp [Outcome.returned, herr, hch]

theorem ensureObject_ensured {k : Kind} {ns : String} {probe : Except Error Bool}
    {gen : Except Error Object} {genErr createErr : Error → Error} {format : String}
    {args : List String} {ret : Option Cluster} :
    (ensureObject env k ns probe gen genErr createErr format args ret c).err = none →
      Ensured probe gen k ns (ensureObject env k ns probe gen genErr createErr format args ret c).actions := by
  unfold ensureObject
  split
  · intro h; cases h
  · exact fun _ => .inl rfl
  · split
    · intro h; cases h
    · split
      · intro h; cases h
      · exact fun _ => .inr ⟨_, rfl, .head _⟩

/-- A step that answers `ret` on success goes on only when its probe found the object. -/
theorem ensureObject_found {k : Kind} {ns : String} {probe : Except Error Bool}
    {gen : Except Error Object} {genErr createErr : Error → Error} {format : String}
    {args : List String} {r : Cluster} :
    (ensureObject env k ns probe gen genErr createErr format args (some r) c).returned = false →
      probe = .ok true := by
  unfold ensureObject
  split
  · intro h; cases h
  · exact fun _ => rfl
  · split
    · intro h; cases h
    · split <;> intro h <;> cases h

theorem pendingCreateRootCA_ensured :
    (pendingCreateRootCA cc env c).returned = false → c.status.rootCA.key.isSome := by
  unfold pendingCreateRootCA
  dsimp only
  split
  · exact fun _ => ‹_›
  · split <;> intro h <;> cases h

theorem launchingCheckApiserverPublicService_ensured :
    (launchingCheckApiserverPublicService cc env c).returned = false →
      env.getByKey .service (namespaceName c.metadata.name ++ "/" ++ "apiserver") = .ok true := by
  unfold launchingCheckApiserverPublicService
  dsimp only
  split
  · intro h; cases h
  · exact fun _ => ‹_›
  · repeat' split
    all_goals intro h; cases h

/-- A loop over a one-entry map that lets the call go on ran its body, which let the call
go on, and issued the body's side effects. -/
theorem forRange_singleton_passes {α : Type} {x : α} {body : α → Cluster → Outcome}
    (hk : ∀ x c, (body x c).Keeps c) (hr : (forRange (env.rangeOrder [x]) body c).returned = false) :
    (body x c).returned = false ∧ (body x c).actions <:+: (forRange (env.rangeOrder [x]) body c).actions :=
  forRange_passes hk c hr x ((env.rangeOrder_perm _).mem_iff.mpr (.head _))

theorem launchingCheckServiceAccounts_ensured :
    (launchingCheckServiceAccounts cc env c).err = none →
      Ensured (env.getByKey .serviceAccount (namespaceName c.metadata.name ++ "/" ++ "etcd-operator"))
        (env.loadServiceAccountFile "etcd-operator" cc.masterResourcesPath)
        .serviceAccount (namespaceName c.metadata.name) (launchingCheckServiceAccounts cc env c).actions := by
  intro herr
  obtain ⟨hx, hsub⟩ := forRange_singleton_passes (fun _ _ _ => ensureObject_cluster ..)
    (returned_eq_false herr (launchingCheckServiceAccounts_cluster cc env c).2)
  exact (ensureObject_ensured (Outcome.err_of_returned hx)).mono hsub.subset

theorem launchingCheckClusterRoleBindings_ensured :
    (launchingCheckClusterRoleBindings cc env c).err = none →
      ∃ binding, env.loadClusterRoleBindingFile (namespaceName c.metadata.name) "etcd-operator"
          cc.masterResourcesPath = .ok binding ∧
        Ensured (env.getByKey .clusterRoleBinding binding.name) (.ok binding) .clusterRoleBinding ""
          (launchingCheckClusterRoleBindings cc env c).actions := by
  intro herr
  obtain ⟨hx, hsub⟩ := forRange_singleton_passes
    (fun ⟨_, _⟩ _ _ => by dsimp only; repeat' split
                          all_goals rfl)
    (returned_eq_false herr (launchingCheckClusterRoleBindings_cluster cc env c).2)
  revert hx hsub
  dsimp only
  split
  · intro h; cases h
  · rename_i binding hgen
    refine fun hx hsub => ⟨binding, hgen, Ensured.mono ?_ hsub.subset⟩
    revert hx
    split
    · intro h; cases h
    · exact fun _ => .inl ‹_›
    · split
      · intro h; cases h
      · exact fun _ => .inr ⟨binding, rfl, .head _⟩

theorem launchingCheckServices_ensured :
    (launchingCheckServices cc env c).returned = false →
      Ensured (env.getByKey .service (namespaceName c.metadata.name ++ "/" ++ "apiserver-insecure"))
        (env.loadServiceFile c "apiserver-insecure" cc.masterResourcesPath)
        .service (namespaceName c.metadata.name) (launchingCheckServices cc env c).actions := by
  intro hr
  obtain ⟨hx, hsub⟩ := forRange_singleton_passes (fun _ _ _ => ensureObject_cluster ..) hr
  exact (ensureObject_ensured (Outcome.err_of_returned hx)).mono hsub.subset

theorem createSecret_ensured {ns key s : String} {gen : SecretGenerator} :
    (createSecret cc env ns key s gen c).returned = false →
      ∃ t obj, env.parseFiles cc.masterResourcesPath (s ++ "-secret.yaml") = .ok t ∧
        gen c t = .ok (none, obj) ∧
        (createSecret cc env ns key s gen c).actions =
          [.create .secret ns obj none, .event "pending" "Created secret %q" [key]] := by
  unfold createSecret; dsimp only
  split
  · intro h; cases h
  · rename_i t hparse
    split
    · intro h; cases h
    · rename_i changed obj hgen
      split
      · intro h; cases h
      · cases changed with
        | none => exact fun _ => ⟨t, obj, hparse, hgen, rfl⟩
        | some _ => intro h; cases h

theorem deleteSecret_passes {ns s : String} :
    (deleteSecret env ns s c).returned = false → env.delete .secret ns s = none := by
  unfold deleteSecret
  split
  · intro h; cases h
  · exact fun _ => ‹_›

/-- A secret the loop body let pass was in place and not to be re-created, or was created;
when it was in place, it was deleted right before. -/
theorem checkSecret_ensured {ns : String} {recreateSecrets : List String}
    {entry : String × SecretGenerator} :
    (checkSecret cc env ns recreateSecrets entry c).returned = false →
      (env.getByKey .secret (ns ++ "/" ++ entry.1) = .ok true ∧
        recreateSecrets.contains entry.1 = false) ∨
      ∃ t obj, env.parseFiles cc.masterResourcesPath (entry.1 ++ "-secret.yaml") = .ok t ∧
        entry.2 c t = .ok (none, obj) ∧
        .create .secret ns obj none ∈ (checkSecret cc env ns recreateSecrets entry c).actions ∧
        (env.getByKey .secret (ns ++ "/" ++ entry.1) = .ok true →
          [.delete .secret ns entry.1 none, .create .secret ns obj none] <:+:
            (checkSecret cc env ns recreateSecrets entry c).actions) := by
  unfold checkSecret; dsimp only
  split
  · intro h; cases h
  · rename_i found hprobe
    split
    · rename_i hskip
      simp only [Bool.and_eq_true, Bool.not_eq_true'] at hskip
      exact fun _ => .inl ⟨hskip.1 ▸ hprobe, hskip.2⟩
    · intro hr
      obtain ⟨hdel, hcreate, hacts⟩ := Outcome.orYield_passes hr
      rw [(deleteIfFound_cluster env ns _ _ c).1] at hcreate
      obtain ⟨t, obj, hparse, hgen, hcacts⟩ := createSecret_ensured hcreate
      rw [hacts, (deleteIfFound_cluster env ns _ _ c).1, hcacts]
      refine .inr ⟨t, obj, hparse, hgen, List.mem_append_right _ (.head _), fun hfound => ?_⟩
      rw [hprobe] at hfound
      cases hfound
      rw [if_pos rfl] at hdel ⊢
      rw [deleteSecret_actions, deleteSecret_passes hdel]
      exact (List.prefix_append _ [_]).isInfix

theorem pendingCheckSecrets_ensured :
    (pendingCheckSecrets cc env c).returned = false →
      ∀ s gen, (s, gen) ∈
        [("apiserver-auth", env.createApiserverAuth), ("apiserver-ssh", env.createApiserverSSH)] →
      (env.getByKey .secret (namespaceName c.metadata.name ++ "/" ++ s) = .ok true ∧
        ¬ (c.status.apiserverSSH.length = 0 ∧ s = "apiserver-ssh")) ∨
      ∃ t obj, env.parseFiles cc.masterResourcesPath (s ++ "-secret.yaml") = .ok t ∧
        gen c t = .ok (none, obj) ∧
        .create .secret (namespaceName c.metadata.name) obj none ∈ (pendingCheckSecrets cc env c).actions ∧
        (env.getByKey .secret (namespaceName c.metadata.name ++ "/" ++ s) = .ok true →
          [.delete .secret (namespaceName c.metadata.name) s none,
            .create .secret (namespaceName c.metadata.name) obj none] <:+:
            (pendingCheckSecrets cc env c).actions) := by
  intro hr s gen hx
  obtain ⟨hbody, hsub⟩ := forRange_passes (checkSecret_keeps cc env _ _) c hr (s, gen)
    ((env.rangeOrder_perm _).mem_iff.mpr hx)
  rcases checkSecret_ensured hbody with ⟨hp, hre⟩ | ⟨t, obj, hparse, hgen, hmem, hdel⟩
  · refine .inl ⟨hp, fun ⟨hl, hs⟩ => ?_⟩
    simp [hl, hs] at hre
  · exact .inr ⟨t, obj, hparse, hgen, hsub.subset hmem, fun hp => (hdel hp).trans hsub⟩

theorem launchingCheckConfigMaps_ensured :
    (launchingCheckConfigMaps env c).returned = false → c.hasAWS = true →
      Ensured (env.getByKey .configMap (namespaceName c.metadata.name ++ "/" ++ "aws-cloud-config"))
        (env.loadAwsCloudConfigConfigMap c) .configMap (namespaceName c.metadata.name)
        (launchingCheckConfigMaps env c).actions := by
  intro hr haws
  unfold launchingCheckConfigMaps at hr ⊢
  simp only [haws, if_true] at hr ⊢
  obtain ⟨hx, hsub⟩ := forRange_singleton_passes (fun _ _ _ => ensureObject_cluster ..) hr
  exact (ensureObject_ensured (Outcome.err_of_returned hx)).mono hsub.subset

theorem launchingCheckDeployments_ensured :
    (launchingCheckDeployments cc env c).err = none →
      ∃ masterVersion existingDeps,
        cc.versions.lookup (withMasterVersion cc c).spec.masterVersion = some masterVersion ∧
        env.byIndex (namespaceName c.metadata.name) = .ok existingDeps ∧
        ∀ s yamlFile, (s, yamlFile) ∈ deploymentYamls masterVersion →
          Ensured (.ok (existingDeps.any (·.role == some s)))
            (env.loadDeploymentFile (withMasterVersion cc c) masterVersion cc.masterResourcesPath
              cc.dc yamlFile) .deployment (namespaceName c.metadata.name)
            (launchingCheckDeployments cc env c).actions := by
  unfold launchingCheckDeployments; dsimp only
  split
  · intro h; cases h
  · rename_i masterVersion hv
    split
    · intro h; cases h
    · rename_i existingDeps hi
      intro herr
      refine ⟨masterVersion, existingDeps, hv, hi, fun s yamlFile hx => ?_⟩
      obtain ⟨hbody, hsub⟩ := forRange_passes (fun _ _ _ => ensureObject_cluster ..) _
        (returned_eq_false herr (forRange_changedC (fun _ _ => ensureObject_changedC_none ..) _))
        (s, yamlFile) ((env.rangeOrder_perm _).mem_iff.mpr hx)
      exact (ensureObject_ensured (Outcome.err_of_returned hbody)).mono hsub.subset

theorem launchingCheckEtcdCluster_ensured :
    (launchingCheckEtcdCluster cc env c).err = none →
      ∃ masterVersion etcd,
        cc.versions.lookup (withMasterVersion cc c).spec.masterVersion = some masterVersion ∧
        env.loadEtcdClusterFile masterVersion cc.masterResourcesPath masterVersion.etcdClusterYaml =
          .ok etcd ∧
        Ensured (env.getByKey .etcdCluster (namespaceName c.metadata.name ++ "/" ++ etcd.name))
          (.ok etcd) .etcdCluster (namespaceName c.metadata.name)
          (launchingCheckEtcdCluster cc env c).actions := by
  unfold launchingCheckEtcdCluster; dsimp only
  split
  · intro h; cases h
  · rename_i masterVersion hv
    split
    · intro h; cases h
    · rename_i etcd hload
      refine fun herr => ⟨masterVersion, etcd, hv, hload, ?_⟩
      revert herr
      split
      · intro h; cases h
      · exact fun _ => .inl ‹_›
      · split
        · intro h; cases h
        · exact fun _ => .inr ⟨etcd, rfl, .head _⟩

theorem launchingCheckDefaultPlugins_ensured :
    (launchingCheckDefaultPlugins env c).err = none →
      ∀ safeName name, (safeName, name) ∈ defaultPlugins →
        Ensured (env.getByKey .clusterAddon
            (namespaceName c.metadata.name ++ "/" ++ ("addon-default-" ++ safeName)))
          (.ok (defaultAddon safeName name)) .clusterAddon ("cluster-" ++ c.metadata.name)
          (launchingCheckDefaultPlugins env c).actions := by
  intro herr safeName name hx
  obtain ⟨hbody, hsub⟩ := forRange_passes
    (fun ⟨_, _⟩ _ _ => by dsimp only; repeat' split
                          all_goals rfl) c
    (returned_eq_false herr (launchingCheckDefaultPlugins_cluster env c).2)
    (safeName, name) ((env.rangeOrder_perm _).mem_iff.mpr hx)
  refine Ensured.mono ?_ hsub.subset
  revert hbody
  dsimp only
  split
  · intro h; cases h
  · exact fun _ => .inl ‹_›
  · split
    · intro h; cases h
    · exact fun _ => .inr ⟨_, rfl, .head _⟩

end

/-! ## A call that writes `Launching` -/

section

variable {cc env} {c : Cluster}

theorem Stage.returned_of_passes {name : String} {run : Cluster → Outcome} {o : Outcome}
    (h : Stage.passes ⟨name, run, .errOrChanged⟩ o = true) : o.returned = false := by
  simpa [Stage.passes] using h

theorem Stage.err_of_passes {name : String} {run : Cluster → Outcome} {o : Outcome}
    (h : Stage.passes ⟨name, run, .errOnly⟩ o = true) : o.err = none := by
  simpa [Stage.passes] using h

/-- A call on a `Pending` cluster that answers a `Launching` cluster and no error ran
every step. -/
theorem syncPendingCluster_launched (hc : c.status.phase = .pending)
    (hgen : env.GeneratorsKeepPhase) {c' : Cluster}
    (herr : (syncPendingCluster cc env c).err = none)
    (hret : (syncPendingCluster cc env c).changedC = some c') (hl : c'.status.phase = .launching) :
    ∃ r acts, Enters cc env c 12 r acts ∧
      syncPendingCluster cc env c = { launched env r with actions := acts } := by
  rcases syncPendingCluster_cases cc env c with ⟨err, -, h⟩ | h | ⟨k, s, r, acts, hk, he, hs, h⟩
  · rw [h] at herr; cases herr
  · exact h
  · rw [h] at herr hret
    rcases stage_phaseStep hgen hk r with ⟨hph, -⟩ | ⟨-, -, herr', -⟩
    · have hans := Stage.answer (pendingStages_answersRecord cc env s (List.getElem?_mem hk) r) hs herr
      obtain rfl := Option.some.inj (hans.symm.trans hret)
      rw [hph, enters_phase hc he] at hl
      cases hl
    · rw [herr] at herr'; cases herr'

/-- Each step before the etcd step of a call that ran every step let the call go on, on
the record the call was given, and the call issued its side effects. -/
theorem launched_ran_before {r : Cluster} {acts : List Action} (he : Enters cc env c 12 r acts)
    {i : Nat} (hi : i ≤ 9) {s : Stage} (hs : (pendingStages cc env)[i]? = some s) :
    s.passes (s.run c) = true ∧ (s.run c).actions <:+: acts := by
  obtain ⟨s', r', acts', hs', he', hpass, hsub⟩ := enters_ran cc env he (show i < 12 by omega) le_rfl
  rw [hs] at hs'
  cases hs'
  rw [enters_record cc env he', if_pos hi] at hpass hsub
  exact ⟨hpass, hsub⟩

/-- The etcd and add-on steps, on the record with its master version defaulted. -/
theorem launched_ran_after {r : Cluster} {acts : List Action} (he : Enters cc env c 12 r acts)
    {i : Nat} (hi : 10 ≤ i) (hi' : i < 12) {s : Stage} (hs : (pendingStages cc env)[i]? = some s) :
    s.passes (s.run (withMasterVersion cc c)) = true ∧
      (s.run (withMasterVersion cc c)).actions <:+: acts := by
  obtain ⟨s', r', acts', hs', he', hpass, hsub⟩ := enters_ran cc env he hi' le_rfl
  rw [hs] at hs'
  cases hs'
  rw [enters_record cc env he', if_neg (by omega)] at hpass hsub
  exact ⟨hpass, hsub⟩

/-- Every step fact of a call that ran every step: what each step found or created, read
off the step's check and carried into the call's side effects. -/
theorem launched_provisioned {r : Cluster} {acts : List Action} (he : Enters cc env c 12 r acts)
    (hsync : syncPendingCluster cc env c = { launched env r with actions := acts }) :
    Provisioned cc env c acts := by
  obtain ⟨hp0, -⟩ := launched_ran_before he (i := 0) (by omega) rfl
  obtain ⟨hp1, -⟩ := launched_ran_before he (i := 1) (by omega) rfl
  obtain ⟨hp2, -⟩ := launched_ran_before he (i := 2) (by omega) rfl
  obtain ⟨hp3, hs3⟩ := launched_ran_before he (i := 3) (by omega) rfl
  obtain ⟨hp4, hs4⟩ := launched_ran_before he (i := 4) (by omega) rfl
  obtain ⟨hp5, hs5⟩ := launched_ran_before he (i := 5) (by omega) rfl
  obtain ⟨hp6, hs6⟩ := launched_ran_before he (i := 6) (by omega) rfl
  obtain ⟨hp7, hs7⟩ := launched_ran_before he (i := 7) (by omega) rfl
  obtain ⟨hp9, hs9⟩ := launched_ran_before he (i := 9) (by omega) rfl
  obtain ⟨hp10, hs10⟩ := launched_ran_after he (i := 10) (by omega) (by omega) rfl
  obtain ⟨hp11, hs11⟩ := launched_ran_after he (i := 11) (by omega) (by omega) rfl
  obtain ⟨binding, hbinding, hcrb⟩ :=
    launchingCheckClusterRoleBindings_ensured (Stage.err_of_passes hp4)
  obtain ⟨masterVersion, existingDeps, hv, hi, hdeps⟩ :=
    launchingCheckDeployments_ensured (Stage.err_of_passes hp9)
  obtain ⟨masterVersion', etcd, hv', hload, hetcd⟩ :=
    launchingCheckEtcdCluster_ensured (Stage.err_of_passes hp10)
  have haddons := launchingCheckDefaultPlugins_ensured (Stage.err_of_passes hp11)
  simp only [withMasterVersion_withMasterVersion, withMasterVersion_metadata] at hv' hetcd haddons
  exact {
    rootCA := pendingCreateRootCA_ensured (Stage.returned_of_passes hp0)
    tokenUsers := ensureObject_found (Stage.returned_of_passes hp1)
    apiserverService := launchingCheckApiserverPublicService_ensured (Stage.returned_of_passes hp2)
    serviceAccount := (launchingCheckServiceAccounts_ensured (Stage.err_of_passes hp3)).mono hs3.subset
    clusterRoleBinding := ⟨binding, hbinding, hcrb.mono hs4.subset⟩
    service := (launchingCheckServices_ensured (Stage.returned_of_passes hp5)).mono hs5.subset
    secrets := fun s gen hx =>
      (pendingCheckSecrets_ensured (Stage.returned_of_passes hp6) s gen hx).imp id
        fun ⟨t, obj, hparse, hgen, hmem, hdel⟩ =>
          ⟨t, obj, hparse, hgen, hs6.subset hmem, fun hp => (hdel hp).trans hs6⟩
    configMap := fun haws =>
      (launchingCheckConfigMaps_ensured (Stage.returned_of_passes hp7) haws).mono hs7.subset
    deployments := ⟨masterVersion, existingDeps, hv, hi, fun s yamlFile hx =>
      (hdeps s yamlFile hx).mono hs9.subset⟩
    etcdCluster := ⟨masterVersion', etcd, hv', hload, hetcd.mono hs10.subset⟩
    addons := fun safeName name hx => (haddons safeName name hx).mono hs11.subset
    only := fun k ns obj err h =>
      let ⟨i, _, _, _, hcr⟩ := syncPendingCluster_creates cc env (by rw [hsync]; exact h)
      ⟨i, hcr⟩ }

end

/-- **What a call that writes `Launching` has provisioned**: on a `Pending` cluster, with
secret generators that keep the phase of the cluster they hand back, a call that answers
a `Launching` cluster and no error found or made every object of the pipeline, re-created
a secret it found only right after deleting it, and created nothing else. -/
theorem syncPendingCluster_provisions (c c' : Cluster) (hc : c.status.phase = .pending)
    (hgen : env.GeneratorsKeepPhase) (herr : (syncPendingCluster cc env c).err = none)
    (hret : (syncPendingCluster cc env c).changedC = some c') (hl : c'.status.phase = .launching) :
    Provisioned cc env c (syncPendingCluster cc env c).actions := by
  obtain ⟨r, acts, he, hsync⟩ := syncPendingCluster_launched hc hgen herr hret hl
  rw [hsync]
  exact launched_provisioned he hsync

/-- The call on `sampleCluster` with every collaborator succeeding: it creates the rest of
the pipeline and writes `Launching`. -/
def sampleCall : Outcome := syncPendingCluster sampleController (sampleEnv sampleCache) sampleCluster

theorem sampleCluster_provisions :
    sampleCluster.status.phase = .pending ∧ (sampleEnv sampleCache).GeneratorsKeepPhase ∧
      sampleCall.err = none ∧ sampleCall.changedC = some sampleCall.cluster ∧
      sampleCall.cluster.status.phase = .launching ∧
      Provisioned sampleController (sampleEnv sampleCache) sampleCluster sampleCall.actions :=
  have herr : sampleCall.err = none := by decide
  have hret : sampleCall.changedC = some sampleCall.cluster := by decide
  have hl : sampleCall.cluster.status.phase = .launching := by decide
  ⟨rfl, sampleEnv_generatorsKeepPhase _, herr, hret, hl,
    syncPendingCluster_provisions _ _ _ _ rfl (sampleEnv_generatorsKeepPhase _) herr hret hl⟩

/-- `sampleEnv` with an `apiserver-auth` generator that hands back its cluster in
`Launching`. -/
def launchingAuthEnv : Env :=
  { sampleEnv sampleCache with
    createApiserverAuth := fun c _ =>
      .ok (some { c with status.phase := .launching }, named "apiserver-auth") }

/-- A generator that writes `Launching` ends a call on a `Pending` cluster with that
cluster and no error at the secrets step: no deployment was in the cache, and none was
created. -/
theorem syncPendingCluster_generator_launches :
    sampleCluster.status.phase = .pending ∧
    (syncPendingCluster sampleController launchingAuthEnv sampleCluster).err = none ∧
    (syncPendingCluster sampleController launchingAuthEnv sampleCluster).changedC =
      some (syncPendingCluster sampleController launchingAuthEnv sampleCluster).cluster ∧
    (syncPendingCluster sampleController launchingAuthEnv sampleCluster).cluster.status.phase =
      .launching ∧
    ¬ Provisioned sampleController launchingAuthEnv sampleCluster
      (syncPendingCluster sampleController launchingAuthEnv sampleCluster).actions := by
  refine ⟨rfl, by decide, by decide, by decide, fun hp => ?_⟩
  obtain ⟨masterVersion, existingDeps, hv, hi, hdeps⟩ := hp.deployments
  have hnone : ((syncPendingCluster sampleController launchingAuthEnv sampleCluster).actions.all
      fun a => !(a matches .create .deployment _ _ _)) = true := by decide
  have hindex : launchingAuthEnv.byIndex (namespaceName sampleCluster.metadata.name) =
      .ok [] := rfl
  have hversion : sampleController.versions.lookup
      (withMasterVersion sampleController sampleCluster).spec.masterVersion = some sampleVersion := rfl
  rw [hindex] at hi
  rw [hversion] at hv
  cases hi
  cases hv
  rcases hdeps "etcd-operator" "etcd-operator" (.head _) with h | ⟨obj, -, hmem⟩
  · cases h
  · have h := List.all_eq_true.mp hnone _ hmem
    cases h

end Kubermatic
