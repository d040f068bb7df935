import Kubermatic.Creates

/-!
# The phase machine

`syncPendingCluster` runs on clusters in phase `Pending`. It writes `Launching` at its
end, and `Failed` in the unknown-version branch that `launchingCheckDeployments` and
`launchingCheckEtcdCluster` share. This file proves how one call moves the phase.

* `syncPendingCluster_phase_machine` — on a `Pending` cluster, and with secret generators
  that keep the phase of the cluster they hand back, a call ends in one of four ways
  (`PhaseOutcome`), marks the cluster `Failed` exactly when it reaches the deployment step
  with an unknown effective master version, then creates no deployment, etcd cluster or
  add-on, and never takes the etcd step's own unknown-version branch;
* `syncPendingCluster_generator_sets_phase` — without that assumption a call can answer
  a `Failed` cluster and no error.

Each step gets one lemma, `*_phaseStep`: what it does to the phase (`PhaseStep`).
-/

namespace Kubermatic

variable (cc : Controller) (env : Env)

/-- The secret generators hand back, as changed, only clusters in the phase of the
cluster they were given. -/
def Env.GeneratorsKeepPhase : Prop :=
  ∀ c t c' obj, (env.createApiserverAuth c t = .ok (some c', obj) ∨
    env.createApiserverSSH c t = .ok (some c', obj)) → c'.status.phase = c.status.phase

/-- The four ways a call may end: an error and no cluster; an error and the cluster in
`Failed`; the cluster in `Pending` and no error; the cluster in `Launching` and no
error. -/
def PhaseOutcome (o : Outcome) : Prop :=
  (o.err.isSome ∧ o.changedC = none) ∨
  (o.err.isSome ∧ o.changedC = some o.cluster ∧ o.cluster.status.phase = .failed) ∨
  (o.err = none ∧ o.changedC = some o.cluster ∧ o.cluster.status.phase = .pending) ∨
  (o.err = none ∧ o.changedC = some o.cluster ∧ o.cluster.status.phase = .launching)

/-- What step `i` does to the phase of the record `r` it runs on: it keeps the phase and
answers no cluster with an error; or, from the deployment step on and with an unknown
master version, it marks the cluster `Failed` and answers it with an error. -/
def PhaseStep (i : Nat) (r : Cluster) (o : Outcome) : Prop :=
  (o.cluster.status.phase = r.status.phase ∧ (o.err.isSome → o.changedC = none)) ∨
  (9 ≤ i ∧ o.cluster.status.phase = .failed ∧ o.err.isSome ∧ o.changedC = some o.cluster ∧
    cc.versions.lookup (withMasterVersion cc r).spec.masterVersion = none)

/-- What one call on the cluster `c` does to the phase machine. -/
structure PhaseContract (c : Cluster) : Prop where
  /-- The call ends in one of the four ways of `PhaseOutcome`. -/
  outcome : PhaseOutcome (syncPendingCluster cc env c)
  /-- It writes no phase but `Pending`, `Failed` and `Launching`. -/
  phase : (syncPendingCluster cc env c).cluster.status.phase = .pending ∨
    (syncPendingCluster cc env c).cluster.status.phase = .failed ∨
    (syncPendingCluster cc env c).cluster.status.phase = .launching
  /-- It marks the cluster `Failed` exactly when it reaches the deployment step and the
  effective master version is not a key of `versions`. -/
  failed_iff : (syncPendingCluster cc env c).cluster.status.phase = .failed ↔
    (∃ r acts, Enters cc env c 9 r acts) ∧
      cc.versions.lookup (withMasterVersion cc c).spec.masterVersion = none
  /-- A call that marks the cluster `Failed` creates no deployment, etcd cluster or add-on. -/
  failed_creates : (syncPendingCluster cc env c).cluster.status.phase = .failed →
    ∀ k ns obj err, .create k ns obj err ∈ (syncPendingCluster cc env c).actions →
      k ≠ .deployment ∧ k ≠ .etcdCluster ∧ k ≠ .clusterAddon
  /-- The etcd step, when the call runs it, finds its master version. -/
  etcd_version_known : ∀ r acts, Enters cc env c 10 r acts →
    (cc.versions.lookup (withMasterVersion cc r).spec.masterVersion).isSome

/-! ## What each step does to the phase -/

section

variable {cc env}

theorem phaseStep_of_cluster {i : Nat} {r : Cluster} {o : Outcome}
    (h : o.cluster = r ∧ o.changedC = none) : PhaseStep cc i r o :=
  .inl ⟨by rw [h.1], fun _ => h.2⟩

theorem withMasterVersion_phase (c : Cluster) :
    (withMasterVersion cc c).status.phase = c.status.phase := by
  rw [withMasterVersion_status]

theorem ensureObject_err {k : Kind} {ns : String} {probe : Except Error Bool}
    {gen : Except Error Object} {genErr createErr : Error → Error} {format : String}
    {args : List String} {ret : Option Cluster} {c : Cluster} :
    (ensureObject env k ns probe gen genErr createErr format args ret c).err.isSome →
      (ensureObject env k ns probe gen genErr createErr format args ret c).changedC = none := by
  unfold ensureObject; split <;> (try split) <;> (try split) <;> simp

theorem createSecret_err {ns key s : String} {gen : SecretGenerator} {c : Cluster} :
    (createSecret cc env ns key s gen c).err.isSome →
      (createSecret cc env ns key s gen c).changedC = none := by
  unfold createSecret; dsimp only
  repeat' split
  all_goals simp

theorem checkSecret_err {ns : String} {recreateSecrets : List String}
    {entry : String × SecretGenerator} {c : Cluster} :
    (checkSecret cc env ns recreateSecrets entry c).err.isSome →
      (checkSecret cc env ns recreateSecrets entry c).changedC = none := by
  unfold checkSecret; dsimp only
  split
  · simp
  · split
    · simp
    · exact Outcome.orYield_err (fun _ => (deleteIfFound_cluster env ns _ _ c).2)
        fun _ => createSecret_err

theorem pendingCreateRootCA_phaseStep (r : Cluster) :
    PhaseStep cc 0 r (pendingCreateRootCA cc env r) := by
  refine .inl ⟨?_, ?_⟩ <;> unfold pendingCreateRootCA <;> dsimp only <;> repeat' split
  all_goals first | rfl | (intro; rfl) | (intro h; cases h)

theorem launchingCheckApiserverPublicService_phaseStep (r : Cluster) :
    PhaseStep cc 2 r (launchingCheckApiserverPublicService cc env r) := by
  refine .inl ⟨?_, ?_⟩ <;> unfold launchingCheckApiserverPublicService <;> dsimp only <;>
    repeat' split
  all_goals first | rfl | (intro; rfl) | (intro h; cases h)

theorem pendingCheckSecrets_phaseStep (hgen : env.GeneratorsKeepPhase) (r : Cluster) :
    PhaseStep cc 6 r (pendingCheckSecrets cc env r) :=
  .inl ⟨pendingCheckSecrets_invariant cc env (fun x => x.status.phase = r.status.phase)
      (fun c t c' obj hc hg => (hgen c t c' obj hg).trans hc) r rfl,
    forRange_err (fun _ _ => checkSecret_err) r⟩

theorem launchingCheckDeployments_phaseStep (r : Cluster) :
    PhaseStep cc 9 r (launchingCheckDeployments cc env r) := by
  unfold launchingCheckDeployments; dsimp only
  split
  · rename_i h; exact .inr ⟨le_rfl, rfl, rfl, rfl, h⟩
  · refine .inl ⟨?_, ?_⟩ <;> split
    · exact withMasterVersion_phase r
    · rw [forRange_cluster (fun _ _ => ensureObject_cluster ..)]; exact withMasterVersion_phase r
    · intro; rfl
    · intro; exact forRange_changedC (fun _ _ => ensureObject_changedC_none ..) _

theorem launchingCheckEtcdCluster_phaseStep (r : Cluster) :
    PhaseStep cc 10 r (launchingCheckEtcdCluster cc env r) := by
  unfold launchingCheckEtcdCluster; dsimp only
  split
  · rename_i h; exact .inr ⟨by omega, rfl, rfl, rfl, h⟩
  · refine .inl ⟨?_, ?_⟩ <;> repeat' split
    all_goals first | exact withMasterVersion_phase r | (intro; rfl) | (intro h; cases h)

/-- What step `i` of the pipeline does to the phase. -/
theorem stage_phaseStep (hgen : env.GeneratorsKeepPhase) {i : Nat} {s : Stage}
    (hs : (pendingStages cc env)[i]? = some s) (r : Cluster) : PhaseStep cc i r (s.run r) :=
  pendingStages_cases (pendingCreateRootCA_phaseStep r)
    (.inl ⟨by rw [launchingCheckTokenUsers_cluster], ensureObject_err⟩)
    (launchingCheckApiserverPublicService_phaseStep r)
    (phaseStep_of_cluster (launchingCheckServiceAccounts_cluster cc env r))
    (phaseStep_of_cluster (launchingCheckClusterRoleBindings_cluster cc env r))
    (phaseStep_of_cluster (launchingCheckServices_cluster cc env r))
    (pendingCheckSecrets_phaseStep hgen r)
    (phaseStep_of_cluster (launchingCheckConfigMaps_cluster env r))
    (phaseStep_of_cluster (launchingCheckPvcs_cluster cc env r))
    (launchingCheckDeployments_phaseStep r) (launchingCheckEtcdCluster_phaseStep r)
    (phaseStep_of_cluster (launchingCheckDefaultPlugins_cluster env r)) hs

end

/-! ## One call -/

/-- A call that runs step `k` and is stopped by its check ends with that step's answer. -/
theorem syncPendingCluster_of_stop {c r : Cluster} {k : Nat} {s : Stage} {acts : List Action}
    (he : Enters cc env c k r acts) (hs : (pendingStages cc env)[k]? = some s)
    (hp : s.passes (s.run r) = false) :
    syncPendingCluster cc env c = { s.run r with actions := acts ++ (s.run r).actions } := by
  obtain ⟨hlen, hget⟩ := List.getElem?_eq_some_iff.mp hs
  have hsplit : pendingStages cc env =
      (pendingStages cc env).take k ++ s :: (pendingStages cc env).drop (k + 1) := by
    rw [← hget, ← List.drop_eq_getElem_cons hlen, List.take_append_drop]
  rw [syncPendingCluster_eq_runStages, he.1]
  dsimp only
  rw [hsplit, runStages_append env he.2]
  simp only [runStages, Stage.next_of_not_passes hp]

section

variable {cc env} {c : Cluster}

/-- The record every step of a call on a `Pending` cluster runs on is `Pending`. -/
theorem enters_phase (hc : c.status.phase = .pending) {k : Nat} {r : Cluster}
    {acts : List Action} (he : Enters cc env c k r acts) : r.status.phase = .pending := by
  rw [enters_record cc env he]; split <;> simp [hc]

theorem syncPendingCluster_outcome (hc : c.status.phase = .pending)
    (hgen : env.GeneratorsKeepPhase) : PhaseOutcome (syncPendingCluster cc env c) := by
  rcases syncPendingCluster_cases cc env c with
    ⟨err, -, h⟩ | ⟨r, acts, -, h⟩ | ⟨k, s, r, acts, hk, he, hs, h⟩ <;> rw [h]
  · exact .inl ⟨rfl, rfl⟩
  · exact .inr (.inr (.inr ⟨rfl, rfl, rfl⟩))
  · have hans := pendingStages_answersRecord cc env s (List.getElem?_mem hk) r
    rcases stage_phaseStep hgen hk r with ⟨hph, herr⟩ | ⟨-, hph, herr, hch, -⟩
    · cases he' : (s.run r).err with
      | none =>
        exact .inr (.inr (.inl ⟨he', Stage.answer hans hs he', hph.trans (enters_phase hc he)⟩))
      | some e => exact .inl ⟨by simp [he'], herr (by simp [he'])⟩
    · exact .inr (.inl ⟨herr, hch, hph⟩)

theorem syncPendingCluster_phase (hc : c.status.phase = .pending)
    (hgen : env.GeneratorsKeepPhase) :
    (syncPendingCluster cc env c).cluster.status.phase = .pending ∨
      (syncPendingCluster cc env c).cluster.status.phase = .failed ∨
      (syncPendingCluster cc env c).cluster.status.phase = .launching := by
  rcases syncPendingCluster_cases cc env c with
    ⟨err, -, h⟩ | ⟨r, acts, -, h⟩ | ⟨k, s, r, acts, hk, he, -, h⟩ <;> rw [h]
  · exact .inl hc
  · exact .inr (.inr rfl)
  · rcases stage_phaseStep hgen hk r with ⟨hph, -⟩ | ⟨-, hph, -⟩
    · exact .inl (hph.trans (enters_phase hc he))
    · exact .inr (.inl hph)

/-- The etcd step of a call finds the master version that the deployment step found. -/
theorem enters_etcd_version_known {r : Cluster} {acts : List Action}
    (he : Enters cc env c 10 r acts) :
    (cc.versions.lookup (withMasterVersion cc r).spec.masterVersion).isSome := by
  rw [enters_record cc env he, if_neg (by omega), withMasterVersion_withMasterVersion]
  exact enters_version_known cc env he

theorem syncPendingCluster_failed_iff (hc : c.status.phase = .pending)
    (hgen : env.GeneratorsKeepPhase) :
    (syncPendingCluster cc env c).cluster.status.phase = .failed ↔
      (∃ r acts, Enters cc env c 9 r acts) ∧
        cc.versions.lookup (withMasterVersion cc c).spec.masterVersion = none := by
  constructor
  · intro hf
    rcases syncPendingCluster_cases cc env c with
      ⟨err, -, h⟩ | ⟨r, acts, -, h⟩ | ⟨k, s, r, acts, hk, he, -, h⟩ <;> rw [h] at hf
    · exact absurd (hc.symm.trans hf) (by decide)
    · cases hf
    · rcases stage_phaseStep hgen hk r with ⟨hph, -⟩ | ⟨hk9, -, -, -, hv⟩
      · rw [hph, enters_phase hc he] at hf; cases hf
      · have hvc : cc.versions.lookup (withMasterVersion cc c).spec.masterVersion = none := by
          rw [enters_record cc env he] at hv
          split at hv
          · exact hv
          · rwa [withMasterVersion_withMasterVersion] at hv
        obtain rfl : k = 9 := by
          by_contra hne
          obtain ⟨r', acts', he', -⟩ := enters_le cc env he (show 10 ≤ k by omega)
          have hknown := enters_version_known cc env he'
          rw [hvc] at hknown; cases hknown
        exact ⟨⟨r, acts, he⟩, hvc⟩
  · rintro ⟨⟨r, acts, he⟩, hv⟩
    have hr : r = c := by rw [enters_record cc env he, if_pos le_rfl]
    subst hr
    have hs9 : (pendingStages cc env)[9]? =
        some ⟨"launchingCheckDeployments", launchingCheckDeployments cc env, .errOnly⟩ := rfl
    have hdep : launchingCheckDeployments cc env r = unknownMasterVersion env (withMasterVersion cc r) := by
      unfold launchingCheckDeployments; dsimp only; rw [hv]
    have hstop : (launchingCheckDeployments cc env r).err.isNone = false := by rw [hdep]; rfl
    rw [syncPendingCluster_of_stop cc env he hs9 hstop]
    dsimp only
    rw [hdep]
    rfl

theorem syncPendingCluster_failed_creates (hc : c.status.phase = .pending)
    (hgen : env.GeneratorsKeepPhase)
    (hf : (syncPendingCluster cc env c).cluster.status.phase = .failed) {k : Kind} {ns : String}
    {obj : Object} {err : Option Error}
    (h : .create k ns obj err ∈ (syncPendingCluster cc env c).actions) :
    k ≠ .deployment ∧ k ≠ .etcdCluster ∧ k ≠ .clusterAddon := by
  have hv := ((syncPendingCluster_failed_iff hc hgen).mp hf).2
  have hbefore : ∀ {i r acts}, Enters cc env c i r acts → i < 10 := fun he => by
    by_contra hi
    obtain ⟨r', acts', he', -⟩ := enters_le cc env he (show 10 ≤ _ by omega)
    have hknown := enters_version_known cc env he'
    rw [hv] at hknown; cases hknown
  obtain ⟨i, r, acts, he, hcr⟩ := syncPendingCluster_creates cc env h
  have hi := hbefore he
  cases hcr with
  | deployment hversion => rw [hv] at hversion; cases hversion
  | etcdCluster => omega
  | addon => omega
  | _ => simp

end

/-- **One call moves the phase machine correctly**, when the secret generators keep the
phase of the cluster they hand back. -/
theorem syncPendingCluster_phase_machine (c : Cluster) (hc : c.status.phase = .pending)
    (hgen : env.GeneratorsKeepPhase) : PhaseContract cc env c where
  outcome := syncPendingCluster_outcome hc hgen
  phase := syncPendingCluster_phase hc hgen
  failed_iff := syncPendingCluster_failed_iff hc hgen
  failed_creates hf _ _ _ _ h := syncPendingCluster_failed_creates hc hgen hf h
  etcd_version_known _ _ he := enters_etcd_version_known he

theorem sampleEnv_generatorsKeepPhase (cache : List Resource) :
    (sampleEnv cache).GeneratorsKeepPhase := by
  intro c t c' obj h
  simp [sampleEnv] at h

theorem sampleCluster_phase_machine :
    sampleCluster.status.phase = .pending ∧ (sampleEnv sampleCache).GeneratorsKeepPhase ∧
      PhaseContract sampleController (sampleEnv sampleCache) sampleCluster :=
  ⟨rfl, sampleEnv_generatorsKeepPhase sampleCache,
    syncPendingCluster_phase_machine sampleController (sampleEnv sampleCache) sampleCluster rfl
      (sampleEnv_generatorsKeepPhase sampleCache)⟩

/-- `sampleEnv` with an `apiserver-auth` generator that hands back its cluster marked
`Failed`. -/
def failingAuthEnv : Env :=
  { sampleEnv sampleCache with
    createApiserverAuth := fun c _ =>
      .ok (some { c with status.phase := .failed }, named "apiserver-auth") }

/-- A generator that writes the phase makes a call on a `Pending` cluster answer it in
`Failed` with no error, before the deployment step: none of the four outcomes. -/
theorem syncPendingCluster_generator_sets_phase :
    sampleCluster.status.phase = .pending ∧
    (syncPendingCluster sampleController failingAuthEnv sampleCluster).err = none ∧
    (syncPendingCluster sampleController failingAuthEnv sampleCluster).changedC.map
      (·.status.phase) = some .failed ∧
    ¬ PhaseOutcome (syncPendingCluster sampleController failingAuthEnv sampleCluster) := by
  unfold PhaseOutcome
  decide

end Kubermatic
