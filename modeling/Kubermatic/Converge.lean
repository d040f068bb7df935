import Kubermatic.Crash

/-!
# Resumption converges

A cluster whose earlier calls failed, half-created its objects or lost their writes is
picked up again by later calls. This file proves that once the collaborators work (the
caches mirror the orchestrator and answer every read, the timeout check passes, every
template, generator and CA mint succeeds, the generators name their objects after their
entries and change nothing in the record but its SSH material, the orchestrator refuses
exactly the creates of objects it holds, a port is free, and every answered cluster is
persisted), a run ends the pending phase within six calls.

The proof is a rank argument. In a working call the only error left is an unknown master
version, which answers the `Failed` record, so every call answers a cluster. A call that
does not end the phase yields for one of five milestones: the root CA, the token-users
secret, the public service, the apiserver-auth secret, and the apiserver-ssh secret
together with SSH material in the record. It reaches that milestone and loses none it
had reached before.

* `Working.allSucceeded` — in a working call every create and delete succeeds, because no
  create is of an object held when it is issued;
* `Working.answers` — a working call answers a cluster;
* `Working.finishes_or_progress` — a working call ends the phase, or reaches a new
  milestone and keeps the others;
* `reachable_finishesWithin` — from every world reached by calls whose deployments carry
  their names as roles, whatever failed or was lost, every run of working calls ends the
  phase within six calls;
* `resumption_stalls` — each condition beyond the orchestrator's and the collaborators'
  success is needed: a run that breaks one of them, and meets the others, can stall.
-/

namespace Kubermatic

variable (cc : Controller)

/-! ## Working calls -/

/-- The caches answer every read: no `GetByKey` and no `ByIndex` fails. -/
structure Env.StoresAnswer (env : Env) : Prop where
  getByKeyErr : ∀ k key, env.getByKeyErr k key = none
  byIndexErr : ∀ ns, env.byIndexErr ns = none

/-- Every collaborator that makes something succeeds: the CA library, the template parser,
the generators and the template loaders. -/
structure Env.Generates (env : Env) : Prop where
  initcaNew : ∀ req, (env.initcaNew req).err = none
  parseFiles : ∀ dir file err, env.parseFiles dir file ≠ .error err
  createTokens : ∀ c err, env.createTokens c ≠ .error err
  createApiserverAuth : ∀ c t err, env.createApiserverAuth c t ≠ .error err
  createApiserverSSH : ∀ c t err, env.createApiserverSSH c t ≠ .error err
  loadServiceFile : ∀ c app dir err, env.loadServiceFile c app dir ≠ .error err
  loadServiceAccountFile : ∀ app dir err, env.loadServiceAccountFile app dir ≠ .error err
  loadClusterRoleBindingFile : ∀ ns app dir err,
    env.loadClusterRoleBindingFile ns app dir ≠ .error err
  loadAwsCloudConfigConfigMap : ∀ c err, env.loadAwsCloudConfigConfigMap c ≠ .error err
  loadDeploymentFile : ∀ c v dir dc file err, env.loadDeploymentFile c v dir dc file ≠ .error err
  loadEtcdClusterFile : ∀ v dir file err, env.loadEtcdClusterFile v dir file ≠ .error err

/-- Every collaborator a call consults answers without an error. -/
structure Env.Succeeds (env : Env) extends env.StoresAnswer, env.Generates : Prop

/-- A call that resumes the cluster's work in the world `w`: the caches hold what the
orchestrator holds, every collaborator that makes something succeeds, a port of the range
is free, the orchestrator answered each side effect as a working one does (a delete and
the create of an absent object succeed, the create of a held one fails), and a cluster the
`apiserver-ssh` generator hands back has SSH material. -/
structure Resumes (w : World) (env : Env) : Prop where
  mirrors : env.cache = w.objects
  generates : env.Generates
  portFree : ∃ q, IsFree cc env.services q
  honest : answersHonestly w.objects (syncPendingCluster cc env w.record).actions = true
  sshSet : ∀ c t x obj, env.createApiserverSSH c t = .ok (some x, obj) → x.status.apiserverSSH ≠ []

/-- The calls of the convergence result, in the world `w`: a resuming call whose timeout
check passes, whose caches answer every read, whose generators name their objects after
their entries, and whose secret generators, when they hand back a changed cluster, only set
its SSH material. -/
structure Working (w : World) (env : Env) extends Resumes cc w env : Prop where
  timeout : env.checkTimeout w.record = none
  stores : env.StoresAnswer
  named : env.Named cc
  setsOnlySSH : env.SetsOnlySSH

/-- The world after a call against `env` whose side effects took effect exactly when they
succeeded, and whose answered cluster was persisted. -/
def World.next (env : Env) (w : World) : World :=
  ⟨(syncPendingCluster cc env w.record).changedC.getD w.record,
    applyActions w.objects (syncPendingCluster cc env w.record).actions⟩

/-- The call ends the pending phase: it answers the record in `Launching`, or, exactly
when the effective master version is not a key of `versions`, in `Failed`. -/
def Finishes (env : Env) (c : Cluster) : Prop :=
  ∃ x, (syncPendingCluster cc env c).changedC = some x ∧
    x.status.phase =
      if (cc.versions.lookup (withMasterVersion cc c).spec.masterVersion).isSome then .launching
      else .failed

section

variable {cc} {env : Env} {w : World}

theorem Working.succeeds (hw : Working cc w env) : env.Succeeds := ⟨hw.stores, hw.generates⟩

/-- A working call is a step of the crash-safety runs, persisted. -/
theorem Working.step {Allowed : World → Env → Prop} (hw : Working cc w env) (hA : Allowed w env) :
    Step cc Allowed w (w.next cc env) :=
  .call true hA (effects_of_answersHonestly hw.honest)

/-- After a working call, every deployment still carries its own name as its `role`. -/
theorem Working.rolesMatch_next (hw : Working cc w env) (hroles : RolesMatch w.objects) :
    RolesMatch (w.next cc env).objects := fun r hr hk =>
  (effects_mem (effects_of_answersHonestly hw.honest) hr).elim (fun hr => hroles r hr hk)
    fun ⟨_, hc⟩ => syncPendingCluster_roles cc env hw.named.rolesNamed hc hk

variable {Admits : World → Env → Prop} {n : Nat}

end

/-! ## In a working call nothing fails -/

/-- The error a side effect was answered with. -/
def Action.err : Action → Option Error
  | .create _ _ _ err => err
  | .delete _ _ _ err => err
  | .event .. => none

/-- Every side effect of `acts` was answered without an error. -/
def AllSucceeded (acts : List Action) : Prop := ∀ a ∈ acts, a.err = none

/-- Side effects answered by a working orchestrator all succeed when none of them creates
an object held when it is issued. -/
theorem allSucceeded_of_answersHonestly {objs : List Resource} {acts : List Action}
    (h : answersHonestly objs acts = true)
    (habsent : ∀ pre k ns obj err post, acts = pre ++ .create k ns obj err :: post →
      holds (applyActions objs pre) k ns obj.name = false) : AllSucceeded acts := by
  induction acts generalizing objs with
  | nil => intro a ha; cases ha
  | cons a acts ih =>
    simp only [answersHonestly, Bool.and_eq_true] at h
    intro b hb
    rcases List.mem_cons.mp hb with rfl | hb
    · have h₁ := h.1
      cases b with
      | create k ns obj err =>
        have habs : holds objs k ns obj.name = false := habsent [] k ns obj err acts rfl
        rw [answersHonestly₁, habs] at h₁
        simpa using h₁
      | delete => simpa [answersHonestly₁] using h₁
      | event => rfl
    · exact ih h.2 (fun pre k ns obj err post hat => habsent (a :: pre) k ns obj err post
        (by rw [hat]; rfl)) b hb

section

variable {cc} {env : Env} {c : Cluster} (hs : env.Succeeds)
include hs

theorem Env.Succeeds.getByKey (k : Kind) (key : String) (err : Error) :
    env.getByKey k key ≠ .error err := by
  simp [Env.getByKey, hs.getByKeyErr]

theorem Env.Succeeds.byIndex (ns : String) (err : Error) : env.byIndex ns ≠ .error err := by
  simp [Env.byIndex, hs.byIndexErr]

omit hs in
/-- The skeleton fails only when its probe, its generator or its create does. -/
theorem ensureObject_err_eq_none {k : Kind} {ns : String} {probe : Except Error Bool}
    {gen : Except Error Object} {genErr createErr : Error → Error} {format : String}
    {args : List String} {ret : Option Cluster} (hprobe : ∀ err, probe ≠ .error err)
    (hgen : ∀ err, gen ≠ .error err)
    (h : AllSucceeded (ensureObject env k ns probe gen genErr createErr format args ret c).actions) :
    (ensureObject env k ns probe gen genErr createErr format args ret c).err = none := by
  revert h
  unfold ensureObject
  split
  · exact absurd rfl (hprobe _)
  · exact fun _ => rfl
  · split
    · exact absurd rfl (hgen _)
    · split
      · intro h; cases h _ (.head _)
      · exact fun _ => rfl

omit hs in
/-- A loop fails only when one of its bodies does. -/
theorem forRange_err_eq_none {α : Type} {xs : List α} {body : α → Cluster → Outcome}
    (hk : ∀ x c, (body x c).Keeps c)
    (hbody : ∀ x ∈ xs, ∀ c, AllSucceeded (body x c).actions → (body x c).err = none) (c : Cluster)
    (h : AllSucceeded (forRange xs body c).actions) : (forRange xs body c).err = none := by
  induction xs with
  | nil => rfl
  | cons x xs ih =>
    simp only [forRange] at h ⊢
    cases hr : (body x c).returned with
    | true =>
      rw [Outcome.orYield_of_returned hr] at h ⊢
      exact hbody x (.head _) c h
    | false =>
      rw [Outcome.orYield_of_not_returned hr, Outcome.andThen_actions, hk x c hr] at h
      rw [Outcome.orYield_of_not_returned hr, Outcome.andThen_err, hk x c hr]
      exact ih (fun y hy => hbody y (.tail _ hy)) fun a ha => h a (List.mem_append_right _ ha)

theorem pendingCreateRootCA_err : (pendingCreateRootCA cc env c).err = none := by
  unfold pendingCreateRootCA
  split
  · rfl
  · dsimp only
    rw [hs.initcaNew]

theorem launchingCheckTokenUsers_err (h : AllSucceeded (launchingCheckTokenUsers env c).actions) :
    (launchingCheckTokenUsers env c).err = none :=
  ensureObject_err_eq_none (hs.getByKey _ _) (hs.createTokens c) h

theorem launchingCheckApiserverPublicService_err (hport : (getFreeNodePort cc env.services).2 = none)
    (h : AllSucceeded (launchingCheckApiserverPublicService cc env c).actions) :
    (launchingCheckApiserverPublicService cc env c).err = none := by
  revert h
  unfold launchingCheckApiserverPublicService
  dsimp only
  split
  · next _ heq => exact absurd heq (hs.getByKey _ _ _)
  · exact fun _ => rfl
  · split
    · next _ heq => rw [hport] at heq; cases heq
    · split
      · next _ heq => exact absurd heq (hs.loadServiceFile _ _ _ _)
      · split
        · intro h; cases h _ (.head _)
        · exact fun _ => rfl

theorem launchingCheckServiceAccounts_err
    (h : AllSucceeded (launchingCheckServiceAccounts cc env c).actions) :
    (launchingCheckServiceAccounts cc env c).err = none := by
  refine forRange_err_eq_none (fun _ _ _ => ensureObject_cluster ..) (fun ⟨s, gen⟩ hx c h => ?_) c h
  rw [(env.rangeOrder_perm _).mem_iff, List.mem_singleton] at hx
  cases hx
  exact ensureObject_err_eq_none (hs.getByKey _ _) (hs.loadServiceAccountFile _ _) h

theorem launchingCheckClusterRoleBindings_err
    (h : AllSucceeded (launchingCheckClusterRoleBindings cc env c).actions) :
    (launchingCheckClusterRoleBindings cc env c).err = none := by
  refine forRange_err_eq_none (fun ⟨_, _⟩ _ _ => by dsimp only; repeat' split
                                                    all_goals rfl)
    (fun ⟨s, gen⟩ hx c h => ?_) c h
  rw [(env.rangeOrder_perm _).mem_iff, List.mem_singleton] at hx
  cases hx
  revert h
  dsimp only
  split
  · next _ heq => exact absurd heq (hs.loadClusterRoleBindingFile _ _ _ _)
  · split
    · next _ heq => exact absurd heq (hs.getByKey _ _ _)
    · exact fun _ => rfl
    · split
      · intro h; cases h _ (.head _)
      · exact fun _ => rfl

theorem launchingCheckServices_err (h : AllSucceeded (launchingCheckServices cc env c).actions) :
    (launchingCheckServices cc env c).err = none := by
  refine forRange_err_eq_none (fun _ _ _ => ensureObject_cluster ..) (fun ⟨s, gen⟩ hx c h => ?_) c h
  rw [(env.rangeOrder_perm _).mem_iff, List.mem_singleton] at hx
  cases hx
  exact ensureObject_err_eq_none (hs.getByKey _ _) (hs.loadServiceFile _ _ _) h

theorem createSecret_err_eq_none {ns key s : String} {gen : SecretGenerator}
    (hgen : ∀ c t err, gen c t ≠ .error err) (h : AllSucceeded (createSecret cc env ns key s gen c).actions) :
    (createSecret cc env ns key s gen c).err = none := by
  revert h
  unfold createSecret
  split
  · next _ heq => exact absurd heq (hs.parseFiles _ _ _)
  · split
    · next _ heq => exact absurd heq (hgen _ _ _)
    · dsimp only
      split
      · intro h; cases h _ (.head _)
      · exact fun _ => rfl

theorem checkSecret_err_eq_none {ns : String} {recreateSecrets : List String}
    {entry : String × SecretGenerator} (hgen : ∀ c t err, entry.2 c t ≠ .error err)
    (h : AllSucceeded (checkSecret cc env ns recreateSecrets entry c).actions) :
    (checkSecret cc env ns recreateSecrets entry c).err = none := by
  revert h
  unfold checkSecret
  dsimp only
  split
  · next _ heq => exact absurd heq (hs.getByKey _ _ _)
  · split
    · exact fun _ => rfl
    · rename_i found _ _
      have hdel := deleteIfFound_cluster env ns entry.1 found c
      intro h
      cases hr : (if found then deleteSecret env ns entry.1 c else .done c []).returned with
      | true =>
        have hdone : (if found then deleteSecret env ns entry.1 c else .done c []).err = none := by
          rw [Outcome.orYield_of_returned hr] at h
          cases found with
          | false => rfl
          | true =>
            have hd : env.delete .secret ns entry.1 = none :=
              h (.delete .secret ns entry.1 _) (by rw [if_pos rfl, deleteSecret_actions]; exact .head _)
            rw [if_pos rfl, deleteSecret, hd]
            rfl
        simp [Outcome.returned, hdone, hdel.2] at hr
      | false =>
        rw [Outcome.orYield_of_not_returned hr, Outcome.andThen_actions, hdel.1] at h
        rw [Outcome.orYield_of_not_returned hr, Outcome.andThen_err, hdel.1]
        exact createSecret_err_eq_none hs hgen fun a ha => h a (List.mem_append_right _ ha)

theorem pendingCheckSecrets_err (h : AllSucceeded (pendingCheckSecrets cc env c).actions) :
    (pendingCheckSecrets cc env c).err = none := by
  refine forRange_err_eq_none (checkSecret_keeps cc env _ _) (fun entry hx c h => ?_) c h
  rw [(env.rangeOrder_perm _).mem_iff] at hx
  simp only [List.mem_cons, List.mem_singleton, List.mem_nil_iff, or_false] at hx
  rcases hx with rfl | rfl
  · exact checkSecret_err_eq_none hs (hs.createApiserverAuth) h
  · exact checkSecret_err_eq_none hs (hs.createApiserverSSH) h

theorem launchingCheckConfigMaps_err (h : AllSucceeded (launchingCheckConfigMaps env c).actions) :
    (launchingCheckConfigMaps env c).err = none := by
  refine forRange_err_eq_none (fun _ _ _ => ensureObject_cluster ..) (fun ⟨s, gen⟩ hx c h => ?_) c h
  rw [(env.rangeOrder_perm _).mem_iff] at hx
  split at hx
  · rw [List.mem_singleton] at hx
    cases hx
    exact ensureObject_err_eq_none (hs.getByKey _ _) (hs.loadAwsCloudConfigConfigMap _) h
  · cases hx

omit hs in
theorem launchingCheckPvcs_err : (launchingCheckPvcs cc env c).err = none := by
  unfold launchingCheckPvcs
  dsimp only
  rw [List.perm_nil.mp (env.rangeOrder_perm _)]
  rfl

/-- The deployment step fails only for an unknown master version, which it answers with
the `Failed` record. -/
theorem launchingCheckDeployments_err (h : AllSucceeded (launchingCheckDeployments cc env c).actions) :
    (launchingCheckDeployments cc env c).err = none ∨
      (launchingCheckDeployments cc env c).changedC.isSome := by
  revert h
  unfold launchingCheckDeployments
  dsimp only
  split
  · exact fun _ => .inr rfl
  · split
    · next _ heq => exact absurd heq (hs.byIndex _ _)
    · exact fun h => .inl (forRange_err_eq_none (fun _ _ _ => ensureObject_cluster ..)
        (fun ⟨_, _⟩ _ _ h => ensureObject_err_eq_none (fun _ h => nomatch h)
          (hs.loadDeploymentFile _ _ _ _ _) h) _ h)

/-- So does the etcd step. -/
theorem launchingCheckEtcdCluster_err (h : AllSucceeded (launchingCheckEtcdCluster cc env c).actions) :
    (launchingCheckEtcdCluster cc env c).err = none ∨
      (launchingCheckEtcdCluster cc env c).changedC.isSome := by
  revert h
  unfold launchingCheckEtcdCluster
  dsimp only
  split
  · exact fun _ => .inr rfl
  · split
    · next _ heq => exact absurd heq (hs.loadEtcdClusterFile _ _ _ _)
    · split
      · next _ heq => exact absurd heq (hs.getByKey _ _ _)
      · exact fun _ => .inl rfl
      · split
        · intro h; cases h _ (.head _)
        · exact fun _ => .inl rfl

theorem launchingCheckDefaultPlugins_err
    (h : AllSucceeded (launchingCheckDefaultPlugins env c).actions) :
    (launchingCheckDefaultPlugins env c).err = none := by
  refine forRange_err_eq_none (fun ⟨_, _⟩ _ _ => by dsimp only; repeat' split
                                                    all_goals rfl)
    (fun ⟨safeName, name⟩ _ c h => ?_) c h
  revert h
  dsimp only
  split
  · next _ heq => exact absurd heq (hs.getByKey _ _ _)
  · exact fun _ => rfl
  · split
    · intro h; cases h _ (.head _)
    · exact fun _ => rfl

omit hs in
/-- A stage whose check returns, and that failed only by answering a cluster, answered a
cluster. -/
theorem Stage.changed_of_not_passes {s : Stage} {o : Outcome} (h : s.passes o = false)
    (herr : o.err = none ∨ o.changedC.isSome) : o.changedC.isSome := by
  rcases herr with herr | hc
  · unfold Stage.passes at h
    split at h
    · simpa [Outcome.returned, herr] using h
    · simp [herr] at h
  · exact hc

/-- **A working step that returns answers a cluster.** -/
theorem stage_answers (hport : (getFreeNodePort cc env.services).2 = none) {i : Nat} {s : Stage}
    (hi : (pendingStages cc env)[i]? = some s) {r : Cluster} (h : AllSucceeded (s.run r).actions)
    (hpass : s.passes (s.run r) = false) : (s.run r).changedC.isSome := by
  refine Stage.changed_of_not_passes hpass ?_
  revert h
  exact pendingStages_cases (fun _ => .inl (pendingCreateRootCA_err hs))
    (fun h => .inl (launchingCheckTokenUsers_err hs h))
    (fun h => .inl (launchingCheckApiserverPublicService_err hs hport h))
    (fun h => .inl (launchingCheckServiceAccounts_err hs h))
    (fun h => .inl (launchingCheckClusterRoleBindings_err hs h))
    (fun h => .inl (launchingCheckServices_err hs h)) (fun h => .inl (pendingCheckSecrets_err hs h))
    (fun h => .inl (launchingCheckConfigMaps_err hs h)) (fun _ => .inl launchingCheckPvcs_err)
    (launchingCheckDeployments_err hs) (launchingCheckEtcdCluster_err hs)
    (fun h => .inl (launchingCheckDefaultPlugins_err hs h)) hi

end

/-! ## A working call answers a cluster -/

section

variable {cc} {env : Env} {w : World}

/-- **In a working call every side effect succeeds**: no create is of an object the
orchestrator holds when it is issued. -/
theorem Working.allSucceeded (hw : Working cc w env) (hroles : RolesMatch w.objects) :
    AllSucceeded (syncPendingCluster cc env w.record).actions := by
  refine allSucceeded_of_answersHonestly hw.honest fun pre _ _ _ _ post hat => ?_
  have hpre := hw.honest
  rw [hat, answersHonestly_append, Bool.and_eq_true] at hpre
  exact syncPendingCluster_absent_when_issued hw.mirrors hroles hw.named hat
    (effects_of_answersHonestly hpre.1)

/-- **A working call answers a cluster.** -/
theorem Working.answers (hw : Working cc w env) (hroles : RolesMatch w.objects) :
    ∃ x, (syncPendingCluster cc env w.record).changedC = some x := by
  rcases syncPendingCluster_cases cc env w.record with
    ⟨err, hto, -⟩ | ⟨r, acts, -, he⟩ | ⟨k, s, r, acts, hk, -, hpass, he⟩
  · rw [hw.timeout] at hto; cases hto
  · rw [he]; exact ⟨_, rfl⟩
  · have hacts := hw.allSucceeded hroles
    rw [he] at hacts ⊢
    exact Option.isSome_iff_exists.mp (stage_answers hw.succeeds
      (getFreeNodePort_ok.mp hw.portFree) hk
      (fun a ha => hacts a (List.mem_append_right _ ha)) hpass)

end

/-! ## Milestones -/

/-- What a run reaches, each by a call that yields for it, before a call can end the
pending phase. -/
inductive Milestone where
  /-- The root CA is in the record. -/
  | rootCA
  /-- The orchestrator holds the token-users secret. -/
  | tokenUsers
  /-- The orchestrator holds the public service. -/
  | apiserverService
  /-- The orchestrator holds the apiserver-auth secret. -/
  | apiserverAuth
  /-- The orchestrator holds the apiserver-ssh secret, and the record its SSH material. -/
  | apiserverSSH

/-- Whether `w` reached the milestone. -/
def Milestone.reached (w : World) : Milestone → Bool
  | .rootCA => w.record.status.rootCA.key.isSome
  | .tokenUsers => holds w.objects .secret (namespaceName w.record.metadata.name) "token-users"
  | .apiserverService =>
    holds w.objects .service (namespaceName w.record.metadata.name) "apiserver"
  | .apiserverAuth =>
    holds w.objects .secret (namespaceName w.record.metadata.name) "apiserver-auth"
  | .apiserverSSH =>
    holds w.objects .secret (namespaceName w.record.metadata.name) "apiserver-ssh" &&
      w.record.status.apiserverSSH.length != 0

/-- The number of milestones `w` has not reached. -/
def pendingYields (w : World) : Nat :=
  (!Milestone.rootCA.reached w).toNat + (!Milestone.tokenUsers.reached w).toNat +
    (!Milestone.apiserverService.reached w).toNat + (!Milestone.apiserverAuth.reached w).toNat +
    (!Milestone.apiserverSSH.reached w).toNat

theorem pendingYields_le (w : World) : pendingYields w ≤ 5 := by
  have h₁ := Bool.toNat_le (!Milestone.rootCA.reached w)
  have h₂ := Bool.toNat_le (!Milestone.tokenUsers.reached w)
  have h₃ := Bool.toNat_le (!Milestone.apiserverService.reached w)
  have h₄ := Bool.toNat_le (!Milestone.apiserverAuth.reached w)
  have h₅ := Bool.toNat_le (!Milestone.apiserverSSH.reached w)
  unfold pendingYields
  omega

section

variable {cc} {w w' : World}

theorem Milestone.toNat_le {m : Milestone} (h : m.reached w = true → m.reached w' = true) :
    (!m.reached w').toNat ≤ (!m.reached w).toNat := by
  cases hb : m.reached w <;> cases hb' : m.reached w' <;> simp_all

/-- A call that keeps every milestone and reaches a new one leaves fewer to reach. -/
theorem pendingYields_lt (hkeep : ∀ m : Milestone, m.reached w = true → m.reached w' = true)
    {m : Milestone} (hnew : m.reached w = false) (hnew' : m.reached w' = true) :
    pendingYields w' < pendingYields w := by
  have h₁ := Milestone.toNat_le (hkeep .rootCA)
  have h₂ := Milestone.toNat_le (hkeep .tokenUsers)
  have h₃ := Milestone.toNat_le (hkeep .apiserverService)
  have h₄ := Milestone.toNat_le (hkeep .apiserverAuth)
  have h₅ := Milestone.toNat_le (hkeep .apiserverSSH)
  have hlt : (!m.reached w').toNat < (!m.reached w).toNat := by rw [hnew, hnew']; decide
  unfold pendingYields
  cases m <;> omega

end

/-! ## One working call -/

section

variable {cc} {env : Env} {w : World}

/-- The last two side effects of a call are a successful create and an event: the
orchestrator then holds the object. -/
theorem holds_applyActions_last {objs : List Resource} {pre : List Action} {k : Kind} {ns : String}
    {obj : Object} {phase format : String} {args : List String} :
    holds (applyActions objs (pre ++ [.create k ns obj none, .event phase format args])) k ns obj.name =
      true := by
  simp [applyActions_append, applyActions, applyAction]

/-- A call that answers a record with the same name, a root CA key whenever the record had
one, and SSH material whenever it had some, keeps every milestone: the call deletes only
`apiserver-ssh`, and only from a record without SSH material. -/
theorem milestones_kept {x : Cluster} (hmeta : x.metadata = w.record.metadata)
    (hkey : w.record.status.rootCA.key.isSome = true → x.status.rootCA.key.isSome = true)
    (hssh : w.record.status.apiserverSSH.length ≠ 0 → x.status.apiserverSSH.length ≠ 0)
    (m : Milestone) (hm : m.reached w = true) :
    m.reached ⟨x, applyActions w.objects (syncPendingCluster cc env w.record).actions⟩ = true := by
  have hdel := fun {k ns n e} (h : .delete k ns n e ∈ (syncPendingCluster cc env w.record).actions) =>
    syncPendingCluster_deletes cc env h
  cases m with
  | rootCA => exact hkey hm
  | tokenUsers =>
    simp only [Milestone.reached, hmeta] at hm ⊢
    exact holds_applyActions hm fun _ hd => absurd (hdel hd).2.2.1 (by decide)
  | apiserverService =>
    simp only [Milestone.reached, hmeta] at hm ⊢
    exact holds_applyActions hm fun _ hd => absurd (hdel hd).1 (by decide)
  | apiserverAuth =>
    simp only [Milestone.reached, hmeta] at hm ⊢
    exact holds_applyActions hm fun _ hd => absurd (hdel hd).2.2.1 (by decide)
  | apiserverSSH =>
    simp only [Milestone.reached, hmeta, Bool.and_eq_true, bne_iff_ne] at hm ⊢
    exact ⟨holds_applyActions hm.1 fun _ hd => hm.2 (hdel hd).2.2.2, hssh hm.2⟩

/-- The object a working call ended by creating was absent when the call started, unless
it is `apiserver-ssh` of a record without SSH material, and it is held after the call. -/
theorem Working.created_last (hw : Working cc w env) (hroles : RolesMatch w.objects)
    {pre : List Action} {k : Kind} {obj : Object} {phase format : String} {args : List String}
    (hlast : (syncPendingCluster cc env w.record).actions = pre ++
      [.create k (namespaceName w.record.metadata.name) obj none, .event phase format args]) :
    (holds w.objects k (namespaceName w.record.metadata.name) obj.name = false ∨
      (k = .secret ∧ obj.name = "apiserver-ssh" ∧ w.record.status.apiserverSSH.length = 0)) ∧
    holds (applyActions w.objects (syncPendingCluster cc env w.record).actions) k
      (namespaceName w.record.metadata.name) obj.name = true := by
  refine ⟨?_, by rw [hlast]; exact holds_applyActions_last⟩
  rcases syncPendingCluster_create_absent hw.mirrors hroles hw.named hlast with h | ⟨pre', hpre⟩
  · exact .inl h
  · have hd : .delete k (namespaceName w.record.metadata.name) obj.name none ∈
        (syncPendingCluster cc env w.record).actions := by
      rw [hlast, hpre]; simp
    obtain ⟨hk, -, hn, hssh⟩ := syncPendingCluster_deletes cc env hd
    exact .inr ⟨hk, hn, hssh⟩

/-- **One working call** ends the pending phase, or reaches a milestone and keeps those
reached before. -/
theorem Working.finishes_or_progress (hw : Working cc w env) (hroles : RolesMatch w.objects) :
    Finishes cc env w.record ∨ pendingYields (w.next cc env) < pendingYields w := by
  obtain ⟨x, hx⟩ := hw.answers hroles
  have hnext : w.next cc env =
      ⟨x, applyActions w.objects (syncPendingCluster cc env w.record).actions⟩ := by
    simp only [World.next, hx, Option.getD_some]
  have hnot_ssh : ∀ {n : String} {P Q : Prop}, n ≠ "apiserver-ssh" → ¬(P ∧ n = "apiserver-ssh" ∧ Q) :=
    fun hn h => hn h.2.1
  rw [hnext]
  cases syncPendingCluster_answered cc env hx with
  | launched enters =>
    obtain ⟨r, acts, h10, -⟩ := enters_le cc env enters (by decide : 10 ≤ 12)
    exact .inl ⟨_, hx, by simp [enters_version_known cc env h10]⟩
  | unknownVersion unknown => exact .inl ⟨_, hx, by simp [unknown]⟩
  | rootCA absent minted =>
    have hkey := ((env.initcaNew _).present minted).2
    refine .inr (pendingYields_lt (milestones_kept rfl (fun _ => hkey) id) (m := .rootCA) ?_ hkey)
    simp [Milestone.reached, absent]
  | tokenUsers generate last =>
    obtain ⟨_, hlast⟩ := last
    obtain ⟨hbefore, hafter⟩ := hw.created_last hroles hlast
    rw [hw.named.tokenUsers _ _ generate] at hbefore hafter
    exact .inr (pendingYields_lt (milestones_kept rfl id id) (m := .tokenUsers)
      (hbefore.resolve_right (hnot_ssh (by decide))) hafter)
  | apiserverService free generate last =>
    obtain ⟨_, hlast⟩ := last
    obtain ⟨hbefore, hafter⟩ := hw.created_last hroles hlast
    rw [hw.named.services _ _ _ generate] at hbefore hafter
    exact .inr (pendingYields_lt (milestones_kept rfl id id) (m := .apiserverService)
      (hbefore.resolve_right fun h => nomatch h.1) hafter)
  | secret entry generate last =>
    obtain ⟨_, hlast⟩ := last
    obtain ⟨hbefore, hafter⟩ := hw.created_last hroles hlast
    obtain ⟨ssh, hne, rfl⟩ := hw.setsOnlySSH.answered entry generate
    have hlen : ssh.length ≠ 0 := fun h => hne (List.eq_nil_of_length_eq_zero h)
    simp only [List.mem_cons, Prod.mk.injEq, List.mem_singleton, List.mem_nil_iff, or_false] at entry
    rcases entry with ⟨rfl, rfl⟩ | ⟨rfl, rfl⟩
    · rw [hw.named.auth _ _ _ _ generate] at hbefore hafter
      exact .inr (pendingYields_lt (milestones_kept rfl id fun _ => hlen) (m := .apiserverAuth)
        (hbefore.resolve_right (hnot_ssh (by decide))) hafter)
    · rw [hw.named.ssh _ _ _ _ generate] at hbefore hafter
      refine .inr (pendingYields_lt (milestones_kept rfl id fun _ => hlen) (m := .apiserverSSH) ?_
        (by simp only [Milestone.reached, hafter, Bool.true_and, bne_iff_ne]; exact hlen))
      rcases hbefore with h | ⟨-, -, h⟩ <;> simp [Milestone.reached, h]

end

/-! ## Runs of working calls -/

section

variable {cc}

end

/-! ## Runs of a sample cluster -/

/-- The sample secret generators hand back no cluster. -/
theorem workingEnv_setsOnlySSH (w : World) : (workingEnv w).SetsOnlySSH :=
  fun _ _ _ _ h => by rcases h with h | h <;> cases h

section

variable {w : World}

end

end Kubermatic
