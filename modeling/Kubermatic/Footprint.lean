import Kubermatic.Crash

/-!
# What a call touches

A call of `syncPendingCluster` acts on the world in two ways: on the orchestrator, by the
creates and deletes of its clients, and on the cluster's event stream, by
`recordClusterEvent`. This module says what each looks like, for every record and every
behaviour of the collaborators.

* `Log` — the shape of a call's side effects: side effects the orchestrator acknowledged,
  each create directly followed by the `Created ...` event of its kind that names the
  object it created (add-ons are created without one), ended by at most one side effect
  that failed, or by the event of an unknown master version;
* `syncPendingCluster_logged` — when the generators name their objects after their
  entries, every call's side effects have that shape, and a call that answers no error
  had every side effect acknowledged;
* `Owned` — the objects a call may touch: those of the cluster's namespace
  `cluster-<name>`, where its add-ons live too, and cluster role bindings;
* `run_frame` — along every run of calls, whatever their side effects did, an object the
  cluster does not own is held at the end exactly when it was held at the start.
-/

namespace Kubermatic

/-! ## The shape of a call's side effects -/

/-- The formats of the events that report the create of an object of kind `k`; the public
service has a format of its own, and add-ons are reported by none. -/
def createdFormats : Kind → List String
  | .secret => ["Created secret %q"]
  | .service => ["Created apiserver service %q", "Created service %q"]
  | .serviceAccount => ["Created service account %q"]
  | .clusterRoleBinding => ["Created binding %q"]
  | .configMap => ["Created cm %q"]
  | .persistentVolumeClaim => ["Created pvc %q"]
  | .deployment => ["Created dep %q"]
  | .etcdCluster => ["Created etcd-cluster"]
  | .clusterAddon => []

/-- The arguments of an event of format `format` that reports the object `name` of the
namespace `ns`: secrets and the public service by their key `<ns>/<name>`, every other
object by its name. -/
def reportedArgs (format ns name : String) : List String :=
  if format = "Created secret %q" ∨ format = "Created apiserver service %q" then [ns ++ "/" ++ name]
  else [name]

/-- A side effect the orchestrator acknowledged, with the event that reports it: an event
of the created kind's format, naming the created object, recorded in phase `launching`, or
`pending` for a secret. -/
inductive Reported : List Action → Prop
  | create {k : Kind} {ns : String} {obj : Object} {phase format : String}
      (hf : format ∈ createdFormats k) (hphase : phase = "launching" ∨ k = .secret ∧ phase = "pending") :
      Reported [.create k ns obj none, .event phase format (reportedArgs format ns obj.name)]
  /-- `launchingCheckDefaultPlugins` records no event. -/
  | addon {ns : String} {obj : Object} : Reported [.create .clusterAddon ns obj none]
  | delete {ns name : String} : Reported [.delete .secret ns name none]

/-- Side effects that were all acknowledged, each create reported. -/
inductive Clean : List Action → Prop
  | nil : Clean []
  | cons {b acts : List Action} : Reported b → Clean acts → Clean (b ++ acts)

/-- How a call's side effects end: with nothing more, with one create or delete that
failed, or with the event of an unknown master version. -/
inductive Stop : List Action → Prop
  | none : Stop []
  | createFailed {k : Kind} {ns : String} {obj : Object} {err : Error} :
      Stop [.create k ns obj (some err)]
  | deleteFailed {k : Kind} {ns name : String} {err : Error} : Stop [.delete k ns name (some err)]
  | unknownVersion {args : List String} :
      Stop [.event "launching" "Failed to create new cluster %q due to unknown master version %q" args]

/-- The shape of a call's side effects: acknowledged ones, then how they stopped. -/
def Log (acts : List Action) : Prop := ∃ pre last, Clean pre ∧ Stop last ∧ acts = pre ++ last

/-- An answer whose side effects have the shape of a log, all acknowledged when it
answers no error. -/
def Outcome.Logged (o : Outcome) : Prop := Log o.actions ∧ (o.err = none → Clean o.actions)

theorem Reported.create_of {k : Kind} {ns : String} {obj : Object} {phase format : String}
    {args : List String} (hf : format ∈ createdFormats k)
    (hphase : phase = "launching" ∨ k = .secret ∧ phase = "pending")
    (hargs : args = reportedArgs format ns obj.name) :
    Reported [.create k ns obj none, .event phase format args] :=
  hargs ▸ .create hf hphase

/-- An object other than a secret or the public service is reported by its name. -/
theorem reportedArgs_name {format ns name : String}
    (h : format ≠ "Created secret %q" ∧ format ≠ "Created apiserver service %q") :
    reportedArgs format ns name = [name] :=
  if_neg fun h' => h'.elim h.1 h.2

theorem Clean.single {b : List Action} (h : Reported b) : Clean b := by
  simpa using Clean.cons h .nil

theorem Clean.append {acts acts' : List Action} (h : Clean acts) (h' : Clean acts') :
    Clean (acts ++ acts') := by
  induction h with
  | nil => exact h'
  | cons hb _ ih => rw [List.append_assoc]; exact .cons hb ih

theorem Log.clean_append {acts acts' : List Action} (h : Clean acts) (h' : Log acts') :
    Log (acts ++ acts') := by
  obtain ⟨pre, last, hpre, hlast, rfl⟩ := h'
  exact ⟨acts ++ pre, last, h.append hpre, hlast, (List.append_assoc ..).symm⟩

namespace Outcome

theorem Logged.of_clean {o : Outcome} (h : Clean o.actions) : o.Logged :=
  ⟨⟨o.actions, [], h, .none, (List.append_nil _).symm⟩, fun _ => h⟩

theorem Logged.of_stop {o : Outcome} (h : Stop o.actions) (herr : o.err.isSome) : o.Logged :=
  ⟨⟨[], o.actions, .nil, h, rfl⟩, fun he => by rw [he] at herr; cases herr⟩

/-- An answer that lets its caller go on had every side effect acknowledged, so the side
effects of the rest follow them in the log. -/
theorem Logged.andThen {o : Outcome} {k : Cluster → Outcome} (h : Clean o.actions)
    (hk : (k o.cluster).Logged) : (o.andThen k).Logged :=
  ⟨Log.clean_append h hk.1, fun he => h.append (hk.2 he)⟩

theorem Logged.orYield {o : Outcome} {k : Cluster → Outcome} (h : o.Logged)
    (hk : ∀ c, (k c).Logged) : (o.orYield k).Logged := by
  cases hr : o.returned
  · rw [orYield_of_not_returned hr]
    exact .andThen (h.2 (err_of_returned hr)) (hk _)
  · rwa [orYield_of_returned hr]

theorem Logged.orFail {o : Outcome} {k : Cluster → Outcome} (h : o.Logged)
    (hk : ∀ c, (k c).Logged) : (o.orFail k).Logged := by
  cases he : o.err
  · rw [orFail_of_ok he]
    exact .andThen (h.2 he) (hk _)
  · rwa [orFail_of_err (by rw [he]; rfl)]

end Outcome

open Outcome

theorem forRange_logged {α : Type} {xs : List α} {body : α → Cluster → Outcome}
    (h : ∀ x ∈ xs, ∀ c, (body x c).Logged) (c : Cluster) : (forRange xs body c).Logged := by
  induction xs generalizing c with
  | nil => exact .of_clean .nil
  | cons x xs ih => exact (h x (.head _) c).orYield (ih fun y hy => h y (.tail _ hy))

/-! ## Each step's side effects -/

section

variable {cc : Controller} {env : Env} (hn : env.Named cc) (c : Cluster)
include hn

omit hn in
/-- The skeleton's create is reported when its event names the generated object. -/
theorem ensureObject_logged {k : Kind} {format : String} (hf : format ∈ createdFormats k)
    {ns : String} {probe : Except Error Bool} {gen : Except Error Object}
    {genErr createErr : Error → Error} {args : List String} {ret : Option Cluster}
    (hargs : ∀ obj, gen = .ok obj → args = reportedArgs format ns obj.name) :
    (ensureObject env k ns probe gen genErr createErr format args ret c).Logged := by
  unfold ensureObject
  split
  · exact .of_clean .nil
  · exact .of_clean .nil
  · split
    · exact .of_clean .nil
    · split
      · exact .of_stop .createFailed rfl
      · exact .of_clean (.single (.create_of hf (.inl rfl) (hargs _ rfl)))

omit hn in
/-- A loop over a map visited in any order is logged when the body of each entry is. -/
theorem forRange_rangeOrder_logged {α : Type} {xs : List α} {body : α → Cluster → Outcome}
    (h : ∀ x ∈ xs, ∀ c, (body x c).Logged) : (forRange (env.rangeOrder xs) body c).Logged :=
  forRange_logged (fun x hx => h x ((env.rangeOrder_perm _).mem_iff.mp hx)) c

omit hn in
theorem pendingCreateRootCA_logged : (pendingCreateRootCA cc env c).Logged :=
  .of_clean (by rw [pendingCreateRootCA_actions]; exact .nil)

theorem launchingCheckTokenUsers_logged : (launchingCheckTokenUsers env c).Logged :=
  ensureObject_logged c (by decide) fun _ h => by
    rw [hn.tokenUsers _ _ h, reportedArgs, if_pos (.inl rfl), String.append_assoc]; rfl

theorem launchingCheckApiserverPublicService_logged :
    (launchingCheckApiserverPublicService cc env c).Logged := by
  unfold launchingCheckApiserverPublicService
  dsimp only
  split
  · exact .of_clean .nil
  · exact .of_clean .nil
  · split
    · exact .of_clean .nil
    · split
      · exact .of_clean .nil
      · rename_i service hgen
        split
        · exact .of_stop .createFailed rfl
        · refine .of_clean (.single (.create_of (by decide) (.inl rfl) ?_))
          rw [hn.services _ _ _ hgen, reportedArgs, if_pos (.inr rfl)]

theorem launchingCheckServiceAccounts_logged : (launchingCheckServiceAccounts cc env c).Logged := by
  refine forRange_rangeOrder_logged c fun x hx c => ?_
  rw [List.mem_singleton] at hx
  subst hx
  exact ensureObject_logged c (by decide) fun _ h => by
    rw [hn.serviceAccounts _ _ h, reportedArgs_name (by decide)]

theorem launchingCheckClusterRoleBindings_logged :
    (launchingCheckClusterRoleBindings cc env c).Logged := by
  refine forRange_rangeOrder_logged c fun x hx c => ?_
  rw [List.mem_singleton] at hx
  subst hx
  dsimp only
  split
  · exact .of_clean .nil
  · rename_i binding hgen
    split
    · exact .of_clean .nil
    · exact .of_clean .nil
    · split
      · exact .of_stop .createFailed rfl
      · refine .of_clean (.single (.create_of (by decide) (.inl rfl) ?_))
        rw [hn.clusterRoleBindings _ _ _ hgen, reportedArgs_name (by decide)]

theorem launchingCheckServices_logged : (launchingCheckServices cc env c).Logged := by
  refine forRange_rangeOrder_logged c fun x hx c => ?_
  rw [List.mem_singleton] at hx
  subst hx
  exact ensureObject_logged c (by decide) fun _ h => by
    rw [hn.services _ _ _ h, reportedArgs_name (by decide)]

omit hn in
theorem deleteSecret_logged (ns s : String) : (deleteSecret env ns s c).Logged := by
  unfold deleteSecret
  split
  · exact .of_stop .deleteFailed rfl
  · exact .of_clean (.single .delete)

omit hn in
/-- The create of a secret is reported by its key when its generator names it after its
entry. -/
theorem createSecret_logged (ns s : String) {gen : SecretGenerator}
    (hgen : ∀ c t changed obj, gen c t = .ok (changed, obj) → obj.name = s) :
    (createSecret cc env ns (ns ++ "/" ++ s) s gen c).Logged := by
  unfold createSecret
  split
  · exact .of_clean .nil
  · split
    · exact .of_clean .nil
    · rename_i changed obj hg
      split
      · exact .of_stop .createFailed rfl
      · refine .of_clean (.single (.create_of (by decide) (.inr ⟨rfl, rfl⟩) ?_))
        rw [hgen _ _ _ _ hg, reportedArgs, if_pos (.inl rfl)]

omit hn in
theorem checkSecret_logged (ns : String) (recreateSecrets : List String)
    {entry : String × SecretGenerator}
    (hgen : ∀ c t changed obj, entry.2 c t = .ok (changed, obj) → obj.name = entry.1) :
    (checkSecret cc env ns recreateSecrets entry c).Logged := by
  unfold checkSecret
  dsimp only
  split
  · exact .of_clean .nil
  · split
    · exact .of_clean .nil
    · refine Logged.orYield ?_ fun c => createSecret_logged c _ _ hgen
      split
      · exact deleteSecret_logged c _ _
      · exact .of_clean .nil

theorem pendingCheckSecrets_logged : (pendingCheckSecrets cc env c).Logged := by
  refine forRange_rangeOrder_logged c fun x hx c => ?_
  simp only [List.mem_cons, List.mem_singleton, List.mem_nil_iff, or_false] at hx
  rcases hx with rfl | rfl
  · exact checkSecret_logged c _ _ hn.auth
  · exact checkSecret_logged c _ _ hn.ssh

theorem launchingCheckConfigMaps_logged : (launchingCheckConfigMaps env c).Logged := by
  refine forRange_rangeOrder_logged c fun x hx c => ?_
  unfold launchingCheckConfigMaps at hx
  split at hx
  · rw [List.mem_singleton] at hx
    subst hx
    exact ensureObject_logged c (by decide) fun _ h => by
      rw [hn.configMap _ _ h, reportedArgs_name (by decide)]
  · cases hx

omit hn in
theorem launchingCheckPvcs_logged : (launchingCheckPvcs cc env c).Logged :=
  .of_clean (by rw [launchingCheckPvcs_actions]; exact .nil)

omit hn in
theorem unknownMasterVersion_logged : (unknownMasterVersion env c).Logged :=
  .of_stop .unknownVersion rfl

theorem launchingCheckDeployments_logged : (launchingCheckDeployments cc env c).Logged := by
  unfold launchingCheckDeployments
  dsimp only
  split
  · exact unknownMasterVersion_logged _
  · rename_i masterVersion hv
    split
    · exact .of_clean .nil
    · refine forRange_rangeOrder_logged _ fun ⟨s, yamlFile⟩ hx c => ?_
      exact ensureObject_logged c (by decide) fun _ h => by
        rw [(hn.deployments _ _ _ _ _ _ hv hx h).1, reportedArgs_name (by decide)]

omit hn in
theorem launchingCheckEtcdCluster_logged : (launchingCheckEtcdCluster cc env c).Logged := by
  unfold launchingCheckEtcdCluster
  dsimp only
  split
  · exact unknownMasterVersion_logged _
  · split
    · exact .of_clean .nil
    · split
      · exact .of_clean .nil
      · exact .of_clean .nil
      · split
        · exact .of_stop .createFailed rfl
        · exact .of_clean
            (.single (.create_of (by decide) (.inl rfl) (reportedArgs_name (by decide)).symm))

omit hn in
theorem launchingCheckDefaultPlugins_logged : (launchingCheckDefaultPlugins env c).Logged := by
  refine forRange_logged (fun ⟨safeName, name⟩ _ c => ?_) c
  dsimp only
  split
  · exact .of_clean .nil
  · exact .of_clean .nil
  · split
    · exact .of_stop .createFailed rfl
    · exact .of_clean (.single .addon)

end

/-- **The side effects of a call are a log of what it did.** Whatever the record, and
whatever the collaborators answer as long as the generators name their objects after
their entries, a call's side effects are creates and deletes the orchestrator
acknowledged, each create directly followed by the `Created ...` event of its kind that
names the object it created (add-ons are created without one), ended by at most one
create or delete that failed or by the event of an unknown master version; and a call
that answers no error had every side effect acknowledged. -/
theorem syncPendingCluster_logged {cc : Controller} {env : Env} (hn : env.Named cc) (c : Cluster) :
    (syncPendingCluster cc env c).Logged := by
  unfold syncPendingCluster
  split
  · exact .of_clean .nil
  · exact (pendingCreateRootCA_logged c).orYield fun c =>
      (launchingCheckTokenUsers_logged hn c).orYield fun c =>
      (launchingCheckApiserverPublicService_logged hn c).orYield fun c =>
      (launchingCheckServiceAccounts_logged hn c).orFail fun c =>
      (launchingCheckClusterRoleBindings_logged hn c).orFail fun c =>
      (launchingCheckServices_logged hn c).orYield fun c =>
      (pendingCheckSecrets_logged hn c).orYield fun c =>
      (launchingCheckConfigMaps_logged hn c).orYield fun c =>
      (launchingCheckPvcs_logged c).orFail fun c =>
      (launchingCheckDeployments_logged hn c).orFail fun c =>
      (launchingCheckEtcdCluster_logged c).orFail fun c =>
      (launchingCheckDefaultPlugins_logged c).orFail fun _ => .of_clean .nil

/-- The call that follows `servedWorld` creates the rest of the pipeline, each create
reported by the event of its kind. -/
theorem servedWorld_logged :
    (workingEnv servedWorld).Named sampleController ∧
      (syncPendingCluster sampleController (workingEnv servedWorld) servedWorld.record).Logged :=
  ⟨workingEnv_named rfl _, syncPendingCluster_logged (workingEnv_named rfl _) _⟩

/-! ## What a run leaves alone -/

/-- The objects of the cluster named `name`: those of its namespace `cluster-<name>`,
where its add-ons live too, and cluster role bindings, which have no namespace. -/
def Owned (name : String) (r : Resource) : Prop :=
  r.ns = namespaceName name ∨ (r.kind = .clusterRoleBinding ∧ r.ns = "")

instance (name : String) (r : Resource) : Decidable (Owned name r) :=
  inferInstanceAs (Decidable (_ ∨ _))

variable {cc : Controller}

theorem Creates.owned {env : Env} {c : Cluster} {i : Nat} {k : Kind} {ns : String} {obj : Object}
    (h : Creates cc env c i k ns obj) : Owned c.metadata.name ⟨k, ns, obj⟩ := by
  cases h <;> first | exact .inl rfl | exact .inr ⟨rfl, rfl⟩

/-- A cluster a call answers has the name of the record, when secret generators change
nothing but the SSH material. -/
theorem answered_metadata {env : Env} {c x : Cluster} (hssh : env.SetsOnlySSH)
    (hans : Answered cc env c x) : x.metadata = c.metadata := by
  cases hans with
  | launched | unknownVersion => exact withMasterVersion_metadata cc c
  | rootCA | tokenUsers | apiserverService => rfl
  | secret entry generate =>
    obtain ⟨ssh, -, rfl⟩ := hssh.answered entry generate
    rfl

section

variable {Allowed : World → Env → Prop} (hA : ∀ w env, Allowed w env → env.SetsOnlySSH)
include hA

/-- One call keeps the record's name, and holds an object the cluster does not own
exactly when the world before it did. -/
theorem step_frame {w w' : World} (hs : Step cc Allowed w w') :
    w'.record.metadata = w.record.metadata ∧
      ∀ r, ¬Owned w.record.metadata.name r → (r ∈ w'.objects ↔ r ∈ w.objects) := by
  refine ⟨?_, fun r hr => ?_⟩
  · rcases hs.record_cases with h | ⟨env, hal, hx⟩
    · rw [h]
    · exact answered_metadata (hA _ _ hal) (syncPendingCluster_answered cc env hx)
  · cases hs with
    | call persist allowed effects =>
      refine ⟨fun hm => ?_, fun hm => effects_mem_of_not_deleted effects hm fun err hd =>
        hr (.inl (syncPendingCluster_deletes cc _ hd).2.1)⟩
      rcases effects_mem effects hm with hm | ⟨err, hc⟩
      · exact hm
      · obtain ⟨_, _, _, _, hcr⟩ := syncPendingCluster_creates cc _ hc
        exact absurd hcr.owned hr

/-- **A run touches only its cluster's objects.** Along every run of calls whose secret
generators change nothing but the SSH material, whatever their creates and deletes did
and whether their records were persisted, an object outside the cluster's namespace
`cluster-<name>`, cluster role bindings apart, is held at the end exactly when it was
held at the start: a run creates, deletes and replaces no other cluster's objects. -/
theorem run_frame {w w' : World} (hrun : Relation.ReflTransGen (Step cc Allowed) w w')
    (r : Resource) (hr : ¬Owned w.record.metadata.name r) : r ∈ w'.objects ↔ r ∈ w.objects := by
  suffices h : w'.record.metadata = w.record.metadata ∧ (r ∈ w'.objects ↔ r ∈ w.objects) from h.2
  induction hrun with
  | refl => exact ⟨rfl, .rfl⟩
  | tail _ hs ih =>
    obtain ⟨hmeta, hframe⟩ := step_frame hA hs
    exact ⟨hmeta.trans ih.1, (hframe r (by rwa [ih.1])).trans ih.2⟩

end

/-- The token-users secret of another cluster, `c2`, under the name `c1`'s first calls
create in their own namespace. -/
def otherSecret : Resource := ⟨.secret, "cluster-c2", named "token-users"⟩

/-- The fresh cluster `c1` next to the secret of `c2`. -/
def otherClusterWorld : World := ⟨freshCluster, [otherSecret]⟩

/-- The calls of `c1` that mint its CA and create its own token-users secret keep the
secret of `c2`. -/
theorem otherClusterWorld_frame :
    ¬Owned otherClusterWorld.record.metadata.name otherSecret ∧
    (otherSecret ∈ (workingStep sampleController true
        (workingStep sampleController true otherClusterWorld)).objects ↔
      otherSecret ∈ otherClusterWorld.objects) :=
  ⟨by decide, run_frame (fun _ _ h => h.2)
    ((Relation.ReflTransGen.single (workingStep_step true (workingEnv_crashAllowed _) (by decide))).tail
      (workingStep_step true (workingEnv_crashAllowed _) (by decide))) otherSecret (by decide)⟩

end Kubermatic
