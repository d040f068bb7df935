import Kubermatic.Steps

/-!
# `syncPendingCluster` and the pipeline it runs

`syncPendingCluster` is the literal translation of the Go function: a timeout check,
twelve steps each followed by the check Go writes after it, and the final write of the
`Launching` phase. Read as data, the same function is a list of stages, each a step
together with the way its answer is checked, run by one driver (`runStages`); the two
agree by definition (`syncPendingCluster_eq_runStages`). Whole-call results are proved
about the driver, by induction over the stages:

* `runStages_cases`, `syncPendingCluster_cases` — a call ends at its timeout check, after
  every step, or at the first step whose check returns, after the steps before it let it
  through (`passThrough`);
* `Enters` — which steps a call runs, on which record, after which side effects;
* `pendingStages_cases` — a fact about the step at any index, from one case per step.
-/

namespace Kubermatic

variable (cc : Controller) (env : Env)

/-- The last lines of `syncPendingCluster`: the transition time and the `Launching`
phase are written and the cluster is returned. -/
def launched (c : Cluster) : Outcome :=
  let c := { c with status.lastTransitionTime := env.now, status.phase := .launching }
  ⟨c, [], some c, none⟩

/-- `syncPendingCluster`. -/
def syncPendingCluster (c : Cluster) : Outcome :=
  match env.checkTimeout c with
  | some err => ⟨c, [], none, some err⟩
  | none =>
    (pendingCreateRootCA cc env c).orYield fun c =>
    (launchingCheckTokenUsers env c).orYield fun c =>
    (launchingCheckApiserverPublicService cc env c).orYield fun c =>
    (launchingCheckServiceAccounts cc env c).orFail fun c =>
    (launchingCheckClusterRoleBindings cc env c).orFail fun c =>
    (launchingCheckServices cc env c).orYield fun c =>
    (pendingCheckSecrets cc env c).orYield fun c =>
    -- `changedC` here is still the nil of the secrets step
    (launchingCheckConfigMaps env c).orYield fun c =>
    (launchingCheckPvcs cc env c).orFail fun c =>
    (launchingCheckDeployments cc env c).orFail fun c =>
    (launchingCheckEtcdCluster cc env c).orFail fun c =>
    (launchingCheckDefaultPlugins env c).orFail fun c =>
    launched env c

/-! ## The pipeline as data -/

/-- How `syncPendingCluster` looks at the answer of a step. -/
inductive Check where
  /-- `if err != nil || changedC != nil { return changedC, err }` -/
  | errOrChanged
  /-- `if err != nil { return changedC, err }` -/
  | errOnly
  deriving DecidableEq, Repr

/-- A step of the pipeline: the function it calls and the check that follows it. -/
structure Stage where
  name : String
  run : Cluster → Outcome
  check : Check

/-- The step `s` answered `o`, checked, followed by the rest `k` of the pipeline. -/
def Stage.next (s : Stage) (o : Outcome) (k : Cluster → Outcome) : Outcome :=
  match s.check with
  | .errOrChanged => o.orYield k
  | .errOnly => o.orFail k

/-- The check after `s` lets the answer `o` through to the next stage. -/
def Stage.passes (s : Stage) (o : Outcome) : Bool :=
  match s.check with
  | .errOrChanged => !o.returned
  | .errOnly => o.err.isNone

/-- Run the stages in order, each on the record the previous ones left, until a check
returns; after the last stage, `launched`. -/
def runStages : List Stage → Cluster → Outcome
  | [], c => launched env c
  | s :: ss, c => s.next (s.run c) (runStages ss)

/-- The steps of `syncPendingCluster` after its timeout check. -/
def pendingStages : List Stage :=
  [⟨"pendingCreateRootCA", pendingCreateRootCA cc env, .errOrChanged⟩,
   ⟨"launchingCheckTokenUsers", launchingCheckTokenUsers env, .errOrChanged⟩,
   ⟨"launchingCheckApiserverPublicService", launchingCheckApiserverPublicService cc env, .errOrChanged⟩,
   ⟨"launchingCheckServiceAccounts", launchingCheckServiceAccounts cc env, .errOnly⟩,
   ⟨"launchingCheckClusterRoleBindings", launchingCheckClusterRoleBindings cc env, .errOnly⟩,
   ⟨"launchingCheckServices", launchingCheckServices cc env, .errOrChanged⟩,
   ⟨"pendingCheckSecrets", pendingCheckSecrets cc env, .errOrChanged⟩,
   ⟨"launchingCheckConfigMaps", launchingCheckConfigMaps env, .errOrChanged⟩,
   ⟨"launchingCheckPvcs", launchingCheckPvcs cc env, .errOnly⟩,
   ⟨"launchingCheckDeployments", launchingCheckDeployments cc env, .errOnly⟩,
   ⟨"launchingCheckEtcdCluster", launchingCheckEtcdCluster cc env, .errOnly⟩,
   ⟨"launchingCheckDefaultPlugins", launchingCheckDefaultPlugins env, .errOnly⟩]

/-- The Go function is the pipeline driver run over its steps. -/
theorem syncPendingCluster_eq_runStages (c : Cluster) :
    syncPendingCluster cc env c =
      match env.checkTimeout c with
      | some err => ⟨c, [], none, some err⟩
      | none => runStages env (pendingStages cc env) c := rfl

section

variable {cc env}

/-- Case analysis over the pipeline: what holds of each of the twelve steps, at its own
index, holds of the step at any index. -/
@[elab_as_elim]
theorem pendingStages_cases {motive : Nat → Stage → Prop}
    (rootCA : motive 0 ⟨"pendingCreateRootCA", pendingCreateRootCA cc env, .errOrChanged⟩)
    (tokenUsers : motive 1 ⟨"launchingCheckTokenUsers", launchingCheckTokenUsers env, .errOrChanged⟩)
    (publicService : motive 2 ⟨"launchingCheckApiserverPublicService",
      launchingCheckApiserverPublicService cc env, .errOrChanged⟩)
    (serviceAccounts : motive 3
      ⟨"launchingCheckServiceAccounts", launchingCheckServiceAccounts cc env, .errOnly⟩)
    (roleBindings : motive 4
      ⟨"launchingCheckClusterRoleBindings", launchingCheckClusterRoleBindings cc env, .errOnly⟩)
    (services : motive 5 ⟨"launchingCheckServices", launchingCheckServices cc env, .errOrChanged⟩)
    (secrets : motive 6 ⟨"pendingCheckSecrets", pendingCheckSecrets cc env, .errOrChanged⟩)
    (configMaps : motive 7
      ⟨"launchingCheckConfigMaps", launchingCheckConfigMaps env, .errOrChanged⟩)
    (pvcs : motive 8 ⟨"launchingCheckPvcs", launchingCheckPvcs cc env, .errOnly⟩)
    (deployments : motive 9 ⟨"launchingCheckDeployments", launchingCheckDeployments cc env, .errOnly⟩)
    (etcd : motive 10 ⟨"launchingCheckEtcdCluster", launchingCheckEtcdCluster cc env, .errOnly⟩)
    (plugins : motive 11
      ⟨"launchingCheckDefaultPlugins", launchingCheckDefaultPlugins env, .errOnly⟩)
    {i : Nat} {s : Stage} (hs : (pendingStages cc env)[i]? = some s) : motive i s :=
  match i, hs with
  | 0, rfl => rootCA
  | 1, rfl => tokenUsers
  | 2, rfl => publicService
  | 3, rfl => serviceAccounts
  | 4, rfl => roleBindings
  | 5, rfl => services
  | 6, rfl => secrets
  | 7, rfl => configMaps
  | 8, rfl => pvcs
  | 9, rfl => deployments
  | 10, rfl => etcd
  | 11, rfl => plugins
  | _ + 12, hs => by simp [pendingStages] at hs

end

/-! ## Runs of the pipeline -/

theorem Stage.next_of_passes {s : Stage} {o : Outcome} (h : s.passes o = true)
    (k : Cluster → Outcome) : s.next o k = o.andThen k := by
  unfold Stage.next; unfold Stage.passes at h
  split <;> rename_i hc <;> simp only [hc] at h
  · exact Outcome.orYield_of_not_returned (by simpa using h) k
  · exact Outcome.orFail_of_ok (by simpa using h) k

theorem Stage.next_of_not_passes {s : Stage} {o : Outcome} (h : s.passes o = false)
    (k : Cluster → Outcome) : s.next o k = o := by
  unfold Stage.next; unfold Stage.passes at h
  split <;> rename_i hc <;> simp only [hc] at h
  · exact Outcome.orYield_of_returned (by simpa using h) k
  · exact Outcome.orFail_of_err (by simpa [Option.isNone_iff_eq_none] using h) k

/-- Running `ss` from `c` with every check passing: the record the last stage leaves, and
the side effects of all of them; `none` when some check returns. -/
def passThrough : List Stage → Cluster → Option (Cluster × List Action)
  | [], c => some (c, [])
  | s :: ss, c =>
    if s.passes (s.run c) then
      (passThrough ss (s.run c).cluster).map fun p => (p.1, (s.run c).actions ++ p.2)
    else none

theorem passThrough_cons {s : Stage} {ss : List Stage} {c r : Cluster} {acts : List Action}
    (h : passThrough (s :: ss) c = some (r, acts)) :
    s.passes (s.run c) = true ∧ ∃ acts', passThrough ss (s.run c).cluster = some (r, acts') ∧
      acts = (s.run c).actions ++ acts' := by
  simp only [passThrough] at h
  split at h
  · obtain ⟨⟨r', a'⟩, hp, he⟩ := Option.map_eq_some'.mp h
    simp only [Prod.mk.injEq] at he
    exact ⟨‹_›, a', he.1 ▸ hp, he.2.symm⟩
  · cases h

/-- A property of the record that every passing stage keeps holds of the record a run of
passing stages leaves. -/
theorem passThrough_induction (P : Cluster → Prop) {ss : List Stage}
    (h : ∀ s ∈ ss, ∀ x, P x → s.passes (s.run x) = true → P (s.run x).cluster)
    {c r : Cluster} {acts : List Action} (hc : P c) (hp : passThrough ss c = some (r, acts)) :
    P r := by
  induction ss generalizing c acts with
  | nil => simp only [passThrough, Option.some.injEq, Prod.mk.injEq] at hp; exact hp.1 ▸ hc
  | cons s ss ih =>
    obtain ⟨hs, acts', hp', -⟩ := passThrough_cons hp
    exact ih (fun t ht => h t (.tail _ ht)) (h s (.head _) c hc hs) hp'

theorem passThrough_append {pre post : List Stage} {c r : Cluster} {acts : List Action}
    (h : passThrough (pre ++ post) c = some (r, acts)) :
    ∃ r' a a', passThrough pre c = some (r', a) ∧ passThrough post r' = some (r, a') ∧
      acts = a ++ a' := by
  induction pre generalizing c acts with
  | nil => exact ⟨c, [], acts, rfl, h, rfl⟩
  | cons s pre ih =>
    obtain ⟨hs, acts', hp, rfl⟩ := passThrough_cons h
    obtain ⟨r', a, a', h1, h2, rfl⟩ := ih hp
    exact ⟨r', (s.run c).actions ++ a, a', by simp [passThrough, hs, h1], h2, by simp⟩

/-- After a prefix of stages that all pass, the run goes on from the record they leave. -/
theorem runStages_append {pre : List Stage} {c r : Cluster} {acts : List Action}
    (h : passThrough pre c = some (r, acts)) (post : List Stage) :
    runStages env (pre ++ post) c =
      { runStages env post r with actions := acts ++ (runStages env post r).actions } := by
  induction pre generalizing c acts with
  | nil => simp only [passThrough, Option.some.injEq, Prod.mk.injEq] at h; obtain ⟨rfl, rfl⟩ := h; rfl
  | cons s pre ih =>
    simp only [passThrough] at h
    split at h
    · rename_i hs
      obtain ⟨⟨r', acts'⟩, hp, he⟩ := Option.map_eq_some'.mp h
      simp only [Prod.mk.injEq] at he
      obtain ⟨rfl, rfl⟩ := he
      have hrun : runStages env (s :: (pre ++ post)) c =
          (s.run c).andThen (runStages env (pre ++ post)) := by
        simp only [runStages, Stage.next_of_passes hs]
      rw [List.cons_append, hrun, Outcome.andThen, ih hp]
      simp
    · cases h

/-- **How a run ends.** Either every stage passes and the call ends in `launched`, or the
run stops at the first stage whose check returns, after the stages before it passed. -/
theorem runStages_cases (ss : List Stage) (c : Cluster) :
    (∃ r acts, passThrough ss c = some (r, acts) ∧
      runStages env ss c = { launched env r with actions := acts }) ∨
    (∃ k s r acts, ss[k]? = some s ∧ passThrough (ss.take k) c = some (r, acts) ∧
      s.passes (s.run r) = false ∧
      runStages env ss c = { s.run r with actions := acts ++ (s.run r).actions }) := by
  induction ss generalizing c with
  | nil => exact .inl ⟨c, [], rfl, rfl⟩
  | cons s ss ih =>
    cases hs : s.passes (s.run c) with
    | false =>
      exact .inr ⟨0, s, c, [], by simp, rfl, hs, by simp [runStages, Stage.next_of_not_passes hs]⟩
    | true =>
      have hrun : runStages env (s :: ss) c = (s.run c).andThen (runStages env ss) := by
        simp only [runStages, Stage.next_of_passes hs]
      rcases ih (s.run c).cluster with ⟨r, acts, hp, he⟩ | ⟨k, t, r, acts, hk, hp, ht, he⟩
      · refine .inl ⟨r, (s.run c).actions ++ acts, by simp [passThrough, hs, hp], ?_⟩
        rw [hrun, Outcome.andThen, he]
      · refine .inr ⟨k + 1, t, r, (s.run c).actions ++ acts, by simpa using hk,
          by simp [passThrough, hs, hp], ht, ?_⟩
        rw [hrun, Outcome.andThen, he]; simp

/-! ## Which steps a call runs -/

/-- The call `syncPendingCluster c` passes its timeout check and then its first `k` steps,
leaving the record `r` and issuing `acts`; it then runs step `k` (counting from `0`) on
`r`, or, for `k = 12`, writes `Launching`. -/
def Enters (c : Cluster) (k : Nat) (r : Cluster) (acts : List Action) : Prop :=
  env.checkTimeout c = none ∧ passThrough ((pendingStages cc env).take k) c = some (r, acts)

/-- **How a call ends**: at the timeout check, after every step, or at the first step whose
check returns. -/
theorem syncPendingCluster_cases (c : Cluster) :
    (∃ err, env.checkTimeout c = some err ∧ syncPendingCluster cc env c = ⟨c, [], none, some err⟩) ∨
    (∃ r acts, Enters cc env c 12 r acts ∧
      syncPendingCluster cc env c = { launched env r with actions := acts }) ∨
    (∃ k s r acts, (pendingStages cc env)[k]? = some s ∧ Enters cc env c k r acts ∧
      s.passes (s.run r) = false ∧
      syncPendingCluster cc env c = { s.run r with actions := acts ++ (s.run r).actions }) := by
  rw [syncPendingCluster_eq_runStages]
  cases ht : env.checkTimeout c with
  | some err => exact .inl ⟨err, rfl, rfl⟩
  | none =>
    rcases runStages_cases env (pendingStages cc env) c with ⟨r, acts, hp, he⟩ | ⟨k, s, r, acts, hk, hp, hs, he⟩
    · exact .inr (.inl ⟨r, acts, ⟨ht, hp⟩, he⟩)
    · exact .inr (.inr ⟨k, s, r, acts, hk, ⟨ht, hp⟩, hs, he⟩)

end Kubermatic
