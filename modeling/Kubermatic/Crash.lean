import Kubermatic.Fresh

/-!
# Checkpointing across crashes

A call persists what it changed by answering the cluster; the caller writes it back.
The write can be lost (a crash, a failed update), and a create can take effect although
the call saw an error, so the orchestrator may hold what the record does not reflect.
This file states what a persisted record can be trusted for, whatever the failures.

* `Answered` and `syncPendingCluster_answered` — the clusters a call may answer: written
  `Launching` after every step, with a freshly minted CA, unchanged after the
  token-users secret, with the address of a freshly created public service, as a secret
  generator handed it back, or written `Failed` for an unknown master version;
* `reachable_crashSafe` — in every reachable world, a `Launching` record has its root CA
  key and certificate, and a record with an address has the public URL of its port, a
  port of the configured range, and its `apiserver` service in the orchestrator with
  that port as its `NodePort`;
* `syncPendingCluster_loses_address` — a record can reach `Launching` without an
  address: the write after the public service was created was lost, and later calls
  find the service and never write the address again.
-/

namespace Kubermatic

variable (cc : Controller) (env : Env)

/-! ## The assumptions -/

/-- The public service generated from a record whose port lies in the configured range
is named `apiserver` and carries that port, and no other, as its `NodePort`. -/
def Env.PublicNodePort : Prop :=
  ∀ c obj, cc.minAPIServerPort.toInt ≤ c.address.apiserverExternalPort.toInt →
    c.address.apiserverExternalPort.toInt ≤ cc.maxAPIServerPort.toInt →
    env.loadServiceFile c "apiserver" cc.masterResourcesPath = .ok obj →
    obj.name = "apiserver" ∧ obj.nodePorts.map BitVec.toInt = [c.address.apiserverExternalPort.toInt]

/-- A secret generator that hands back a changed cluster changes nothing in it but the
SSH material, which it sets. -/
def Env.SetsOnlySSH : Prop :=
  ∀ c t x obj, (env.createApiserverAuth c t = .ok (some x, obj) ∨
      env.createApiserverSSH c t = .ok (some x, obj)) →
    ∃ ssh, ssh ≠ [] ∧ x = { c with status.apiserverSSH := ssh }

/-- A secret generator of the secrets step that hands back a changed cluster only set its
SSH material. -/
theorem Env.SetsOnlySSH.answered {env : Env} (h : env.SetsOnlySSH) {c x : Cluster} {s : String}
    {gen : SecretGenerator} {t : Template} {obj : Object}
    (entry : (s, gen) ∈
      [("apiserver-auth", env.createApiserverAuth), ("apiserver-ssh", env.createApiserverSSH)])
    (generate : gen c t = .ok (some x, obj)) :
    ∃ ssh, ssh ≠ [] ∧ x = { c with status.apiserverSSH := ssh } := by
  simp only [List.mem_cons, Prod.mk.injEq, List.mem_singleton, List.mem_nil_iff, or_false] at entry
  rcases entry with ⟨rfl, rfl⟩ | ⟨rfl, rfl⟩
  · exact h c t x obj (.inl generate)
  · exact h c t x obj (.inr generate)

/-- The calls of the crash-safety result. -/
def CrashAllowed (_ : World) (env : Env) : Prop :=
  env.PublicNodePort cc ∧ env.SetsOnlySSH

/-! ## What a step answers -/

section

variable {cc env}
variable {c x : Cluster}

theorem pendingCreateRootCA_changed (h : (pendingCreateRootCA cc env c).changedC = some x) :
    c.status.rootCA.key = none ∧ (env.initcaNew (rootCARequest cc c)).err = none ∧
      x = { c with status.rootCA := ⟨(env.initcaNew (rootCARequest cc c)).key,
        (env.initcaNew (rootCARequest cc c)).cert⟩ } := by
  unfold pendingCreateRootCA at h
  dsimp only at h
  split at h
  · cases h
  · rename_i hkey
    split at h
    · cases h
    · rename_i herr
      cases h
      exact ⟨by simpa using hkey, herr, rfl⟩

theorem ensureObject_changed {k : Kind} {ns : String} {probe : Except Error Bool}
    {gen : Except Error Object} {genErr createErr : Error → Error} {format : String}
    {args : List String} {ret : Option Cluster} :
    (ensureObject env k ns probe gen genErr createErr format args ret c).changedC = some x →
      ret = some x ∧ ∃ obj, gen = .ok obj ∧
        (ensureObject env k ns probe gen genErr createErr format args ret c).actions =
          [.create k ns obj none, .event "launching" format args] := by
  unfold ensureObject
  split
  · intro h; cases h
  · intro h; cases h
  · split
    · intro h; cases h
    · split
      · intro h; cases h
      · exact fun h => ⟨h, _, rfl, rfl⟩

theorem launchingCheckApiserverPublicService_changed
    (h : (launchingCheckApiserverPublicService cc env c).changedC = some x) :
    ∃ port obj, getFreeNodePort cc env.services = (port, none) ∧
      x = { c with address := ⟨publicURL cc c.metadata.name port, port⟩ } ∧
      env.loadServiceFile x "apiserver" cc.masterResourcesPath = .ok obj ∧
      (launchingCheckApiserverPublicService cc env c).actions =
        [.create .service (namespaceName c.metadata.name) obj none,
          .event "launching" "Created apiserver service %q"
            [namespaceName c.metadata.name ++ "/" ++ "apiserver"]] := by
  revert h
  unfold launchingCheckApiserverPublicService
  dsimp only
  split
  · intro h; cases h
  · intro h; cases h
  · split
    · intro h; cases h
    · rename_i hfree
      split
      · intro h; cases h
      · rename_i obj hgen
        split
        · intro h; cases h
        · intro h
          cases h
          exact ⟨_, obj, Prod.ext rfl hfree, rfl, hgen, rfl⟩

theorem createSecret_changed {ns key s : String} {gen : SecretGenerator}
    (h : (createSecret cc env ns key s gen c).changedC = some x) :
    ∃ t obj, gen c t = .ok (some x, obj) ∧ (createSecret cc env ns key s gen c).actions =
      [.create .secret ns obj none, .event "pending" "Created secret %q" [key]] := by
  revert h
  unfold createSecret
  dsimp only
  split
  · intro h; cases h
  · rename_i t _
    split
    · intro h; cases h
    · rename_i changed obj hgen
      split
      · intro h; cases h
      · intro h
        cases h
        exact ⟨t, obj, hgen, rfl⟩

theorem checkSecret_changed {ns : String} {recreateSecrets : List String}
    {entry : String × SecretGenerator}
    (h : (checkSecret cc env ns recreateSecrets entry c).changedC = some x) :
    ∃ t obj pre, entry.2 c t = .ok (some x, obj) ∧
      (checkSecret cc env ns recreateSecrets entry c).actions =
        pre ++ [.create .secret ns obj none, .event "pending" "Created secret %q" [ns ++ "/" ++ entry.1]] := by
  revert h
  unfold checkSecret
  dsimp only
  split
  · intro h; cases h
  · split
    · intro h; cases h
    · rename_i found _ _
      have hdel := deleteIfFound_cluster env ns entry.1 found c
      intro h
      obtain ⟨hch, hacts⟩ := Outcome.orYield_changed hdel.2 h
      rw [hdel.1] at hch
      obtain ⟨t, obj, hgen, hlast⟩ := createSecret_changed hch
      rw [hacts, hdel.1, hlast]
      exact ⟨t, obj, _, hgen, rfl⟩

/-- A loop whose bodies keep the record answers what one of its bodies answered on it,
and that body's side effects are the last the loop issued. -/
theorem forRange_changed {α : Type} {xs : List α} {body : α → Cluster → Outcome}
    (hk : ∀ x c, (body x c).Keeps c) (h : (forRange xs body c).changedC = some x) :
    ∃ y ∈ xs, (body y c).changedC = some x ∧
      ∃ pre, (forRange xs body c).actions = pre ++ (body y c).actions := by
  induction xs with
  | nil => cases h
  | cons y xs ih =>
    simp only [forRange, Outcome.orYield] at h ⊢
    split at h
    · rename_i hr
      rw [if_pos hr]
      exact ⟨y, .head _, h, [], rfl⟩
    · rename_i hr
      rw [if_neg hr]
      rw [Outcome.andThen_changedC, hk y c (by simpa using hr)] at h
      obtain ⟨z, hz, hch, pre, hpre⟩ := ih h
      refine ⟨z, .tail _ hz, hch, (body y c).actions ++ pre, ?_⟩
      rw [Outcome.andThen_actions, hk y c (by simpa using hr), hpre, List.append_assoc]

theorem pendingCheckSecrets_changed (h : (pendingCheckSecrets cc env c).changedC = some x) :
    ∃ s gen t obj, (s, gen) ∈
        [("apiserver-auth", env.createApiserverAuth), ("apiserver-ssh", env.createApiserverSSH)] ∧
      gen c t = .ok (some x, obj) ∧ ∃ pre, (pendingCheckSecrets cc env c).actions =
        pre ++ [.create .secret (namespaceName c.metadata.name) obj none,
          .event "pending" "Created secret %q" [namespaceName c.metadata.name ++ "/" ++ s]] := by
  obtain ⟨⟨s, gen⟩, hx, hch, pre, hpre⟩ := forRange_changed (checkSecret_keeps cc env _ _) h
  obtain ⟨t, obj, pre', hgen, hlast⟩ := checkSecret_changed hch
  exact ⟨s, gen, t, obj, (env.rangeOrder_perm _).mem_iff.mp hx, hgen, pre ++ pre',
    hpre.trans (by rw [hlast, List.append_assoc])⟩

/-- The record `unknownMasterVersion` writes and answers. -/
theorem unknownMasterVersion_changedC (c : Cluster) :
    (unknownMasterVersion env c).changedC =
      some { c with status.lastTransitionTime := env.now, status.phase := .failed } := rfl

theorem launchingCheckDeployments_changed
    (h : (launchingCheckDeployments cc env c).changedC = some x) :
    cc.versions.lookup (withMasterVersion cc c).spec.masterVersion = none ∧
      x = { withMasterVersion cc c with status.lastTransitionTime := env.now, status.phase := .failed } := by
  revert h
  unfold launchingCheckDeployments
  dsimp only
  split
  · rename_i hv
    intro h
    rw [unknownMasterVersion_changedC] at h
    exact ⟨hv, (Option.some.inj h).symm⟩
  · split
    · intro h; cases h
    · rw [forRange_changedC (fun _ _ => ensureObject_changedC_none ..)]
      intro h; cases h

/-- The etcd step answers a cluster with no error, or the `Failed` record of an unknown
master version. -/
theorem launchingCheckEtcdCluster_changed
    (h : (launchingCheckEtcdCluster cc env c).changedC = some x) :
    (launchingCheckEtcdCluster cc env c).err = none ∨
      (cc.versions.lookup (withMasterVersion cc c).spec.masterVersion = none ∧
        x = { withMasterVersion cc c with
          status.lastTransitionTime := env.now, status.phase := .failed }) := by
  revert h
  unfold launchingCheckEtcdCluster
  dsimp only
  split
  · rename_i hv
    intro h
    rw [unknownMasterVersion_changedC] at h
    exact .inr ⟨hv, (Option.some.inj h).symm⟩
  · repeat' split
    all_goals first
      | exact fun _ => .inl rfl
      | (intro h; cases h)

end

/-! ## What a call answers -/

/-- The clusters the call `syncPendingCluster c` may answer, by the step that answers
them. -/
inductive Answered (c : Cluster) : Cluster → Prop
  /-- Every step let the call through; the record, its master version defaulted, is
  written `Launching`. -/
  | launched {acts : List Action} (enters : Enters cc env c 12 (withMasterVersion cc c) acts) :
      Answered c { withMasterVersion cc c with
        status.lastTransitionTime := env.now, status.phase := .launching }
  /-- The root CA was minted. -/
  | rootCA (absent : c.status.rootCA.key = none)
      (minted : (env.initcaNew (rootCARequest cc c)).err = none) :
      Answered c { c with status.rootCA := ⟨(env.initcaNew (rootCARequest cc c)).key,
        (env.initcaNew (rootCARequest cc c)).cert⟩ }
  /-- The token-users secret was created, and the call ended there. -/
  | tokenUsers {obj : Object} (generate : env.createTokens c = .ok obj)
      (last : ∃ pre, (syncPendingCluster cc env c).actions =
        pre ++ [.create .secret (namespaceName c.metadata.name) obj none,
          .event "launching" "Created secret %q" [namespaceName c.metadata.name ++ "/token-users"]]) :
      Answered c c
  /-- A free port was chosen and the public service created with it, and the call ended
  there. -/
  | apiserverService {port : BitVec 64} {obj : Object}
      (free : getFreeNodePort cc env.services = (port, none))
      (generate : env.loadServiceFile { c with address := ⟨publicURL cc c.metadata.name port, port⟩ }
        "apiserver" cc.masterResourcesPath = .ok obj)
      (last : ∃ pre, (syncPendingCluster cc env c).actions =
        pre ++ [.create .service (namespaceName c.metadata.name) obj none,
          .event "launching" "Created apiserver service %q"
            [namespaceName c.metadata.name ++ "/" ++ "apiserver"]]) :
      Answered c { c with address := ⟨publicURL cc c.metadata.name port, port⟩ }
  /-- A secret generator handed back a changed cluster and its secret was created, and the
  call ended there. -/
  | secret {s : String} {gen : SecretGenerator} {t : Template} {x : Cluster} {obj : Object}
      (entry : (s, gen) ∈
        [("apiserver-auth", env.createApiserverAuth), ("apiserver-ssh", env.createApiserverSSH)])
      (generate : gen c t = .ok (some x, obj))
      (last : ∃ pre, (syncPendingCluster cc env c).actions =
        pre ++ [.create .secret (namespaceName c.metadata.name) obj none,
          .event "pending" "Created secret %q" [namespaceName c.metadata.name ++ "/" ++ s]]) :
      Answered c x
  /-- The master version is unknown; the record is written `Failed`. -/
  | unknownVersion (unknown : cc.versions.lookup (withMasterVersion cc c).spec.masterVersion = none) :
      Answered c { withMasterVersion cc c with
        status.lastTransitionTime := env.now, status.phase := .failed }

/-- **What a call may answer.** Every cluster a call answers is one of `Answered`. -/
theorem syncPendingCluster_answered {c x : Cluster}
    (h : (syncPendingCluster cc env c).changedC = some x) : Answered cc env c x := by
  rcases syncPendingCluster_cases cc env c with
    ⟨err, -, he⟩ | ⟨r, acts, hr, he⟩ | ⟨k, s, r, acts, hk, hr, hs, he⟩ <;> rw [he] at h
  · cases h
  · cases h
    have hrec := enters_record cc env hr
    rw [if_neg (by decide)] at hrec
    subst hrec
    exact .launched hr
  · have hlast : ∀ {tail : List Action}, (∃ pre, (s.run r).actions = pre ++ tail) →
        ∃ pre, (syncPendingCluster cc env c).actions = pre ++ tail := fun ⟨pre, h⟩ =>
      ⟨acts ++ pre, by rw [he]; exact (congrArg (acts ++ ·) h).trans (List.append_assoc ..).symm⟩
    obtain rfl := enters_record cc env hr
    revert hlast; revert h; revert hs
    refine pendingStages_cases ?rootCA ?tokenUsers ?publicService ?serviceAccounts ?roleBindings
      ?services ?secrets ?configMaps ?pvcs ?deployments ?etcd ?plugins hk <;> intro hs h hlast
    case rootCA =>
      obtain ⟨habs, hmint, rfl⟩ := pendingCreateRootCA_changed h
      exact .rootCA habs hmint
    case tokenUsers =>
      obtain ⟨hret, obj, hgen, hacts⟩ := ensureObject_changed h
      cases hret
      exact .tokenUsers hgen (hlast ⟨[], hacts⟩)
    case publicService =>
      obtain ⟨port, obj, hfree, rfl, hgen, hacts⟩ := launchingCheckApiserverPublicService_changed h
      exact .apiserverService hfree hgen (hlast ⟨[], hacts⟩)
    case serviceAccounts => rw [(launchingCheckServiceAccounts_cluster cc env _).2] at h; cases h
    case roleBindings => rw [(launchingCheckClusterRoleBindings_cluster cc env _).2] at h; cases h
    case services => rw [(launchingCheckServices_cluster cc env _).2] at h; cases h
    case secrets =>
      obtain ⟨s, gen, t, obj, hentry, hgen, hacts⟩ := pendingCheckSecrets_changed h
      exact .secret hentry hgen (hlast hacts)
    case configMaps => rw [(launchingCheckConfigMaps_cluster env _).2] at h; cases h
    case pvcs => rw [(launchingCheckPvcs_cluster cc env _).2] at h; cases h
    case deployments =>
      obtain ⟨hv, rfl⟩ := launchingCheckDeployments_changed h
      exact .unknownVersion hv
    case etcd =>
      rw [if_neg (show ¬10 ≤ 9 by decide)] at h hs
      rcases launchingCheckEtcdCluster_changed h with herr | ⟨hv, rfl⟩
      · simp [Stage.passes, herr] at hs
      · simp only [withMasterVersion_withMasterVersion] at hv ⊢
        exact .unknownVersion hv
    case plugins => rw [(launchingCheckDefaultPlugins_cluster env _).2] at h; cases h

/-! ## What a persisted record can be trusted for -/

/-- The record's address is the public URL of its port, the port lies in the configured
range, and the orchestrator holds the cluster's `apiserver` service with that port as its
only `NodePort`. -/
def AddressServed (w : World) : Prop :=
  w.record.address.url = publicURL cc w.record.metadata.name w.record.address.apiserverExternalPort ∧
  cc.minAPIServerPort.toInt ≤ w.record.address.apiserverExternalPort.toInt ∧
  w.record.address.apiserverExternalPort.toInt ≤ cc.maxAPIServerPort.toInt ∧
  ∃ r ∈ w.objects, r.kind = .service ∧ r.ns = namespaceName w.record.metadata.name ∧
    r.obj.name = "apiserver" ∧ r.obj.nodePorts.map BitVec.toInt = [w.record.address.apiserverExternalPort.toInt]

/-- What a persisted record of a reachable world can be trusted for. -/
structure CrashSafe (w : World) : Prop where
  launching_key : w.record.status.phase = .launching → w.record.status.rootCA.key.isSome
  key_cert : w.record.status.rootCA.key.isSome → w.record.status.rootCA.cert.isSome
  address : w.record.address.url ≠ "" → AddressServed cc w

/-- A record as the API creates it can be trusted against any orchestrator. -/
theorem crashSafe_of_fresh {cc : Controller} {c : Cluster} (h : c.Fresh) (objs : List Resource) :
    CrashSafe cc ⟨c, objs⟩ :=
  have ⟨hphase, hca, haddr, _⟩ := h
  ⟨fun hl => (by rw [hphase] at hl; cases hl), fun hk => (by rw [hca] at hk; cases hk),
    fun hu => absurd (by rw [haddr]) hu⟩

section

variable {cc env}

/-- A served address stays served for a record with the same name and address, while the
services stay. -/
theorem AddressServed.keep {c c' : Cluster} {objs objs' : List Resource}
    (h : AddressServed cc ⟨c, objs⟩) (hkeep : ∀ r ∈ objs, r.kind = .service → r ∈ objs')
    (hname : c'.metadata = c.metadata) (haddr : c'.address = c.address) :
    AddressServed cc ⟨c', objs'⟩ := by
  obtain ⟨hurl, hlo, hhi, r, hr, hk, hns, hn, hports⟩ := h
  simp only at hurl hlo hhi hns hports
  refine ⟨?_, ?_, ?_, r, hkeep r hr hk, hk, ?_, hn, ?_⟩ <;> simp only [hname, haddr] <;> assumption

/-- A call keeps a record safe: whatever it answers, with any side effects, persisted or
not. -/
theorem crashSafe_answered {c x : Cluster} {objs objs' : List Resource}
    (h : CrashSafe cc ⟨c, objs⟩) (hallowed : CrashAllowed cc ⟨c, objs⟩ env)
    (heff : Effects objs (syncPendingCluster cc env c).actions objs')
    (hkeep : ∀ r ∈ objs, r.kind = .service → r ∈ objs')
    (hans : Answered cc env c x) : CrashSafe cc ⟨x, objs'⟩ := by
  have hdel : ∀ k ns name err, .delete k ns name err ∈ (syncPendingCluster cc env c).actions →
      k ≠ .service := fun k ns name err hd => by
    rw [(syncPendingCluster_deletes cc env hd).1]; decide
  cases hans with
  | launched enters =>
    obtain ⟨hpass, -⟩ := launched_ran_before enters (Nat.zero_le 9) rfl
    have hkey := pendingCreateRootCA_ensured (Stage.returned_of_passes hpass)
    exact ⟨fun _ => by simpa using hkey, fun hk => by simpa using h.key_cert (by simpa using hk),
      fun hu => (h.address (by simpa using hu)).keep hkeep (by simp) (by simp)⟩
  | rootCA _ minted =>
    obtain ⟨hcert, hkey⟩ := (env.initcaNew (rootCARequest cc c)).present minted
    exact ⟨fun _ => hkey, fun _ => hcert, fun hu => (h.address hu).keep hkeep rfl rfl⟩
  | tokenUsers =>
    exact ⟨h.launching_key, h.key_cert, fun hu => (h.address hu).keep hkeep rfl rfl⟩
  | @apiserverService port obj free generate last =>
    obtain ⟨⟨hlo, hhi, -⟩, -⟩ := getFreeNodePort_free free
    obtain ⟨pre, hlast⟩ := last
    refine ⟨h.launching_key, h.key_cert, fun _ => ⟨rfl, hlo, hhi, ?_⟩⟩
    exact ⟨_, effects_created heff (by rw [hlast]; simp [namespaceName]) hdel, rfl, rfl,
      hallowed.1 _ _ hlo hhi generate⟩
  | secret entry generate =>
    obtain ⟨ssh, -, rfl⟩ := hallowed.2.answered entry generate
    exact ⟨h.launching_key, h.key_cert, fun hu => (h.address hu).keep hkeep rfl rfl⟩
  | unknownVersion =>
    exact ⟨fun hp => (by cases hp), fun hk => by simpa using h.key_cert (by simpa using hk),
      fun hu => (h.address (by simpa using hu)).keep hkeep (by simp) (by simp)⟩

/-- Every call keeps a world safe. -/
theorem crashSafe_step {w w' : World} (h : CrashSafe cc w) (hs : Step cc (CrashAllowed cc) w w') :
    CrashSafe cc w' := by
  cases hs with
  | @call env objs persist allowed effects =>
    have hkeep : ∀ r ∈ w.objects, r.kind = .service → r ∈ objs := fun r hr hk =>
      effects_keeps effects hr fun k ns name err hd => by
        rw [(syncPendingCluster_deletes cc env hd).1, hk]; decide
    have hsame : CrashSafe cc ⟨w.record, objs⟩ :=
      ⟨h.launching_key, h.key_cert, fun hu => (h.address hu).keep hkeep rfl rfl⟩
    cases persist with
    | false => exact hsame
    | true =>
      cases hx : (syncPendingCluster cc env w.record).changedC with
      | none => simpa [hx] using hsame
      | some x =>
        simp only [hx, ite_true, Option.getD_some]
        exact crashSafe_answered h allowed effects hkeep (syncPendingCluster_answered cc env hx)

end

/-- **Checkpointing is crash-safe.** In every world reachable by calls whose public
service carries the chosen port as its `NodePort` and whose secret generators change
nothing but the SSH material, with any failures, creates that take effect and still
report an error, and lost writes: a `Launching` record has its root CA key, a record
with a key has its certificate, and a record with an address has the public URL
`https://<name>.<dc>.<externalURL>:<port>` of its port, a port of
`[minAPIServerPort, maxAPIServerPort]`, and the cluster's `apiserver` service in the
orchestrator with that port as its `NodePort`. The caches need not mirror the
orchestrator. -/
theorem reachable_crashSafe {w : World} (hw : Reachable cc (CrashAllowed cc) w) : CrashSafe cc w :=
  Reachable.induction (CrashSafe cc) (fun w h => crashSafe_of_fresh h.fresh w.objects)
    (fun _ _ _ h hs => crashSafe_step h hs) hw

/-! ## Where a persisted record can be -/

/-- The record is `Pending`, `Launching` or `Failed`, and `Failed` only when its effective
master version is not a key of `versions`. -/
def Cluster.PhaseSafe (c : Cluster) : Prop :=
  (c.status.phase = .pending ∨ c.status.phase = .launching ∨ c.status.phase = .failed) ∧
    (c.status.phase = .failed → cc.versions.lookup (withMasterVersion cc c).spec.masterVersion = none)

section

variable {cc env}

/-- The effective master version depends on the spec only. -/
theorem withMasterVersion_spec_congr {c d : Cluster} (h : d.spec = c.spec) :
    (withMasterVersion cc d).spec = (withMasterVersion cc c).spec := by
  unfold withMasterVersion
  rw [h]
  split <;> first | rfl | exact h

theorem Cluster.PhaseSafe.congr {c c' : Cluster} (h : c.PhaseSafe cc)
    (hphase : c'.status.phase = c.status.phase) (hspec : c'.spec = c.spec) : c'.PhaseSafe cc := by
  rw [Cluster.PhaseSafe, hphase, withMasterVersion_spec_congr hspec]
  exact h

/-- A cluster a call answers is safe when the record it started from is. -/
theorem phaseSafe_answered {c x : Cluster} (hssh : env.SetsOnlySSH) (h : c.PhaseSafe cc)
    (hans : Answered cc env c x) : x.PhaseSafe cc := by
  cases hans with
  | launched => exact ⟨.inr (.inl rfl), fun h => by cases h⟩
  | rootCA | tokenUsers | apiserverService => exact h.congr rfl rfl
  | secret entry generate =>
    obtain ⟨ssh, -, rfl⟩ := hssh.answered entry generate
    exact h.congr rfl rfl
  | unknownVersion unknown =>
    refine ⟨.inr (.inr rfl), fun _ => ?_⟩
    have hspec := @withMasterVersion_spec_congr cc (withMasterVersion cc c)
      { withMasterVersion cc c with status.lastTransitionTime := env.now, status.phase := .failed } rfl
    rw [withMasterVersion_withMasterVersion] at hspec
    exact (congrArg (fun s => cc.versions.lookup s.masterVersion) hspec).trans unknown

end

/-- **Where a persisted record can be.** In every world reached by calls whose secret
generators change nothing but the SSH material, with any failures and lost writes, the
record is `Pending`, `Launching` or `Failed`, and it is `Failed` only when its effective
master version is not a key of `versions`. -/
theorem reachable_phaseSafe {w : World} (hw : Reachable cc (fun _ env => env.SetsOnlySSH) w) :
    w.record.PhaseSafe cc :=
  Reachable.induction (fun w => w.record.PhaseSafe cc)
    (fun _ ⟨⟨hphase, _⟩, _⟩ => ⟨.inl hphase, fun h => by rw [hphase] at h; cases h⟩)
    (fun w _ _ h hs => by
      rcases hs.record_cases with hrec | ⟨env, hssh, hx⟩
      · rwa [hrec]
      · exact phaseSafe_answered hssh h (syncPendingCluster_answered cc env hx)) hw

/-! ## Runs of a sample cluster -/

/-- Truncating a small nonnegative `int` to an `int32` keeps its value. -/
theorem toInt_truncate_of_range {p : BitVec 64} (h₁ : 0 ≤ p.toInt) (h₂ : p.toInt < 2 ^ 31) :
    (p.truncate 32).toInt = p.toInt := by
  have hp := p.isLt
  simp only [BitVec.toInt_eq_toNat_cond, BitVec.toNat_setWidth] at h₁ h₂ ⊢
  split_ifs at h₁ h₂ ⊢ <;> omega

/-- The sample collaborators meet the assumptions of the crash-safety result. -/
theorem workingEnv_crashAllowed (w : World) : CrashAllowed sampleController w (workingEnv w) := by
  refine ⟨fun c obj hlo hhi h => ?_, fun c t x obj h => by rcases h with h | h <;> cases h⟩
  cases h
  have hmin : sampleController.minAPIServerPort.toInt = 30000 := by decide
  have hmax : sampleController.maxAPIServerPort.toInt = 32767 := by decide
  simp only [↓reduceIte, List.map_cons, List.map_nil, List.cons.injEq, and_true, true_and]
  exact toInt_truncate_of_range (by omega) (by omega)

/-- The cluster `c1` after the calls that minted its CA, created its token-users secret,
and created its public service, each persisted. -/
def servedWorld : World :=
  workingStep sampleController true <| workingStep sampleController true <|
    workingStep sampleController true ⟨freshCluster, []⟩

theorem servedWorld_reachable :
    Reachable sampleController (CrashAllowed sampleController) servedWorld :=
  (((Reachable.init freshCluster_init).step
    (workingStep_step true (workingEnv_crashAllowed _) (by decide))).step
    (workingStep_step true (workingEnv_crashAllowed _) (by decide))).step
    (workingStep_step true (workingEnv_crashAllowed _) (by decide))

/-- The address `c1` persisted is served. -/
theorem servedWorld_crashSafe :
    Reachable sampleController (CrashAllowed sampleController) servedWorld ∧
      CrashSafe sampleController servedWorld :=
  ⟨servedWorld_reachable, reachable_crashSafe sampleController servedWorld_reachable⟩

/-- The cluster `c1` asking for the master version `0.1`, which `sampleController` does not
know, after the calls that minted its CA, created its token-users secret and its public
service, and the call that wrote it `Failed`. -/
def failedWorld : World :=
  workingStep sampleController true <| workingStep sampleController true <|
    workingStep sampleController true <| workingStep sampleController true
      ⟨{ freshCluster with spec.masterVersion := "0.1" }, []⟩

/-- The record `c1` is written `Failed`, for its unknown master version. -/
theorem failedWorld_phaseSafe :
    Reachable sampleController (fun _ env => env.SetsOnlySSH) failedWorld ∧
      failedWorld.record.status.phase = .failed ∧ failedWorld.record.PhaseSafe sampleController := by
  have hA : ∀ w, (workingEnv w).SetsOnlySSH := fun w => (workingEnv_crashAllowed w).2
  have hreach : Reachable sampleController (fun _ env => env.SetsOnlySSH) failedWorld :=
    ((((Reachable.init ⟨⟨rfl, rfl, rfl, rfl⟩, RolesMatch.nil⟩).step
      (workingStep_step true (hA _) (by decide))).step
      (workingStep_step true (hA _) (by decide))).step
      (workingStep_step true (hA _) (by decide))).step
      (workingStep_step true (hA _) (by decide))
  exact ⟨hreach, by decide, reachable_phaseSafe sampleController hreach⟩

/-- The cluster `c1` after the calls that minted its CA and created its token-users
secret, a call that created its public service but whose write was lost, and a call
that created everything else and wrote `Launching`. -/
def lostAddressWorld : World :=
  workingStep sampleController true <| workingStep sampleController false <|
    workingStep sampleController true <| workingStep sampleController true ⟨freshCluster, []⟩

/-- The address is not checkpointed: after the write that followed the public service was
lost, the record reaches `Launching` with no URL and the port `0`, outside the range. -/
theorem syncPendingCluster_loses_address :
    Reachable sampleController (fun _ env => env.PublicNodePort sampleController) lostAddressWorld ∧
    lostAddressWorld.record.status.phase = .launching ∧
    lostAddressWorld.record.address.url ≠
      publicURL sampleController lostAddressWorld.record.metadata.name
        lostAddressWorld.record.address.apiserverExternalPort ∧
    lostAddressWorld.record.address.apiserverExternalPort.toInt <
      sampleController.minAPIServerPort.toInt := by
  have hA : ∀ w, (workingEnv w).PublicNodePort sampleController :=
    fun w => (workingEnv_crashAllowed w).1
  refine ⟨?_, by decide, by decide, by decide⟩
  exact ((((Reachable.init freshCluster_init).step
    (workingStep_step true (hA _) (by decide))).step
    (workingStep_step true (hA _) (by decide))).step
    (workingStep_step false (hA _) (by decide))).step
    (workingStep_step true (hA _) (by decide))

end Kubermatic
