import Kubermatic.Fleet

/-!
# No cluster holds up another

A run of working calls ends a cluster's pending phase within six calls
(`reachable_finishesWithin`). In a fleet, other steps come between the working calls of
one cluster: calls for the other clusters, failing or lost calls of its own, and the
creation of new clusters. None of them undoes a milestone the cluster reached: a call of
its own keeps its root CA and SSH material and deletes `apiserver-ssh` only while the
record has no SSH material, and a call of another cluster keeps its record and deletes
nothing in its namespace. So the bound holds for each cluster of a fleet, however the
calls interleave.

* `step_milestones` — no call loses a milestone of its cluster, whatever failed and
  whether its answer was persisted;
* `fleetRun_progress` — no run of the fleet leaves a cluster more milestones to reach;
* `fleet_finishesWithin` — in every fleet grown from none, every run in which a cluster
  gets six working calls, with any steps of the fleet before and between them, ends that
  cluster's pending phase.
-/

namespace Kubermatic

/-! ## Runs between the working calls of one cluster -/

/-- The fleet after a working call for its `i`th cluster, whose record is `c`, against
`env`: its side effects took effect exactly when they succeeded, and its answer was
persisted. -/
def Fleet.next (cc : Controller) (env : Env) (i : Nat) (c : Cluster) (f : Fleet) : Fleet :=
  ⟨f.records.set i (World.next cc env ⟨c, f.objects⟩).record, (World.next cc env ⟨c, f.objects⟩).objects⟩

/-- Every run from `f` in which the `i`th cluster gets `n` working calls, with any steps
of the fleet before and between them, ends its pending phase by one of those calls. -/
def FleetFinishesWithin (cc : Controller) (Allowed : World → Env → Prop) (i : Nat) : Nat → Fleet → Prop
  | 0, _ => False
  | n + 1, f => ∀ f₁, Relation.ReflTransGen (FleetStep cc Allowed) f f₁ →
      ∀ c env, f₁.records[i]? = some c → Working cc ⟨c, f₁.objects⟩ env →
        Finishes cc env c ∨ FleetFinishesWithin cc Allowed i n (f₁.next cc env i c)

/-- What the progress of a cluster needs of the fleet: every deployment carries its own
name as its `role`, and the clusters have distinct names. -/
structure FleetNamed (f : Fleet) : Prop where
  roles : RolesMatch f.objects
  names : (f.records.map (·.metadata.name)).Nodup

/-! ## No step loses a milestone -/

section

variable {cc : Controller} {Allowed : World → Env → Prop}

theorem pendingYields_le_of_kept {w w' : World}
    (hkeep : ∀ m : Milestone, m.reached w = true → m.reached w' = true) :
    pendingYields w' ≤ pendingYields w := by
  have h₁ := Milestone.toNat_le (hkeep .rootCA)
  have h₂ := Milestone.toNat_le (hkeep .tokenUsers)
  have h₃ := Milestone.toNat_le (hkeep .apiserverService)
  have h₄ := Milestone.toNat_le (hkeep .apiserverAuth)
  have h₅ := Milestone.toNat_le (hkeep .apiserverSSH)
  unfold pendingYields
  omega

/-- An answered record keeps the root CA key and the SSH material it had. -/
theorem Answered.keeps_milestones {env : Env} {c x : Cluster} (hssh : env.SetsOnlySSH)
    (h : Answered cc env c x) :
    (c.status.rootCA.key.isSome → x.status.rootCA.key.isSome) ∧
      (c.status.apiserverSSH.length ≠ 0 → x.status.apiserverSSH.length ≠ 0) := by
  cases h with
  | launched | unknownVersion => simp
  | rootCA absent => exact ⟨fun h => absurd absent (Option.isSome_iff_ne_none.mp h), id⟩
  | tokenUsers | apiserverService => exact ⟨id, id⟩
  | secret entry generate =>
    obtain ⟨ssh, hne, rfl⟩ := hssh.answered entry generate
    exact ⟨id, fun _ h => hne (List.eq_nil_of_length_eq_zero h)⟩

/-- **No call loses a milestone.** Whatever failed, took effect or was lost, a call whose
secret generators change nothing but the SSH material keeps the root CA key, the SSH
material, and every object of its milestones: it deletes only `apiserver-ssh`, and only
from a record without SSH material. -/
theorem step_milestones (hssh : ∀ w env, Allowed w env → env.SetsOnlySSH) {w w' : World}
    (hs : Step cc Allowed w w') (m : Milestone) (hm : m.reached w = true) :
    m.reached w' = true := by
  obtain ⟨hmeta, hkey, hsshk⟩ : w'.record.metadata = w.record.metadata ∧
      (w.record.status.rootCA.key.isSome → w'.record.status.rootCA.key.isSome) ∧
      (w.record.status.apiserverSSH.length ≠ 0 → w'.record.status.apiserverSSH.length ≠ 0) := by
    rcases hs.record_cases with h | ⟨env, hal, hx⟩
    · rw [h]; exact ⟨rfl, id, id⟩
    · have hans := syncPendingCluster_answered cc env hx
      exact ⟨answered_metadata (hssh _ _ hal) hans, hans.keeps_milestones (hssh _ _ hal)⟩
  have hkept : ∀ {k name}, holds w.objects k (namespaceName w.record.metadata.name) name = true →
      (k = .secret → name = "apiserver-ssh" → w.record.status.apiserverSSH.length ≠ 0) →
      holds w'.objects k (namespaceName w.record.metadata.name) name = true := by
    cases hs with
    | @call env _ _ _ effects =>
      exact fun hh hne => effects_holds_of_not_deleted effects hh fun err hd => by
        obtain ⟨hk, -, hn, hl⟩ := syncPendingCluster_deletes cc env hd
        exact hne hk hn hl
  cases m with
  | rootCA => exact hkey hm
  | tokenUsers | apiserverService | apiserverAuth =>
    simp only [Milestone.reached, hmeta] at hm ⊢
    exact hkept hm fun _ h => absurd h (by decide)
  | apiserverSSH =>
    simp only [Milestone.reached, hmeta, Bool.and_eq_true, bne_iff_ne] at hm ⊢
    exact ⟨hkept hm.1 fun _ _ => hm.2, hsshk hm.2⟩

/-- Objects that keep everything of a namespace keep every milestone of a record in it. -/
theorem milestones_of_holds {c : Cluster} {objs objs' : List Resource}
    (hkeep : ∀ k name, holds objs k (namespaceName c.metadata.name) name = true →
      holds objs' k (namespaceName c.metadata.name) name = true)
    (m : Milestone) (hm : m.reached ⟨c, objs⟩ = true) : m.reached ⟨c, objs'⟩ = true := by
  cases m with
  | rootCA => exact hm
  | tokenUsers | apiserverService | apiserverAuth => exact hkeep _ _ hm
  | apiserverSSH =>
    simp only [Milestone.reached, Bool.and_eq_true] at hm ⊢
    exact ⟨hkeep _ _ hm.1, hm.2⟩

/-- A call for one cluster deletes nothing in the namespace of another. -/
theorem step_holds_other {c c' : Cluster} {objs : List Resource} {w' : World}
    (hs : Step cc Allowed ⟨c', objs⟩ w') (hname : c'.metadata.name ≠ c.metadata.name) {k : Kind} {name : String}
    (h : holds objs k (namespaceName c.metadata.name) name = true) :
    holds w'.objects k (namespaceName c.metadata.name) name = true := by
  cases hs with
  | @call env _ _ _ effects =>
    exact effects_holds_of_not_deleted effects h fun err hd =>
      hname (namespaceName_injective (syncPendingCluster_deletes cc env hd).2.1).symm

/-- A step keeps every deployment's `role` when its generators name their objects. -/
theorem step_rolesMatch (hA : ∀ w env, Allowed w env → env.Named cc) {w w' : World}
    (hs : Step cc Allowed w w') (h : RolesMatch w.objects) : RolesMatch w'.objects := by
  cases hs with
  | call persist allowed effects =>
    intro r hr hk
    rcases effects_mem effects hr with hr | ⟨err, hc⟩
    · exact h r hr hk
    · exact syncPendingCluster_roles cc _ (hA _ _ allowed).rolesNamed hc hk

theorem FleetNamed.set {f : Fleet} (h : FleetNamed f) {i : Nat} {c x : Cluster}
    (hi : f.records[i]? = some c) (hx : x.metadata = c.metadata) {objs : List Resource}
    (hroles : RolesMatch objs) : FleetNamed ⟨f.records.set i x, objs⟩ := by
  refine ⟨hroles, ?_⟩
  rw [List.map_set, hx, set_self_of_getElem? (by rw [List.getElem?_map, hi]; rfl)]
  exact h.names

theorem FleetNamed.create {f : Fleet} (h : FleetNamed f) {c : Cluster}
    (unique : c.metadata.name ∉ f.records.map (·.metadata.name)) :
    FleetNamed ⟨f.records ++ [c], f.objects⟩ := by
  refine ⟨h.roles, ?_⟩
  rw [List.map_append]
  exact h.names.append (List.nodup_singleton _) (List.disjoint_singleton.mpr unique)

theorem FleetNamed.name_ne {f : Fleet} (h : FleetNamed f) {i j : Nat} (hij : j ≠ i) {c c' : Cluster}
    (hi : f.records[i]? = some c) (hj : f.records[j]? = some c') :
    c'.metadata.name ≠ c.metadata.name := fun heq => hij <|
  List.getElem?_inj (by simpa using (List.getElem?_eq_some_iff.mp hj).1) h.names
    (by rw [List.getElem?_map, List.getElem?_map, hj, hi]; exact congrArg some heq)

variable (hA : ∀ w env, Allowed w env → env.Named cc ∧ env.SetsOnlySSH)
include hA

theorem FleetNamed.step {f f' : Fleet} (h : FleetNamed f) (hs : FleetStep cc Allowed f f') :
    FleetNamed f' := by
  cases hs with
  | call hi step =>
    exact h.set hi (step_frame (fun w env h => (hA w env h).2) step).1
      (step_rolesMatch (fun w env h => (hA w env h).1) step h.roles)
  | create _ unique => exact h.create unique

theorem reachable_fleetNamed {f : Fleet} (hrun : Relation.ReflTransGen (FleetStep cc Allowed) ⟨[], []⟩ f) :
    FleetNamed f := by
  induction hrun with
  | refl => exact ⟨fun _ h => absurd h (List.not_mem_nil _), List.nodup_nil⟩
  | tail _ hs ih => exact ih.step hA hs

/-- A step of the fleet leaves its `i`th cluster no more milestones to reach: a call of
its own by `step_milestones`, a call of another cluster because it deletes nothing in
the `i`th namespace. -/
theorem fleetStep_progress {i : Nat} {f f' : Fleet} (hs : FleetStep cc Allowed f f')
    (h : FleetNamed f) {c : Cluster} (hi : f.records[i]? = some c) :
    ∃ c', f'.records[i]? = some c' ∧ pendingYields ⟨c', f'.objects⟩ ≤ pendingYields ⟨c, f.objects⟩ := by
  cases hs with
  | @call j c' w' hc step =>
    by_cases hij : j = i
    · subst hij
      obtain rfl : c' = c := Option.some.inj (hc.symm.trans hi)
      exact ⟨w'.record, List.getElem?_set_self (List.getElem?_eq_some_iff.mp hc).1,
        pendingYields_le_of_kept (step_milestones (fun w env h => (hA w env h).2) step)⟩
    · exact ⟨c, by rwa [List.getElem?_set_ne hij], pendingYields_le_of_kept
        (milestones_of_holds fun _ _ => step_holds_other step (h.name_ne hij hi hc))⟩
  | create => exact ⟨c, by rwa [List.getElem?_append_left (List.getElem?_eq_some_iff.mp hi).1], le_rfl⟩

/-- A run of the fleet leaves its `i`th cluster no more milestones to reach. -/
theorem fleetRun_progress {i : Nat} {f f' : Fleet} (hrun : Relation.ReflTransGen (FleetStep cc Allowed) f f')
    (h : FleetNamed f) {c : Cluster} (hi : f.records[i]? = some c) :
    FleetNamed f' ∧ ∃ c', f'.records[i]? = some c' ∧
      pendingYields ⟨c', f'.objects⟩ ≤ pendingYields ⟨c, f.objects⟩ := by
  induction hrun with
  | refl => exact ⟨h, c, hi, le_rfl⟩
  | tail _ hs ih =>
    obtain ⟨h₁, c₁, hi₁, hle⟩ := ih
    obtain ⟨c₂, hi₂, hle₂⟩ := fleetStep_progress hA hs h₁ hi₁
    exact ⟨h₁.step hA hs, c₂, hi₂, hle₂.trans hle⟩

end

/-! ## Progress of one cluster among others -/

/-- A working call for the `i`th cluster keeps the fleet `FleetNamed`. -/
theorem FleetNamed.next {cc : Controller} {f : Fleet} (h : FleetNamed f) {i : Nat} {c : Cluster}
    {env : Env} (hi : f.records[i]? = some c) (hw : Working cc ⟨c, f.objects⟩ env) :
    FleetNamed (f.next cc env i c) :=
  h.set hi (step_frame (fun _ _ h => h) (hw.step hw.setsOnlySSH)).1 (hw.rolesMatch_next h.roles)

section

variable {cc : Controller} {Allowed : World → Env → Prop}
  (hA : ∀ w env, Allowed w env → env.Named cc ∧ env.SetsOnlySSH)
include hA

/-- From a fleet in which the `i`th cluster has fewer than `n` milestones left, it ends
its pending phase within `n` working calls of its own. -/
theorem fleetFinishesWithin_of_pendingYields {i : Nat} :
    ∀ (n : Nat) (f : Fleet) (c : Cluster), FleetNamed f → f.records[i]? = some c →
      pendingYields ⟨c, f.objects⟩ < n → FleetFinishesWithin cc Allowed i n f
  | 0, _, _, _, _, hlt => absurd hlt (Nat.not_lt_zero _)
  | n + 1, _, _, h, hi, hlt => fun f₁ hrun c₁ env hi₁ hw => by
    obtain ⟨h₁, c', hc', hle⟩ := fleetRun_progress hA hrun h hi
    obtain rfl : c₁ = c' := Option.some.inj (hi₁.symm.trans hc')
    refine (hw.finishes_or_progress h₁.roles).imp_right fun hprog =>
      fleetFinishesWithin_of_pendingYields n _ (World.next cc env ⟨c₁, f₁.objects⟩).record
        (h₁.next hi₁ hw) ?_ (lt_of_lt_of_le hprog (by omega))
    rw [Fleet.next, List.getElem?_set_self (List.getElem?_eq_some_iff.mp hi₁).1]

/-- **No cluster holds up another.** In every fleet grown from none, by clusters created
with distinct names and calls whose generators name their objects after their entries and
change nothing in the record but the SSH material, with any failures and lost writes:
every run in which a cluster gets six working calls, with any steps of the fleet before
and between them (calls for the other clusters, failing or lost calls of its own,
creations), ends that cluster's pending phase. -/
theorem fleet_finishesWithin {f : Fleet} (hrun : Relation.ReflTransGen (FleetStep cc Allowed) ⟨[], []⟩ f)
    {i : Nat} {c : Cluster} (hi : f.records[i]? = some c) : FleetFinishesWithin cc Allowed i 6 f :=
  fleetFinishesWithin_of_pendingYields hA 6 f c (reachable_fleetNamed hA hrun) hi
    (Nat.lt_succ_of_le (pendingYields_le _))

end

/-- The fresh clusters `c1` and `c2`, created by the API: `c1` ends its pending phase
within six working calls of its own, whatever else the fleet does in between. -/
theorem twoClusters_finishesWithin :
    FleetFinishesWithin sampleController (fun _ env => env.Named sampleController ∧ env.SetsOnlySSH)
      0 6 twoClusters :=
  fleet_finishesWithin (fun _ _ h => h) twoClusters_created rfl

end Kubermatic
