import Mathlib.Data.List.Pairwise
import Kubermatic.Converge
import Kubermatic.Footprint

/-!
# Node ports across the clusters of one controller

One controller reconciles every pending cluster against one orchestrator. The public
apiserver service of each cluster takes a `NodePort`, which `GetFreeNodePort` picks among
the ports that no cached service uses. Whatever order the calls of the different clusters
come in, two services must never end up on one node port.

* `servicePorts` — the nonzero node ports the orchestrator's services take, repetitions
  kept, as `GetFreeNodePort` collects them;
* `syncPendingCluster_freshPorts` — a call asks for at most one node port, one that no
  cached service uses: the public service step asks for the port `GetFreeNodePort`
  returned, and no other step creates a service with a node port;
* `step_servicePorts_nodup` — a call keeps the node ports pairwise distinct, whichever of
  its creates and deletes took effect;
* `fleet_ports_distinct` — so does every interleaving of the calls of any number of
  clusters that share the orchestrator.

The invariant needs the service cache to mirror the orchestrator when a call starts
(`PortsAllowed.mirrors`): that is where the lag of an informer would let two calls pick
the same port.
-/

namespace Kubermatic

/-! ## The node ports the services take -/

/-- The nonzero `NodePort`s of an object's port entries, as `GetFreeNodePort` collects
them. -/
def Object.ports (obj : Object) : List Int :=
  (obj.nodePorts.filter (· != 0)).map BitVec.toInt

/-- The node ports a held object takes: those of a service. -/
def Resource.ports (r : Resource) : List Int :=
  if r.kind = .service then r.obj.ports else []

/-- The node ports the orchestrator's services take, with repetitions. -/
def servicePorts (objs : List Resource) : List Int :=
  objs.flatMap Resource.ports

/-- The node ports a side effect would add: those of the object it creates. -/
def Action.ports : Action → List Int
  | .create k ns obj _ => Resource.ports ⟨k, ns, obj⟩
  | _ => []

/-- The node ports the side effects `acts` would add, whatever the answers. -/
def portsCreated (acts : List Action) : List Int :=
  acts.flatMap Action.ports

@[simp] theorem servicePorts_cons (r : Resource) (objs : List Resource) :
    servicePorts (r :: objs) = r.ports ++ servicePorts objs := rfl

@[simp] theorem portsCreated_nil : portsCreated [] = [] := rfl

@[simp] theorem portsCreated_cons (a : Action) (acts : List Action) :
    portsCreated (a :: acts) = a.ports ++ portsCreated acts := rfl

theorem portsCreated_append (acts acts' : List Action) :
    portsCreated (acts ++ acts') = portsCreated acts ++ portsCreated acts' :=
  List.flatMap_append ..

theorem Object.ports_sublist (obj : Object) : obj.ports.Sublist (obj.nodePorts.map BitVec.toInt) :=
  (List.filter_sublist _).map _

theorem Object.ports_eq_nil {obj : Object} (h : ∀ np ∈ obj.nodePorts, np = 0) : obj.ports = [] := by
  simpa [Object.ports, List.filter_eq_nil_iff] using h

/-- A port is taken in the service cache exactly when a cached service holds it. -/
theorem taken_iff_mem_servicePorts {env : Env} {q : Int} :
    Taken env.services q ↔ q ∈ servicePorts env.cache := by
  simp [Taken, Env.services, servicePorts, Resource.ports, Object.ports, exists_exists_and_eq_and]
  simp only [and_assoc]

theorem servicePorts_filter_sublist (p : Resource → Bool) (objs : List Resource) :
    (servicePorts (objs.filter p)).Sublist (servicePorts objs) := by
  induction objs with
  | nil => exact .slnil
  | cons r objs ih =>
    rw [List.filter_cons]
    split
    · exact ih.append_left _
    · exact ih.trans (List.sublist_append_right _ _)

/-- Side effects that add node ports distinct from each other and from those already
taken leave the node ports distinct, whichever of them took effect. -/
theorem effects_servicePorts_nodup {objs objs' : List Resource} {acts : List Action}
    (h : Effects objs acts objs') (hn : (servicePorts objs ++ portsCreated acts).Nodup) :
    (servicePorts objs').Nodup := by
  induction h with
  | nil => simpa [portsCreated] using hn
  | cons he _ ih =>
    apply ih
    rw [portsCreated_cons] at hn
    cases he with
    | created | createdLate =>
      rw [servicePorts_cons, List.append_assoc]
      exact (List.perm_append_comm_assoc _ _ _).nodup_iff.mp hn
    | createFailed => exact hn.sublist ((List.sublist_append_right _ _).append_left _)
    | deleted | deletedLate =>
      exact hn.sublist ((servicePorts_filter_sublist _ _).append (.refl _))
    | deleteFailed | event => exact hn

/-! ## The node ports a call asks for -/

section

variable {cc : Controller} {env : Env}

/-- The service generated as `apiserver-insecure` asks for no node port. -/
def Env.InsecureWithoutNodePort (cc : Controller) (env : Env) : Prop :=
  ∀ c obj, env.loadServiceFile c "apiserver-insecure" cc.masterResourcesPath = .ok obj →
    ∀ np ∈ obj.nodePorts, np = 0

/-- Node ports distinct from each other that no service of the cache `env` holds. -/
def Env.FreshPorts (env : Env) (ps : List Int) : Prop :=
  ps.Nodup ∧ ∀ q ∈ ps, ¬Taken env.services q

theorem Env.freshPorts_nil (env : Env) : env.FreshPorts [] :=
  ⟨List.nodup_nil, fun _ h => absurd h (List.not_mem_nil _)⟩

/-- The public service step asks for the port `GetFreeNodePort` returned, or for none. -/
theorem launchingCheckApiserverPublicService_freshPorts (hpub : env.PublicNodePort cc)
    (c : Cluster) : env.FreshPorts (portsCreated (launchingCheckApiserverPublicService cc env c).actions) := by
  unfold launchingCheckApiserverPublicService
  dsimp only
  split
  · exact env.freshPorts_nil
  · exact env.freshPorts_nil
  · split
    · exact env.freshPorts_nil
    · rename_i hfree
      split
      · exact env.freshPorts_nil
      · rename_i service hgen
        obtain ⟨⟨hlo, hhi, hnot⟩, -⟩ := getFreeNodePort_free (Prod.ext rfl hfree)
        have hmap := fun hlo hhi => (hpub _ service hlo hhi hgen).2
        have hsub : service.ports.Sublist [(getFreeNodePort cc env.services).1.toInt] :=
          hmap hlo hhi ▸ service.ports_sublist
        have hfresh : env.FreshPorts service.ports :=
          ⟨hsub.nodup (List.nodup_singleton _), fun q hq => by
            rwa [List.mem_singleton.mp (hsub.subset hq)]⟩
        split <;> simpa [Action.ports, Resource.ports] using hfresh

/-- No step but the public service step creates a service with a node port. -/
theorem stage_portsCreated {c : Cluster} {i : Nat} {s : Stage}
    (hs : (pendingStages cc env)[i]? = some s) (hi : i ≠ 2) {r : Cluster}
    (hr : r = if i ≤ 9 then c else withMasterVersion cc c) (hins : env.InsecureWithoutNodePort cc) :
    portsCreated (s.run r).actions = [] := by
  refine List.flatMap_eq_nil_iff.mpr fun a ha => ?_
  cases a with
  | create k ns obj err =>
    cases stage_creates hs hr ha with
    | apiserverService => exact absurd rfl hi
    | service _ generate => simp [Action.ports, Resource.ports, Object.ports_eq_nil (hins _ _ generate)]
    | _ => rfl
  | delete | event => rfl

/-- **A call asks for at most one node port, and a free one.** Over the whole pipeline,
the node ports the creates of a call would add are distinct and held by no cached
service. -/
theorem syncPendingCluster_freshPorts (hpub : env.PublicNodePort cc)
    (hins : env.InsecureWithoutNodePort cc) (c : Cluster) :
    env.FreshPorts (portsCreated (syncPendingCluster cc env c).actions) := by
  refine (syncPendingCluster_actions_induction cc env c
    (fun i acts => (i ≤ 2 → portsCreated acts = []) ∧ env.FreshPorts (portsCreated acts))
    ⟨fun _ => rfl, env.freshPorts_nil⟩ fun i s r acts hs he ⟨hpre, hfresh⟩ => ?_).elim fun _ h => h.2
  beta_reduce
  rw [portsCreated_append]
  by_cases hi : i = 2
  · subst hi
    have hs2 : (pendingStages cc env)[2]? = some ⟨"launchingCheckApiserverPublicService",
        launchingCheckApiserverPublicService cc env, .errOrChanged⟩ := rfl
    rw [hs2, Option.some.injEq] at hs
    subst hs
    rw [hpre le_rfl, List.nil_append]
    exact ⟨fun h => absurd h (by omega), launchingCheckApiserverPublicService_freshPorts hpub r⟩
  · rw [stage_portsCreated hs hi (enters_record cc env he) hins, List.append_nil]
    exact ⟨fun h => hpre (by omega), hfresh⟩

end

/-! ## Calls keep the node ports distinct -/

/-- What the node-port invariant needs of the collaborators of a call: the service cache
mirrors the orchestrator when the call starts, and the two service templates put the
record's port, and no port, on the public and the insecure service. -/
structure PortsAllowed (cc : Controller) (w : World) (env : Env) : Prop where
  mirrors : env.cache = w.objects
  publicNodePort : env.PublicNodePort cc
  insecure : env.InsecureWithoutNodePort cc

section

variable {cc : Controller} {Allowed : World → Env → Prop}
  (hA : ∀ w env, Allowed w env → PortsAllowed cc w env)
include hA

/-- One call keeps the node ports of the orchestrator's services distinct. -/
theorem step_servicePorts_nodup {w w' : World} (hs : Step cc Allowed w w')
    (h : (servicePorts w.objects).Nodup) : (servicePorts w'.objects).Nodup := by
  cases hs with
  | call persist allowed effects =>
    have ha := hA _ _ allowed
    obtain ⟨hnd, hfree⟩ := syncPendingCluster_freshPorts ha.publicNodePort ha.insecure w.record
    refine effects_servicePorts_nodup effects (h.append hnd fun ⦃q⦄ hq hq' => hfree q hq' ?_)
    rwa [taken_iff_mem_servicePorts, ha.mirrors]

end

/-! ## A fleet of clusters -/

/-- The clusters one controller reconciles, and the orchestrator they share. -/
structure Fleet where
  records : List Cluster
  objects : List Resource
  deriving DecidableEq, Repr

/-- What can happen to a fleet: a call for one of its clusters against the shared
orchestrator, or the API creating a cluster, named unlike every cluster of the fleet. -/
inductive FleetStep (cc : Controller) (Allowed : World → Env → Prop) : Fleet → Fleet → Prop
  | call {f : Fleet} {i : Nat} {c : Cluster} {w' : World} (hi : f.records[i]? = some c)
      (step : Step cc Allowed ⟨c, f.objects⟩ w') :
      FleetStep cc Allowed f ⟨f.records.set i w'.record, w'.objects⟩
  | create {f : Fleet} {c : Cluster} (fresh : c.Fresh)
      (unique : c.metadata.name ∉ f.records.map (·.metadata.name)) :
      FleetStep cc Allowed f ⟨f.records ++ [c], f.objects⟩

section

variable {cc : Controller} {Allowed : World → Env → Prop}
  (hA : ∀ w env, Allowed w env → PortsAllowed cc w env)
include hA

/-- **No two services share a node port, across clusters and interleavings.** In every
run of calls for any of the fleet's clusters, in any order, with clusters created along
the way, the node ports of the orchestrator's services stay pairwise distinct. -/
theorem fleet_ports_distinct {f f' : Fleet} (hrun : Relation.ReflTransGen (FleetStep cc Allowed) f f')
    (h0 : (servicePorts f.objects).Nodup) : (servicePorts f'.objects).Nodup := by
  induction hrun with
  | refl => exact h0
  | tail _ hs ih =>
    cases hs with
    | call _ step => exact step_servicePorts_nodup hA step ih
    | create => exact ih

end

/-! ## The addresses the records are given -/

/-- What the address invariant needs of the collaborators of a call: what the node-port
invariant needs, and secret generators that change nothing in the record but the SSH
material. -/
structure AddressAllowed (cc : Controller) (w : World) (env : Env) extends PortsAllowed cc w env :
    Prop where
  setsOnlySSH : env.SetsOnlySSH

/-- What holds of every fleet grown from none: the node ports of the services are
distinct, so are the clusters' names, and each record is `CrashSafe` against the shared
orchestrator. -/
structure FleetSafe (cc : Controller) (f : Fleet) : Prop where
  ports : (servicePorts f.objects).Nodup
  names : (f.records.map (·.metadata.name)).Nodup
  records : ∀ c ∈ f.records, CrashSafe cc ⟨c, f.objects⟩

theorem FleetSafe.empty (cc : Controller) : FleetSafe cc ⟨[], []⟩ :=
  ⟨List.nodup_nil, List.nodup_nil, fun _ h => absurd h (List.not_mem_nil _)⟩

theorem CrashSafe.keep {cc : Controller} {c : Cluster} {objs objs' : List Resource}
    (h : CrashSafe cc ⟨c, objs⟩) (hkeep : ∀ r ∈ objs, r.kind = .service → r ∈ objs') :
    CrashSafe cc ⟨c, objs'⟩ :=
  ⟨h.launching_key, h.key_cert, fun hu => (h.address hu).keep hkeep rfl rfl⟩

/-- A call deletes no service, whoever's it is. -/
theorem step_keeps_services {cc : Controller} {Allowed : World → Env → Prop} {w w' : World}
    (hs : Step cc Allowed w w') : ∀ r ∈ w.objects, r.kind = .service → r ∈ w'.objects := by
  cases hs with
  | @call env _ _ _ effects =>
    exact fun r hr hk => effects_keeps effects hr fun k ns name err hd => by
      rw [(syncPendingCluster_deletes cc env hd).1, hk]; decide

theorem set_self_of_getElem? {α : Type} {l : List α} {i : Nat} {a : α} (h : l[i]? = some a) :
    l.set i a = l := by
  induction l generalizing i with
  | nil => cases h
  | cons x l ih =>
    cases i with
    | zero => rw [List.getElem?_cons_zero, Option.some.injEq] at h; rw [h]; rfl
    | succ i => exact congrArg (x :: ·) (ih (by rwa [List.getElem?_cons_succ] at h))

/-- A service whose only `NodePort` is `q ≠ 0` takes exactly the node port `q`. -/
theorem Resource.ports_of_served {r : Resource} {q : Int} (hk : r.kind = .service)
    (hp : r.obj.nodePorts.map BitVec.toInt = [q]) (hq : q ≠ 0) : r.ports = [q] := by
  obtain ⟨np, rest, hl, rfl, hrest⟩ := List.map_eq_cons_iff.mp hp
  have h0 : np ≠ 0 := fun h => hq (by rw [h]; rfl)
  simp_all [Resource.ports, Object.ports]

section

variable {cc : Controller} {Allowed : World → Env → Prop}
  (hA : ∀ w env, Allowed w env → AddressAllowed cc w env)
include hA

theorem step_crashAllowed {w w' : World} (hs : Step cc Allowed w w') :
    Step cc (CrashAllowed cc) w w' := by
  cases hs with
  | call persist allowed effects =>
    exact .call persist ⟨(hA _ _ allowed).publicNodePort, (hA _ _ allowed).setsOnlySSH⟩ effects

/-- Every step of a fleet keeps it `FleetSafe`: the calling cluster's record by
`crashSafe_step`, the others' because no call deletes a service. -/
theorem FleetSafe.step {f f' : Fleet} (h : FleetSafe cc f) (hs : FleetStep cc Allowed f f') :
    FleetSafe cc f' := by
  cases hs with
  | @call i c w' hi step =>
    have hmeta := (step_frame (fun w env h => (hA w env h).setsOnlySSH) step).1
    refine ⟨step_servicePorts_nodup (fun w env h => (hA w env h).toPortsAllowed) step h.ports,
      ?_, fun c' hc' => ?_⟩
    · rw [List.map_set, hmeta, set_self_of_getElem? (by rw [List.getElem?_map, hi]; rfl)]
      exact h.names
    · rcases List.mem_or_eq_of_mem_set hc' with hc' | rfl
      · exact (h.records c' hc').keep (step_keeps_services step)
      · exact crashSafe_step (h.records c (List.getElem?_mem hi)) (step_crashAllowed hA step)
  | @create c fresh unique =>
    refine ⟨h.ports, ?_, fun c' hc' => ?_⟩
    · rw [List.map_append]
      exact h.names.append (List.nodup_singleton _) (List.disjoint_singleton.mpr unique)
    · rcases List.mem_append.mp hc' with hc' | hc'
      · exact h.records c' hc'
      · exact (List.mem_singleton.mp hc') ▸ crashSafe_of_fresh fresh _

theorem reachable_fleetSafe {f : Fleet} (hrun : Relation.ReflTransGen (FleetStep cc Allowed) ⟨[], []⟩ f) :
    FleetSafe cc f := by
  induction hrun with
  | refl => exact FleetSafe.empty cc
  | tail _ hs ih => exact ih.step hA hs

/-- **No two clusters are given one port.** In every fleet grown from none, by clusters
created with distinct names and calls for any of them in any order, with failures,
creates that take effect and still report an error, and lost writes: two clusters whose
records carry an address carry different apiserver ports, provided the port range lies
above `0`. -/
theorem fleet_addresses_distinct (hmin : 0 < cc.minAPIServerPort.toInt) {f : Fleet}
    (hrun : Relation.ReflTransGen (FleetStep cc Allowed) ⟨[], []⟩ f) {i j : Nat} (hij : i ≠ j)
    {ci cj : Cluster} (hi : f.records[i]? = some ci) (hj : f.records[j]? = some cj)
    (hui : ci.address.url ≠ "") (huj : cj.address.url ≠ "") :
    ci.address.apiserverExternalPort ≠ cj.address.apiserverExternalPort := by
  have hsafe := reachable_fleetSafe hA hrun
  obtain ⟨-, hloi, -, ri, hri, hki, hnsi, -, hpi⟩ := (hsafe.records ci (List.getElem?_mem hi)).address hui
  obtain ⟨-, hloj, -, rj, hrj, hkj, hnsj, -, hpj⟩ := (hsafe.records cj (List.getElem?_mem hj)).address huj
  dsimp only at hloi hnsi hpi hloj hnsj hpj
  have hname : ci.metadata.name ≠ cj.metadata.name := fun h => hij <|
    List.getElem?_inj (by simpa using (List.getElem?_eq_some_iff.mp hi).1) hsafe.names
      (by rw [List.getElem?_map, List.getElem?_map, hi, hj]; exact congrArg some h)
  have hne : ri ≠ rj := fun h => hname (namespaceName_injective (hnsi.symm.trans (h ▸ hnsj)))
  have hpair : f.objects.Pairwise (List.Disjoint on Resource.ports) :=
    (List.nodup_flatMap.mp hsafe.ports).2
  have hdisj : ri.ports.Disjoint rj.ports := hpair.forall (fun _ _ => List.disjoint_symm) hri hrj hne
  intro heq
  rw [Resource.ports_of_served hki hpi (by omega), Resource.ports_of_served hkj hpj (by omega),
    heq] at hdisj
  exact hdisj (List.mem_singleton_self _) (List.mem_singleton_self _)

end

/-! ## Two clusters, interleaved -/

/-- A call for the `i`th cluster against `workingEnv`, its answer persisted. -/
def fleetCall (cc : Controller) (i : Nat) (f : Fleet) : Fleet :=
  match f.records[i]? with
  | some c =>
    let w := workingStep cc true ⟨c, f.objects⟩
    ⟨f.records.set i w.record, w.objects⟩
  | none => f

theorem fleetCall_step {cc : Controller} {Allowed : World → Env → Prop} {f : Fleet} {i : Nat}
    (hA : ∀ w, Allowed w (workingEnv w))
    (h : (f.records[i]?.map fun c =>
      answersHonestly f.objects (syncPendingCluster cc (workingEnv ⟨c, f.objects⟩) c).actions) = some true) :
    FleetStep cc Allowed f (fleetCall cc i f) := by
  cases hc : f.records[i]? with
  | none => rw [hc] at h; cases h
  | some c =>
    rw [hc, Option.map_some', Option.some.injEq] at h
    rw [fleetCall, hc]
    exact .call hc (workingStep_step true (hA _) h)

theorem workingEnv_addressAllowed (w : World) : AddressAllowed sampleController w (workingEnv w) :=
  ⟨⟨rfl, (workingEnv_crashAllowed w).1, fun c obj h => by cases h; simp⟩, workingEnv_setsOnlySSH w⟩

/-- The fresh clusters `c1` and `c2`, with nothing created for either. -/
def twoClusters : Fleet := ⟨[freshCluster, { freshCluster with metadata := ⟨"c2"⟩ }], []⟩

/-- The API creates `c1`, then `c2`. -/
theorem twoClusters_created {cc : Controller} {Allowed : World → Env → Prop} :
    Relation.ReflTransGen (FleetStep cc Allowed) ⟨[], []⟩ twoClusters :=
  (Relation.ReflTransGen.single (.create (c := freshCluster) ⟨rfl, rfl, rfl, rfl⟩ (by decide))).tail
    (.create (f := ⟨[freshCluster], []⟩) (c := { freshCluster with metadata := ⟨"c2"⟩ })
      ⟨rfl, rfl, rfl, rfl⟩ (by decide))

/-- `twoClusters` after calls for `c1` and `c2` taken in turn, three each: `c1` is given
the first port of the range, and `c2`, which sees `c1`'s service in the cache, the next. -/
def servedFleet : Fleet :=
  fleetCall sampleController 1 <| fleetCall sampleController 0 <|
    fleetCall sampleController 1 <| fleetCall sampleController 0 <|
    fleetCall sampleController 1 <| fleetCall sampleController 0 twoClusters

theorem twoClusters_run {Allowed : World → Env → Prop} (hA : ∀ w, Allowed w (workingEnv w)) :
    Relation.ReflTransGen (FleetStep sampleController Allowed) twoClusters servedFleet :=
  (((((Relation.ReflTransGen.single (fleetCall_step hA (by decide))).tail
    (fleetCall_step hA (by decide))).tail (fleetCall_step hA (by decide))).tail
    (fleetCall_step hA (by decide))).tail (fleetCall_step hA (by decide))).tail
    (fleetCall_step hA (by decide))

theorem twoClusters_ports_distinct :
    servicePorts servedFleet.objects = [30001, 30000] ∧ (servicePorts servedFleet.objects).Nodup :=
  ⟨by decide, fleet_ports_distinct (fun _ _ h => h)
    (twoClusters_run fun w => (workingEnv_addressAllowed w).toPortsAllowed) List.nodup_nil⟩

/-- The API creates `c1` and `c2`, then each is given its address: the two ports differ. -/
theorem servedFleet_addresses_distinct :
    ∃ c1 c2, servedFleet.records[0]? = some c1 ∧ servedFleet.records[1]? = some c2 ∧
      c1.address.url ≠ "" ∧ c2.address.url ≠ "" ∧
      c1.address.apiserverExternalPort ≠ c2.address.apiserverExternalPort :=
  ⟨_, _, rfl, rfl, by decide, by decide, fleet_addresses_distinct (fun _ _ h => h) (by decide)
    (twoClusters_created.trans (twoClusters_run workingEnv_addressAllowed)) (i := 0) (j := 1)
    (by decide) rfl rfl (by decide) (by decide)⟩

end Kubermatic
