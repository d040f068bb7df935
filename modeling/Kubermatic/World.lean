import Kubermatic.Provision

/-!
# Runs of the reconciler

A cluster is reconciled by calling `syncPendingCluster` again and again on the record the
API server holds for it. Between calls, two things persist: the record, written back
only when a call answers a cluster and the write goes through, and the objects the
orchestrator holds, changed by every create and delete a call issues, whatever the call
was told about them. This file sets up that world.

* `World` — the persisted record and the orchestrator's objects;
* `Effect`, `Effects` — what a call's side effects may do to the orchestrator, given the
  answers the call saw: a create or a delete may succeed, fail without effect, or take
  effect and still report an error; a create of an object the orchestrator holds fails;
* `Step` — one call against collaborators a predicate `Allowed` admits, whose answered
  cluster is persisted or lost;
* `Reachable` — the worlds a freshly created cluster reaches from any orchestrator whose
  deployments carry their names as roles (`World.Init`), and `Reachable.induction`, the
  invariant principle every run-level result goes through;
* `effects_holds` — after a call, the orchestrator holds what it held and the call did
  not delete, or what the call created;
* `answersHonestly`, `applyActions` — the answers of a working orchestrator and the
  objects it then holds (`effects_of_answersHonestly`).
-/

namespace Kubermatic

/-- What persists between two calls: the cluster record as the API server holds it, and
the objects the orchestrator holds. -/
structure World where
  record : Cluster
  objects : List Resource

/-- Whether `objs` holds an object of kind `k` named `name` in namespace `ns`. -/
def holds (objs : List Resource) (k : Kind) (ns name : String) : Bool :=
  objs.any fun r => r.kind == k && r.ns == ns && r.obj.name == name

/-- `objs` once the object of kind `k` named `name` in namespace `ns` is deleted. -/
def removeObject (objs : List Resource) (k : Kind) (ns name : String) : List Resource :=
  objs.filter fun r => !(r.kind == k && r.ns == ns && r.obj.name == name)

@[simp] theorem holds_nil (k : Kind) (ns name : String) : holds [] k ns name = false := rfl

@[simp] theorem holds_cons (r : Resource) (objs : List Resource) (k : Kind) (ns name : String) :
    holds (r :: objs) k ns name =
      (r.kind == k && r.ns == ns && r.obj.name == name || holds objs k ns name) := rfl

theorem holds_iff {objs : List Resource} {k : Kind} {ns name : String} :
    holds objs k ns name = true ↔ ∃ r ∈ objs, r.kind = k ∧ r.ns = ns ∧ r.obj.name = name := by
  simp [holds, and_assoc]

@[simp] theorem holds_removeObject (objs : List Resource) (k k' : Kind) (ns ns' name name' : String) :
    holds (removeObject objs k' ns' name') k ns name =
      (holds objs k ns name && !(k == k' && ns == ns' && name == name')) := by
  simp only [holds, removeObject, List.any_filter]
  induction objs with
  | nil => rfl
  | cons r objs ih =>
    simp only [List.any_cons, ih]
    by_cases hq : r.kind = k ∧ r.ns = ns ∧ r.obj.name = name
    · obtain ⟨rfl, rfl, rfl⟩ := hq
      simp
    · have hf : (r.kind == k && r.ns == ns && r.obj.name == name) = false := by
        simpa [and_assoc] using hq
      simp [hf]

/-! ## Side effects and their effect -/

/-- What one side effect may do to the orchestrator's objects, given the answer the call
saw. A create of an object the orchestrator holds fails and changes nothing; a create of
an absent object and a delete may succeed, fail without effect, or take effect and still
report an error; an event changes nothing. -/
inductive Effect : List Resource → Action → List Resource → Prop
  | created {objs : List Resource} {k : Kind} {ns : String} {obj : Object}
      (absent : holds objs k ns obj.name = false) :
      Effect objs (.create k ns obj none) (⟨k, ns, obj⟩ :: objs)
  | createFailed {objs : List Resource} {k : Kind} {ns : String} {obj : Object} (err : Error) :
      Effect objs (.create k ns obj (some err)) objs
  | createdLate {objs : List Resource} {k : Kind} {ns : String} {obj : Object} (err : Error)
      (absent : holds objs k ns obj.name = false) :
      Effect objs (.create k ns obj (some err)) (⟨k, ns, obj⟩ :: objs)
  | deleted {objs : List Resource} {k : Kind} {ns name : String} :
      Effect objs (.delete k ns name none) (removeObject objs k ns name)
  | deleteFailed {objs : List Resource} {k : Kind} {ns name : String} (err : Error) :
      Effect objs (.delete k ns name (some err)) objs
  | deletedLate {objs : List Resource} {k : Kind} {ns name : String} (err : Error) :
      Effect objs (.delete k ns name (some err)) (removeObject objs k ns name)
  | event {objs : List Resource} {phase format : String} {args : List String} :
      Effect objs (.event phase format args) objs

/-- The side effects `acts`, in order, take the orchestrator from `objs` to `objs'`. -/
inductive Effects : List Resource → List Action → List Resource → Prop
  | nil {objs : List Resource} : Effects objs [] objs
  | cons {objs objs₁ objs₂ : List Resource} {a : Action} {acts : List Action} :
      Effect objs a objs₁ → Effects objs₁ acts objs₂ → Effects objs (a :: acts) objs₂

/-- The objects `acts` creates, by kind, namespace and name, whatever the answers. -/
def createdIds (acts : List Action) : List (Kind × String × String) :=
  acts.filterMap fun
    | .create k ns obj _ => some (k, ns, obj.name)
    | _ => none

/-- The objects `acts` deletes with success. -/
def deletedIds (acts : List Action) : List (Kind × String × String) :=
  acts.filterMap fun
    | .delete k ns name none => some (k, ns, name)
    | _ => none

@[simp] theorem createdIds_nil : createdIds [] = [] := rfl

@[simp] theorem createdIds_append (acts acts' : List Action) :
    createdIds (acts ++ acts') = createdIds acts ++ createdIds acts' := List.filterMap_append ..

@[simp] theorem createdIds_create (k : Kind) (ns : String) (obj : Object) (err : Option Error)
    (acts : List Action) :
    createdIds (.create k ns obj err :: acts) = (k, ns, obj.name) :: createdIds acts := rfl

@[simp] theorem createdIds_delete (k : Kind) (ns name : String) (err : Option Error)
    (acts : List Action) : createdIds (.delete k ns name err :: acts) = createdIds acts := rfl

@[simp] theorem createdIds_event (phase format : String) (args : List String) (acts : List Action) :
    createdIds (.event phase format args :: acts) = createdIds acts := rfl

@[simp] theorem deletedIds_append (acts acts' : List Action) :
    deletedIds (acts ++ acts') = deletedIds acts ++ deletedIds acts' := List.filterMap_append ..

theorem mem_createdIds {acts : List Action} {k : Kind} {ns name : String} :
    (k, ns, name) ∈ createdIds acts ↔ ∃ obj err, obj.name = name ∧ .create k ns obj err ∈ acts := by
  simp only [createdIds, List.mem_filterMap]
  constructor
  · rintro ⟨a, ha, h⟩
    cases a <;> simp only [Option.some.injEq, Prod.mk.injEq, reduceCtorEq] at h
    obtain ⟨rfl, rfl, rfl⟩ := h
    exact ⟨_, _, rfl, ha⟩
  · rintro ⟨obj, err, rfl, h⟩
    exact ⟨_, h, rfl⟩

/-- **What the orchestrator holds after a call.** An object held after side effects
`acts` was created by one of them, or was held before and no successful delete among
them removed it. -/
theorem effects_holds {objs objs' : List Resource} {acts : List Action}
    (h : Effects objs acts objs') {k : Kind} {ns name : String}
    (hh : holds objs' k ns name = true) :
    (k, ns, name) ∈ createdIds acts ∨
      (holds objs k ns name = true ∧ (k, ns, name) ∉ deletedIds acts) := by
  induction h with
  | nil => exact .inr ⟨hh, List.not_mem_nil _⟩
  | @cons objs objs₁ objs₂ a acts he _ ih =>
    have hcreated : ∀ {k' ns' obj err}, a = .create k' ns' obj err →
        (k, ns, name) ∈ createdIds acts → (k, ns, name) ∈ createdIds (a :: acts) := by
      rintro k' ns' obj err rfl hm; exact List.mem_cons_of_mem _ hm
    rcases ih hh with hc | ⟨h₁, hd⟩
    · cases he <;> first
        | exact .inl (hcreated rfl hc)
        | exact .inl hc
    · cases he with
      | created absent | createdLate _ absent =>
        simp only [holds_cons, Bool.or_eq_true, Bool.and_eq_true, beq_iff_eq] at h₁
        rcases h₁ with ⟨⟨rfl, rfl⟩, rfl⟩ | h₁
        · exact .inl (List.mem_cons_self _ _)
        · exact .inr ⟨h₁, hd⟩
      | createFailed | deleteFailed | event => exact .inr ⟨h₁, hd⟩
      | deleted =>
        simp only [holds_removeObject, Bool.and_eq_true, Bool.not_eq_true', Bool.and_eq_false_iff,
          beq_eq_false_iff_ne] at h₁
        refine .inr ⟨h₁.1, fun hm => ?_⟩
        rcases List.mem_cons.mp hm with he | hm
        · simp only [Prod.mk.injEq] at he
          obtain ⟨rfl, rfl, rfl⟩ := he
          simp at h₁
        · exact hd hm
      | deletedLate =>
        simp only [holds_removeObject, Bool.and_eq_true] at h₁
        exact .inr ⟨h₁.1, hd⟩

/-- An object held after side effects `acts` was held before them or created by one of
them. -/
theorem effects_mem {objs objs' : List Resource} {acts : List Action}
    (h : Effects objs acts objs') {r : Resource} (hr : r ∈ objs') :
    r ∈ objs ∨ ∃ err, .create r.kind r.ns r.obj err ∈ acts := by
  induction h with
  | nil => exact .inl hr
  | cons he _ ih =>
    rcases ih hr with hr | ⟨err, hc⟩
    · cases he with
      | created | createdLate =>
        rcases List.mem_cons.mp hr with rfl | hr
        · exact .inr ⟨_, List.mem_cons_self _ _⟩
        · exact .inl hr
      | deleted | deletedLate => exact .inl (List.mem_of_mem_filter hr)
      | createFailed | deleteFailed | event => exact .inl hr
    · exact .inr ⟨err, List.mem_cons_of_mem _ hc⟩

/-- An object of a kind none of `acts` deletes stays held. -/
theorem effects_keeps {objs objs' : List Resource} {acts : List Action}
    (h : Effects objs acts objs') {r : Resource} (hr : r ∈ objs)
    (hd : ∀ k ns name err, .delete k ns name err ∈ acts → k ≠ r.kind) : r ∈ objs' := by
  induction h with
  | nil => exact hr
  | cons he _ ih =>
    refine ih ?_ fun k ns name err hm => hd k ns name err (.tail _ hm)
    cases he with
    | created | createdLate => exact List.mem_cons_of_mem _ hr
    | createFailed | deleteFailed | event => exact hr
    | deleted | deletedLate =>
      refine List.mem_filter.mpr ⟨hr, ?_⟩
      have hk := hd _ _ _ _ (.head _)
      simp [Ne.symm hk]

/-- An object created with success, of a kind none of `acts` deletes, is held after
`acts`. -/
theorem effects_created {objs objs' : List Resource} {acts : List Action}
    (h : Effects objs acts objs') {k : Kind} {ns : String} {obj : Object}
    (hc : .create k ns obj none ∈ acts)
    (hd : ∀ k' ns' name err, .delete k' ns' name err ∈ acts → k' ≠ k) : ⟨k, ns, obj⟩ ∈ objs' := by
  induction h with
  | nil => cases hc
  | cons he hrest ih =>
    rcases List.mem_cons.mp hc with rfl | hc
    · cases he
      exact effects_keeps hrest (List.mem_cons_self _ _) fun k' ns' name err hm =>
        hd k' ns' name err (.tail _ hm)
    · exact ih hc fun k' ns' name err hm => hd k' ns' name err (.tail _ hm)

/-- An object held before side effects none of which deletes it is held after them,
however they were answered. -/
theorem effects_holds_of_not_deleted {objs objs' : List Resource} {acts : List Action}
    (h : Effects objs acts objs') {k : Kind} {ns name : String} (hh : holds objs k ns name = true)
    (hd : ∀ err, .delete k ns name err ∉ acts) : holds objs' k ns name = true := by
  induction h with
  | nil => exact hh
  | cons he _ ih =>
    refine ih ?_ fun err hm => hd err (.tail _ hm)
    cases he with
    | created | createdLate => simp [hh]
    | createFailed | deleteFailed | event => exact hh
    | @deleted k' ns' name' | @deletedLate k' ns' name' _ =>
      have hne : ¬(k = k' ∧ ns = ns' ∧ name = name') := by
        rintro ⟨rfl, rfl, rfl⟩; exact hd _ (.head _)
      simp only [holds_removeObject, hh, Bool.true_and]
      simpa [or_iff_not_imp_left, and_assoc] using hne

/-- An object none of whose deletes is among `acts` stays held, however they were
answered. -/
theorem effects_mem_of_not_deleted {objs objs' : List Resource} {acts : List Action}
    (h : Effects objs acts objs') {r : Resource} (hr : r ∈ objs)
    (hd : ∀ err, .delete r.kind r.ns r.obj.name err ∉ acts) : r ∈ objs' := by
  induction h with
  | nil => exact hr
  | cons he _ ih =>
    refine ih ?_ fun err hm => hd err (.tail _ hm)
    cases he with
    | created | createdLate => exact List.mem_cons_of_mem _ hr
    | createFailed | deleteFailed | event => exact hr
    | @deleted k ns name | @deletedLate k ns name _ =>
      have hne : ¬(r.kind = k ∧ r.ns = ns ∧ r.obj.name = name) := by
        rintro ⟨rfl, rfl, rfl⟩; exact hd _ (.head _)
      have hf : (r.kind == k && r.ns == ns && r.obj.name == name) = false := by
        simpa [and_assoc] using hne
      exact List.mem_filter.mpr ⟨hr, by simp [hf]⟩

/-- Side effects `pre ++ post` go through the objects `pre` leaves. -/
theorem Effects.append_inv {objs objs' : List Resource} {pre post : List Action}
    (h : Effects objs (pre ++ post) objs') : ∃ mid, Effects objs pre mid ∧ Effects mid post objs' := by
  induction pre generalizing objs with
  | nil => exact ⟨objs, .nil, h⟩
  | cons a pre ih =>
    cases h with
    | cons he hrest =>
      obtain ⟨mid, h₁, h₂⟩ := ih hrest
      exact ⟨mid, .cons he h₁, h₂⟩

/-- A create that reported success was issued when the orchestrator did not hold its
object. -/
theorem effects_create_absent {objs objs' : List Resource} {pre post : List Action} {k : Kind}
    {ns : String} {obj : Object} (h : Effects objs (pre ++ .create k ns obj none :: post) objs') :
    ∃ mid, Effects objs pre mid ∧ holds mid k ns obj.name = false := by
  obtain ⟨mid, h₁, h₂⟩ := h.append_inv
  cases h₂ with
  | cons he _ => cases he with
    | created absent => exact ⟨mid, h₁, absent⟩

/-! ## Runs -/

/-- One call of `syncPendingCluster` on the persisted record, against collaborators
`Allowed` admits in that world: the orchestrator goes through the call's side effects,
and the cluster the call answers is persisted, or lost (`persist = false`: a crash, or a
failed update, before the write). -/
inductive Step (cc : Controller) (Allowed : World → Env → Prop) : World → World → Prop
  | call {w : World} {env : Env} {objs : List Resource} (persist : Bool)
      (allowed : Allowed w env)
      (effects : Effects w.objects (syncPendingCluster cc env w.record).actions objs) :
      Step cc Allowed w
        ⟨if persist then (syncPendingCluster cc env w.record).changedC.getD w.record else w.record,
          objs⟩

/-- A cluster record as the API creates it: `Pending`, with no root CA, no address and no
SSH material. -/
def Cluster.Fresh (c : Cluster) : Prop :=
  c.status.phase = .pending ∧ c.status.rootCA = ⟨none, none⟩ ∧ c.address = ⟨"", 0⟩ ∧
    c.status.apiserverSSH = []

/-- Every deployment of `objs` carries its own name as its `role` label, as the
deployments of the pipeline do. -/
def RolesMatch (objs : List Resource) : Prop :=
  ∀ r ∈ objs, r.kind = .deployment → r.obj.role = some r.obj.name

theorem RolesMatch.nil : RolesMatch [] := fun _ h => absurd h (List.not_mem_nil _)

/-- A cluster the API has just created, in an orchestrator that may already hold objects,
of other clusters or in the cluster's own namespace. The deployment step probes by `role`
and creates by name, and a call can move the record to another name (a secret generator
may hand back a renamed cluster), so every deployment held carries its own name as its
role. -/
structure World.Init (w : World) : Prop where
  fresh : w.record.Fresh
  roles : RolesMatch w.objects

/-- The worlds a freshly created cluster reaches by calls `Allowed` admits. -/
def Reachable (cc : Controller) (Allowed : World → Env → Prop) (w : World) : Prop :=
  ∃ w₀, w₀.Init ∧ Relation.ReflTransGen (Step cc Allowed) w₀ w

section Reachable

variable {cc : Controller} {Allowed : World → Env → Prop}

/-- A property that holds of a fresh cluster and that every call keeps holds of every
reachable world. -/
theorem Reachable.induction (P : World → Prop) (hinit : ∀ w, w.Init → P w)
    (hstep : ∀ w w', Reachable cc Allowed w → P w → Step cc Allowed w w' → P w')
    {w : World} (hw : Reachable cc Allowed w) : P w := by
  obtain ⟨w₀, h₀, hrun⟩ := hw
  induction hrun with
  | refl => exact hinit _ h₀
  | tail hrun hs ih => exact hstep _ _ ⟨w₀, h₀, hrun⟩ ih hs

theorem Reachable.step {w w' : World} (hw : Reachable cc Allowed w) (hs : Step cc Allowed w w') :
    Reachable cc Allowed w' :=
  let ⟨w₀, h₀, hrun⟩ := hw
  ⟨w₀, h₀, hrun.tail hs⟩

theorem Reachable.init {w : World} (hw : w.Init) : Reachable cc Allowed w :=
  ⟨w, hw, .refl⟩

/-- A step persists the record it started from, or the cluster its call answered. -/
theorem Step.record_cases {w w' : World} (hs : Step cc Allowed w w') :
    w'.record = w.record ∨
      ∃ env, Allowed w env ∧ (syncPendingCluster cc env w.record).changedC = some w'.record := by
  cases hs with
  | @call env objs persist allowed effects =>
    cases persist with
    | false => exact .inl rfl
    | true =>
      cases hx : (syncPendingCluster cc env w.record).changedC with
      | none => exact .inl (by simp only [hx, ite_true, Option.getD_none])
      | some x => exact .inr ⟨env, allowed, by simp only [hx, ite_true, Option.getD_some]⟩

/-- A world reached by calls `Allowed` admits is reached by calls any weaker predicate
admits. -/
theorem Reachable.mono {Allowed' : World → Env → Prop} (h : ∀ w env, Allowed w env → Allowed' w env)
    {w : World} (hw : Reachable cc Allowed w) : Reachable cc Allowed' w := by
  obtain ⟨w₀, h₀, hrun⟩ := hw
  refine ⟨w₀, h₀, hrun.mono fun _ _ hs => ?_⟩
  cases hs with
  | call persist allowed effects => exact .call persist (h _ _ allowed) effects

end Reachable

/-! ## A working orchestrator -/

/-- The objects after the side effect `a`, when it took effect exactly if it reported
success. -/
def applyAction (objs : List Resource) : Action → List Resource
  | .create k ns obj none => ⟨k, ns, obj⟩ :: objs
  | .delete k ns name none => removeObject objs k ns name
  | _ => objs

/-- The objects after the side effects `acts`, each of which took effect exactly if it
reported success. -/
def applyActions : List Resource → List Action → List Resource
  | objs, [] => objs
  | objs, a :: acts => applyActions (applyAction objs a) acts

/-- Whether `a` got the answer of a working orchestrator holding `objs`: a create fails
exactly when the object is held, and a delete succeeds. -/
def answersHonestly₁ (objs : List Resource) : Action → Bool
  | .create k ns obj err => err.isSome == holds objs k ns obj.name
  | .delete _ _ _ err => err.isNone
  | .event .. => true

/-- Whether every side effect of `acts`, in order from `objs`, got the answer of a working
orchestrator. -/
def answersHonestly : List Resource → List Action → Bool
  | _, [] => true
  | objs, a :: acts => answersHonestly₁ objs a && answersHonestly (applyAction objs a) acts

theorem applyActions_append (objs : List Resource) (acts acts' : List Action) :
    applyActions objs (acts ++ acts') = applyActions (applyActions objs acts) acts' := by
  induction acts generalizing objs with
  | nil => rfl
  | cons a acts ih => exact ih _

theorem answersHonestly_append (objs : List Resource) (acts acts' : List Action) :
    answersHonestly objs (acts ++ acts') =
      (answersHonestly objs acts && answersHonestly (applyActions objs acts) acts') := by
  induction acts generalizing objs with
  | nil => rfl
  | cons a acts ih => rw [List.cons_append, answersHonestly, answersHonestly, ih, Bool.and_assoc]; rfl

/-- An object held before side effects none of which deletes it is held after them. -/
theorem holds_applyActions {objs : List Resource} {acts : List Action} {k : Kind} {ns name : String}
    (h : holds objs k ns name = true) (hd : ∀ err, .delete k ns name err ∉ acts) :
    holds (applyActions objs acts) k ns name = true := by
  induction acts generalizing objs with
  | nil => exact h
  | cons a acts ih =>
    refine ih ?_ fun err hm => hd err (.tail _ hm)
    match a, hd with
    | .create _ _ _ none, _ => simp [applyAction, h]
    | .delete k' ns' name' none, hd =>
      have hne : ¬(k = k' ∧ ns = ns' ∧ name = name') := by
        rintro ⟨rfl, rfl, rfl⟩; exact hd none (.head _)
      simp only [applyAction, holds_removeObject, h, Bool.true_and]
      simpa [or_iff_not_imp_left, and_assoc] using hne
    | .create _ _ _ (some _), _ | .delete _ _ _ (some _), _ | .event .., _ => exact h

/-- Side effects answered by a working orchestrator take it to `applyActions`. -/
theorem effects_of_answersHonestly {objs : List Resource} {acts : List Action}
    (h : answersHonestly objs acts = true) : Effects objs acts (applyActions objs acts) := by
  induction acts generalizing objs with
  | nil => exact .nil
  | cons a acts ih =>
    simp only [answersHonestly, Bool.and_eq_true] at h
    refine .cons ?_ (ih h.2)
    have h₁ := h.1
    cases a with
    | create k ns obj err =>
      cases err with
      | none =>
        simp only [answersHonestly₁, Option.isSome_none, beq_eq_false_iff_ne.symm] at h₁
        exact .created (by simpa using h₁)
      | some err => exact .createFailed err
    | delete k ns name err =>
      cases err with
      | none => exact .deleted
      | some err => exact .deleteFailed err
    | event => exact .event

end Kubermatic
