import Mathlib.Logic.Relation
import Mathlib.Order.MinMax
import Mathlib.Data.Option.Basic
import Mathlib.Data.List.Basic
import Mathlib.Data.List.Nodup
import Mathlib.Tactic.SplitIfs
import Mathlib.Algebra.Group.Int

/-!
# The pending-phase reconciler: data model

This file sets up the data that `syncPendingCluster`
(`controller/cluster/pending.go`) reads and writes: the cluster record, the objects
it creates in the orchestrator, the controller's configuration, and the external
collaborators one call talks to (informer caches, template loaders, artifact
generators, the CA library, the orchestrator client, the clock).

Go's pointer semantics are made explicit. Every function of `pending.go` is modelled
as a function from the record `*c` to an `Outcome`: the record as the function leaves
it, the side effects it issued in order, and the two values it returns. The external
collaborators are the fields of `Env`; a call runs against one `Env`, so "any outcome
of the external calls" is "any `Env`".

The Go control flow of `pending.go` uses three shapes, which are the three
combinators at the end of the file: `Outcome.orYield` (`if err != nil || changedC !=
nil { return changedC, err }`), `Outcome.orFail` (`if err != nil { return ..., err }`)
and `forRange` (a `for ... range` loop whose body may return).
-/

namespace Kubermatic

/-- A Go `[]byte`. -/
abbrev Bytes := List UInt8

/-- A reading of the clock (`time.Time`). -/
abbrev Time := Nat

/-- An error value, by the text `err.Error()` returns. -/
abbrev Error := String

/-- A parsed `template.Template`, by its text. -/
abbrev Template := String

/-- The lower-case hexadecimal digits of `n`, padded with zeros to `width` digits. -/
def hexDigits (width n : Nat) : String :=
  String.mk ((List.range width).reverse.map fun i => Nat.digitChar (n / 16 ^ i % 16))

/-- One character as Go's `%q` writes it between the quotes (`strconv.appendEscapedRune`
with quote `"`): `"` and `\` backslashed, printable ASCII as itself, the seven C escapes,
the other ASCII control characters as `\xNN`, the C1 control characters as `\uNNNN`,
and every other character as itself. Go also escapes the characters from `U+00A0` on that
`unicode.IsPrint` rejects; its tables are not modelled, so such a character is kept. -/
def quoteRune (ch : Char) : String :=
  if ch = '"' ∨ ch = '\\' then "\\" ++ ch.toString
  else if 0x20 ≤ ch.toNat ∧ ch.toNat < 0x7f then ch.toString
  else match ch.toNat with
    | 7 => "\\a"
    | 8 => "\\b"
    | 12 => "\\f"
    | 10 => "\\n"
    | 13 => "\\r"
    | 9 => "\\t"
    | 11 => "\\v"
    | n =>
      if n < 0x20 ∨ n = 0x7f then "\\x" ++ hexDigits 2 n
      else if n < 0xa0 then "\\u" ++ hexDigits 4 n
      else ch.toString

/-- Go's `%q` verb on a string (`strconv.Quote`): the string in double quotes, each
character written by `quoteRune`. -/
def quote (s : String) : String :=
  "\"" ++ String.join (s.toList.map quoteRune) ++ "\""

example : quote "a\"b\n\x01" = "\"a\\\"b\\n\\x01\"" := by decide

/-! ## The cluster record -/

/-- `api.ClusterStatusPhase`. This file is called on `Pending` clusters and writes
`Launching` and `Failed`; the phases it never names are `other`. -/
inductive Phase where
  | pending
  | launching
  | failed
  | other (name : String)
  deriving DecidableEq, Repr

/-- `api.ObjectMeta`, of which the name is read. -/
structure ObjectMeta where
  name : String
  deriving DecidableEq, Repr

/-- `api.AWSCloudSpec`: none of its fields is read, only whether it is set. -/
structure AWSCloudSpec where
  deriving DecidableEq, Repr

/-- `api.CloudSpec`, of which the AWS section is read. -/
structure CloudSpec where
  aws : Option AWSCloudSpec
  deriving DecidableEq, Repr

/-- `api.ClusterSpec`. -/
structure ClusterSpec where
  cloud : Option CloudSpec
  masterVersion : String
  deriving DecidableEq, Repr

/-- `api.ClusterAddress`; `ApiserverExternalPort` is a Go `int`. -/
structure ClusterAddress where
  url : String
  apiserverExternalPort : BitVec 64
  deriving DecidableEq, Repr

/-- `api.KeyCert`: PEM bytes of a key and its certificate, `none` for a nil slice. -/
structure KeyCert where
  key : Option Bytes
  cert : Option Bytes
  deriving DecidableEq, Repr

/-- `api.ClusterStatus`. -/
structure ClusterStatus where
  lastTransitionTime : Time
  phase : Phase
  rootCA : KeyCert
  apiserverSSH : Bytes
  deriving DecidableEq, Repr

/-- `api.Cluster`, the record a reconcile works on. -/
structure Cluster where
  metadata : ObjectMeta
  spec : ClusterSpec
  address : ClusterAddress
  status : ClusterStatus
  deriving DecidableEq, Repr

/-- `c.Spec.Cloud != nil && c.Spec.Cloud.AWS != nil`. -/
def Cluster.hasAWS (c : Cluster) : Bool :=
  match c.spec.cloud with
  | some cloud => cloud.aws.isSome
  | none => false

/-! ## Orchestrator objects and side effects -/

/-- The kinds of object the reconciler creates, one per client it goes through. -/
inductive Kind where
  | secret
  | service
  | serviceAccount
  | clusterRoleBinding
  | configMap
  | persistentVolumeClaim
  | deployment
  | etcdCluster
  | clusterAddon
  deriving DecidableEq, Repr

/-- The part of a generated object that the reconciler reads or writes. -/
structure Object where
  /-- `ObjectMeta.Name`. -/
  name : String
  /-- `Spec.Selector.MatchLabels["role"]` of a deployment. -/
  role : Option String
  /-- The `NodePort` of every entry of a service's `Spec.Ports`, zero when unset. -/
  nodePorts : List (BitVec 32)
  /-- `Name` of a cluster add-on. -/
  addonName : String
  deriving DecidableEq, Repr

/-- An object held by the orchestrator or one of its caches. The client it was created
through decides its kind and namespace (`""` for a cluster-scoped object). -/
structure Resource where
  kind : Kind
  ns : String
  obj : Object
  deriving DecidableEq, Repr

/-- `cache.MetaNamespaceKeyFunc`: `<namespace>/<name>`, or the bare name of a
cluster-scoped object. -/
def Resource.key (r : Resource) : String :=
  if r.ns = "" then r.obj.name else r.ns ++ "/" ++ r.obj.name

/-- A side effect of a call, together with what the collaborator answered. -/
inductive Action where
  /-- `client.<Kind>(ns).Create(obj)`, answered by `err`. -/
  | create (kind : Kind) (ns : String) (obj : Object) (err : Option Error)
  /-- `client.<Kind>(ns).Delete(name, ...)`, answered by `err`. -/
  | delete (kind : Kind) (ns : String) (name : String) (err : Option Error)
  /-- `cc.recordClusterEvent(c, phase, format, args...)`. -/
  | event (phase : String) (format : String) (args : List String)
  deriving DecidableEq, Repr

/-! ## Configuration -/

/-- `api.MasterVersion`: the template files of one master version. -/
structure MasterVersion where
  id : String
  etcdOperatorDeploymentYaml : String
  apiserverDeploymentYaml : String
  controllerDeploymentYaml : String
  schedulerDeploymentYaml : String
  etcdClusterYaml : String
  deriving DecidableEq, Repr

/-- The fields of `clusterController` that this file reads. -/
structure Controller where
  dc : String
  externalURL : String
  masterResourcesPath : String
  minAPIServerPort : BitVec 64
  maxAPIServerPort : BitVec 64
  defaultMasterVersion : MasterVersion
  /-- The version registry `cc.versions`, a Go map. -/
  versions : List (String × MasterVersion)

/-- `kubernetes.NamespaceName` of the `provider/kubernetes` package: the namespace that
holds a cluster's control plane, `cluster-<name>`. -/
def namespaceName (name : String) : String := "cluster-" ++ name

/-- Distinct clusters get distinct namespaces. -/
theorem namespaceName_injective : Function.Injective namespaceName := fun a b h => by
  simpa only [namespaceName, String.ext_iff, String.data_append, List.append_cancel_left_eq] using h

theorem namespaceName_ne_empty (name : String) : namespaceName name ≠ "" := fun h => by
  simp only [namespaceName, String.ext_iff, String.data_append, List.append_eq_nil,
    List.cons_ne_nil, false_and] at h

/-- `csr.CertificateRequest`, as far as `pendingCreateRootCA` fills it. -/
structure CertificateRequest where
  cn : String
  keyAlgo : String
  keySize : Nat
  caExpiry : String
  deriving DecidableEq, Repr

/-- What `initca.New` hands back: certificate and key (`none` for nil) and an error.
The library returns both whenever it reports no error. -/
structure InitcaResult where
  cert : Option Bytes
  key : Option Bytes
  err : Option Error
  present : err = none → cert.isSome ∧ key.isSome

/-! ## The external collaborators of a call -/

/-- How the collaborators of `syncPendingCluster` behave during one call. Generators
that may change the cluster hand back the cluster they changed: in Go they write
through the pointer `c` and return it, so after such a generator the record is the
cluster it returned. -/
structure Env where
  /-- The error of `cc.checkTimeout(c)`. The predicate's side effect on an expired cluster
  (moving it to a failure state) is not modelled: here the call leaves the record alone. -/
  checkTimeout : Cluster → Option Error
  /-- `initca.New(&req)`. -/
  initcaNew : CertificateRequest → InitcaResult
  /-- `time.Now()`. -/
  now : Time
  /-- The objects in the informer caches. -/
  cache : List Resource
  /-- A failure of `<store>.GetByKey(key)` on the store of a kind. -/
  getByKeyErr : Kind → String → Option Error
  /-- A failure of `depStore.ByIndex("namespace", ns)`. -/
  byIndexErr : String → Option Error
  /-- `template.ParseFiles(path.Join(dir, file))`. -/
  parseFiles : String → String → Except Error Template
  /-- `createTokens(c)`. -/
  createTokens : Cluster → Except Error Object
  /-- `createApiserverAuth(cc, c, t)`: the cluster it returns as changed, and the secret. -/
  createApiserverAuth : Cluster → Template → Except Error (Option Cluster × Object)
  /-- `createApiserverSSH(cc, c, t)`: the cluster it returns as changed, and the secret. -/
  createApiserverSSH : Cluster → Template → Except Error (Option Cluster × Object)
  /-- `resources.LoadServiceFile(c, app, masterResourcesPath)`. -/
  loadServiceFile : Cluster → String → String → Except Error Object
  /-- `resources.LoadServiceAccountFile(app, masterResourcesPath)`. -/
  loadServiceAccountFile : String → String → Except Error Object
  /-- `resources.LoadClusterRoleBindingFile(namespace, app, masterResourcesPath)`. -/
  loadClusterRoleBindingFile : String → String → String → Except Error Object
  /-- `resources.LoadAwsCloudConfigConfigMap(c)`. -/
  loadAwsCloudConfigConfigMap : Cluster → Except Error Object
  /-- `resources.LoadDeploymentFile(c, masterVersion, masterResourcesPath, dc, yamlFile)`. -/
  loadDeploymentFile : Cluster → MasterVersion → String → String → String → Except Error Object
  /-- `resources.LoadEtcdClusterFile(masterVersion, masterResourcesPath, yamlFile)`. -/
  loadEtcdClusterFile : MasterVersion → String → String → Except Error Object
  /-- The orchestrator's answer to `Create(obj)` through the client of a kind and namespace. -/
  create : Kind → String → Object → Option Error
  /-- The orchestrator's answer to `Delete(name, ...)`. -/
  delete : Kind → String → String → Option Error
  /-- The order in which `for ... range` visits the entries of a Go map. Go randomises
  it; the maps of this file that have more than one entry differ in length, so one
  permutation per length covers every order. -/
  rangeOrder : {α : Type} → List α → List α
  rangeOrder_perm : ∀ {α : Type} (l : List α), (rangeOrder l).Perm l

namespace Env

variable (env : Env)

/-- The `exists` answer of `<store>.GetByKey(key)` on the store of kind `k`. -/
def getByKey (k : Kind) (key : String) : Except Error Bool :=
  match env.getByKeyErr k key with
  | some err => .error err
  | none => .ok (env.cache.any fun r => r.kind == k && r.key == key)

/-- `depStore.ByIndex("namespace", ns)`: the cached deployments of a namespace. -/
def byIndex (ns : String) : Except Error (List Object) :=
  match env.byIndexErr ns with
  | some err => .error err
  | none => .ok ((env.cache.filter fun r => r.kind == .deployment && r.ns == ns).map (·.obj))

/-- `serviceStore.List()`: every cached service. -/
def services : List Object :=
  (env.cache.filter fun r => r.kind == .service).map (·.obj)

end Env

/-! ## Outcomes and the control flow of `pending.go` -/

/-- What running a function of `pending.go` on the record leaves behind. -/
structure Outcome where
  /-- The record `*c` as the function leaves it. -/
  cluster : Cluster
  /-- The side effects issued, in order. -/
  actions : List Action
  /-- The returned cluster pointer, `none` for `nil`. -/
  changedC : Option Cluster
  /-- The returned error, `none` for `nil`. -/
  err : Option Error

namespace Outcome

/-- Falling through, or `return nil, nil`: nothing returned. -/
def done (c : Cluster) (acts : List Action) : Outcome := ⟨c, acts, none, none⟩

/-- A cluster that `o` answers is the record as `o` leaves it. -/
def AnswersRecord (o : Outcome) : Prop := ∀ r, o.changedC = some r → r = o.cluster

/-- Whether the function's caller leaves on it: it answered an error or a cluster. -/
def returned (o : Outcome) : Bool := o.err.isSome || o.changedC.isSome

/-- When `o` lets its caller go on, the record is still `c`. -/
def Keeps (o : Outcome) (c : Cluster) : Prop := o.returned = false → o.cluster = c

/-- Run `k` on the record `o` leaves, after the side effects of `o`. -/
def andThen (o : Outcome) (k : Cluster → Outcome) : Outcome :=
  let o' := k o.cluster
  { o' with actions := o.actions ++ o'.actions }

/-- `changedC, err = f(c); if err != nil || changedC != nil { return changedC, err }`,
then the rest `k` of the function. -/
def orYield (o : Outcome) (k : Cluster → Outcome) : Outcome :=
  if o.returned then o else o.andThen k

/-- `err = f(c); if err != nil { return changedC, err }`, then the rest `k`. -/
def orFail (o : Outcome) (k : Cluster → Outcome) : Outcome :=
  if o.err.isSome then o else o.andThen k

@[simp] theorem andThen_cluster (o : Outcome) (k : Cluster → Outcome) :
    (o.andThen k).cluster = (k o.cluster).cluster := rfl

@[simp] theorem andThen_actions (o : Outcome) (k : Cluster → Outcome) :
    (o.andThen k).actions = o.actions ++ (k o.cluster).actions := rfl

@[simp] theorem andThen_changedC (o : Outcome) (k : Cluster → Outcome) :
    (o.andThen k).changedC = (k o.cluster).changedC := rfl

@[simp] theorem andThen_err (o : Outcome) (k : Cluster → Outcome) :
    (o.andThen k).err = (k o.cluster).err := rfl

@[simp] theorem returned_andThen (o : Outcome) (k : Cluster → Outcome) :
    (o.andThen k).returned = (k o.cluster).returned := rfl

@[simp] theorem done_cluster (c : Cluster) (acts : List Action) : (done c acts).cluster = c := rfl

@[simp] theorem done_actions (c : Cluster) (acts : List Action) : (done c acts).actions = acts := rfl

@[simp] theorem done_changedC (c : Cluster) (acts : List Action) : (done c acts).changedC = none := rfl

@[simp] theorem done_err (c : Cluster) (acts : List Action) : (done c acts).err = none := rfl

theorem orYield_of_returned {o : Outcome} (h : o.returned = true) (k : Cluster → Outcome) :
    o.orYield k = o := if_pos h

theorem orYield_of_not_returned {o : Outcome} (h : o.returned = false) (k : Cluster → Outcome) :
    o.orYield k = o.andThen k := if_neg (by simp [h])

theorem orFail_of_err {o : Outcome} (h : o.err.isSome = true) (k : Cluster → Outcome) :
    o.orFail k = o := if_pos h

theorem orFail_of_ok {o : Outcome} (h : o.err = none) (k : Cluster → Outcome) :
    o.orFail k = o.andThen k := if_neg (by simp [h])

theorem mem_orYield_actions {o : Outcome} {k : Cluster → Outcome} {a : Action}
    (h : a ∈ (o.orYield k).actions) :
    a ∈ o.actions ∨ (o.returned = false ∧ a ∈ (k o.cluster).actions) := by
  unfold orYield at h
  split at h
  · exact .inl h
  · rename_i hr
    rcases List.mem_append.mp h with h | h
    · exact .inl h
    · exact .inr ⟨by simpa using hr, h⟩

theorem orYield_actions (o : Outcome) (k : Cluster → Outcome) :
    (o.orYield k).actions = o.actions ∨
      (o.returned = false ∧ (o.orYield k).actions = o.actions ++ (k o.cluster).actions) := by
  unfold orYield; split
  · exact .inl rfl
  · rename_i h; exact .inr ⟨by simpa using h, rfl⟩

/-- A first part that answers no cluster leaves the answer to the rest. -/
theorem orYield_changed {o : Outcome} {k : Cluster → Outcome} {x : Cluster}
    (ho : o.changedC = none) (h : (o.orYield k).changedC = some x) :
    (k o.cluster).changedC = some x ∧ (o.orYield k).actions = o.actions ++ (k o.cluster).actions := by
  unfold orYield at h ⊢
  split at h
  · rw [ho] at h; cases h
  · rename_i hr
    rw [if_neg hr]
    exact ⟨h, rfl⟩

theorem orYield_passes {o : Outcome} {k : Cluster → Outcome} (h : (o.orYield k).returned = false) :
    o.returned = false ∧ (k o.cluster).returned = false ∧
      (o.orYield k).actions = o.actions ++ (k o.cluster).actions := by
  unfold orYield at h ⊢
  split at h
  · rename_i ho; rw [h] at ho; cases ho
  · rename_i ho
    rw [if_neg ho]
    exact ⟨by simpa using ho, h, rfl⟩

theorem orYield_cluster (o : Outcome) (k : Cluster → Outcome) :
    (o.orYield k).cluster = o.cluster ∨ (o.orYield k).cluster = (k o.cluster).cluster := by
  unfold orYield; split
  · exact .inl rfl
  · exact .inr rfl

theorem orYield_err {o : Outcome} {k : Cluster → Outcome} (ho : o.err.isSome → o.changedC = none)
    (hk : ∀ c, (k c).err.isSome → (k c).changedC = none) :
    (o.orYield k).err.isSome → (o.orYield k).changedC = none := by
  unfold orYield
  split
  · exact ho
  · exact hk o.cluster

theorem err_of_returned {o : Outcome} (h : o.returned = false) : o.err = none := by
  unfold returned at h
  cases he : o.err with
  | none => rfl
  | some _ => rw [he] at h; cases h

theorem done_keeps (c : Cluster) (acts : List Action) : (done c acts).Keeps c := fun _ => rfl

theorem answersRecord_of_changedC {o : Outcome} (h : o.changedC = none) : o.AnswersRecord :=
  fun _ hr => by rw [h] at hr; cases hr

theorem done_answersRecord (c : Cluster) (acts : List Action) : (done c acts).AnswersRecord :=
  answersRecord_of_changedC rfl

/-- An answer that is no cluster followed by a rest that answers its record answers its
record. -/
theorem orYield_answersRecord {o : Outcome} {k : Cluster → Outcome} (ho : o.changedC = none)
    (hk : ∀ c, (k c).AnswersRecord) : (o.orYield k).AnswersRecord := by
  unfold orYield
  split
  · exact answersRecord_of_changedC ho
  · exact hk o.cluster

theorem orYield_keeps {o : Outcome} {k : Cluster → Outcome} {c : Cluster} (ho : o.Keeps c)
    (hk : ∀ c, (k c).Keeps c) : (o.orYield k).Keeps c := by
  unfold orYield
  split
  · rename_i h; intro h'; rw [h'] at h; cases h
  · rename_i h
    intro h'
    rw [andThen_cluster, hk _ h', ho (by simpa using h)]

end Outcome

/-- `for _, x := range xs { body }` in a function that returns `nil, nil` (or `nil`)
after the loop; a body leaves the function by answering an error or a cluster. -/
def forRange {α : Type} : List α → (α → Cluster → Outcome) → Cluster → Outcome
  | [], _, c => Outcome.done c []
  | x :: xs, body, c => (body x c).orYield (forRange xs body)

section forRange

variable {α : Type} {xs : List α} {body : α → Cluster → Outcome}

/-- A loop whose bodies keep the record keeps it. -/
theorem forRange_cluster (h : ∀ x c, (body x c).cluster = c) (c : Cluster) :
    (forRange xs body c).cluster = c := by
  induction xs generalizing c with
  | nil => rfl
  | cons x xs ih =>
    simp only [forRange, Outcome.orYield]
    split
    · exact h x c
    · simp [ih, h]

/-- A loop whose bodies answer no cluster answers none. -/
theorem forRange_changedC (h : ∀ x c, (body x c).changedC = none) (c : Cluster) :
    (forRange xs body c).changedC = none := by
  induction xs generalizing c with
  | nil => rfl
  | cons x xs ih =>
    simp only [forRange, Outcome.orYield]
    split
    · exact h x c
    · simp [ih]

/-- A loop falls through with the record it started from when its bodies do. -/
theorem forRange_keeps (h : ∀ x c, (body x c).Keeps c) (c : Cluster) :
    (forRange xs body c).Keeps c := by
  induction xs generalizing c with
  | nil => exact Outcome.done_keeps c []
  | cons x xs ih => exact Outcome.orYield_keeps (h x c) ih

/-- A property of the record that every body keeps holds of the record the loop leaves. -/
theorem forRange_invariant (P : Cluster → Prop) (h : ∀ x ∈ xs, ∀ c, P c → P (body x c).cluster)
    (c : Cluster) (hc : P c) : P (forRange xs body c).cluster := by
  induction xs generalizing c with
  | nil => exact hc
  | cons x xs ih =>
    simp only [forRange, Outcome.orYield]
    split
    · exact h x (.head _) c hc
    · exact ih (fun y hy => h y (.tail _ hy)) _ (h x (.head _) c hc)

/-- Every side effect of a loop whose bodies keep the record is a side effect of one of
its bodies on the record the loop started from. -/
theorem forRange_mem_actions (hk : ∀ x c, (body x c).Keeps c) {a : Action} (c : Cluster)
    (h : a ∈ (forRange xs body c).actions) : ∃ x ∈ xs, a ∈ (body x c).actions := by
  induction xs generalizing c with
  | nil => cases h
  | cons x xs ih =>
    simp only [forRange, Outcome.orYield] at h
    split at h
    · exact ⟨x, .head _, h⟩
    · rename_i hr
      rw [Outcome.andThen_actions, hk x c (by simpa using hr)] at h
      rcases List.mem_append.mp h with h | h
      · exact ⟨x, .head _, h⟩
      · obtain ⟨y, hy, h⟩ := ih _ h
        exact ⟨y, .tail _ hy, h⟩

/-- A loop that lets its caller go on ran every body on the record it started from, none
of them returned, and it issued the side effects of each, in one piece. -/
theorem forRange_passes (hk : ∀ x c, (body x c).Keeps c) (c : Cluster)
    (hr : (forRange xs body c).returned = false) :
    ∀ x ∈ xs, (body x c).returned = false ∧ (body x c).actions <:+: (forRange xs body c).actions := by
  induction xs generalizing c with
  | nil => intro x hx; cases hx
  | cons x xs ih =>
    simp only [forRange, Outcome.orYield] at hr ⊢
    split at hr
    · rename_i h; rw [hr] at h; cases h
    · rename_i h
      rw [if_neg h]
      have hx : (body x c).returned = false := by simpa using h
      simp only [Outcome.returned_andThen, hk x c hx] at hr
      intro y hy
      rcases List.mem_cons.mp hy with rfl | hy
      · exact ⟨hx, (List.prefix_append _ _).isInfix⟩
      · obtain ⟨h1, h2⟩ := ih c hr y hy
        simp only [Outcome.andThen_actions, hk x c hx]
        exact ⟨h1, h2.trans (List.suffix_append _ _).isInfix⟩

/-- A loop that answers an error answers no cluster when its bodies do not. -/
theorem forRange_err (h : ∀ x c, (body x c).err.isSome → (body x c).changedC = none)
    (c : Cluster) : (forRange xs body c).err.isSome → (forRange xs body c).changedC = none := by
  induction xs generalizing c with
  | nil => intro h; cases h
  | cons x xs ih =>
    simp only [forRange, Outcome.orYield]
    split
    · exact h x c
    · exact ih _

/-- A loop answers its record when its bodies do. -/
theorem forRange_answersRecord (h : ∀ x c, (body x c).AnswersRecord) (c : Cluster) :
    (forRange xs body c).AnswersRecord := by
  induction xs generalizing c with
  | nil => exact Outcome.done_answersRecord c []
  | cons x xs ih =>
    simp only [forRange, Outcome.orYield]
    split
    · exact h x c
    · exact ih _

end forRange

end Kubermatic
