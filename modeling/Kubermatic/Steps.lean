import Kubermatic.NodePort

/-!
# The steps of the pending pipeline

One definition per function of `controller/cluster/pending.go` that
`syncPendingCluster` calls, in the order it calls them. Each takes the record and
returns an `Outcome` (see `Kubermatic.Basic`).

The loops of `launchingCheckServices`, `launchingCheckServiceAccounts`,
`launchingCheckConfigMaps`, `launchingCheckPvcs` and `launchingCheckDeployments`, and
the body of `launchingCheckTokenUsers`, share one skeleton: probe, skip when present,
generate, create, record an event. That skeleton is `ensureObject`; each of them applies
it to its own store key, generator, messages and event. The other steps keep their own
bodies: `launchingCheckClusterRoleBindings` generates before it probes,
`launchingCheckApiserverPublicService` allocates a port and writes the address,
`pendingCheckSecrets` deletes and re-creates `apiserver-ssh`,
`launchingCheckEtcdCluster` returns the cluster when the object exists, and
`launchingCheckDefaultPlugins` creates in another namespace than it probes.
-/

namespace Kubermatic

variable (cc : Controller) (env : Env)

/-- `https://<name>.<dc>.<externalURL>:<port>`, the address written once the port is
chosen. -/
def publicURL (name : String) (port : BitVec 64) : String :=
  "https://" ++ name ++ "." ++ cc.dc ++ "." ++ cc.externalURL ++ ":" ++ toString port.toInt

/-- The request `pendingCreateRootCA` hands to `initca.New`. -/
def rootCARequest (c : Cluster) : CertificateRequest where
  cn := "root-ca." ++ c.metadata.name ++ "." ++ cc.dc ++ "." ++ cc.externalURL
  keyAlgo := "rsa"
  keySize := 2048
  caExpiry := toString (24 * 365 * 10) ++ "h"

/-- `pendingCreateRootCA`. `initca.New`'s certificate and key are written into the record
before its error is looked at. -/
def pendingCreateRootCA (c : Cluster) : Outcome :=
  if c.status.rootCA.key.isSome then .done c [] else
  let r := env.initcaNew (rootCARequest cc c)
  let c := { c with status.rootCA := ⟨r.key, r.cert⟩ }
  match r.err with
  | some err => ⟨c, [], none, some ("failed to create root-ca: " ++ err)⟩
  | none => ⟨c, [], some c, none⟩

/-- The skeleton shared by the checking steps: when `probe` does not report the object,
generate it (`gen`), create it through the client of kind `k` in namespace `ns`, record
the event `format` with `args`, and return `ret`. -/
def ensureObject (k : Kind) (ns : String) (probe : Except Error Bool)
    (gen : Except Error Object) (genErr createErr : Error → Error) (format : String)
    (args : List String) (ret : Option Cluster) (c : Cluster) : Outcome :=
  match probe with
  | .error err => ⟨c, [], none, some err⟩
  | .ok true => .done c []
  | .ok false =>
    match gen with
    | .error err => ⟨c, [], none, some (genErr err)⟩
    | .ok obj =>
      match env.create k ns obj with
      | some err => ⟨c, [.create k ns obj (some err)], none, some (createErr err)⟩
      | none => ⟨c, [.create k ns obj none, .event "launching" format args], ret, none⟩

/-- `launchingCheckTokenUsers`: after creating the secret it returns the (unchanged)
cluster, so that the caller persists before going on. -/
def launchingCheckTokenUsers (c : Cluster) : Outcome :=
  let ns := namespaceName c.metadata.name
  let key := ns ++ "/token-users"
  ensureObject env .secret ns (env.getByKey .secret key) (env.createTokens c)
    (fun err => "failed to generate token users: " ++ err)
    (fun err => "failed to create secret for token user: " ++ err)
    "Created secret %q" [key] (some c) c

/-- `launchingCheckApiserverPublicService`. The port `GetFreeNodePort` returns is written
into the record before its error is looked at, and the URL before the service is
generated and created. -/
def launchingCheckApiserverPublicService (c : Cluster) : Outcome :=
  let ns := namespaceName c.metadata.name
  let key := ns ++ "/" ++ "apiserver"
  match env.getByKey .service key with
  | .error err => ⟨c, [], none, some err⟩
  | .ok true => .done c []
  | .ok false =>
    let free := getFreeNodePort cc env.services
    let c := { c with address.apiserverExternalPort := free.1 }
    match free.2 with
    | some err => ⟨c, [], none, some err⟩
    | none =>
      let c := { c with address.url := publicURL cc c.metadata.name c.address.apiserverExternalPort }
      match env.loadServiceFile c "apiserver" cc.masterResourcesPath with
      | .error err => ⟨c, [], none, some ("failed to generate apiserver service " ++ key ++ ": " ++ err)⟩
      | .ok service =>
        match env.create .service ns service with
        | some err =>
          ⟨c, [.create .service ns service (some err)], none,
            some ("failed to create apiserver service " ++ key ++ ": " ++ err)⟩
        | none =>
          ⟨c, [.create .service ns service none,
            .event "launching" "Created apiserver service %q" [key]], some c, none⟩

/-- `launchingCheckServices`. -/
def launchingCheckServices (c : Cluster) : Outcome :=
  let services := [("apiserver-insecure", env.loadServiceFile)]
  let ns := namespaceName c.metadata.name
  forRange (env.rangeOrder services) (fun (s, gen) c =>
    ensureObject env .service ns (env.getByKey .service (ns ++ "/" ++ s))
      (gen c s cc.masterResourcesPath)
      (fun err => "failed to generate service " ++ s ++ ": " ++ err)
      (fun err => "failed to create service " ++ s ++ ": " ++ err)
      "Created service %q" [s] none c) c

/-- `launchingCheckServiceAccounts`. -/
def launchingCheckServiceAccounts (c : Cluster) : Outcome :=
  let serviceAccounts := [("etcd-operator", env.loadServiceAccountFile)]
  let ns := namespaceName c.metadata.name
  forRange (env.rangeOrder serviceAccounts) (fun (s, gen) c =>
    ensureObject env .serviceAccount ns (env.getByKey .serviceAccount (ns ++ "/" ++ s))
      (gen s cc.masterResourcesPath)
      (fun err => "failed to generate service account " ++ s ++ ": " ++ err)
      (fun err => "failed to create service account " ++ s ++ ": " ++ err)
      "Created service account %q" [s] none c) c

/-- `launchingCheckClusterRoleBindings`: the binding is generated first and probed by its
own name, cluster-wide. -/
def launchingCheckClusterRoleBindings (c : Cluster) : Outcome :=
  let roleBindings := [("etcd-operator", env.loadClusterRoleBindingFile)]
  let ns := namespaceName c.metadata.name
  forRange (env.rangeOrder roleBindings) (fun (s, gen) c =>
    match gen ns s cc.masterResourcesPath with
    | .error err => ⟨c, [], none, some ("failed to generate cluster role binding " ++ s ++ ": " ++ err)⟩
    | .ok binding =>
      match env.getByKey .clusterRoleBinding binding.name with
      | .error err => ⟨c, [], none, some err⟩
      | .ok true => .done c []
      | .ok false =>
        match env.create .clusterRoleBinding "" binding with
        | some err =>
          ⟨c, [.create .clusterRoleBinding "" binding (some err)], none,
            some ("failed to create cluster role binding " ++ s ++ ": " ++ err)⟩
        | none =>
          .done c [.create .clusterRoleBinding "" binding none,
            .event "launching" "Created binding %q" [s]]) c

/-- A secret generator of `pendingCheckSecrets`: `createApiserverAuth` or
`createApiserverSSH`. -/
abbrev SecretGenerator := Cluster → Template → Except Error (Option Cluster × Object)

/-- The delete `pendingCheckSecrets` issues before it re-creates a secret. -/
def deleteSecret (ns s : String) (c : Cluster) : Outcome :=
  match env.delete .secret ns s with
  | some err => ⟨c, [.delete .secret ns s (some err)], none, some err⟩
  | none => .done c [.delete .secret ns s none]

/-- The rest of the loop body of `pendingCheckSecrets`: parse the template, run the
generator, create the secret. A generator that changes the cluster makes the body
return that cluster. -/
def createSecret (ns key s : String) (gen : SecretGenerator) (c : Cluster) : Outcome :=
  match env.parseFiles cc.masterResourcesPath (s ++ "-secret.yaml") with
  | .error err => ⟨c, [], none, some err⟩
  | .ok t =>
    match gen c t with
    | .error err => ⟨c, [], none, some ("failed to generate " ++ s ++ ": " ++ err)⟩
    | .ok (changedC, secret) =>
      let c := changedC.getD c
      match env.create .secret ns secret with
      | some err =>
        ⟨c, [.create .secret ns secret (some err)], none,
          some ("failed to create secret for " ++ s ++ ": " ++ err)⟩
      | none =>
        ⟨c, [.create .secret ns secret none, .event "pending" "Created secret %q" [key]],
          changedC, none⟩

/-- The loop body of `pendingCheckSecrets` for the entry `(s, gen)`: skip a present
secret unless it is to be re-created, in which case delete it first. -/
def checkSecret (ns : String) (recreateSecrets : List String)
    (entry : String × SecretGenerator) (c : Cluster) : Outcome :=
  let key := ns ++ "/" ++ entry.1
  match env.getByKey .secret key with
  | .error err => ⟨c, [], none, some err⟩
  | .ok found =>
    if found && !recreateSecrets.contains entry.1 then .done c [] else
    (if found then deleteSecret env ns entry.1 c else .done c []).orYield
      (createSecret cc env ns key entry.1 entry.2)

/-- `pendingCheckSecrets`. `apiserver-ssh` is deleted and created anew when the record
holds no SSH material. -/
def pendingCheckSecrets (c : Cluster) : Outcome :=
  let secrets : List (String × SecretGenerator) :=
    [("apiserver-auth", env.createApiserverAuth), ("apiserver-ssh", env.createApiserverSSH)]
  let recreateSecrets : List String :=
    if c.status.apiserverSSH.length = 0 then ["apiserver-ssh"] else []
  let ns := namespaceName c.metadata.name
  forRange (env.rangeOrder secrets) (checkSecret cc env ns recreateSecrets) c

/-- `launchingCheckConfigMaps`: `aws-cloud-config` is required exactly when the cluster
has an AWS cloud spec. -/
def launchingCheckConfigMaps (c : Cluster) : Outcome :=
  let ns := namespaceName c.metadata.name
  let cms := if c.hasAWS then [("aws-cloud-config", env.loadAwsCloudConfigConfigMap)] else []
  forRange (env.rangeOrder cms) (fun (s, gen) c =>
    ensureObject env .configMap ns (env.getByKey .configMap (ns ++ "/" ++ s)) (gen c)
      (fun err => "failed to generate cm " ++ s ++ ": " ++ err)
      (fun err => "failed to create cm " ++ s ++ "; " ++ err)
      "Created cm %q" [s] none c) c

/-- `launchingCheckPvcs`, whose map is empty in this version of the file. -/
def launchingCheckPvcs (c : Cluster) : Outcome :=
  let ns := namespaceName c.metadata.name
  let pvcs : List (String × (Cluster → String → String → Except Error Object)) := []
  forRange (env.rangeOrder pvcs) (fun (s, gen) c =>
    ensureObject env .persistentVolumeClaim ns
      (env.getByKey .persistentVolumeClaim (ns ++ "/" ++ s ++ "-pvc"))
      (gen c s cc.masterResourcesPath)
      (fun err => "failed to generate pvc " ++ s ++ ": " ++ err)
      (fun err => "failed to create pvc " ++ s ++ "; " ++ err)
      "Created pvc %q" [s] none c) c

/-- The first lines of `launchingCheckDeployments` and `launchingCheckEtcdCluster`: an
empty `Spec.MasterVersion` is replaced, in the record, by the default version's id. -/
def withMasterVersion (c : Cluster) : Cluster :=
  if c.spec.masterVersion = "" then { c with spec.masterVersion := cc.defaultMasterVersion.id }
  else c

/-- The unknown-version branch shared by `launchingCheckDeployments` and
`launchingCheckEtcdCluster`: the cluster is marked `Failed` and returned with an error. -/
def unknownMasterVersion (c : Cluster) : Outcome :=
  let c := { c with status.lastTransitionTime := env.now, status.phase := .failed }
  ⟨c, [.event "launching" "Failed to create new cluster %q due to unknown master version %q"
      [c.metadata.name, c.spec.masterVersion]], some c,
    some ("unknown new cluster " ++ quote c.metadata.name ++ " master version " ++
      quote c.spec.masterVersion)⟩

/-- The deployments of a master version, by the `role` they carry. -/
def deploymentYamls (masterVersion : MasterVersion) : List (String × String) :=
  [("etcd-operator", masterVersion.etcdOperatorDeploymentYaml),
   ("apiserver", masterVersion.apiserverDeploymentYaml),
   ("controller-manager", masterVersion.controllerDeploymentYaml),
   ("scheduler", masterVersion.schedulerDeploymentYaml)]

/-- `launchingCheckDeployments`: a deployment counts as present when one of the
namespace's cached deployments carries its `role` selector label. -/
def launchingCheckDeployments (c : Cluster) : Outcome :=
  let ns := namespaceName c.metadata.name
  let c := withMasterVersion cc c
  match cc.versions.lookup c.spec.masterVersion with
  | none => unknownMasterVersion env c
  | some masterVersion =>
    match env.byIndex ns with
    | .error err => ⟨c, [], none, some err⟩
    | .ok existingDeps =>
      forRange (env.rangeOrder (deploymentYamls masterVersion)) (fun (s, yamlFile) c =>
        ensureObject env .deployment ns (.ok (existingDeps.any (·.role == some s)))
          (env.loadDeploymentFile c masterVersion cc.masterResourcesPath cc.dc yamlFile)
          (fun err => "failed to generate deployment " ++ s ++ ": " ++ err)
          (fun err => "failed to create deployment " ++ s ++ ": " ++ err)
          "Created dep %q" [s] none c) c

/-- `launchingCheckEtcdCluster`. When the etcd cluster already exists it returns the
cluster, which `syncPendingCluster` ignores. -/
def launchingCheckEtcdCluster (c : Cluster) : Outcome :=
  let ns := namespaceName c.metadata.name
  let c := withMasterVersion cc c
  match cc.versions.lookup c.spec.masterVersion with
  | none => unknownMasterVersion env c
  | some masterVersion =>
    match env.loadEtcdClusterFile masterVersion cc.masterResourcesPath masterVersion.etcdClusterYaml with
    | .error err => ⟨c, [], none, some ("failed to load etcd-cluster: " ++ err)⟩
    | .ok etcd =>
      match env.getByKey .etcdCluster (ns ++ "/" ++ etcd.name) with
      | .error err => ⟨c, [], none, some err⟩
      | .ok true => ⟨c, [], some c, none⟩
      | .ok false =>
        match env.create .etcdCluster ns etcd with
        | some err =>
          ⟨c, [.create .etcdCluster ns etcd (some err)], none,
            some ("failed to create ecd-cluster definition (tpr): " ++ err)⟩
        | none => .done c [.create .etcdCluster ns etcd none, .event "launching" "Created etcd-cluster" [etcd.name]]

/-- The default add-ons, by safe name and name. -/
def defaultPlugins : List (String × String) :=
  [("flannelcni", "flannel-cni"), ("heapster", "heapster"), ("kubedns", "kubedns"),
   ("kubeproxy", "kube-proxy"), ("kubernetesdashboard", "kubernetes-dashboard")]

/-- The add-on object `launchingCheckDefaultPlugins` creates. -/
def defaultAddon (safeName name : String) : Object :=
  ⟨"addon-default-" ++ safeName, none, [], name⟩

/-- `launchingCheckDefaultPlugins`: it probes `<namespace>/addon-default-<safe-name>`
and creates in the namespace `cluster-<name>`; it records no event. -/
def launchingCheckDefaultPlugins (c : Cluster) : Outcome :=
  let ns := namespaceName c.metadata.name
  forRange (env.rangeOrder defaultPlugins) (fun (safeName, name) c =>
    let metaName := "addon-default-" ++ safeName
    match env.getByKey .clusterAddon (ns ++ "/" ++ metaName) with
    | .error err => ⟨c, [], none, some err⟩
    | .ok true => .done c []
    | .ok false =>
      let addonNs := "cluster-" ++ c.metadata.name
      match env.create .clusterAddon addonNs (defaultAddon safeName name) with
      | some err =>
        ⟨c, [.create .clusterAddon addonNs (defaultAddon safeName name) (some err)], none,
          some ("failed to create default addon third-party-resource " ++ name ++ "; " ++ err)⟩
      | none => .done c [.create .clusterAddon addonNs (defaultAddon safeName name) none]) c

end Kubermatic
