import Kubermatic.Basic

/-!
# Hetzner server sizes

`pkg/handler/common/provider/hetzner.go` answers the API's request for the server sizes
a Hetzner cluster may use. `HetznerSize` lists the server types of the Hetzner Cloud API
with the cluster's token and sorts them in one pass: a name matching `(^cx)` is a
standard size, one matching `(^ccx)` a dedicated size, and every other server type is
dropped. `HetznerSizeWithClusterCredentialsEndpoint` finds the cluster, checks that it is
a Hetzner cluster and that the request carries the Kubernetes cluster provider, resolves
the cluster's credentials, and calls `HetznerSize` with them.

* `appendSize`, `hetznerSize` — the loop and the function, as the source has them;
* `classifiedSizes` — what the loop is for: the standard sizes and the dedicated sizes,
  each a filter of the listing;
* `hetznerSize_eq_classifiedSizes` — the one-pass loop computes the two filters: the two
  patterns never both match, so the order of the `switch` does not matter;
* `hetznerSizeWithClusterCredentialsEndpoint` — the endpoint, with its collaborators as
  fields of `Collaborators`;
* `endpoint_sizes` — the endpoint's inversion lemma: it answers a size list only for an
  existing Hetzner cluster, with the Kubernetes cluster provider, listed with that
  cluster's token.
-/

namespace Kubermatic.Provider

/-! ## The size list -/

/-- The fields of `hcloud.ServerType` that `HetznerSize` reads. -/
structure ServerType where
  id : Int
  name : String
  description : String
  cores : Int
  /-- A `float32`, by its IEEE 754 bits: the code only copies it. -/
  memory : UInt32
  disk : Int
  deriving DecidableEq, Repr

/-- `apiv1.HetznerSize`. -/
structure HetznerSize where
  id : Int
  name : String
  description : String
  cores : Int
  memory : UInt32
  disk : Int
  deriving DecidableEq, Repr

/-- `apiv1.HetznerSizeList`; its zero value has two empty lists. -/
structure HetznerSizeList where
  standard : List HetznerSize := []
  dedicated : List HetznerSize := []
  deriving DecidableEq, Repr

/-- The size the loop builds from a server type. -/
def HetznerSize.ofServerType (size : ServerType) : HetznerSize :=
  ⟨size.id, size.name, size.description, size.cores, size.memory, size.disk⟩

/-- `regexp.MustCompile("(^" + lit + ")").MatchString(name)` for a literal `lit`: `^`
anchors at the start of the text and the group captures nothing the code reads, so the
pattern matches exactly when the name starts with `lit`. -/
def matchAnchored (lit name : String) : Bool := lit.toList.isPrefixOf name.toList

/-- `reStandardSize.MatchString`, the pattern `(^cx)`. -/
def reStandardSize (name : String) : Bool := matchAnchored "cx" name

/-- `reDedicatedSize.MatchString`, the pattern `(^ccx)`. -/
def reDedicatedSize (name : String) : Bool := matchAnchored "ccx" name

/-- One iteration of the loop of `HetznerSize`: the `switch` appends the size to
`Standard` when its name matches `(^cx)`, else to `Dedicated` when it matches `(^ccx)`,
and drops it otherwise. -/
def appendSize (sizeList : HetznerSizeList) (size : ServerType) : HetznerSizeList :=
  let s := HetznerSize.ofServerType size
  if reStandardSize size.name then { sizeList with standard := sizeList.standard ++ [s] }
  else if reDedicatedSize size.name then { sizeList with dedicated := sizeList.dedicated ++ [s] }
  else sizeList

/-- `hcloud.ListOpts`. -/
structure ListOpts where
  page : Nat
  perPage : Nat
  deriving DecidableEq, Repr

/-- The one page `HetznerSize` asks for. -/
def listOptions : ListOpts := ⟨1, 1000⟩

/-- The Hetzner Cloud API as `HetznerSize` calls it:
`hcloud.NewClient(hcloud.WithToken(token)).ServerType.List(ctx, opts)`. -/
structure HcloudClient where
  serverTypeList : (token : String) → ListOpts → Except Error (List ServerType)

/-- `HetznerSize`: both of its results, the list and the error. -/
def hetznerSize (client : HcloudClient) (token : String) : HetznerSizeList × Option Error :=
  match client.serverTypeList token listOptions with
  | .error err => ({}, some ("failed to list sizes: " ++ err))
  | .ok sizes => (sizes.foldl appendSize {}, none)

/-! ## What the loop computes -/

/-- The sizes of a listing, sorted: the standard sizes are the server types whose names
start with `cx`, the dedicated sizes those whose names start with `ccx`, each in the
order of the listing. -/
def classifiedSizes (sizes : List ServerType) : HetznerSizeList where
  standard := (sizes.filter (reStandardSize ·.name)).map .ofServerType
  dedicated := (sizes.filter (reDedicatedSize ·.name)).map .ofServerType

/-- The two patterns never both match: a name that starts with `ccx` has `c`, not `x`,
second. -/
theorem reStandardSize_eq_false {name : String} (h : reDedicatedSize name = true) :
    reStandardSize name = false := by
  unfold reDedicatedSize reStandardSize matchAnchored at *
  rw [Bool.eq_false_iff]
  intro hs
  rw [List.isPrefixOf_iff_prefix] at h hs
  have hcx : "cx".toList <+: "ccx".toList := List.prefix_of_prefix_length_le hs h (by decide)
  exact absurd hcx (by decide)

theorem foldl_appendSize (sizes : List ServerType) (acc : HetznerSizeList) :
    sizes.foldl appendSize acc =
      ⟨acc.standard ++ (classifiedSizes sizes).standard,
        acc.dedicated ++ (classifiedSizes sizes).dedicated⟩ := by
  induction sizes generalizing acc with
  | nil => cases acc; simp [classifiedSizes]
  | cons size sizes ih =>
    rw [List.foldl_cons, ih]
    unfold appendSize classifiedSizes
    by_cases hs : reStandardSize size.name
    · have hd : reDedicatedSize size.name = false :=
        Bool.eq_false_iff.mpr fun hd => by rw [reStandardSize_eq_false hd] at hs; cases hs
      simp [hs, hd, List.filter_cons]
    · by_cases hd : reDedicatedSize size.name <;> simp [hs, hd, List.filter_cons]

theorem hetznerSize_of_ok {client : HcloudClient} {token : String} {sizes : List ServerType}
    (h : client.serverTypeList token listOptions = .ok sizes) :
    hetznerSize client token = (classifiedSizes sizes, none) := by
  rw [hetznerSize, h]; dsimp only; rw [foldl_appendSize]; rfl

/-- **The one-pass loop sorts the listing into the two filters.** For every answer of the
Hetzner Cloud API, `HetznerSize` returns the server types named `cx...` as its standard
sizes and those named `ccx...` as its dedicated sizes, each in the order of the listing,
and drops every other server type; a failed listing gives two empty lists and the error
`failed to list sizes: ...`. -/
theorem hetznerSize_eq_classifiedSizes (client : HcloudClient) (token : String) :
    hetznerSize client token =
      match client.serverTypeList token listOptions with
      | .error err => ({}, some ("failed to list sizes: " ++ err))
      | .ok sizes => (classifiedSizes sizes, none) := by
  split
  · rename_i h; rw [hetznerSize, h]
  · exact hetznerSize_of_ok ‹_›

/-- A shared-vCPU `cpx` type is neither standard nor dedicated. -/
example : hetznerSize ⟨fun _ _ => .ok [⟨1, "cx11", "", 1, 0, 20⟩, ⟨2, "ccx12", "", 2, 0, 80⟩,
    ⟨3, "cpx21", "", 3, 0, 80⟩]⟩ "token" =
      (⟨[⟨1, "cx11", "", 1, 0, 20⟩], [⟨2, "ccx12", "", 2, 0, 80⟩]⟩, none) := by
  decide

/-! ## The endpoint -/

/-- `kubermaticv1.HetznerCloudSpec`, whose fields the endpoint does not read. -/
structure HetznerCloudSpec

/-- `kubermaticv1.CloudSpec`: the endpoint reads whether its `Hetzner` field is set, and
hands the whole spec to `GetCredentialsForCluster`. -/
structure CloudSpec where
  hetzner : Option HetznerCloudSpec

/-- `kubermaticv1.ClusterSpec`, by the field the endpoint reads. -/
structure ClusterSpec where
  cloud : CloudSpec

/-- `kubermaticv1.Cluster`, by the field the endpoint reads. -/
structure Cluster where
  spec : ClusterSpec

/-- What the request context holds under `middleware.ClusterProviderContextKey`, once it
is a `provider.ClusterProvider`. -/
inductive ClusterProviderValue where
  /-- A `*kubernetesprovider.ClusterProvider`. -/
  | kubernetes
  /-- Another implementation of `provider.ClusterProvider`. -/
  | other
  deriving DecidableEq, Repr

/-- The collaborators of `HetznerSizeWithClusterCredentialsEndpoint`. -/
structure Collaborators extends HcloudClient where
  /-- `ctx.Value(middleware.ClusterProviderContextKey)`; `none` when it is not a
  `provider.ClusterProvider`. -/
  clusterProvider : Option ClusterProviderValue
  /-- `handlercommon.GetCluster(ctx, projectProvider, privilegedProjectProvider,
  userInfoGetter, projectID, clusterID, &provider.ClusterGetOptions{CheckInitStatus: ...})`. -/
  getCluster : (projectID clusterID : String) → (checkInitStatus : Bool) → Except Error Cluster
  /-- `hetzner.GetCredentialsForCluster(cloud, secretKeySelector)`, with the selector built
  from the seed's admin client. -/
  getCredentialsForCluster : CloudSpec → Except Error String

/-- The errors the endpoint returns. -/
inductive EndpointError where
  /-- `errors.NewNotFound(kind, name)`. -/
  | notFound (kind name : String)
  /-- `errors.New(code, msg)`. -/
  | http (code : Nat) (msg : String)
  /-- The error of a collaborator or of `HetznerSize`, passed on. -/
  | passed (err : Error)
  deriving DecidableEq, Repr

/-- What the endpoint does: return its two results (the `interface{}` is `nil` or a size
list), or panic on the type assertion of the context value. -/
inductive Response where
  | returned (sizes : Option HetznerSizeList) (err : Option EndpointError)
  | panic
  deriving DecidableEq, Repr

/-- `HetznerSizeWithClusterCredentialsEndpoint`. The context value is asserted to be a
`provider.ClusterProvider` without the comma-ok form, so a context without one panics;
the assertion to the Kubernetes provider comes after the Hetzner check and answers
`500` (`http.StatusInternalServerError`). -/
def hetznerSizeWithClusterCredentialsEndpoint (env : Collaborators) (projectID clusterID : String) :
    Response :=
  match env.clusterProvider with
  | none => .panic
  | some clusterProvider =>
    match env.getCluster projectID clusterID true with
    | .error err => .returned none (some (.passed err))
    | .ok cluster =>
      match cluster.spec.cloud.hetzner with
      | none => .returned none (some (.notFound "cloud spec for " clusterID))
      | some _ =>
        match clusterProvider with
        | .other => .returned none (some (.http 500 "failed to assert clusterProvider"))
        | .kubernetes =>
          match env.getCredentialsForCluster cluster.spec.cloud with
          | .error err => .returned none (some (.passed err))
          | .ok hetznerToken =>
            let r := hetznerSize env.toHcloudClient hetznerToken
            .returned (some r.1) (r.2.map .passed)

/-- **Sizes only for a Hetzner cluster, listed with its own credentials.** Whatever the
collaborators answer, when the endpoint answers a size list, the context held the
Kubernetes cluster provider, the cluster exists and has a Hetzner cloud spec, its
credentials resolved to a token, and the list is the `cx` and `ccx` server types of the
listing made with that token, or two empty lists with the listing's error. -/
theorem endpoint_sizes {env : Collaborators} {projectID clusterID : String}
    {sizes : HetznerSizeList} {err : Option EndpointError}
    (h : hetznerSizeWithClusterCredentialsEndpoint env projectID clusterID = .returned (some sizes) err) :
    ∃ cluster token, env.clusterProvider = some .kubernetes ∧
      env.getCluster projectID clusterID true = .ok cluster ∧ cluster.spec.cloud.hetzner.isSome ∧
      env.getCredentialsForCluster cluster.spec.cloud = .ok token ∧
      (sizes, err) = match env.serverTypeList token listOptions with
        | .error e => ({}, some (.passed ("failed to list sizes: " ++ e)))
        | .ok types => (classifiedSizes types, none) := by
  unfold hetznerSizeWithClusterCredentialsEndpoint at h
  split at h
  · cases h
  · rename_i clusterProvider hp
    split at h
    · cases h
    · rename_i cluster hc
      split at h
      · cases h
      · rename_i hh
        split at h
        · cases h
        · split at h
          · cases h
          · rename_i token ht
            simp only [Response.returned.injEq, Option.some.injEq] at h
            obtain ⟨rfl, rfl⟩ := h
            refine ⟨cluster, token, hp, hc, by rw [hh]; rfl, ht, ?_⟩
            cases hl : env.serverTypeList token listOptions with
            | error e => rw [hetznerSize, hl]; rfl
            | ok types => rw [hetznerSize_of_ok hl]; rfl

end Kubermatic.Provider
