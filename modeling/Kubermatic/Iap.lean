import Mathlib.Data.List.Nodup

/-!
# The services of the IAP chart

`charts/iap/templates/services.yaml` renders, for each entry of `.Values.iap.deployments`,
a `ClusterIP` service `<name>-iap` in front of the identity-aware proxy of that
deployment, and, when the entry sets `passthrough`, an `ExternalName` service
`<name>-upstream` through which the ingress reaches the upstream service in its own
namespace.

* `services` — the template, rendered to the services it describes, each name kept as
  the text the template prints;
* `plainName` — lower-case letters, digits and `-`, starting with a letter or a digit, as
  in a DNS label: printed unquoted with the suffix `-iap` or `-upstream`, such a text is
  read back by Helm's YAML parser as the text printed;
* `services_names_nodup` — for deployments named that way, every rendered service name
  is such a text, so it is the name the service gets, and the rendered services have
  pairwise distinct names exactly when the deployments do: a proxy service and an
  upstream service never share a name.

A name printed with a space or a `#` in it is cut or trimmed by the YAML parser (` #`
starts a comment, surrounding spaces are dropped), and two deployments can then render
services of one name; the result is stated for the names above.
-/

namespace Kubermatic.Iap

/-- An entry of `.Values.iap.deployments`, by the keys the template reads. A scalar the
template prints is kept as the text it prints. -/
structure Deployment where
  name : String
  passthrough : Bool
  upstreamService : String
  upstreamPort : String
  deriving DecidableEq, Repr

/-- The values the template reads: `.Values.iap.port` and `.Values.iap.deployments`. -/
structure Values where
  port : String
  deployments : List Deployment
  deriving DecidableEq, Repr

/-- An entry of a service's `spec.ports`. -/
structure ServicePort where
  port : String
  name : Option String
  protocol : Option String
  targetPort : Option String
  deriving DecidableEq, Repr

/-- A `v1` `Service`, by the fields the template writes. -/
structure Service where
  name : String
  labels : List (String × String)
  type : String
  externalName : Option String
  ports : List ServicePort
  selector : List (String × String)
  deriving DecidableEq, Repr

/-- The proxy service of a deployment. -/
def iapService (port : String) (d : Deployment) : Service where
  name := d.name ++ "-iap"
  labels := [("app", "iap"), ("target", d.name), ("kind", "proxy")]
  type := "ClusterIP"
  externalName := none
  ports := [⟨port, some "http", some "TCP", some "http"⟩]
  selector := [("app", "iap"), ("target", d.name)]

/-- The service through which the ingress reaches the upstream service of a deployment
in another namespace. -/
def upstreamService (d : Deployment) : Service where
  name := d.name ++ "-upstream"
  labels := [("app", "iap"), ("target", d.name), ("kind", "upstream")]
  type := "ExternalName"
  externalName := some d.upstreamService
  ports := [⟨d.upstreamPort, none, none, none⟩]
  selector := []

/-- `services.yaml`: `{{ range .Values.iap.deployments }}` the proxy service, then
`{{- if .passthrough }}` the upstream service. -/
def services (v : Values) : List Service :=
  v.deployments.flatMap fun d =>
    iapService v.port d :: if d.passthrough then [upstreamService d] else []

/-! ## Names -/

/-- Whether the text `s` is lower-case letters, digits and `-`, starting with a letter or
a digit. Printed unquoted after `name: `, such a text is a YAML plain scalar with no
indicator, space, `:` or `#` in it; when it ends in `-iap` or `-upstream`, as every
rendered service name does, it is no number, boolean or null either, and is read back as
the text printed. -/
def plainName (s : String) : Bool :=
  match s.data with
  | [] => false
  | c :: cs => (c.isLower || c.isDigit) && cs.all fun x => x.isLower || x.isDigit || x == '-'

/-- A plain name with a plain suffix is plain. -/
theorem plainName_append {a b : String} (ha : plainName a)
    (hb : b.data.all fun x => x.isLower || x.isDigit || x == '-') : plainName (a ++ b) := by
  unfold plainName at ha ⊢
  rw [String.data_append]
  split at ha
  · cases ha
  · rename_i c cs hc
    rw [hc, List.cons_append]
    simp only [Bool.and_eq_true, List.all_append] at ha ⊢
    exact ⟨ha.1, ha.2, hb⟩

/-- The names of the services rendered for one deployment. -/
def serviceNames (d : Deployment) : List String :=
  (d.name ++ "-iap") :: if d.passthrough then [d.name ++ "-upstream"] else []

theorem map_name_services (v : Values) :
    (services v).map Service.name = v.deployments.flatMap serviceNames := by
  simp only [services, List.map_flatMap]
  congr 1
  funext d
  unfold serviceNames
  cases d.passthrough <;> rfl

theorem append_right_inj {a b s : String} : a ++ s = b ++ s ↔ a = b := by
  simp only [String.ext_iff, String.data_append, List.append_cancel_right_eq]

/-- A proxy service's name ends in `p`, an upstream service's in `m`. -/
theorem iap_ne_upstream (a b : String) : a ++ "-iap" ≠ b ++ "-upstream" := by
  intro h
  have hlast := congrArg (fun s : String => s.data.getLast?) h
  simp only [String.data_append, show "-iap".data = ['-', 'i', 'a', 'p'] from rfl,
    show "-upstream".data = ['-', 'u', 'p', 's', 't', 'r', 'e', 'a', 'm'] from rfl] at hlast
  simp at hlast

theorem serviceNames_nodup (d : Deployment) : (serviceNames d).Nodup := by
  unfold serviceNames
  split
  · simpa using iap_ne_upstream d.name d.name
  · exact List.nodup_singleton _

/-- Two deployments' services share a name exactly when the deployments do. -/
theorem serviceNames_disjoint_iff (a b : Deployment) :
    (serviceNames a).Disjoint (serviceNames b) ↔ a.name ≠ b.name := by
  unfold serviceNames
  constructor
  · intro h heq
    exact h (List.mem_cons_self _ _) (by rw [heq]; exact List.mem_cons_self _ _)
  · intro hne
    split <;> split <;> simp [append_right_inj, iap_ne_upstream, hne, hne.symm, (iap_ne_upstream _ _).symm]

theorem serviceNames_plainName {d : Deployment} (h : plainName d.name) :
    ∀ s ∈ serviceNames d, plainName s := by
  unfold serviceNames
  have hiap : plainName (d.name ++ "-iap") := plainName_append h (by decide)
  split
  · simpa [hiap] using plainName_append h (by decide)
  · simpa using hiap

/-- **The rendered services have distinct names exactly when the deployments do.** For
every list of deployments named by plain names, each service `services.yaml` renders is
named by a plain name, the name it is given, and the services have pairwise distinct
names if and only if the deployments do: a proxy service and an upstream service never
collide. -/
theorem services_names_nodup (v : Values) (hplain : ∀ d ∈ v.deployments, plainName d.name) :
    (∀ s ∈ services v, plainName s.name) ∧
      (((services v).map Service.name).Nodup ↔ (v.deployments.map Deployment.name).Nodup) := by
  refine ⟨fun s hs => ?_, ?_⟩
  · have hmem : s.name ∈ (services v).map Service.name := List.mem_map_of_mem _ hs
    rw [map_name_services, List.mem_flatMap] at hmem
    obtain ⟨d, hd, hname⟩ := hmem
    exact serviceNames_plainName (hplain d hd) _ hname
  · rw [map_name_services, List.nodup_flatMap, and_iff_right fun d _ => serviceNames_nodup d,
      List.Nodup, List.pairwise_map]
    exact List.Pairwise.iff fun a b => serviceNames_disjoint_iff a b

/-- Two proxy services and an upstream one, all plainly named. -/
def sampleValues : Values :=
  ⟨"3000", [⟨"grafana", false, "", ""⟩, ⟨"prometheus", true, "prometheus.monitoring", "9090"⟩]⟩

theorem sampleValues_names_nodup :
    (∀ d ∈ sampleValues.deployments, plainName d.name) ∧
      ((∀ s ∈ services sampleValues, plainName s.name) ∧
        (((services sampleValues).map Service.name).Nodup ↔
          (sampleValues.deployments.map Deployment.name).Nodup)) :=
  ⟨by decide, services_names_nodup sampleValues (by decide)⟩

end Kubermatic.Iap
