import Kubermatic.Idempotent

/-!
# What a persisted record keeps

Each call of the reconciler writes into the record, and the record is persisted only when
the call answers it. Along every run the reconciler never overwrites what it has
persisted: a record keeps its name and cloud spec, and once they are set its master
version, root CA and address, and its phase once it has left `Pending`. The root CA is
minted once, so no certificate it signed is invalidated by a later call; the address a
client was given stays the address of the cluster.

* `Cluster.Extends` — what a later record keeps of an earlier one, a preorder;
* `Consistent` — what the persisted record of a reachable world satisfies: it can be
  trusted (`CrashSafe`), it is `Failed` only for an unknown master version
  (`Cluster.PhaseSafe`), and `Launching` only for a known one;
* `answered_extends` — whatever a call answers extends the record it started from;
* `reachable_run_extends` — along every run from a reachable world, each persisted record
  extends the earlier ones.

A call may overwrite its record only where the record is still empty. The address is
the one place where this needs the orchestrator: a call writes an address only after
creating the public service, and a create of a service the orchestrator holds fails, so
once an address is persisted, with its service, no call can persist another.
-/

namespace Kubermatic

/-- What `c'` keeps of `c`: the name and cloud spec, and, once they are set in `c`, the
master version, the root CA and the address, and the phase once it is not `Pending`. -/
structure Cluster.Extends (c c' : Cluster) : Prop where
  metadata : c'.metadata = c.metadata
  cloud : c'.spec.cloud = c.spec.cloud
  masterVersion : c.spec.masterVersion ≠ "" → c'.spec.masterVersion = c.spec.masterVersion
  rootCA : c.status.rootCA.key.isSome → c'.status.rootCA = c.status.rootCA
  address : c.address.url ≠ "" → c'.address = c.address
  phase : c.status.phase ≠ .pending → c'.status.phase = c.status.phase

namespace Cluster.Extends

theorem refl (c : Cluster) : c.Extends c :=
  ⟨rfl, rfl, fun _ => rfl, fun _ => rfl, fun _ => rfl, fun _ => rfl⟩

theorem trans {c₁ c₂ c₃ : Cluster} (h₁ : c₁.Extends c₂) (h₂ : c₂.Extends c₃) : c₁.Extends c₃ where
  metadata := h₂.metadata.trans h₁.metadata
  cloud := h₂.cloud.trans h₁.cloud
  masterVersion hv := (h₂.masterVersion (by rwa [h₁.masterVersion hv])).trans (h₁.masterVersion hv)
  rootCA hk := (h₂.rootCA (by rwa [h₁.rootCA hk])).trans (h₁.rootCA hk)
  address hu := (h₂.address (by rwa [h₁.address hu])).trans (h₁.address hu)
  phase hp := (h₂.phase (by rwa [h₁.phase hp])).trans (h₁.phase hp)

/-- A record that changes nothing the order looks at but the fields it still has empty. -/
theorem of_eq {c c' : Cluster} (hm : c'.metadata = c.metadata) (hs : c'.spec = c.spec)
    (hr : c'.status.rootCA = c.status.rootCA) (ha : c'.address = c.address)
    (hp : c'.status.phase = c.status.phase) : c.Extends c' :=
  ⟨hm, by rw [hs], fun _ => by rw [hs], fun _ => hr, fun _ => ha, fun _ => hp⟩

end Cluster.Extends

section

variable {cc : Controller}

theorem withMasterVersion_of_ne {c : Cluster} (h : c.spec.masterVersion ≠ "") :
    withMasterVersion cc c = c := if_neg h

@[simp] theorem withMasterVersion_cloud (c : Cluster) :
    (withMasterVersion cc c).spec.cloud = c.spec.cloud := by
  unfold withMasterVersion; split <;> rfl

/-- The record written in `Launching` or `Failed` at the end of a call keeps everything the
order looks at but the phase. -/
theorem extends_withMasterVersion_phase {c : Cluster} {t : Time} {p : Phase}
    (hp : c.status.phase ≠ .pending → p = c.status.phase) :
    c.Extends { withMasterVersion cc c with status.lastTransitionTime := t, status.phase := p } where
  metadata := withMasterVersion_metadata cc c
  cloud := withMasterVersion_cloud c
  masterVersion hv := by rw [withMasterVersion_of_ne hv]
  rootCA _ := by simp only [withMasterVersion_status]
  address _ := withMasterVersion_address cc c
  phase := hp

end

/-! ## What a persisted record satisfies -/

variable (cc : Controller)

/-- The record is `Launching` only when its effective master version is a key of
`versions`. -/
def Cluster.LaunchingKnown (c : Cluster) : Prop :=
  c.status.phase = .launching → (cc.versions.lookup (withMasterVersion cc c).spec.masterVersion).isSome

/-- What the persisted record of a reachable world satisfies. -/
structure Consistent (w : World) : Prop where
  crashSafe : CrashSafe cc w
  phaseSafe : w.record.PhaseSafe cc
  launchingKnown : w.record.LaunchingKnown cc

variable {cc}

theorem Cluster.LaunchingKnown.congr {c c' : Cluster} (h : c.LaunchingKnown cc)
    (hphase : c'.status.phase = c.status.phase) (hspec : c'.spec = c.spec) : c'.LaunchingKnown cc := by
  rw [Cluster.LaunchingKnown, hphase, withMasterVersion_spec_congr hspec]
  exact h

theorem Consistent.init {w : World} (h : w.Init) : Consistent cc w := by
  obtain ⟨⟨hphase, hca, haddr, -⟩, -⟩ := h
  refine ⟨⟨fun hl => ?_, fun hk => ?_, fun hu => ?_⟩, ⟨.inl hphase, fun hf => ?_⟩, fun hl => ?_⟩
  all_goals first
    | (rw [hphase] at hl; cases hl)
    | (rw [hphase] at hf; cases hf)
    | (rw [hca] at hk; cases hk)
    | exact absurd (by rw [haddr]) hu

section

variable {env : Env} {c x : Cluster} {objs objs' : List Resource}

/-- A call keeps the record consistent with a `Launching` phase: a cluster it answers
`Launching` went through the deployment step, which knew its version. -/
theorem launchingKnown_answered (h : c.LaunchingKnown cc) (hssh : env.SetsOnlySSH)
    (hans : Answered cc env c x) : x.LaunchingKnown cc := by
  cases hans with
  | launched enters =>
    obtain ⟨r, acts, h10, -⟩ := enters_le cc env enters (by decide : 10 ≤ 12)
    intro _
    have hspec := @withMasterVersion_spec_congr cc (withMasterVersion cc c)
      { withMasterVersion cc c with status.lastTransitionTime := env.now, status.phase := .launching } rfl
    rw [withMasterVersion_withMasterVersion] at hspec
    rw [hspec]
    exact enters_version_known cc env h10
  | rootCA | tokenUsers | apiserverService => exact h.congr rfl rfl
  | secret entry generate =>
    obtain ⟨ssh, -, rfl⟩ := hssh.answered entry generate
    exact h.congr rfl rfl
  | unknownVersion => intro hl; cases hl

/-- **Whatever a call answers extends the record it started from.** The one write that
could replace something persisted is the address; it follows the create of the public
service, which fails while the orchestrator holds that service, as it does once an
address is persisted. -/
theorem answered_extends (h : Consistent cc ⟨c, objs⟩) (hallowed : CrashAllowed cc ⟨c, objs⟩ env)
    (heff : Effects objs (syncPendingCluster cc env c).actions objs') (hans : Answered cc env c x) :
    c.Extends x := by
  cases hans with
  | launched enters =>
    obtain ⟨r, acts, h10, -⟩ := enters_le cc env enters (by decide : 10 ≤ 12)
    refine extends_withMasterVersion_phase fun hp => ?_
    rcases h.phaseSafe.1 with hpend | hl | hf
    · exact absurd hpend hp
    · exact hl.symm
    · have hknown := enters_version_known cc env h10
      rw [h.phaseSafe.2 hf] at hknown
      cases hknown
  | rootCA absent =>
    refine ⟨rfl, rfl, fun _ => rfl, fun hk => ?_, fun _ => rfl, fun _ => rfl⟩
    rw [absent] at hk; cases hk
  | tokenUsers => exact .refl c
  | @apiserverService port obj free generate last =>
    refine ⟨rfl, rfl, fun _ => rfl, fun _ => rfl, fun hu => ?_, fun _ => rfl⟩
    obtain ⟨-, -, -, r, hr, hk, hns, hname, -⟩ := h.crashSafe.address hu
    obtain ⟨⟨hlo, hhi, -⟩, -⟩ := getFreeNodePort_free free
    obtain ⟨pre, hlast⟩ := last
    rw [hlast] at heff
    obtain ⟨mid, hpre, habsent⟩ := effects_create_absent heff
    have hheld : holds mid .service (namespaceName c.metadata.name) obj.name = true := by
      refine effects_holds_of_not_deleted hpre ?_ fun err hd => ?_
      · rw [(hallowed.1 { c with address := ⟨publicURL cc c.metadata.name port, port⟩ } obj hlo hhi
          generate).1]
        exact holds_iff.mpr ⟨r, hr, hk, hns, hname⟩
      · have hd' : .delete .service (namespaceName c.metadata.name) obj.name err ∈ (syncPendingCluster cc env c).actions := by
          rw [hlast]; exact List.mem_append_left _ hd
        exact absurd (syncPendingCluster_deletes cc env hd').1 (by decide)
    rw [habsent] at hheld
    cases hheld
  | secret entry generate =>
    obtain ⟨ssh, -, rfl⟩ := hallowed.2.answered entry generate
    exact .of_eq rfl rfl rfl rfl rfl
  | unknownVersion unknown =>
    refine extends_withMasterVersion_phase fun hp => ?_
    rcases h.phaseSafe.1 with hpend | hl | hf
    · exact absurd hpend hp
    · have hknown := h.launchingKnown hl
      rw [unknown] at hknown
      cases hknown
    · exact hf.symm

/-- One call keeps the world consistent, and the record it leaves extends the one it
found. -/
theorem Consistent.step {w w' : World} (h : Consistent cc w) (hs : Step cc (CrashAllowed cc) w w') :
    Consistent cc w' ∧ w.record.Extends w'.record := by
  have hsafe := crashSafe_step h.crashSafe hs
  cases hs with
  | @call env objs persist allowed effects =>
    cases persist with
    | false => exact ⟨⟨hsafe, h.phaseSafe, h.launchingKnown⟩, .refl _⟩
    | true =>
      cases hx : (syncPendingCluster cc env w.record).changedC with
      | none =>
        simp only [hx, ite_true, Option.getD_none] at hsafe ⊢
        exact ⟨⟨hsafe, h.phaseSafe, h.launchingKnown⟩, .refl _⟩
      | some x =>
        simp only [hx, ite_true, Option.getD_some] at hsafe ⊢
        have hans := syncPendingCluster_answered cc env hx
        exact ⟨⟨hsafe, phaseSafe_answered allowed.2 h.phaseSafe hans,
          launchingKnown_answered h.launchingKnown allowed.2 hans⟩,
          answered_extends h allowed effects hans⟩

end

/-- **The reconciler never overwrites what it has persisted.** Along every run of calls
from a reachable world, with any failures, creates that take effect and still report an
error, and lost writes, every later record extends every earlier one: it has the same
name and cloud spec; once set, the master version, the root CA and the address stay as
they were; and once the record has left `Pending`, it stays `Launching` or `Failed`.
The calls are those of the crash-safety result: the public service carries the chosen
port, and secret generators change nothing but the SSH material. -/
theorem reachable_run_extends {w w' : World} (hw : Reachable cc (CrashAllowed cc) w)
    (hrun : Relation.ReflTransGen (Step cc (CrashAllowed cc)) w w') : w.record.Extends w'.record := by
  have hcons : Consistent cc w :=
    Reachable.induction (Consistent cc) (fun _ => Consistent.init) (fun _ _ _ h hs => (h.step hs).1) hw
  suffices hrun' : Consistent cc w' ∧ w.record.Extends w'.record from hrun'.2
  induction hrun with
  | refl => exact ⟨hcons, .refl _⟩
  | tail _ hs ih =>
    obtain ⟨h', hext⟩ := ih.1.step hs
    exact ⟨h', ih.2.trans hext⟩

/-- The cluster `c1` keeps the root CA its first call minted along the calls that create
its token-users secret and its public service, the write of the latter lost, and the call
that writes it `Launching`. -/
theorem caWorld_run_extends :
    Reachable sampleController (CrashAllowed sampleController) caWorld ∧
    caWorld.record.Extends lostAddressWorld.record := by
  have hA := workingEnv_crashAllowed
  have hreach : Reachable sampleController (CrashAllowed sampleController) caWorld :=
    (Reachable.init freshCluster_init).step (workingStep_step true (hA _) (by decide))
  refine ⟨hreach, reachable_run_extends hreach ?_⟩
  exact (((Relation.ReflTransGen.single (workingStep_step true (hA _) (by decide))).tail
    (workingStep_step false (hA _) (by decide))).tail (workingStep_step true (hA _) (by decide)))

end Kubermatic
