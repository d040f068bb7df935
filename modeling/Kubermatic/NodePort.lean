import Kubermatic.Basic

/-!
# `GetFreeNodePort`: the port allocator

`GetFreeNodePort` walks the services of the cache, collects every nonzero `NodePort`
into `usedPorts`, and counts up from `minAPIServerPort` to the first port not in use,
failing once the count passes `maxAPIServerPort`. The ports are Go `int`s, here
`BitVec 64` compared signed and incremented with wrap-around; the `NodePort`s are
`int32`s.

* `getFreeNodePort_spec` — the allocator returns a port exactly when the range holds
  one that no cached service uses, that port is the least such, and otherwise it
  returns the `no free NodePort` error.

The search loop `freePortFrom` runs on fuel: the number of ports in the range
(`portRange`). Every port in use is an `int32` (`UsedPorts.lt`), so the loop only steps
past ports below `2^31`, `port++` never wraps, and the Go loop ends within that many
iterations, even when `maxAPIServerPort` is the largest `int`; with that fuel the model
returns what the Go loop returns.
-/

namespace Kubermatic

/-! ## Go `int` arithmetic -/

theorem neg_two_pow_le_toInt (x : BitVec 64) : -2 ^ 63 ≤ x.toInt := by
  rw [BitVec.toInt_eq_toNat_cond]; have := x.isLt; split <;> omega

theorem bmod_eq_self_of_range {y : Int} (h₁ : -2 ^ 63 ≤ y) (h₂ : y < 2 ^ 63) :
    y.bmod (2 ^ 64) = y := by
  rw [Int.bmod_def]; split <;> omega

/-- `port++` does not wrap below the largest `int`. -/
theorem toInt_add_one {x : BitVec 64} (h : x.toInt < 2 ^ 63 - 1) :
    (x + 1).toInt = x.toInt + 1 := by
  rw [BitVec.toInt_add, show (1 : BitVec 64).toInt = 1 from rfl]
  exact bmod_eq_self_of_range (by have := neg_two_pow_le_toInt x; omega) (by omega)

/-- `int(np)` keeps the value of an `int32`. -/
theorem toInt_signExtend (np : BitVec 32) : (np.signExtend 64).toInt = np.toInt := by
  have h₁ : -2 ^ 31 ≤ np.toInt := by
    rw [BitVec.toInt_eq_toNat_cond]; have := np.isLt; split <;> omega
  have h₂ : np.toInt < 2 ^ 31 := by
    rw [BitVec.toInt_eq_toNat_cond]; have := np.isLt; split <;> omega
  rw [BitVec.signExtend, BitVec.toInt_ofInt]
  exact bmod_eq_self_of_range (by omega) (by omega)

theorem toInt_int32_lt (np : BitVec 32) : np.toInt < 2 ^ 31 := by
  rw [BitVec.toInt_eq_toNat_cond]; have := np.isLt; split <;> omega

/-! ## Collecting the ports in use -/

/-- The list `usedPorts` of `GetFreeNodePort`. Its ports are `int`s widened from
`int32` `NodePort`s, so each lies below `2^31`. -/
structure UsedPorts where
  ports : List (BitVec 64)
  lt : ∀ p ∈ ports, p.toInt < 2 ^ 31

/-- The first loop of `GetFreeNodePort`: the nonzero `NodePort` of every port entry of
every cached service, as an `int`. -/
def usedPorts (services : List Object) : UsedPorts where
  ports := services.flatMap fun s => (s.nodePorts.filter (· != 0)).map (BitVec.signExtend 64)
  lt := by
    intro p hp
    simp only [List.mem_flatMap, List.mem_map] at hp
    obtain ⟨_, _, np, _, rfl⟩ := hp
    rw [toInt_signExtend]; exact toInt_int32_lt np

/-- The closure `isIn` of `GetFreeNodePort`. -/
def isIn (p : BitVec 64) : List (BitVec 64) → Bool
  | [] => false
  | takenPort :: takenPorts => p == takenPort || isIn p takenPorts

@[simp] theorem isIn_iff {p : BitVec 64} {l : List (BitVec 64)} : isIn p l = true ↔ p ∈ l := by
  induction l with
  | nil => simp [isIn]
  | cons q l ih => simp [isIn, ih]

/-- The second loop of `GetFreeNodePort`, from the current value of `port`, with `fuel`
for the ports it may still try:
`for port <= max { if isIn(port, usedPorts) { port++; continue }; return port, nil }`. -/
def freePortFrom (used : UsedPorts) (max : BitVec 64) : Nat → BitVec 64 → Option (BitVec 64)
  | 0, _ => none
  | fuel + 1, port =>
    if port.sle max then
      if isIn port used.ports then freePortFrom used max fuel (port + 1) else some port
    else none

/-- The number of ports in `[minAPIServerPort, maxAPIServerPort]`, the iterations the
loop may take. -/
def portRange (cc : Controller) : Nat :=
  (cc.maxAPIServerPort.toInt - cc.minAPIServerPort.toInt + 1).toNat

/-- The error of `GetFreeNodePort` once the range is exhausted. -/
def noFreeNodePort (cc : Controller) : Error :=
  "no free NodePort available within the given range " ++ toString cc.minAPIServerPort.toInt ++
    "-" ++ toString cc.maxAPIServerPort.toInt

/-- `GetFreeNodePort` over the cached services: the port and `nil`, or `0` and an error. -/
def getFreeNodePort (cc : Controller) (services : List Object) : BitVec 64 × Option Error :=
  match freePortFrom (usedPorts services) cc.maxAPIServerPort (portRange cc) cc.minAPIServerPort with
  | some port => (port, none)
  | none => (0, some (noFreeNodePort cc))

/-! ## What the allocator returns -/

/-- `q` is the `NodePort`, when nonzero, of a port entry of a cached service. -/
def Taken (services : List Object) (q : Int) : Prop :=
  ∃ s ∈ services, ∃ np ∈ s.nodePorts, np ≠ 0 ∧ np.toInt = q

/-- `q` lies in `[minAPIServerPort, maxAPIServerPort]` and no cached service uses it. -/
def IsFree (cc : Controller) (services : List Object) (q : Int) : Prop :=
  cc.minAPIServerPort.toInt ≤ q ∧ q ≤ cc.maxAPIServerPort.toInt ∧ ¬ Taken services q

theorem exists_usedPorts_iff {services : List Object} {q : Int} :
    (∃ u ∈ (usedPorts services).ports, u.toInt = q) ↔ Taken services q := by
  simp only [usedPorts, List.mem_flatMap, List.mem_map, List.mem_filter, bne_iff_ne, ne_eq, Taken]
  constructor
  · rintro ⟨_, ⟨s, hs, np, ⟨hnp, h0⟩, rfl⟩, rfl⟩
    exact ⟨s, hs, np, hnp, h0, (toInt_signExtend np).symm⟩
  · rintro ⟨s, hs, np, hnp, h0, rfl⟩
    exact ⟨_, ⟨s, hs, np, ⟨hnp, h0⟩, rfl⟩, toInt_signExtend np⟩

/-- A port the search loop returns lies between its start and `max`, is not in use, and
every port it stepped over is. -/
theorem freePortFrom_some {used : UsedPorts} {max : BitVec 64} :
    ∀ {fuel : Nat} {port p : BitVec 64}, freePortFrom used max fuel port = some p →
      port.toInt ≤ p.toInt ∧ p.toInt ≤ max.toInt ∧ p ∉ used.ports ∧
        ∀ q, port.toInt ≤ q → q < p.toInt → ∃ u ∈ used.ports, u.toInt = q := by
  intro fuel
  induction fuel with
  | zero => intro _ _ h; cases h
  | succ fuel ih =>
    intro port p h
    rw [freePortFrom] at h
    by_cases hle : port.sle max <;> simp only [hle, ite_true, ite_false] at h
    · by_cases hin : isIn port used.ports <;> simp only [hin, ite_true, ite_false] at h
      · have h₁ : port.toInt < 2 ^ 31 := used.lt port (isIn_iff.mp hin)
        have hsucc : (port + 1).toInt = port.toInt + 1 := toInt_add_one (by omega)
        obtain ⟨hlo, hhi, hfree, hstep⟩ := ih h
        refine ⟨by omega, hhi, hfree, fun q hq hqp => ?_⟩
        rcases (show port.toInt + 1 ≤ q ∨ q = port.toInt by omega) with hq | rfl
        · exact hstep q (by omega) hqp
        · exact ⟨port, isIn_iff.mp hin, rfl⟩
      · cases h
        exact ⟨Int.le_refl _, by simpa [BitVec.sle] using hle, by simpa using hin,
          fun q hq hqp => absurd hqp (by omega)⟩
    · cases h

/-- When the search loop has fuel for every port up to `max` and finds nothing, every
port from its start to `max` is in use. -/
theorem freePortFrom_none {used : UsedPorts} {max : BitVec 64} :
    ∀ {fuel : Nat} {port : BitVec 64}, (max.toInt - port.toInt + 1).toNat ≤ fuel →
      freePortFrom used max fuel port = none →
      ∀ q, port.toInt ≤ q → q ≤ max.toInt → ∃ u ∈ used.ports, u.toInt = q := by
  intro fuel
  induction fuel with
  | zero => intro port hfuel _ q hq hqm; omega
  | succ fuel ih =>
    intro port hfuel h q hq hqm
    rw [freePortFrom] at h
    have hle : port.sle max = true := by simpa [BitVec.sle] using (show port.toInt ≤ max.toInt by omega)
    simp only [hle, ite_true] at h
    by_cases hin : isIn port used.ports <;> simp only [hin, ite_true, ite_false] at h
    · have h₁ : port.toInt < 2 ^ 31 := used.lt port (isIn_iff.mp hin)
      have hsucc : (port + 1).toInt = port.toInt + 1 := toInt_add_one (by omega)
      rcases (show port.toInt + 1 ≤ q ∨ q = port.toInt by omega) with hq | rfl
      · exact ih (by omega) h q (by omega) hqm
      · exact ⟨port, isIn_iff.mp hin, rfl⟩
    · cases h

theorem freePortFrom_least {cc : Controller} {services : List Object} {p : BitVec 64}
    (h : freePortFrom (usedPorts services) cc.maxAPIServerPort (portRange cc) cc.minAPIServerPort =
      some p) :
    IsFree cc services p.toInt ∧ ∀ q, IsFree cc services q → p.toInt ≤ q := by
  obtain ⟨hlo, hhi, hfree, hstep⟩ := freePortFrom_some h
  refine ⟨⟨hlo, hhi, fun ht => ?_⟩, fun q ⟨hq, _, hqt⟩ => Int.not_lt.mp fun hlt => ?_⟩
  · obtain ⟨u, hu, hup⟩ := exists_usedPorts_iff.mpr ht
    exact hfree (BitVec.toInt_inj.mp hup ▸ hu)
  · exact hqt (exists_usedPorts_iff.mp (hstep q hq hlt))

theorem freePortFrom_none_not_free {cc : Controller} {services : List Object}
    (h : freePortFrom (usedPorts services) cc.maxAPIServerPort (portRange cc) cc.minAPIServerPort =
      none) :
    ∀ q, ¬ IsFree cc services q :=
  fun q ⟨hq, hqm, hqt⟩ => hqt (exists_usedPorts_iff.mp (freePortFrom_none (Nat.le_refl _) h q hq hqm))

/-- The port `GetFreeNodePort` returns without an error is the least free one. -/
theorem getFreeNodePort_free {cc : Controller} {services : List Object} {p : BitVec 64}
    (h : getFreeNodePort cc services = (p, none)) :
    IsFree cc services p.toInt ∧ ∀ q, IsFree cc services q → p.toInt ≤ q := by
  unfold getFreeNodePort at h
  split at h
  · cases h; exact freePortFrom_least ‹_›
  · cases h

/-- `GetFreeNodePort` answers no error exactly when a port of the range is free. -/
theorem getFreeNodePort_ok {cc : Controller} {services : List Object} :
    (∃ q, IsFree cc services q) ↔ (getFreeNodePort cc services).2 = none := by
  unfold getFreeNodePort
  split
  · exact ⟨fun _ => rfl, fun _ => ⟨_, (freePortFrom_least ‹_›).1⟩⟩
  · exact ⟨fun ⟨q, hq⟩ => absurd hq (freePortFrom_none_not_free ‹_› q), fun h => by cases h⟩

/-- **The allocator returns the least free port.** `GetFreeNodePort` answers without an
error exactly when some port of `[minAPIServerPort, maxAPIServerPort]` is used by no
cached service; the port it then returns is the least such, so in particular it lies in
the range; and when there is none it returns `0` and the `no free NodePort` error. -/
theorem getFreeNodePort_spec (cc : Controller) (services : List Object) :
    ((∃ q, IsFree cc services q) ↔ (getFreeNodePort cc services).2 = none) ∧
    (∀ p, getFreeNodePort cc services = (p, none) →
      IsFree cc services p.toInt ∧ ∀ q, IsFree cc services q → p.toInt ≤ q) ∧
    ((¬ ∃ q, IsFree cc services q) →
      getFreeNodePort cc services = (0, some (noFreeNodePort cc))) := by
  unfold getFreeNodePort
  cases h : freePortFrom (usedPorts services) cc.maxAPIServerPort (portRange cc)
      cc.minAPIServerPort with
  | none =>
    have hn := freePortFrom_none_not_free h
    exact ⟨⟨fun ⟨q, hq⟩ => absurd hq (hn q), by simp⟩, by simp, fun _ => rfl⟩
  | some p =>
    have hp := freePortFrom_least h
    refine ⟨⟨fun _ => rfl, fun _ => ⟨_, hp.1⟩⟩, fun p' hp' => ?_, fun hn => absurd ⟨_, hp.1⟩ hn⟩
    cases hp'
    exact hp

end Kubermatic
