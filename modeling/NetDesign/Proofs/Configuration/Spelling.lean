import NetDesign.Proofs.Address
import NetDesign.Proofs.Configuration.Ospf
import Mathlib.Data.List.Pairwise

set_option autoImplicit false

namespace NetDesign

/-- A network in which OSPF runs on links of the device is written alike on all of them. -/
def Network.SpellsOspfAlike (net : Network) (d : DeviceId) : Prop :=
  ∀ k l m n a b, net.RunsOspf d k m a → net.RunsOspf d l n b → m.SameBlock n → m = n

theorem Network.spellsOspfAlike_of_base {net : Network} {d : DeviceId}
    (bare : ∀ l n area, net.RunsOspf d l n area → n.address.value = n.base) :
    net.SpellsOspfAlike d :=
  fun k l m n a b first second same =>
    same.eq_of_base (bare k m a first) (bare l n b second)

namespace Dialect

variable {net : Network} {record : DeviceRecord}

theorem networks_apart_iff (dialect : Dialect) (settings : Settings) (d : DeviceId) :
    let networks := (dialect.ospf net settings d).2.networks
    (networks.Pairwise fun m n => ¬ m.network.SameBlock n.network) ↔ net.SpellsOspfAlike d := by
  intro networks
  have subnets (subnet : Net) : (∃ n ∈ networks, n.network = subnet) ↔
      ∃ l area, net.RunsOspf d l subnet area := dialect.mem_networks settings
  constructor
  · intro apart k l m n a b first second same
    obtain ⟨x, inside, rfl⟩ := (subnets m).mpr ⟨k, a, first⟩
    obtain ⟨y, alsoInside, rfl⟩ := (subnets n).mpr ⟨l, b, second⟩
    have : Std.Symm fun m n : OspfNetwork => ¬ m.network.SameBlock n.network :=
      ⟨fun m n apart same => apart same.symm⟩
    by_contra differ
    exact apart.forall inside alsoInside (fun equal => differ (congrArg _ equal)) same
  · intro alike
    have written : networks.Pairwise fun m n => m.network ≠ n.network := firstOfEach_apart _ _
    refine written.imp_of_mem fun {x y} first second differ same => differ ?_
    obtain ⟨k, a, runs⟩ := (subnets x.network).mp ⟨x, first, rfl⟩
    obtain ⟨l, b, alsoRuns⟩ := (subnets y.network).mp ⟨y, second, rfl⟩
    exact alike k l _ _ a b runs alsoRuns same

/-- No two statements have the same block. They are for different networks exactly if the subnets of
the device write each network in one way. -/
theorem ospf_networks_apart (dialect : Dialect) (settings : Settings) {ospf : OspfSection}
    (compiled : (dialect.compile net settings record).failure = none)
    (held : (dialect.compile net settings record).record.ospf = some ospf) :
    (ospf.networks.Pairwise fun m n => m.network ≠ n.network) ∧
      ((ospf.networks.Pairwise fun m n => ¬ m.network.SameBlock n.network) ↔
        net.SpellsOspfAlike record.id) := by
  have part := hasDevice_of_ospf dialect settings compiled held
  obtain ⟨written, -⟩ := ospf_written dialect settings part compiled
  obtain rfl := Option.some.inj (written.symm.trans held)
  exact ⟨firstOfEach_apart _ _, networks_apart_iff dialect settings record.id⟩

/-- A network with 256 addresses, written with the address of a host. -/
def office (host : Nat) : Net := ⟨.ofOctets 192 168 1 host, 24, by omega⟩

/-- A router with two links that run OSPF in two areas. -/
def twoAreas (first second : Net) : Network :=
  Network.empty.after
    [.addDevice (Network.twoSystemsRouter "a" 1), .setLoopback ⟨0⟩ (some ⟨1⟩), .joinOspf ⟨0⟩,
      .addDevice (Network.twoSystemsRouter "b" 1), .addDevice (Network.twoSystemsRouter "c" 1),
      .addLink ⟨0⟩ ⟨1⟩, .addressLink ⟨0⟩ first [], .runOspf ⟨0⟩ ⟨0, 1⟩,
      .addLink ⟨0⟩ ⟨2⟩, .addressLink ⟨1⟩ second [], .runOspf ⟨1⟩ ⟨1, 1⟩]

theorem sameSpelling_apart :
    let outcome := quagga.compile (twoAreas (office 0) (office 0)) .standard (.blank ⟨0⟩ "a")
    outcome.failure = none ∧ ∃ ospf, outcome.record.ospf = some ospf ∧
      ospf.networks.Pairwise fun m n => ¬ m.network.SameBlock n.network := by
  intro outcome
  let net := twoAreas (office 0) (office 0)
  have compiled : outcome.failure = none := by decide +kernel
  have announced : outcome.record.ospf.isSome := by decide +kernel
  obtain ⟨ospf, held⟩ := Option.isSome_iff_exists.mp announced
  have subnets : ∀ l ∈ net.linksOf ⟨0⟩,
      (net.ip.edges.get? l).map (·.subnet) = some (office 0) := by decide +kernel
  have bare : ∀ l n area, net.RunsOspf ⟨0⟩ l n area → n.address.value = n.base := by
    intro l n area runs
    obtain rfl := Option.some.inj ((subnets l runs.link).symm.trans runs.subnet)
    decide +kernel
  have alike := Network.spellsOspfAlike_of_base bare
  exact ⟨compiled, ospf, held, (ospf_networks_apart quagga .standard compiled held).2.mpr alike⟩

/-- The links write their network in two ways, and the router announces it in both areas. -/
theorem network_announced_twice :
    ¬ ∀ (net : Network) (dialect : Dialect) (settings : Settings) (record : DeviceRecord)
      (ospf : OspfSection), net.Reachable →
      (dialect.compile net settings record).failure = none →
      (dialect.compile net settings record).record.ospf = some ospf →
      ospf.networks.Pairwise fun m n => ¬ m.network.SameBlock n.network := by
  intro apart
  have announced : (quagga.compile (twoAreas (office 0) (office 1)) .standard
      (.blank ⟨0⟩ "a")).record.ospf =
      some ⟨1, "lo0:1", [⟨office 0, 0⟩, ⟨office 1, 1⟩]⟩ := by decide +kernel
  have distinct := apart (twoAreas (office 0) (office 1)) quagga .standard (.blank ⟨0⟩ "a") _
    ⟨_, rfl⟩ (by decide +kernel) announced
  obtain ⟨differ, -⟩ := List.pairwise_cons.mp distinct
  exact differ _ List.mem_cons_self (by decide +kernel)

end Dialect

end NetDesign
