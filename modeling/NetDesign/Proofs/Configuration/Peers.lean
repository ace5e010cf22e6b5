import NetDesign.Proofs.Configuration.Peering
import NetDesign.Proofs.Network.Runs
import Mathlib.Data.List.Forall2

set_option autoImplicit false

namespace NetDesign

/-- The session can use the link: it names the link, or it names none and the link joins its ends,
and both ends have an address there. -/
def Network.MayCarry (net : Network) (s : Session) (l : LinkId) : Prop :=
  (s.via = some l ∨
    s.via = none ∧ ∃ link, net.link? l = some link ∧ link.joins s.source s.target) ∧
  (net.addressing? s.source l).isSome ∧ (net.addressing? s.target l).isSome

namespace Dialect

/-- What a session contributes if its target is the given device of the given system. -/
inductive Yields (dialect : Dialect) (net : Network) (s : Session) (target : Device)
    (asn : AsNumber) : Finding Peer → Prop
  | internal {loopback : Address} (inside : s.kind = .ibgp)
      (known : net.loopback? s.target = some loopback) :
      Yields dialect net s target asn
        (.entry (.internal s.direction ⟨target.label, asn, loopback, internalUpdateSource⟩))
  | unreached (inside : s.kind = .ibgp) (unknown : net.loopback? s.target = none) :
      Yields dialect net s target asn (.omission (.peerWithoutLoopback target.label))
  | external {l : LinkId} {subnet : Net} {near far : Address} (outside : s.kind = .ebgp)
      (carried : net.MayCarry s l) (only : ∀ k, net.MayCarry s k → k = l)
      (own : net.addressing? s.source l = some (subnet, near))
      (opposite : net.addressing? s.target l = some (subnet, far)) :
      Yields dialect net s target asn
        (.entry (.external
          ⟨target.label, asn, net.loopback? s.target, near, far, dialect.loopbackName⟩))
  | unaddressed (outside : s.kind = .ebgp) (none : ∀ l, ¬ net.MayCarry s l) :
      Yields dialect net s target asn (.omission (.unaddressedPeer target.label))

/-- What a session contributes to the section of its source. -/
def Contributes (dialect : Dialect) (net : Network) (s : Session) (finding : Finding Peer) : Prop :=
  ∃ target asn, net.device? s.target = some target ∧ target.asn = some asn ∧
    dialect.Yields net s target asn finding

end Dialect

/-- The lists of the section hold the peers among the contributions: internal ones by direction and
in their order, external ones sorted by their systems, those of one system in their order. -/
structure BgpSection.Lists (bgp : BgpSection) (contributions : List (Finding Peer)) : Prop where
  peers : bgp.peers =
    (contributions.filterMap Finding.found?).filterMap (Peer.internal? none)
  clients : bgp.clients =
    (contributions.filterMap Finding.found?).filterMap (Peer.internal? (some .down))
  reflectors : bgp.reflectors =
    (contributions.filterMap Finding.found?).filterMap (Peer.internal? (some .up))
  externals : bgp.externals.Perm
    ((contributions.filterMap Finding.found?).filterMap Peer.external?)
  ascending : bgp.externals.Pairwise fun a b => a.asn ≤ b.asn
  stable : ∀ asn, bgp.externals.filter (·.asn = asn) =
    ((contributions.filterMap Finding.found?).filterMap Peer.external?).filter (·.asn = asn)

namespace Network

variable {net : Network} {s : Session} {l : LinkId}

end Network

namespace Dialect

variable {dialect : Dialect} {net : Network} {d : DeviceId} {s : Session}

theorem Yields.unique {target : Device} {asn : AsNumber} {first second : Finding Peer}
    (one : dialect.Yields net s target asn first) (other : dialect.Yields net s target asn second) :
    first = second := by
  cases one with
  | internal inside known =>
    cases other with
    | internal _ again => rw [known] at again; cases again; rfl
    | _ => simp_all
  | unreached inside unknown =>
    cases other with
    | unreached => rfl
    | _ => simp_all
  | external outside carried only own opposite =>
    cases other with
    | external _ again _ ownAgain oppositeAgain =>
      obtain rfl := only _ again
      rw [own] at ownAgain
      rw [opposite] at oppositeAgain
      cases ownAgain
      cases oppositeAgain
      rfl
    | unaddressed _ none => exact absurd carried (none _)
    | _ => simp_all
  | unaddressed outside none =>
    cases other with
    | external _ carried => exact absurd carried (none _)
    | unaddressed => rfl
    | _ => simp_all

theorem Contributes.unique {first second : Finding Peer} (one : dialect.Contributes net s first)
    (other : dialect.Contributes net s second) : first = second := by
  obtain ⟨target, asn, found, numbered, yields⟩ := one
  obtain ⟨again, number, present, listed, alike⟩ := other
  obtain rfl := Option.some.inj (found.symm.trans present)
  obtain rfl := Option.some.inj (numbered.symm.trans listed)
  exact yields.unique alike

end Dialect

namespace Dialect

variable {dialect : Dialect} {net : Network} {d : DeviceId}

/-- What is found at the sessions of a device, in their order. -/
def contributions (dialect : Dialect) (net : Network) (d : DeviceId) : List (Finding Peer) :=
  (net.sessionsOf d).map (dialect.sessionFinding net)

end Dialect

end NetDesign
