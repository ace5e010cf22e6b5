import NetDesign.Proofs.Compilation.Coverage
import NetDesign.Proofs.Deployment.Course
import NetDesign.Proofs.Deployment.Profile
import NetDesign.Proofs.Deployment.Queue

set_option autoImplicit false

namespace NetDesign

/-- Where the configuration of a device is written. -/
def Inventory.target? (inv : Inventory) (d : DeviceId) : Option RenderTarget :=
  (inv.records.get? d).bind (·.render)

namespace Platform

variable {p : Platform} {host : String} {net : Network} {settings : Settings} {inv : Inventory}

/-- A deployment decides where the files of its devices go. -/
theorem target?_deploy_of_mem {s : Selected} (mem : s ∈ p.roster host net) (settings : Settings)
    (inv : Inventory) :
    (p.deploy host net settings inv).1.target? s.id =
      some (p.renderTarget settings host inv.timestamp s.profile.template s.device.label) := by
  obtain ⟨left, held, same⟩ := get?_deploy (get?_visitAll_of_mem mem settings inv)
  have render : left.withoutTap.render =
      (p.outcome host net settings inv s).record.withoutTap.render := by rw [same]
  rw [Inventory.target?, held]
  exact render.trans (p.compileDevice_keeps ..).1

theorem target?_deploy_of_not_mem {d : DeviceId} (absent : d ∉ (p.roster host net).map (·.id))
    (settings : Settings) (inv : Inventory) :
    (p.deploy host net settings inv).1.target? d = inv.target? d := by
  rw [Inventory.target?, records_deploy_of_not_mem absent, Inventory.target?]

theorem destination_lab_deploy (wf : net.WellFormed) (settings : Settings) (keyed : inv.Keyed)
    {lab : Lab} (held : (netkit.deploy host net settings inv).1.labs.get? host = some lab) :
    lab.render.destination =
      (netkit.folder settings.outputRoot host inv.timestamp, "lab.conf") := by
  rw [labs_deploy_netkit wf settings keyed, Option.some.injEq] at held
  rw [← held]
  rfl

end Platform

namespace Compilation

/-- The last deployment that took up a device, if any did. -/
def writer? (c : Compilation) (d : DeviceId) : Option (String × Platform) :=
  (c.reports.filter fun r => d ∈ r.devices).getLast?.map (·.target)

/-- The records have the destinations of the last deployments that took up their devices, and the
labs have theirs. -/
structure Places (c : Compilation) (net : Network) (settings : Settings) (timestamp : String) :
    Prop where
  keyed : c.inventory.Keyed
  time : c.inventory.timestamp = timestamp
  records : ∀ d, c.inventory.records.contains d → ∃ host p device target,
    c.writer? d = some (host, p) ∧ net.device? d = some device ∧
    c.inventory.target? d = some target ∧
    target.destination = p.destination settings host timestamp device.label
  labs : ∀ host lab, c.inventory.labs.get? host = some lab →
    lab.render.destination = (Platform.netkit.folder settings.outputRoot host timestamp, "lab.conf")

variable {c : Compilation} {net : Network} {settings : Settings} {timestamp : String}

theorem writer?_extend_of_mem {deployment : String × Platform} {d : DeviceId} (wf : net.WellFormed)
    (settings : Settings) (keyed : c.inventory.Keyed)
    (mem : d ∈ (deployment.2.roster deployment.1 net).map (·.id)) :
    (c.extend net settings deployment).writer? d = some deployment := by
  obtain ⟨host, p⟩ := deployment
  have listed : d ∈ (p.deploy host net settings c.inventory).2.devices :=
    (p.devices_deploy wf host settings keyed).mem_iff.mpr mem
  rw [extend_eq, writer?, List.filter_append, List.filter_singleton]
  simp [listed, Platform.target_deploy]

theorem writer?_extend_of_not_mem {deployment : String × Platform} {d : DeviceId}
    (wf : net.WellFormed) (settings : Settings) (keyed : c.inventory.Keyed)
    (absent : d ∉ (deployment.2.roster deployment.1 net).map (·.id)) :
    (c.extend net settings deployment).writer? d = c.writer? d := by
  obtain ⟨host, p⟩ := deployment
  have unlisted : d ∉ (p.deploy host net settings c.inventory).2.devices := fun listed =>
    absent ((p.devices_deploy wf host settings keyed).mem_iff.mp listed)
  rw [extend_eq, writer?, List.filter_append, List.filter_singleton]
  simp [unlisted, writer?]

theorem empty_places (timestamp : String) (net : Network) (settings : Settings) :
    Places ⟨.empty timestamp, []⟩ net settings timestamp where
  keyed := Inventory.empty_keyed timestamp
  time := rfl
  records d held := by cases held
  labs host lab held := by cases held

theorem Places.extend (places : c.Places net settings timestamp) (wf : net.WellFormed)
    (deployment : String × Platform) :
    (c.extend net settings deployment).Places net settings timestamp where
  keyed := Platform.deploy_keyed places.keyed
  time := (Platform.timestamp_deploy ..).trans places.time
  records d held := by
    by_cases selected : d ∈ (deployment.2.roster deployment.1 net).map (·.id)
    · have written := writer?_extend_of_mem wf settings places.keyed selected
      obtain ⟨host, p⟩ := deployment
      obtain ⟨s, mem, rfl⟩ := List.mem_map.mp selected
      have target := Platform.target?_deploy_of_mem mem settings c.inventory
      refine ⟨host, p, s.device, _, written, Platform.device?_of_mem_roster mem, target, ?_⟩
      rw [Platform.destination_renderTarget, places.time]
    · have kept := writer?_extend_of_not_mem wf settings places.keyed selected
      have target := Platform.target?_deploy_of_not_mem selected settings c.inventory
      have before : c.inventory.records.contains d :=
        (Platform.contains_records_deploy ..).mp held |>.resolve_right selected
      rw [kept]
      exact target ▸ places.records d before
  labs host lab held := by
    obtain ⟨other, p⟩ := deployment
    rw [extend_eq] at held
    by_cases raised : p = .netkit ∧ host = other
    · obtain ⟨rfl, rfl⟩ := raised
      rw [← places.time]
      exact Platform.destination_lab_deploy wf settings places.keyed held
    · rw [Platform.labs_deploy_of_not_raised raised] at held
      exact places.labs host lab held

/-- A device with a destination has a record, and was taken up by a deployment that decided it. -/
theorem Places.of_target (places : c.Places net settings timestamp) {d : DeviceId}
    {target : RenderTarget} (given : c.inventory.target? d = some target) :
    ∃ host p device, c.writer? d = some (host, p) ∧ net.device? d = some device ∧
      target.destination = p.destination settings host timestamp device.label := by
  obtain ⟨record, held, -⟩ := Option.bind_eq_some_iff.mp given
  obtain ⟨host, p, device, own, written, found, targeted, there⟩ :=
    places.records d (Option.isSome_of_eq_some held)
  rw [targeted, Option.some.injEq] at given
  exact ⟨host, p, device, written, found, given ▸ there⟩

end Compilation

namespace Network

theorem compile_places {net : Network} (wf : net.WellFormed) (settings : Settings)
    (host : Option String) (timestamp : String) :
    (net.compile settings host timestamp).Places net settings timestamp :=
  List.foldlRecOn (motive := fun c => Compilation.Places c net settings timestamp)
    (net.deploymentsOn host) _ (Compilation.empty_places timestamp net settings)
    fun _ places deployment _ => places.extend wf deployment

/-- Every record has a destination. Those of two devices are the same exactly if both were last
taken up on the same host and platform and their labels have the same normal form, and none is that
of a lab. -/
theorem compile_destinations {net : Network} (reachable : net.Reachable) (settings : Settings)
    (host : Option String) (timestamp : String) :
    let c := net.compile settings host timestamp
    (∀ d, c.inventory.records.contains d → (c.inventory.target? d).isSome) ∧
    (∀ d e first second, c.inventory.target? d = some first → c.inventory.target? e = some second →
      (first.destination = second.destination ↔ ∃ (h : String) (p : Platform) (a b : Device),
        c.writer? d = some (h, p) ∧ c.writer? e = some (h, p) ∧
        net.device? d = some a ∧ net.device? e = some b ∧
        p.normalForm a.label = p.normalForm b.label)) ∧
    ∀ d target h lab, c.inventory.target? d = some target → c.inventory.labs.get? h = some lab →
      target.destination ≠ lab.render.destination := by
  intro c
  have places := compile_places reachable.wellFormed settings host timestamp
  refine ⟨fun d held => ?_, fun d e first second given givenOther => ?_,
    fun d target h lab given held => ?_⟩
  · obtain ⟨h, p, device, target, -, -, targeted, -⟩ := places.records d held
    exact Option.isSome_of_eq_some targeted
  · obtain ⟨h, p, a, written, found, there⟩ := places.of_target given
    obtain ⟨k, q, b, writtenOther, foundOther, thereOther⟩ := places.of_target givenOther
    rw [there, thereOther, Platform.destination_eq_iff, written, writtenOther, found, foundOther]
    constructor
    · rintro ⟨rfl, rfl, forms⟩
      exact ⟨h, p, a, b, rfl, rfl, rfl, rfl, forms⟩
    · rintro ⟨h', p', a', b', first, second, one, two, forms⟩
      cases first
      cases second
      cases one
      cases two
      exact ⟨rfl, rfl, forms⟩
  · obtain ⟨k, p, device, -, -, there⟩ := places.of_target given
    rw [there, places.labs h lab held]
    exact Platform.destination_ne_lab

def alikeRouter (dialect : Dialect) (platform : Platform) (label : String) : Device :=
  { twoSystemsRouter label 1 with dialect := some dialect, platform := some platform }

/-- Labels with a dot and a slash, on emulated machines and on equipment, and labels with a wide
blank and a dot, on the two kinds of Cisco routers. -/
def alike : Network :=
  Network.empty.after
    [.addDevice (alikeRouter .quagga .netkit "r.1"), .addDevice (alikeRouter .quagga .netkit "r/1"),
      .addDevice (alikeRouter .junos .junosphere "r.1"),
      .addDevice (alikeRouter .junos .junosphere "r/1"),
      .addDevice (alikeRouter .ios .cisco "r\u20031"), .addDevice (alikeRouter .ios2 .cisco "r.1")]

/-- None of the routers compiles. Equipment with such labels shares a file; the two machines do not,
as a hostname keeps its slash. -/
theorem alike_collide :
    let inv := (alike.compile .standard none "0").inventory
    alike.Reachable ∧
    (∃ a b, inv.target? ⟨0⟩ = some a ∧ inv.target? ⟨1⟩ = some b ∧ a.destination ≠ b.destination) ∧
    (∃ a b, inv.target? ⟨2⟩ = some a ∧ inv.target? ⟨3⟩ = some b ∧ a.destination = b.destination) ∧
    ∃ a b, inv.target? ⟨4⟩ = some a ∧ inv.target? ⟨5⟩ = some b ∧ a.destination = b.destination := by
  intro inv
  have reachable : alike.Reachable := ⟨_, rfl⟩
  obtain ⟨targets, collide, -⟩ := compile_destinations reachable .standard none "0"
  have placed : ∀ d, inv.records.contains d → ∃ target, inv.target? d = some target :=
    fun d held => Option.isSome_iff_exists.mp (targets d held)
  obtain ⟨dotted, onDotted⟩ := placed ⟨0⟩ (by decide +kernel)
  obtain ⟨slashed, onSlashed⟩ := placed ⟨1⟩ (by decide +kernel)
  obtain ⟨dottedFile, onDottedFile⟩ := placed ⟨2⟩ (by decide +kernel)
  obtain ⟨slashedFile, onSlashedFile⟩ := placed ⟨3⟩ (by decide +kernel)
  obtain ⟨blank, onBlank⟩ := placed ⟨4⟩ (by decide +kernel)
  obtain ⟨plain, onPlain⟩ := placed ⟨5⟩ (by decide +kernel)
  refine ⟨reachable, ⟨dotted, slashed, onDotted, onSlashed, ?_⟩,
    ⟨dottedFile, slashedFile, onDottedFile, onSlashedFile, ?_⟩, blank, plain, onBlank, onPlain, ?_⟩
  · intro same
    obtain ⟨h, p, a, b, writer, -, found, foundOther, forms⟩ :=
      (collide _ _ _ _ onDotted onSlashed).mp same
    have known : (alike.compile .standard none "0").writer? ⟨0⟩ = some ("lab", .netkit) ∧
        alike.device? ⟨0⟩ = some (alikeRouter .quagga .netkit "r.1") ∧
        alike.device? ⟨1⟩ = some (alikeRouter .quagga .netkit "r/1") := by decide +kernel
    rw [known.1] at writer
    rw [known.2.1] at found
    rw [known.2.2] at foundOther
    cases writer
    cases found
    cases foundOther
    exact absurd forms (by decide +kernel)
  · apply (collide _ _ _ _ onDottedFile onSlashedFile).mpr
    exists "lab", .junosphere, alikeRouter .junos .junosphere "r.1",
      alikeRouter .junos .junosphere "r/1"
    decide +kernel
  · apply (collide _ _ _ _ onBlank onPlain).mpr
    exists "lab", .cisco, alikeRouter .ios .cisco "r\u20031", alikeRouter .ios2 .cisco "r.1"
    decide +kernel

end Network

end NetDesign
