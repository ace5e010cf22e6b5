import NetDesign.Proofs.Network.WellFormed

set_option autoImplicit false

namespace NetDesign.Network

open Relation (ReflTransGen)

/-- The changes of a run, each with the reply to it. -/
def replies (net : Network) : List Change → List (Change × Except NetworkError Reply)
  | [] => []
  | change :: rest => (change, (net.apply change).2) :: (net.apply change).1.replies rest

/-- The device that was added, with the number told for it. -/
def addedDevice? : Change × Except NetworkError Reply → Option (DeviceId × Device)
  | (.addDevice device, .ok (.device d)) => some (d, device)
  | (.addUniqueDevice device, .ok (.device d)) => some (d, device)
  | _ => none

/-- The link that was added, with the number told for it. -/
def addedLink? : Change × Except NetworkError Reply → Option (LinkId × Link)
  | (.addLink a b, .ok (.link l)) => some (l, ⟨a, b⟩)
  | _ => none

theorem silent_adds_nothing {reply : Except NetworkError Reply}
    (silent : ∀ r, reply = .ok r → r = .done) (change : Change) :
    addedDevice? (change, reply) = none ∧ addedLink? (change, reply) = none := by
  cases reply with
  | error e => cases change <;> exact ⟨rfl, rfl⟩
  | ok r =>
    rw [silent r rfl]
    cases change <;> exact ⟨rfl, rfl⟩

theorem ground_of_layer_steps {net changed : Network} (said : ReflTransGen LayerStep net changed) :
    changed.devices = net.devices ∧ changed.links = net.links := by
  induction said with
  | refl => exact ⟨rfl, rfl⟩
  | tail _ step ih => exact ⟨step.ground.1.trans ih.1, step.ground.2.1.trans ih.2⟩

theorem numberedDevices_apply (net : Network) (change : Change) :
    (net.apply change).1.numberedDevices =
      net.numberedDevices ++ (addedDevice? (change, (net.apply change).2)).toList := by
  have applied := net.apply_applied change
  generalize net.apply change = result at applied
  cases applied with
  | device device asked =>
    have added : addedDevice? (change, .ok (.device ⟨net.devices.length⟩)) =
        some (⟨net.devices.length⟩, device) := by
      rcases asked with rfl | ⟨rfl, -⟩ <;> rfl
    rw [added]
    exact numbered_concat DeviceId.mk net.devices device
  | link a b first second => exact (List.append_nil _).symm
  | layers said silent =>
    rw [(silent_adds_nothing silent change).1, Option.toList_none, List.append_nil,
      numberedDevices, (ground_of_layer_steps said).1, numberedDevices]

theorem numberedLinks_apply (net : Network) (change : Change) :
    (net.apply change).1.numberedLinks =
      net.numberedLinks ++ (addedLink? (change, (net.apply change).2)).toList := by
  have applied := net.apply_applied change
  generalize net.apply change = result at applied
  cases applied with
  | device device asked =>
    have added : addedLink? (change, .ok (.device ⟨net.devices.length⟩)) = none := by
      rcases asked with rfl | ⟨rfl, -⟩ <;> rfl
    rw [added]
    exact (List.append_nil _).symm
  | link a b first second => exact numbered_concat LinkId.mk net.links ⟨a, b⟩
  | layers said silent =>
    rw [(silent_adds_nothing silent change).2, Option.toList_none, List.append_nil,
      numberedLinks, (ground_of_layer_steps said).2, numberedLinks]

/-- A run adds the devices that its replies tell of, under the numbers they tell. -/
theorem numberedDevices_after (net : Network) (changes : List Change) :
    (net.after changes).numberedDevices =
      net.numberedDevices ++ (net.replies changes).filterMap addedDevice? := by
  induction changes generalizing net with
  | nil => simp [after, replies]
  | cons change rest ih =>
    have step := net.numberedDevices_apply change
    rw [after, List.foldl_cons, ← after, ih, step, replies, List.append_assoc]
    cases added : addedDevice? (change, (net.apply change).2) <;> simp [added]

/-- A run adds the links that its replies tell of, under the numbers they tell. -/
theorem numberedLinks_after (net : Network) (changes : List Change) :
    (net.after changes).numberedLinks =
      net.numberedLinks ++ (net.replies changes).filterMap addedLink? := by
  induction changes generalizing net with
  | nil => simp [after, replies]
  | cons change rest ih =>
    have step := net.numberedLinks_apply change
    rw [after, List.foldl_cons, ← after, ih, step, replies, List.append_assoc]
    cases added : addedLink? (change, (net.apply change).2) <;> simp [added]

theorem named_eq_ok {net : Network} {name : String} {d : DeviceId} :
    net.named name = .ok d ↔ net.named? name = some d := by
  unfold named
  cases net.named? name <;> simp

/-- What a run of changes can make of the empty network: devices and links carry the numbers
0, 1, 2, … that were told when they were added, the network is well formed, and a name is known
exactly if some device has it, and means the last such device. -/
theorem after_empty_invariant (changes : List Change) :
    let net := Network.empty.after changes
    let devices := (Network.empty.replies changes).filterMap addedDevice?
    let links := (Network.empty.replies changes).filterMap addedLink?
    (devices.map (·.1) = (List.range net.devices.length).map .mk ∧
      devices.map (·.2) = net.devices) ∧
    (links.map (·.1) = (List.range net.links.length).map .mk ∧ links.map (·.2) = net.links) ∧
    net.WellFormed ∧
    (∀ name, (∃ d, net.named name = .ok d) ↔ ∃ device ∈ net.devices, device.name = name) ∧
    ∀ name d, net.named name = .ok d → net.LastNamed name d := by
  intro net devices links
  have wf : net.WellFormed := Reachable.wellFormed ⟨changes, rfl⟩
  have allDevices : devices = net.numberedDevices :=
    (numberedDevices_after Network.empty changes).symm
  have allLinks : links = net.numberedLinks := (numberedLinks_after Network.empty changes).symm
  refine ⟨⟨?_, ?_⟩, ⟨?_, ?_⟩, wf, fun name => ⟨?_, ?_⟩, fun name d found => ?_⟩
  · rw [allDevices, numberedDevices, map_fst_numbered]
  · rw [allDevices, numberedDevices, map_snd_numbered]
  · rw [allLinks, numberedLinks, map_fst_numbered]
  · rw [allLinks, numberedLinks, map_snd_numbered]
  · rintro ⟨d, found⟩
    obtain ⟨⟨device, at_d, named⟩, -⟩ := (wf.names name d).mp (named_eq_ok.mp found)
    exact ⟨device, List.mem_of_getElem? at_d, named⟩
  · rintro ⟨device, mem, rfl⟩
    obtain ⟨d, found⟩ := wf.known device mem
    exact ⟨d, named_eq_ok.mpr found⟩
  · exact (wf.names name d).mp (named_eq_ok.mp found)

def twoSystemsRouter (name : String) (asn : AsNumber) : Device where
  name := name
  label := name
  kind := .router
  asn := some asn
  dialect := some .quagga
  platform := some .netkit
  host := some "lab"

def sessionThere : Session := ⟨⟨0⟩, ⟨1⟩, .ebgp, none, none⟩

def sessionBack : Session := ⟨⟨1⟩, ⟨0⟩, .ebgp, none, none⟩

/-- Two routers of different systems share two links, one of which has addresses. Each has an
external session to the other. -/
def twoSystemsRun : List Change :=
  [.addDevice (twoSystemsRouter "a" 1), .addDevice (twoSystemsRouter "b" 2),
    .setLoopback ⟨0⟩ (some ⟨1⟩), .setLoopback ⟨1⟩ (some ⟨2⟩),
    .addLink ⟨0⟩ ⟨1⟩, .addLink ⟨1⟩ ⟨0⟩,
    .addressLink ⟨1⟩ ⟨⟨8⟩, 30, by decide⟩ [(⟨0⟩, ⟨9⟩), (⟨1⟩, ⟨10⟩)],
    .addSession sessionThere, .addSession sessionBack]

def twoSystems : Network := Network.empty.after twoSystemsRun

theorem twoSystems_reachable : twoSystems.Reachable := ⟨twoSystemsRun, rfl⟩

end NetDesign.Network
