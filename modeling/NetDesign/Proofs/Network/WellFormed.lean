import NetDesign.Proofs.Network.Step

set_option autoImplicit false

namespace NetDesign.Network

/-- The device is the last one that was added under the name. -/
def LastNamed (net : Network) (name : String) (d : DeviceId) : Prop :=
  (∃ device, net.device? d = some device ∧ device.name = name) ∧
    ∀ e device, net.device? e = some device → device.name = name → e.index ≤ d.index

/-- What every change keeps. -/
structure WellFormed (net : Network) : Prop where
  ends : ∀ l link, net.link? l = some link →
    (net.device? link.first).isSome ∧ (net.device? link.second).isSome
  members : ∀ layer d, net.hasDevice layer d → (net.device? d).isSome
  anchors : ∀ layer l, net.hasLink layer l → (net.link? l).isSome
  addressed : ∀ d l subnet address, net.addressing? d l = some (subnet, address) →
    ∃ link, net.link? l = some link ∧ link.touches d
  sessions : ∀ s ∈ net.sessions, s.source ≠ s.target ∧ net.hasDevice .bgp s.source ∧
    net.hasDevice .bgp s.target ∧ net.Carries s
  names : ∀ name d, net.named? name = some d ↔ net.LastNamed name d
  known : ∀ device ∈ net.devices, ∃ d, net.named? device.name = some d

theorem getElem?_concat {α : Type} (items : List α) (item : α) (n : Nat) :
    (items ++ [item])[n]? = if n = items.length then some item else items[n]? := by
  rw [List.getElem?_append]
  split
  case isTrue inside => rw [if_neg (by omega)]
  case isFalse outside =>
    split
    case isTrue last => simp [last]
    case isFalse beyond =>
      rw [List.getElem?_eq_none (by simp only [List.length_singleton]; omega),
        List.getElem?_eq_none (by omega)]

theorem device?_addDevice (net : Network) (device : Device) (d : DeviceId) :
    (net.addDevice device).1.device? d =
      if d.index = net.devices.length then some device else net.device? d :=
  getElem?_concat net.devices device d.index

theorem index_lt_of_device? {net : Network} {d : DeviceId} {device : Device}
    (found : net.device? d = some device) : d.index < net.devices.length :=
  (List.getElem?_eq_some_iff.mp found).1

theorem index_lt_of_link? {net : Network} {l : LinkId} {link : Link}
    (found : net.link? l = some link) : l.index < net.links.length :=
  (List.getElem?_eq_some_iff.mp found).1

theorem Step.device? {net changed : Network} (step : net.Step changed) {d : DeviceId}
    {device : Device} (found : net.device? d = some device) : changed.device? d = some device := by
  cases step with
  | device added =>
    rw [device?_addDevice, if_neg (by have := index_lt_of_device? found; omega)]
    exact found
  | link => exact found
  | layer said => rwa [Network.device?, said.ground.1]

theorem Step.isSome_device? {net changed : Network} (step : net.Step changed) {d : DeviceId}
    (present : (net.device? d).isSome) : (changed.device? d).isSome := by
  obtain ⟨device, found⟩ := Option.isSome_iff_exists.mp present
  rw [step.device? found]
  rfl

theorem Step.link? {net changed : Network} (step : net.Step changed) {l : LinkId} {link : Link}
    (found : net.link? l = some link) : changed.link? l = some link := by
  cases step with
  | link a b first second =>
    have inside := index_lt_of_link? found
    simp only [Network.link?] at found ⊢
    rw [List.getElem?_append_left inside, found]
  | device => exact found
  | layer said => rwa [Network.link?, said.ground.2.1]

theorem Step.isSome_link? {net changed : Network} (step : net.Step changed) {l : LinkId}
    (present : (net.link? l).isSome) : (changed.link? l).isSome := by
  obtain ⟨link, found⟩ := Option.isSome_iff_exists.mp present
  rw [step.link? found]
  rfl

theorem Step.link?_old_or_new {net changed : Network} (step : net.Step changed) {l : LinkId}
    {link : Link} (found : changed.link? l = some link) :
    net.link? l = some link ∨
      (net.device? link.first).isSome ∧ (net.device? link.second).isSome := by
  cases step with
  | link a b first second =>
    simp only [Network.link?, List.getElem?_append] at found ⊢
    split at found
    · exact .inl found
    · have added := List.mem_singleton.mp (List.mem_of_getElem? found)
      subst added
      exact .inr ⟨first, second⟩
  | device => exact .inl found
  | layer said => exact .inl (by rwa [Network.link?, said.ground.2.1] at found)

/-- A layer that took a key in holds only old keys and ones like it. -/
theorem held_or_present {K V : Type} [Ord K] [Std.TransOrd K] [Std.LawfulEqOrd K]
    {m : SortedMap K V} {added : K} {value : V} (present : K → Prop) (given : present added)
    (key : K) (held : (m.insert added value).contains key) : m.contains key ∨ present key := by
  rcases (SortedMap.contains_insert m added key value).mp held with rfl | old
  · exact .inr given
  · exact .inl old

/-- At most one device joins at most one layer, and only if it is there. -/
theorem LayerStep.hasDevice_old_or_new {net changed : Network} (said : net.LayerStep changed)
    {layer : Layer} {d : DeviceId} (part : changed.hasDevice layer d) :
    net.hasDevice layer d ∨ (changed.device? d).isSome := by
  cases layer with
  | physical => exact .inr part
  | ip =>
    cases said with
    | loopback e loopback present =>
      exact held_or_present (fun d => (net.device? d).isSome) present d part
    | _ => exact .inl part
  | ospf =>
    cases said with
    | ospfDevice e present =>
      exact held_or_present (fun d => (net.device? d).isSome) present d part
    | _ => exact .inl part
  | bgp =>
    cases said with
    | speaker e present =>
      exact held_or_present (fun d => (net.device? d).isSome) present d part
    | _ => exact .inl part
  | isis =>
    cases said with
    | isisDevice e node present =>
      exact held_or_present (fun d => (net.device? d).isSome) present d part
    | _ => exact .inl part

/-- At most one layer uses one more link, and only if it is there. -/
theorem LayerStep.hasLink_old_or_new {net changed : Network} (said : net.LayerStep changed)
    {layer : Layer} {l : LinkId} (used : changed.hasLink layer l) :
    net.hasLink layer l ∨ (changed.link? l).isSome := by
  cases layer with
  | physical => exact .inr used
  | ip =>
    cases said with
    | addresses k link edge present ends free =>
      exact held_or_present (fun l => (net.link? l).isSome) (Option.isSome_of_eq_some present) l
        used
    | _ => exact .inl used
  | ospf =>
    cases said with
    | ospfLink k edge present free =>
      exact held_or_present (fun l => (net.link? l).isSome) present l used
    | _ => exact .inl used
  | bgp =>
    cases said with
    | session s apart source target via =>
      simp only [hasLink, List.any_append, Bool.or_eq_true] at used
      rcases used with old | new
      · exact .inl old
      · obtain ⟨link, present, -⟩ := via l (by simpa using new)
        exact .inr (Option.isSome_of_eq_some present)
    | _ => exact .inl used
  | isis =>
    cases said with
    | isisLink k present free =>
      exact held_or_present (fun l => (net.link? l).isSome) present l used
    | _ => exact .inl used

theorem LayerStep.addressing?_old_or_new {net changed : Network} (said : net.LayerStep changed)
    {d : DeviceId} {l : LinkId} {found : Net × Address}
    (addressed : changed.addressing? d l = some found) :
    net.addressing? d l = some found ∨ ∃ link, net.link? l = some link ∧ link.touches d := by
  cases said with
  | addresses k link edge present ends free =>
    simp only [addressing?, SortedMap.get?_insert] at addressed
    split at addressed
    case isTrue same =>
      subst same
      refine .inr ⟨link, present, ends d ?_⟩
      simp only [Option.bind_some, Option.map_eq_some_iff] at addressed
      obtain ⟨address, held, -⟩ := addressed
      simp [SortedMap.contains, held]
    case isFalse => exact .inl addressed
  | _ => exact .inl addressed

theorem Step.hasDevice_old_or_new {net changed : Network} (step : net.Step changed) {layer : Layer}
    {d : DeviceId} (part : changed.hasDevice layer d) :
    net.hasDevice layer d ∨ (changed.device? d).isSome := by
  cases step with
  | device device =>
    cases layer with
    | physical => exact .inr part
    | _ => exact .inl part
  | link a b first second => cases layer <;> exact .inl part
  | layer said => exact said.hasDevice_old_or_new part

theorem Step.hasLink_old_or_new {net changed : Network} (step : net.Step changed) {layer : Layer}
    {l : LinkId} (used : changed.hasLink layer l) :
    net.hasLink layer l ∨ (changed.link? l).isSome := by
  cases step with
  | device device => cases layer <;> exact .inl used
  | link a b first second =>
    cases layer with
    | physical => exact .inr used
    | _ => exact .inl used
  | layer said => exact said.hasLink_old_or_new used

theorem Step.addressing?_old_or_new {net changed : Network} (step : net.Step changed)
    {d : DeviceId} {l : LinkId} {found : Net × Address}
    (addressed : changed.addressing? d l = some found) :
    net.addressing? d l = some found ∨ ∃ link, net.link? l = some link ∧ link.touches d := by
  cases step with
  | layer said => exact said.addressing?_old_or_new addressed
  | _ => exact .inl addressed

theorem empty_wellFormed : Network.empty.WellFormed where
  ends l link found := by simp [Network.empty, Network.link?] at found
  members layer d part := by
    cases layer <;> simp [Network.empty, hasDevice, Network.device?, Overlay.empty,
      SortedMap.contains] at part
  anchors layer l used := by
    cases layer <;> simp [Network.empty, hasLink, Network.link?, Overlay.empty,
      SortedMap.contains] at used
  addressed d l subnet address found := by
    simp [Network.empty, addressing?, Overlay.empty] at found
  sessions s mem := by simp [Network.empty] at mem
  names name d := by simp [Network.empty, named?, LastNamed, Network.device?]
  known device mem := by simp [Network.empty] at mem

theorem Step.carries {net changed : Network} (step : net.Step changed) {s : Session}
    (via : net.Carries s) : changed.Carries s := by
  intro l named
  obtain ⟨link, found, touches⟩ := via l named
  exact ⟨link, step.link? found, touches⟩

/-- Once in the BGP layer a device stays there. -/
theorem Step.hasDevice_bgp {net changed : Network} (step : net.Step changed) {d : DeviceId}
    (part : net.hasDevice .bgp d) : changed.hasDevice .bgp d := by
  cases step with
  | layer said =>
    cases said with
    | speaker e present => exact (SortedMap.contains_insert _ e d ()).mpr (.inr part)
    | _ => exact part
  | _ => exact part

theorem Step.session_wellFormed {net changed : Network} (step : net.Step changed)
    (wf : net.WellFormed) : ∀ s ∈ changed.sessions, s.source ≠ s.target ∧
      changed.hasDevice .bgp s.source ∧ changed.hasDevice .bgp s.target ∧ changed.Carries s := by
  intro s mem
  have old_or_new : s ∈ net.sessions ∨ s.source ≠ s.target ∧ net.hasDevice .bgp s.source ∧
      net.hasDevice .bgp s.target ∧ net.Carries s := by
    cases step with
    | layer said =>
      cases said with
      | session added apart source target via =>
        rcases List.mem_append.mp mem with old | new
        · exact .inl old
        · rw [List.mem_singleton.mp new]
          exact .inr ⟨apart, source, target, via⟩
      | _ => exact .inl mem
    | _ => exact .inl mem
  obtain ⟨apart, source, target, via⟩ := old_or_new.elim (wf.sessions s) id
  exact ⟨apart, step.hasDevice_bgp source, step.hasDevice_bgp target, step.carries via⟩

/-- The device just added is the last one of its name. -/
theorem lastNamed_addDevice_self (net : Network) (device : Device) (d : DeviceId) :
    (net.addDevice device).1.LastNamed device.name d ↔ d.index = net.devices.length := by
  simp only [LastNamed, device?_addDevice]
  constructor
  · rintro ⟨⟨found, at_d, -⟩, last⟩
    have above : net.devices.length ≤ d.index := last ⟨net.devices.length⟩ device (by simp) rfl
    split at at_d
    case isTrue new => exact new
    case isFalse => have := index_lt_of_device? at_d; omega
  · intro new
    refine ⟨⟨device, by simp [new], rfl⟩, fun e other at_e named => ?_⟩
    split at at_e
    · omega
    · have := index_lt_of_device? at_e
      omega

/-- Other names mean what they meant before. -/
theorem lastNamed_addDevice_of_ne (net : Network) {device : Device} {name : String}
    (differ : name ≠ device.name) (d : DeviceId) :
    (net.addDevice device).1.LastNamed name d ↔ net.LastNamed name d := by
  have named_old (e : DeviceId) (other : Device) (named : other.name = name) :
      (net.addDevice device).1.device? e = some other ↔ net.device? e = some other := by
    rw [device?_addDevice]
    split
    case isTrue new =>
      have none_before : net.device? e = none := List.getElem?_eq_none (by omega)
      rw [none_before]
      simp only [Option.some.injEq, reduceCtorEq, iff_false]
      rintro rfl
      exact differ named.symm
    case isFalse => rfl
  constructor
  · rintro ⟨⟨found, at_d, named⟩, last⟩
    exact ⟨⟨found, (named_old d found named).mp at_d, named⟩, fun e other at_e same =>
      last e other ((named_old e other same).mpr at_e) same⟩
  · rintro ⟨⟨found, at_d, named⟩, last⟩
    exact ⟨⟨found, (named_old d found named).mpr at_d, named⟩, fun e other at_e same =>
      last e other ((named_old e other same).mp at_e) same⟩

theorem Step.names {net changed : Network} (step : net.Step changed) (wf : net.WellFormed) :
    ∀ name d, changed.named? name = some d ↔ changed.LastNamed name d := by
  intro name d
  cases step with
  | device device =>
    simp only [named?, addDevice, SortedMap.get?_insert]
    split
    case isTrue same =>
      subst same
      exact Iff.trans (by cases d; simp [eq_comm]) (lastNamed_addDevice_self net device d).symm
    case isFalse differ =>
      exact (wf.names name d).trans (lastNamed_addDevice_of_ne net differ d).symm
  | link => exact wf.names name d
  | layer said =>
    obtain ⟨devices, -, names⟩ := said.ground
    simp only [named?, LastNamed, Network.device?, devices, names]
    exact wf.names name d

theorem Step.known {net changed : Network} (step : net.Step changed) (wf : net.WellFormed) :
    ∀ device ∈ changed.devices, ∃ d, changed.named? device.name = some d := by
  intro device mem
  cases step with
  | device added =>
    simp only [named?, addDevice, SortedMap.get?_insert]
    split
    · exact ⟨_, rfl⟩
    case isFalse differ =>
      rcases List.mem_append.mp mem with old | new
      · exact wf.known device old
      · exact absurd (congrArg Device.name (List.mem_singleton.mp new)) differ
  | link => exact wf.known device mem
  | layer said =>
    obtain ⟨devices, -, names⟩ := said.ground
    rw [devices] at mem
    rw [named?, names]
    exact wf.known device mem

theorem Step.wellFormed {net changed : Network} (step : net.Step changed) (wf : net.WellFormed) :
    changed.WellFormed where
  ends l link found := by
    obtain ⟨first, second⟩ := (step.link?_old_or_new found).elim (wf.ends l link) id
    exact ⟨step.isSome_device? first, step.isSome_device? second⟩
  members layer d part :=
    (step.hasDevice_old_or_new part).elim
      (fun old => step.isSome_device? (wf.members layer d old)) id
  anchors layer l used :=
    (step.hasLink_old_or_new used).elim (fun old => step.isSome_link? (wf.anchors layer l old)) id
  addressed d l subnet address found := by
    obtain ⟨link, present, touches⟩ :=
      (step.addressing?_old_or_new found).elim (wf.addressed d l subnet address) id
    exact ⟨link, step.link? present, touches⟩
  sessions := step.session_wellFormed wf
  names := step.names wf
  known := step.known wf

theorem Reachable.wellFormed {net : Network} (reachable : net.Reachable) : net.WellFormed :=
  reachable.induction_step empty_wellFormed Step.wellFormed

end NetDesign.Network
