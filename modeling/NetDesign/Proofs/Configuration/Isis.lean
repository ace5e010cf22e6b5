import NetDesign.Proofs.Configuration.Course

set_option autoImplicit false

namespace NetDesign.Dialect

variable {net : Network} {record : DeviceRecord}

theorem isis_of_speaksIsis {dialect : Dialect} (speaks : dialect.speaksIsis) (net : Network)
    (d : DeviceId) : dialect.isis net d = net.isis.nodes.get? d := by
  cases dialect with
  | ios | ios2 => rfl
  | quagga | junos => cases speaks

theorem isSome_isis (dialect : Dialect) (net : Network) (d : DeviceId) :
    (dialect.isis net d).isSome ↔ dialect.speaksIsis ∧ net.hasDevice .isis d := by
  cases dialect <;> simp [isis, speaksIsis, Network.hasDevice, SortedMap.contains]

/-- In a compiled record an interface runs ISIS exactly if its link does, and there is a section
exactly if the device is part of the ISIS layer, each in dialects that speak ISIS. If the device is
part of the layer then the interfaces and the section name one process. -/
theorem compile_isis (dialect : Dialect) (settings : Settings)
    (compiled : (dialect.compile net settings record).failure = none) :
    let left := (dialect.compile net settings record).record
    (∀ i ∈ left.interfaces,
      i.isis ↔ dialect.speaksIsis ∧ ∃ l, i.link = some l ∧ net.hasLink .isis l) ∧
    (left.isis.isSome ↔ dialect.speaksIsis ∧ net.hasDevice .isis record.id) ∧
    (net.hasDevice .isis record.id → ∀ i ∈ left.interfaces, i.isis →
      ∃ node, left.isis = some node ∧ i.isisProcess = some node.processId) := by
  intro left
  obtain ⟨listed, sectioned⟩ := compile_wired dialect settings compiled
  have own : left.id = record.id := compile_id dialect net settings record
  have runs : ∀ i ∈ left.interfaces,
      i.isis ↔ dialect.speaksIsis ∧ ∃ l, i.link = some l ∧ net.hasLink .isis l := by
    intro i mem
    rcases wires_of_mem_interfaces listed mem with ⟨l, id, wires⟩ | ⟨bare, silent⟩
    · have flag : i.isis = (dialect.speaksIsis && net.hasLink .isis l) := wires.isis
      have link : i.link = some l := wires.link
      rw [flag, link]
      simp
    · rw [silent, bare]
      simp
  refine ⟨runs, ?_, fun part i mem marked => ?_⟩
  · rw [sectioned]
    exact isSome_isis dialect net record.id
  · obtain ⟨node, given⟩ := Option.isSome_iff_exists.mp part
    refine ⟨node, ?_, ?_⟩
    · rw [sectioned, isis_of_speaksIsis ((runs i mem).mp marked).1, given]
    · rcases wires_of_mem_interfaces listed mem with ⟨l, id, wires⟩ | ⟨-, silent⟩
      · rw [wires.process marked, own, given]
        rfl
      · rw [silent] at marked
        cases marked

def insider : Device := ⟨"a", "a", .router, none, some .ios, none, none⟩

def halfIsis : Network :=
  Network.empty.after
    [.addDevice insider, .addDevice { insider with name := "b", label := "b" },
      .setLoopback ⟨0⟩ (some ⟨1⟩), .setLoopback ⟨1⟩ (some ⟨2⟩), .addLink ⟨0⟩ ⟨1⟩,
      .addressLink ⟨0⟩ ⟨⟨16⟩, 28, by decide⟩ [(⟨0⟩, ⟨17⟩), (⟨1⟩, ⟨18⟩)],
      .joinIsis ⟨0⟩ ⟨7, "49.0001"⟩, .runIsis ⟨0⟩]

/-- The record of a device, with a name for the interface on the only link. -/
def namedRecord (d : DeviceId) : DeviceRecord :=
  { DeviceRecord.blank d "" with interfaceIds := .ofList [(⟨0⟩, ⟨0, "Ethernet0/0"⟩)] }

theorem halfIsis_insider :
    let left := (ios.compile halfIsis .standard (namedRecord ⟨0⟩)).record
    (ios.compile halfIsis .standard (namedRecord ⟨0⟩)).failure = none ∧
      ∃ i ∈ left.interfaces, ∃ node, i.link = some ⟨0⟩ ∧ i.isis ∧ left.isis = some node ∧
        i.isisProcess = some node.processId := by
  intro left
  have compiled : (ios.compile halfIsis .standard (namedRecord ⟨0⟩)).failure = none := by
    decide +kernel
  obtain ⟨runs, -, agree⟩ := compile_isis ios .standard compiled
  have linked : ∃ i ∈ left.interfaces, i.link = some ⟨0⟩ := by decide +kernel
  obtain ⟨i, mem, link⟩ := linked
  have marked := (runs i mem).mpr ⟨rfl, ⟨0⟩, link, by decide +kernel⟩
  obtain ⟨node, held, process⟩ := agree (by decide +kernel) i mem marked
  exact ⟨compiled, i, mem, node, link, marked, held, process⟩

theorem halfIsis_namesLinks (d : DeviceId) (linked : halfIsis.linksOf d = [⟨0⟩]) :
    (namedRecord d).NamesLinks halfIsis := by
  intro l mem
  change l ∈ halfIsis.linksOf d at mem
  rw [linked, List.mem_singleton] at mem
  subst mem
  exact ⟨⟨0, "Ethernet0/0"⟩, rfl⟩

/-- The other end of the link runs ISIS on its interface too, but in no process, and has no
section. -/
theorem outsider_without_process :
    ¬ ∀ (net : Network) (dialect : Dialect) (settings : Settings) (record : DeviceRecord),
      net.Reachable → (net.device? record.id).isSome → record.NamesLinks net →
      (dialect.compile net settings record).failure = none →
      ∀ i ∈ (dialect.compile net settings record).record.interfaces, i.isis →
        ∃ node, (dialect.compile net settings record).record.isis = some node ∧
          i.isisProcess = some node.processId := by
  intro coherent
  have marked : ∃ i ∈ (ios.compile halfIsis .standard (namedRecord ⟨1⟩)).record.interfaces,
      i.isis := by decide +kernel
  obtain ⟨i, mem, runs⟩ := marked
  have named := halfIsis_namesLinks ⟨1⟩ (by decide +kernel)
  obtain ⟨node, held, -⟩ := coherent halfIsis ios .standard (namedRecord ⟨1⟩) ⟨_, rfl⟩
    (by decide +kernel) named (by decide +kernel) i mem runs
  have absent : (ios.compile halfIsis .standard (namedRecord ⟨1⟩)).record.isis = none := by
    decide +kernel
  rw [absent] at held
  cases held

end NetDesign.Dialect
