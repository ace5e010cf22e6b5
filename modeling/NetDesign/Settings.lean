import NetDesign.Description.Reader

set_option autoImplicit false

namespace NetDesign

/-- What the user may choose about a compilation. -/
structure Settings where
  ospfProcess : UInt32
  /-- The block of the management addresses of emulated machines. -/
  managementBlock : Net
  outputRoot : String
  terminalPassword : String
deriving DecidableEq, Repr

namespace Settings

def standard : Settings where
  ospfProcess := 1
  managementBlock := ⟨.ofOctets 172 16 0 0, 16, by omega⟩
  outputRoot := "rendered"
  terminalPassword := "1234"

/-- Reads settings from a JSON value. What is not given is standard. -/
def read? (j : Json) : Option Settings := do
  let f ← j.fields? ["ospf_process_id", "tap_subnet", "render_root", "zebra_password"]
  return {
    ospfProcess := ← f.withDefault "ospf_process_id" standard.ospfProcess Json.word?
    managementBlock := ← f.withDefault "tap_subnet" standard.managementBlock Json.net?
    outputRoot := ← f.withDefault "render_root" standard.outputRoot Json.text?
    terminalPassword := ← f.withDefault "zebra_password" standard.terminalPassword Json.text? }

def ofText? (s : String) : Option Settings := (Json.ofText? s).bind read?

end Settings

end NetDesign
