import NetDesign.Address.Text
import NetDesign.Description
import NetDesign.Json.Fields
import NetDesign.Json.Reader

set_option autoImplicit false

namespace NetDesign

namespace Json

def address? (j : Json) : Option Address := j.text?.bind Address.ofText?

def net? (j : Json) : Option Net := j.text?.bind Net.ofText?

/-- A member name that is a 32-bit word: plain decimal digits, the first of which is zero only in
zero itself. -/
def Key.word? (key : Key) : Option UInt32 :=
  if key.escaped then none
  else
    match readNumber? key.text.toList with
    | some (n, []) => (number n).word?
    | _ => none

end Json

namespace Description

open Json

def readIsis? (j : Json) : Option IsisNode := do
  let f ← j.fields? ["process_id", "net"]
  return ⟨← f.required "process_id" word?, ← f.required "net" text?⟩

def readDevice? (j : Json) : Option DeviceItem := do
  let f ← j.fields? ["name", "label", "kind", "asn", "syntax", "platform", "host", "loopback",
    "ospf", "bgp", "isis"]
  return {
    name := ← f.required "name" text?
    label := ← f.optional "label" text?
    kind := ← f.withDefault "kind" .router (choice? DeviceKind.ofWord?)
    asn := ← f.optional "asn" word?
    dialect := ← f.optional "syntax" (choice? Dialect.ofWord?)
    platform := ← f.optional "platform" (choice? Platform.ofWord?)
    host := ← f.optional "host" text?
    loopback := ← f.optional "loopback" address?
    ospf := ← f.withDefault "ospf" false bool?
    bgp := ← f.withDefault "bgp" false bool?
    isis := ← f.optional "isis" readIsis? }

def readIp? (j : Json) : Option IpItem := do
  let f ← j.fields? ["subnet", "addresses"]
  let addresses ← f.withDefault "addresses" [] (table? (fun key => some key.text) address?)
  return ⟨← f.required "subnet" net?, .ofList addresses⟩

def readOspf? (j : Json) : Option OspfEdge := do
  let f ← j.fields? ["area", "cost"]
  return ⟨← f.withDefault "area" 0 word?, ← f.withDefault "cost" 1 word?⟩

def readLink? (j : Json) : Option LinkItem := do
  let f ← j.fields? ["src", "dst", "ip", "ospf", "isis"]
  return {
    source := ← f.required "src" text?
    target := ← f.required "dst" text?
    ip := ← f.optional "ip" readIp?
    ospf := ← f.optional "ospf" readOspf?
    isis := ← f.withDefault "isis" false bool? }

def readSession? (j : Json) : Option SessionItem := do
  let f ← j.fields? ["src", "dst", "type", "direction", "via"]
  return {
    source := ← f.required "src" text?
    target := ← f.required "dst" text?
    kind := ← f.required "type" (choice? SessionKind.ofWord?)
    direction := ← f.optional "direction" (choice? Direction.ofWord?)
    via := ← f.optional "via" position? }

def read? (j : Json) : Option Description := do
  let f ← j.fields? ["devices", "links", "bgp", "asn_blocks"]
  let blocks ← f.withDefault "asn_blocks" [] (table? Key.word? (list? net?))
  return {
    devices := ← f.required "devices" (list? readDevice?)
    links := ← f.withDefault "links" [] (list? readLink?)
    sessions := ← f.withDefault "bgp" [] (list? readSession?)
    blocks := .ofList blocks }

def ofText? (s : String) : Option Description := (Json.ofText? s).bind read?

end Description

end NetDesign
