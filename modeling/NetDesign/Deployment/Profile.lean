import NetDesign.Hostname
import NetDesign.Interface.Supply
import NetDesign.Record
import NetDesign.Settings

set_option autoImplicit false

namespace NetDesign

/-- How the routers of one dialect are configured on a platform. -/
structure Profile where
  dialect : Dialect
  scheme : Scheme
  template : String
deriving DecidableEq, Repr

namespace Platform

/-- The profiles of a platform, in the order in which their routers are compiled. -/
def profiles : Platform → List Profile
  | junosphere => [⟨.junos, .junosphere, "templates/junos.mako"⟩]
  | netkit => [⟨.quagga, .netkit, "templates/netkit_startup.mako"⟩]
  | cisco =>
    [⟨.ios, .ios, "templates/ios.mako"⟩, ⟨.ios2, .ios2, "templates/ios2/router.conf.mako"⟩]
  | dynagen => [⟨.ios, .dynagen, "templates/ios.mako"⟩]

/-- The folder of a host's files. Real equipment gets a new folder in every run. -/
def folder (p : Platform) (root host timestamp : String) : String :=
  match p with
  | cisco => root ++ "/" ++ host ++ "_" ++ timestamp ++ "/" ++ p.word
  | junosphere | netkit | dynagen => root ++ "/" ++ host ++ "/" ++ p.word

/-- The form of a label that names the files of a device. -/
def fileStem (p : Platform) (label : String) : String :=
  match p with
  | netkit | cisco => hostname label
  | junosphere | dynagen => folderName label

def fileName (p : Platform) (label : String) : String :=
  match p with
  | netkit => p.fileStem label ++ ".startup"
  | junosphere | cisco | dynagen => p.fileStem label ++ ".conf"

/-- Where the configuration of a device is written. An emulated machine also has a folder of its own
for the files of its routing daemons. -/
def renderTarget (p : Platform) (settings : Settings) (host timestamp template label : String) :
    RenderTarget :=
  let folder := p.folder settings.outputRoot host timestamp
  match p with
  | netkit =>
    { template, folder, file := p.fileName label
      base := some "templates/quagga"
      baseFolder := some (folder ++ "/" ++ p.fileStem label) }
  | junosphere | cisco | dynagen =>
    { template, folder, file := p.fileName label, base := none, baseFolder := none }

end Platform

namespace Network

/-- The routers of a host that speak a dialect, in ascending order, but for those that declare
another platform. -/
def selection (net : Network) (host : String) (platform : Platform) (dialect : Dialect) :
    List (DeviceId × Device) :=
  net.numberedDevices.filter fun (_, device) =>
    device.isRouter && device.dialect = some dialect && device.host = some host
      && device.platform.all (· = platform)

end Network

end NetDesign
