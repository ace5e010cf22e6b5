import NetDesign.Deployment

set_option autoImplicit false

namespace NetDesign

/-- What came of compiling a network. -/
structure Compilation where
  inventory : Inventory
  /-- The reports, in the order of the deployments. -/
  reports : List Report
deriving DecidableEq, Repr

namespace Compilation

def failed (c : Compilation) : List Failure := c.reports.flatMap (·.failed)

def warnings (c : Compilation) : List Warning := c.reports.flatMap (·.warnings)

/-- How many times a device was compiled. -/
def compiledCount (c : Compilation) : Nat := (c.reports.flatMap (·.compiled)).length

def failedLabels? (c : Compilation) : Option (List String) :=
  if c.failed = [] then none else some (c.failed.map (·.label))

def extend (net : Network) (settings : Settings) (c : Compilation)
    (deployment : String × Platform) : Compilation :=
  let (inventory, report) := deployment.2.deploy deployment.1 net settings c.inventory
  ⟨inventory, c.reports ++ [report]⟩

theorem extend_eq (net : Network) (settings : Settings) (c : Compilation) (host : String)
    (p : Platform) :
    c.extend net settings (host, p) =
      ⟨(p.deploy host net settings c.inventory).1,
        c.reports ++ [(p.deploy host net settings c.inventory).2]⟩ := rfl

end Compilation

namespace Network

/-- The deployments of a host, or all of them if no host is given. -/
def deploymentsOn (net : Network) (host : Option String) : List (String × Platform) :=
  net.deployments.filter fun deployment => host.all (· = deployment.1)

/-- Compiles a network, or one host of it. The timestamp names the run. -/
def compile (net : Network) (settings : Settings) (host : Option String) (timestamp : String) :
    Compilation :=
  (net.deploymentsOn host).foldl (Compilation.extend net settings) ⟨.empty timestamp, []⟩

end Network

end NetDesign
