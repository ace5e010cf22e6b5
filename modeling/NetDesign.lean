import NetDesign.Main
import NetDesign.Proofs.Network.Step
import NetDesign.Proofs.Network.WellFormed
import NetDesign.Proofs.Network.Runs
import NetDesign.Proofs.Network.Links
import NetDesign.Proofs.Configuration.Adjacency
import NetDesign.Proofs.Configuration.Survey
import NetDesign.Proofs.Configuration.Peering
import NetDesign.Proofs.Configuration.Compile
import NetDesign.Proofs.Deployment.Machine
import NetDesign.Proofs.Deployment.Mirror
import NetDesign.Proofs.Deployment.Roster
import NetDesign.Proofs.Deployment.Visits
import NetDesign.Proofs.Deployment.Serving
import NetDesign.Proofs.Deployment.Verdicts
import NetDesign.Proofs.Compilation
import NetDesign.Proofs.Network.Refusals
import NetDesign.Proofs.Description.Faults
import NetDesign.Proofs.Description.Mirror
import NetDesign.Proofs.Description.Devices
import NetDesign.Proofs.Description.Links
import NetDesign.Proofs.Description.Sessions
import NetDesign.Proofs.Description.Build
import NetDesign.Proofs.Compilation.Coverage
import NetDesign.Proofs.Compilation.Restriction
import NetDesign.Proofs.Configuration.Course
import NetDesign.Proofs.Address
import NetDesign.Proofs.Deployment.Course
import NetDesign.Proofs.Deployment.Queue
import NetDesign.Proofs.Compilation.Order
import NetDesign.Proofs.Deployment.Management
import NetDesign.Proofs.Deployment.Renewal
import NetDesign.Proofs.Deployment.Repetition
import NetDesign.Proofs.Configuration.Isis
import NetDesign.Proofs.Compilation.Destinations
import NetDesign.Proofs.Compilation.Failures
import NetDesign.Proofs.Address.Text
import NetDesign.Proofs.Deployment.Wires
import NetDesign.Proofs.Deployment.Lab
import NetDesign.Proofs.Configuration.Locality
import NetDesign.Proofs.Configuration.Peers
import NetDesign.Proofs.Configuration.Listing
import NetDesign.Proofs.Json.Literal
import NetDesign.Proofs.Json.RoundTrip
import NetDesign.Proofs.Json.Reading
import NetDesign.Proofs.Inventory.Lossless
import NetDesign.Proofs.Configuration.Ospf
import NetDesign.Proofs.Configuration.Spelling
import NetDesign.Proofs.Deployment.Failing
import NetDesign.Proofs.Interface.Scheme
import NetDesign.Proofs.Deployment.Names
import NetDesign.Proofs.Deployment.Growth
import NetDesign.Proofs.Interface.Draws
import NetDesign.Proofs.Deployment.Hostnames
import NetDesign.Proofs.ManagementPool
import NetDesign.Proofs.Interface.Suffix
