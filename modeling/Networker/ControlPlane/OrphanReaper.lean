/-
The orphan reaper's decision which cloud resources to delete
(`Background/OrphanReaperService.cs`).

* `vmNameFromDeployConfig`: the one VM name a deploy config is searched for;
* `liveDeploymentConfigs`, `knownNamePrefixes`: the protected names;
* `filterOrphans`: the pure filter over the listed resources;
* `selectOrphans`: the reads of a sweep followed by the filter.
-/
import Networker.ControlPlane.Provisioning

namespace Networker

open Data Concurrency

namespace OrphanReaper

/-- `OwnedNamePrefixes`. -/
def ownedNamePrefixes : List String := ["tester-", "ab-", "nwk-ep-", "nwk-a-", "nwk-auto-"]

/-- A listed cloud resource. -/
structure RawResource where
  resourceId : String
  name : String
  kind : String
  provider : String
  deriving DecidableEq

/-! ### The VM name of a deploy config -/

/-- The provider blocks of an endpoint and the member that names the VM. -/
def nameMembers : List (String × String) :=
  [("azure", "vm_name"), ("aws", "instance_name"), ("gcp", "instance_name")]

/-- The name a provider block of an endpoint declares. -/
def blockName (ep : Json) (member : String × String) : Option String :=
  ((ep.get? member.1).bind fun b => b.get? member.2).bind Json.str?

/-- The first declared name among the endpoints; an endpoint that is not an object
raises. -/
def firstName : List Json → Except Fault (Option String)
  | [] => .ok none
  | ep :: eps =>
      if ep.isObj then
        match nameMembers.findSome? (blockName ep) with
        | some n => .ok (some n)
        | none => firstName eps
      else .error .invalidOperation

/-- `VmNameFromDeployConfig`. -/
def vmNameFromDeployConfig (config : Json) : Except Fault (Option String) :=
  match Json.parse config with
  | .error _ => .ok none
  | .ok doc => (doc.tryGetProperty "endpoints").bind fun eps =>
      firstName ((eps.bind Json.items?).getD [])

/-- The VM names of a list of configs. -/
def vmNames : List Json → Except Fault (List (Option String))
  | [] => .ok []
  | c :: cs => (vmNameFromDeployConfig c).bind fun n => (vmNames cs).map fun ns => n :: ns

/-! ### The protected names -/

/-- A row that is neither torn down nor failed nor cancelled. -/
def isLive (d : Deployment) : Bool :=
  d.status != .tornDown && d.status != .failed && d.status != .cancelled

def liveDeploymentConfigs (w : World) : List Json :=
  (w.deployments.select isLive).map Deployment.config

/-- `Distinct(StringComparer.OrdinalIgnoreCase)`. -/
def distinctIgnoreCase (cs : Text.Casing) (names : List String) : List String :=
  names.foldl (fun seen s =>
    if seen.any fun x => Text.upper cs x == Text.upper cs s then seen else seen ++ [s]) []

/-- The names whose resources are spared. -/
def knownNamePrefixes (cs : Text.Casing) (testerNames : List String)
    (deploymentNames : List (Option String)) : List String :=
  distinctIgnoreCase cs
    ((testerNames ++ deploymentNames.filterMap id).filter fun n => n != "")

/-- The protected names for a set of live configs. -/
def protectedNames (cs : Text.Casing) (testerNames : List String) (configs : List Json) :
    Except Fault (List String) :=
  (vmNames configs).map (knownNamePrefixes cs testerNames)

/-! ### The filter -/

/-- `NameIsOurs`. -/
def nameIsOurs (cs : Text.Casing) (name : String) : Bool :=
  ownedNamePrefixes.any fun p => p.toList.isPrefixOf (Text.lower cs name)

/-- `StartsWithKnownVmName`. -/
def startsWithKnownVmName (cs : Text.Casing) (name : String) (known : List String) : Bool :=
  known.any fun vm => vm != "" && Text.startsWithIgnoreCase cs name vm

/-- `FilterOrphans`; resource ids are compared ignoring case. -/
def filterOrphans (cs : Text.Casing) (resources : List RawResource) (knownIds known : List String) :
    List RawResource :=
  resources.filter fun r =>
    (!knownIds.any fun id => Text.upper cs id == Text.upper cs r.resourceId) &&
      nameIsOurs cs r.name && !startsWithKnownVmName cs r.name known

/-! ### A sweep -/

/-- The reads of `SweepAsync` and the filter over the resources listed afterwards. -/
def selectOrphans (h : Host) (resources : List RawResource) : Svc (List RawResource) := do
  let knownIds ← Svc.read fun w => w.testers.rows.filterMap ProjectTester.vmResourceId
  let knownVmNames ← Svc.read fun w => w.testers.rows.filterMap ProjectTester.vmName
  let configs ← Svc.read liveDeploymentConfigs
  let known ← Svc.lift (protectedNames h.casing knownVmNames configs)
  return filterOrphans h.casing resources knownIds known

end OrphanReaper

end Networker
