/-
The VMs of the orchestrator (`benchmarks/orchestrator/src/provisioner.rs`, `reaper.rs`, and
`resolve_vm` and `teardown_testbed` of `executor/vm.rs`).

* `Place`, `VmId`: where a VM is kept, and which VM it is;
* `Fleet`, `CloudWorld`: the VMs there are, with what the runs have made, condemned and come
  to refer to;
* `CloudStmt`: the commands of all runs, one call of a cloud CLI each;
* `findExistingVm`, `reapOrphansBestEffort`, `provisionVm`, `destroyVm`: the functions of the
  provisioner;
* `resolveVm`, `teardownTestbed`: the VM of a testbed, before and behind its work;
* `DashboardRun`, `LanguageRun`: the run of a dashboard benchmark, and of one that is started
  from the command line.

The ids of testbeds are ASCII, so that their first bytes are characters.
-/
import Networker.BenchOrchestrator.Cycle
import Networker.Concurrency.Process

namespace Networker

open Data Concurrency

namespace BenchOrchestrator

/-! ### The clouds -/

/-- Where a VM is kept, as the CLI of its cloud names it. -/
inductive Place
  /-- A name in the resource group. -/
  | azure (name : String)
  | aws (instanceId : String)
  | gcp (name zone : String)
  deriving DecidableEq

/-- A VM: one that was there before the runs, or one that a run has made. -/
inductive VmId
  | earlier (n : ℕ)
  | made (run serial : ℕ)
  deriving DecidableEq

/-- The VMs there are, with what the runs have made and condemned. -/
structure Fleet where
  vms : Place → Option VmId
  /-- The number of VMs that the runs have made. -/
  serial : ℕ
  /-- The VMs that the runs have made. -/
  created : List VmId
  /-- The VMs for which a run has issued a destroy. -/
  condemned : List (ℕ × VmId)

structure CloudWorld extends Fleet where
  /-- The names of the resource group that a run refers to. -/
  refs : List (ℕ × String)
  /-- The names that the reaper of a run has listed and not got to yet. -/
  listed : List (ℕ × String)
  /-- The runs that have started. -/
  started : List ℕ

/-- The clouds before the first run. -/
def CloudWorld.before (vms : Place → Option ℕ) : CloudWorld where
  vms p := (vms p).map .earlier
  serial := 0
  created := []
  condemned := []
  refs := []
  listed := []
  started := []

/-- `OWNED_PREFIX`. -/
def ownedPrefix : String := "ab-"

/-- `filter_owned`, for one name. -/
def owned (name : String) : Bool := Text.startsWithIgnoreCase .ascii name ownedPrefix

namespace Fleet

/-- A run condemns the VM of a place, which goes if the command lands. -/
def condemn (run : ℕ) (place : Place) (lands : Bool) (F : Fleet) : Fleet :=
  { F with vms := if lands then Function.update F.vms place none else F.vms
           condemned := (F.vms place).toList.map (run, ·) ++ F.condemned }

/-- A run makes the VM of a free place, if the command takes effect. -/
def make (run : ℕ) (place : Place) (takes : Bool) (F : Fleet) : Fleet :=
  if takes && (F.vms place).isNone then
    { vms := Function.update F.vms place (some (.made run F.serial))
      serial := F.serial + 1
      created := .made run F.serial :: F.created
      condemned := F.condemned }
  else F

/-- What `az vm list` shows of the names: the ones that have a VM and the prefix. -/
def ownedOf (names : List String) (F : Fleet) : List String :=
  names.dedup.filter fun name => owned name && (F.vms (.azure name)).isSome

end Fleet

namespace CloudWorld

/-- A command changes the fleet. -/
def onFleet (f : Fleet → Fleet) (w : CloudWorld) : CloudWorld := { w with toFleet := f w.toFleet }

/-- A run comes to refer to the VM of a name, if there is one. -/
def refer (run : ℕ) (name : String) (w : CloudWorld) : CloudWorld :=
  if (w.vms (.azure name)).isSome then { w with refs := (run, name) :: w.refs } else w

/-- A run has done with a name. -/
def dropRef (run : ℕ) (name : String) (w : CloudWorld) : CloudWorld :=
  { w with refs := w.refs.filter (· ≠ (run, name)) }

end CloudWorld

/-- The name that a place has in the resource group. -/
def Place.groupName? : Place → Option String
  | .azure name => some name
  | _ => none

/-- The commands of the runs. -/
inductive CloudStmt
  | enter (run : ℕ)
  /-- `az vm show`; the run goes on with the VM if it `adopts` it. -/
  | vmShow (run : ℕ) (name : String) (adopts : Bool)
  /-- The first connection to a VM by its address, which may be one of the resource group. -/
  | connect (run : ℕ) (name : Option String)
  /-- `az vm list`, with the names that the loop behind it gets to. -/
  | vmList (run : ℕ) (names : List String)
  /-- `az vm delete --ids`: an id of Azure is made of the name. -/
  | reap (run : ℕ) (name : String) (lands : Bool)
  | create (run : ℕ) (place : Place) (takes : Bool)
  /-- The command of `destroy_vm`. -/
  | destroy (run : ℕ) (place : Place) (lands : Bool)
  /-- `start_vm` and `stop_vm`: the VM stays. -/
  | power (run : ℕ) (place : Place)
  /-- The callback about a testbed that failed. -/
  | testbedFailed (run : ℕ) (name : Option String)
  | finish (run : ℕ)

/-- What a command does. -/
def CloudStmt.exec : CloudStmt → CloudWorld → CloudWorld
  | enter run, w => { w with started := run :: w.started }
  | vmShow run name adopts, w => if adopts then w.refer run name else w
  | connect run name, w => name.elim w fun n => w.refer run n
  | vmList run names, w => { w with listed := (w.toFleet.ownedOf names).map (run, ·) ++ w.listed }
  | reap run name lands, w =>
      { w.onFleet (Fleet.condemn run (.azure name) lands) with
        listed := w.listed.filter (· ≠ (run, name)) }
  | create run place takes, w =>
      let w' := w.onFleet (Fleet.make run place takes)
      place.groupName?.elim w' fun name => w'.refer run name
  | destroy run place lands, w =>
      let w' := w.onFleet (Fleet.condemn run place lands)
      place.groupName?.elim w' fun name => w'.dropRef run name
  | power _ _, w => w
  | testbedFailed run name, w => name.elim w fun n => w.dropRef run n
  | finish run, w => { w with refs := w.refs.filter (·.1 ≠ run) }

/-! ### The provisioner -/

/-- What a function of the provisioner fails with. -/
inductive CloudError
  | invalidIp
  | showJson
  | createJson
  | notCreated
  | runInstances
  | noInstanceId
  | noPublicIp
  | gcloudCreate
  | noExternalIp
  | unsupportedCloud
  | commandFailed
  deriving DecidableEq

abbrev CloudSvc (α : Type) : Type := Proc CloudStmt CloudError CloudWorld α

/-- `VmInfo`, without what only the work on the VM reads. -/
structure VmInfo where
  name : String
  ip : String
  cloud : String
  region : String
  resourceGroup : String

/-- `RESOURCE_GROUP`. -/
def resourceGroupName : String := "alethabench-rg"

/-- What `az vm show` brings for a VM that is there. -/
inductive ShowReply
  | failed
  | garbled
  | found (ip location : String)

/-- What a command that makes a VM brings. -/
inductive CreateReply
  | failed
  | garbled
  | made (ip : String)

/-- The reply has an address. -/
def ShowReply.hasIp : ShowReply → Bool
  | .found ip _ => ip != ""
  | _ => false

/-- The reply is that of a VM. -/
def ShowReply.isFound : ShowReply → Bool
  | .found _ _ => true
  | _ => false

/-- What the commands for the VM of a testbed bring. -/
structure CloudTrials where
  /-- The VM of the resource group that has the address of the testbed, if any. -/
  addressOf : Option String
  lookup : ShowReply
  /-- The names that the reaper gets to. -/
  reached : List String
  reapLands : String → Bool
  createTakes : Bool
  createReply : CreateReply
  /-- The lookup behind `az vm create`. -/
  createLookup : ShowReply
  instanceId : String
  publicIp : Option String
  teardownLookup : ShowReply
  destroyLands : Bool

section Provisioner

variable (run : ℕ) (t : CloudTrials)

/-- `find_existing_vm`, on Azure alone. -/
def findExistingVm (name : String) (reply : ShowReply) (adopts : Bool) :
    CloudSvc (Option VmInfo) := do
  let there ← .issue (.vmShow run name adopts) fun w => (w.vms (.azure name)).isSome
  if there then
    match reply with
    | .failed => return none
    | .garbled => .raise .showJson
    | .found ip location => return some ⟨name, ip, "azure", location, resourceGroupName⟩
  else return none

/-- `reap_orphans_best_effort`, as far as VMs go. -/
def reapOrphansBestEffort : CloudSvc Unit := do
  let vms ← .issue (.vmList run t.reached) fun w => w.toFleet.ownedOf t.reached
  Proc.each (fun name => .issue (.reap run name (t.reapLands name)) fun _ => ()) vms

/-- The lookup of a VM behind a command that brought no address. -/
def lookUpCreated (region name : String) : CloudSvc VmInfo := do
  match ← findExistingVm run name t.createLookup t.createLookup.hasIp with
  | some vm =>
      if vm.ip = "" then .raise .notCreated
      else return ⟨name, vm.ip, "azure", region, resourceGroupName⟩
  | none => .raise .notCreated

/-- `provision_azure`. -/
def provisionAzure (region name : String) : CloudSvc VmInfo := do
  .issue (.create run (.azure name) t.createTakes) fun _ => ()
  match t.createReply with
  | .made ip =>
      if ip = "" then lookUpCreated run t region name
      else return ⟨name, ip, "azure", region, resourceGroupName⟩
  | .garbled => .raise .createJson
  | .failed => lookUpCreated run t region name

/-- `provision_aws`. -/
def provisionAws (region name : String) : CloudSvc VmInfo := do
  .issue (.create run (.aws t.instanceId) t.createTakes) fun _ => ()
  match t.createReply with
  | .failed => .raise .runInstances
  | .garbled => .raise .noInstanceId
  | .made _ =>
      match t.publicIp with
      | none => .raise .noPublicIp
      | some ip => return ⟨name, ip, "aws", region, t.instanceId⟩

/-- `provision_gcp`. -/
def provisionGcp (zone name : String) : CloudSvc VmInfo := do
  .issue (.create run (.gcp name zone) t.createTakes) fun _ => ()
  match t.createReply with
  | .failed => .raise .gcloudCreate
  | .garbled => .raise .createJson
  | .made ip =>
      if ip = "" then .raise .noExternalIp
      else return ⟨name, ip, "gcp", zone, ""⟩

/-- The clouds that `provision_vm` supports. -/
inductive CloudProvider
  | azure
  | aws
  | gcp
  deriving DecidableEq

/-- The cloud of a name, in any case. -/
def cloudProvider? (cloud : String) : Option CloudProvider :=
  if Text.lower .ascii cloud = "azure".toList then some .azure
  else if Text.lower .ascii cloud = "aws".toList then some .aws
  else if Text.lower .ascii cloud = "gcp".toList then some .gcp
  else none

/-- The pre-emptive cleanup of `provision_vm`. -/
def orphanCleanup (cloud : String) : CloudSvc Unit :=
  if cloudProvider? cloud = some .azure then reapOrphansBestEffort run t else return ()

/-- `provision_vm`. -/
def provisionVm (cloud region name : String) : CloudSvc VmInfo := do
  orphanCleanup run t cloud
  match cloudProvider? cloud with
  | some .azure => provisionAzure run t region name
  | some .aws => provisionAws run t region name
  | some .gcp => provisionGcp run t region name
  | none => .raise .unsupportedCloud

/-- The place of a VM, for the cloud that its description names. -/
def VmInfo.place? (vm : VmInfo) : Option Place :=
  if vm.cloud = "azure" then some (.azure vm.name)
  else if vm.cloud = "aws" then some (.aws vm.resourceGroup)
  else if vm.cloud = "gcp" then some (.gcp vm.name vm.region)
  else none

/-- `destroy_vm`. -/
def destroyVm (vm : VmInfo) (lands : Bool) : CloudSvc Unit := do
  match vm.place? with
  | some place =>
      .issue (.destroy run place lands) fun _ => ()
      if lands then return () else .raise .commandFailed
  | none => .raise .unsupportedCloud

/-- `start_vm` and `stop_vm`. -/
def powerVm (vm : VmInfo) (ok : Bool) : CloudSvc Unit := do
  match vm.place? with
  | some place =>
      .issue (.power run place) fun _ => ()
      if ok then return () else .raise .commandFailed
  | none => .raise .unsupportedCloud

end Provisioner

/-! ### The VM of a testbed -/

/-- The place of a testbed in the clouds. -/
structure Placement where
  cloud : String
  region : String

/-- An address of a cloud that is none of the private, local or reserved ones. -/
def publicOctets (first second : ℕ) : Bool :=
  first != 127 && !(first == 169 && second == 254) && first != 10 &&
    !(first == 172 && 16 ≤ second && second ≤ 31) && !(first == 192 && second == 168) && first != 0

/-- `validate_ip`. -/
def validateIp (ip : String) (isCloud : Bool) : Bool :=
  ip.toList.all (fun c => c.isDigit || c == '.') &&
    match (Text.splitOn '.' ip.toList).map Text.parseDigits with
    | [some a, some b, some c, some d] =>
        a ≤ 255 && b ≤ 255 && c ≤ 255 && d ≤ 255 && (!isCloud || publicOctets a b)
    | _ => false

/-- The name of the VM of a testbed. -/
def vmName (testbed : TestbedConfig) (placement : Placement) : String :=
  ownedPrefix ++ String.ofList (testbed.testbedId.toList.take 8) ++ "-" ++ placement.region

section Testbed

variable (run : ℕ) (t : CloudTrials) (testbed : TestbedConfig) (placement : Placement)

/-- A new VM for a testbed. -/
def provisionTestbed : CloudSvc (VmInfo × Bool) := do
  let vm ← provisionVm run t placement.cloud placement.region (vmName testbed placement)
  return (vm, true)

/-- `resolve_vm`. -/
def resolveVm : CloudSvc (VmInfo × Bool) :=
  match testbed.existingVmIp with
  | some ip => do
      if validateIp ip (cloudProvider? placement.cloud).isSome then
        .issue (.connect run t.addressOf) fun _ => ()
        return (⟨"existing-" ++ String.ofList (testbed.testbedId.toList.take 8), ip,
          placement.cloud, placement.region, ""⟩, false)
      else .raise .invalidIp
  | none => do
      match ← findExistingVm run (vmName testbed placement) t.lookup t.lookup.hasIp with
      | some existing =>
          if existing.ip = "" then provisionTestbed run t testbed placement
          else return (existing, false)
      | none => provisionTestbed run t testbed placement

/-- `teardown_testbed`: an error of the lookup or of the command is only logged. -/
def teardownTestbed : CloudSvc Unit :=
  Proc.rescue (do
    match ← findExistingVm run (vmName testbed placement) t.teardownLookup false with
    | some vm => destroyVm run vm t.destroyLands
    | none => return ()) fun _ => return ()

end Testbed

/-! ### The run of a dashboard benchmark -/

/-- A dashboard benchmark, with all that its commands bring. -/
structure DashboardRun where
  run : ℕ
  config : DashboardBenchmarkConfig
  placement : ℕ → Placement
  outcomes : Outcomes
  trials : ℕ → CloudTrials

/-- The outcomes of a run, with how the VM of a testbed is resolved. -/
def Outcomes.resolved (o : Outcomes) (i : ℕ) (resolveVm : Option Bool) : Outcomes :=
  let trials := { o.testbed i with resolveVm := resolveVm }
  { o with testbed := Function.update o.testbed i trials }

namespace DashboardRun

variable (r : DashboardRun)

/-- The VM of the resource group that a testbed uses. -/
def groupNameOf (testbed : TestbedConfig) (i : ℕ) : Option String :=
  if testbed.existingVmIp.isSome then (r.trials i).addressOf
  else some (vmName testbed (r.placement i))

/-- Whether the VM of a testbed is provisioned, if there is one. -/
def resolve (testbed : TestbedConfig) (i : ℕ) : CloudSvc (Option Bool) :=
  Proc.rescue (do
    let vm ← resolveVm r.run (r.trials i) testbed (r.placement i)
    return some vm.2) fun _ => return none

/-- The end of a testbed with the VM that was resolved for it. -/
def endOf (testbed : TestbedConfig) (i : ℕ) (resolved : Option Bool) : TestbedEnd :=
  executeTestbed r.config (r.outcomes.resolved i resolved) i testbed

/-- One testbed, with its teardown. -/
def visit (testbed : TestbedConfig) (i : ℕ) : CloudSvc Unit := do
  let resolved ← r.resolve testbed i
  match (r.endOf testbed i resolved).outcome with
  | some outcome =>
      if r.config.autoTeardown && outcome.provisionedVm then
        teardownTestbed r.run (r.trials i) testbed (r.placement i)
      else return ()
  | none => .issue (.testbedFailed r.run (r.groupNameOf testbed i)) fun _ => ()

/-- The testbeds of a run, until it is cancelled. -/
def runTestbeds : List (TestbedConfig × ℕ) → CloudSvc Unit
  | [] => return ()
  | (testbed, i) :: rest => do
      if r.outcomes.raised (.beforeTestbed i) then return ()
      else
        r.visit testbed i
        runTestbeds rest

/-- `execute_dashboard_benchmark`. -/
def execute : CloudSvc Unit := do
  r.runTestbeds r.config.testbeds.zipIdx
  .issue (.finish r.run) fun _ => ()

end DashboardRun

/-! ### The run of a benchmark from the command line -/

/-- What the commands for the VM of a language bring. -/
structure LanguageTrials where
  cancelled : Bool
  lookup : ShowReply
  starts : Bool
  ipRefreshed : Bool
  provision : CloudTrials
  deployed : Bool
  stops : Bool

/-- A benchmark of languages, one VM each (`main.rs`). -/
structure LanguageRun where
  run : ℕ
  languages : List (String × LanguageTrials)

/-- A command that the loop goes on behind, whatever it brings. -/
def logged (p : CloudSvc Unit) : CloudSvc Unit := p.rescue fun _ => return ()

namespace LanguageRun

variable (r : LanguageRun)

/-- Find or provision the VM of a language. -/
def languageVm (language : String) (t : LanguageTrials) : CloudSvc VmInfo := do
  match ← findExistingVm r.run (ownedPrefix ++ language) t.lookup t.lookup.isFound with
  | some existing =>
      if existing.ip = "" then
        powerVm r.run existing t.starts
        if t.ipRefreshed then return existing else .raise .commandFailed
      else return existing
  | none => provisionVm r.run t.provision "azure" "eastus" (ownedPrefix ++ language)

/-- One language: its VM is stopped behind the work, and kept. -/
def runLanguage (language : String) (t : LanguageTrials) : CloudSvc Unit := do
  let vm ← r.languageVm language t
  if t.deployed then logged (powerVm r.run vm t.stops) else return ()

/-- The loop over the languages, until the run is cancelled. -/
def runLanguages : List (String × LanguageTrials) → CloudSvc Unit
  | [] => return ()
  | (language, t) :: rest => do
      if t.cancelled then return ()
      else
        r.runLanguage language t
        runLanguages rest

def execute : CloudSvc Unit := do
  logged (r.runLanguages r.languages)
  .issue (.finish r.run) fun _ => ()

end LanguageRun

end BenchOrchestrator

end Networker
