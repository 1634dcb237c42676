import OrdinalAdmission.Feature.Basic
import OrdinalAdmission.Kube.Pod

/-!
# Host ports per ordinal

A declared port with host port `b` is bound to `b + k` in the pod with ordinal `k`. Every container
that an entry names is told its ordinal and its bindings by environment variables. Entries take
effect one after the other; one that asks for a port out of range stops the work in the first
container it names, and what was done until then stays.
-/

namespace OrdinalAdmission.HostPort

open Kube

structure Entry where
  name : String := ""
  ports : List ContainerPort := []
  deriving DecidableEq, Inhabited

structure Config where
  containers : List Entry := []
  deriving DecidableEq, Inhabited

def Entry.codec : Codec Entry :=
  .configuration {} [
    .strict "name" true .text (·.name) fun v e => { e with name := v },
    .strict "ports" false (.list ContainerPort.codec) (·.ports) fun v e => { e with ports := v }]

def Config.codec : Codec Config :=
  .configuration {} [
    .strict "containers" false (.list Entry.codec) (·.containers)
      fun v c => { c with containers := v }]

-- ---------------------------------------------------------------------------
-- Bindings
-- ---------------------------------------------------------------------------

def maxPort : Int := 65535

/-- `base + ordinal`, where that is no more than the highest port. An ordinal past the 32-bit signed
integers gives no port, whatever the base. -/
def effectivePort (base : Int32) (ordinal : UInt32) : Option Int32 :=
  let port := base.toInt + ordinal.toNat
  if (ordinal.toNat : Int) ≤ Int32.maxValue.toInt ∧ port ≤ maxPort then some (Int32.ofInt port)
  else none

structure Binding where
  port : ContainerPort
  hostPort : Int32
  deriving DecidableEq, Inhabited

/-- The bindings of the ports that ask for one, up to the first that is out of range. -/
def bindings (ordinal : UInt32) : List ContainerPort → List Binding × Option ContainerPort
  | [] => ([], none)
  | port :: rest =>
    let base := port.hostPort.getD 0
    if base ≤ 0 then bindings ordinal rest
    else match effectivePort base ordinal with
      | some hostPort =>
        let (more, failed) := bindings ordinal rest
        (⟨port, hostPort⟩ :: more, failed)
      | none => ([], some port)

/-- Gives the first port of the binding's name the host port, or adds the declared port. -/
def Binding.bindIn (binding : Binding) : List ContainerPort → List ContainerPort
  | [] => [{ binding.port with hostPort := some binding.hostPort }]
  | port :: rest =>
    if port.name = binding.port.name then { port with hostPort := some binding.hostPort } :: rest
    else port :: binding.bindIn rest

def bindPorts (found : List Binding) (container : Container) : Container :=
  if found.isEmpty then container
  else { container with
    ports := some (found.foldl (fun ports binding => binding.bindIn ports)
      (container.ports.getD [])) }

-- ---------------------------------------------------------------------------
-- Environment
-- ---------------------------------------------------------------------------

def ordinalVariable : String := "POD_ORDINAL"

def portVariable (port : ContainerPort) : String := "PORT_" ++ port.name.getD ""

/-- Replaces the first variable of the same name, or adds this one. -/
def setVariable (assigned : EnvVar) : List EnvVar → List EnvVar
  | [] => [assigned]
  | head :: rest =>
    if head.name = assigned.name then assigned :: rest else head :: setVariable assigned rest

def announced (ordinal : UInt32) (found : List Binding) : List EnvVar :=
  { name := ordinalVariable, value := some (Decimal.text ordinal.toNat) } ::
    found.map fun binding =>
      { name := portVariable binding.port, value := some (Decimal.intText binding.hostPort.toInt) }

def announce (ordinal : UInt32) (found : List Binding) (container : Container) : Container :=
  { container with
    env := some ((announced ordinal found).foldl (fun env assigned => setVariable assigned env)
      (container.env.getD [])) }

-- ---------------------------------------------------------------------------
-- Entries
-- ---------------------------------------------------------------------------

def updateFirst (p : Container → Bool) (f : Container → Container) :
    List Container → List Container
  | [] => []
  | container :: rest =>
    if p container then f container :: rest else container :: updateFirst p f rest

/-- What is left of the containers after one entry, and why the work stopped there, if it did. -/
def Entry.apply (entry : Entry) (ordinal : UInt32) (containers : List Container) :
    List Container × Option MutationError :=
  let named (container : Container) : Bool := container.name == entry.name
  match bindings ordinal entry.ports with
  | (found, none) =>
    (containers.map fun container =>
      if named container then announce ordinal found (bindPorts found container) else container,
      none)
  | (found, some port) =>
    if containers.any named then
      (updateFirst named (bindPorts found) containers,
        some (.portOutOfRange entry.name (port.name.getD "") (port.hostPort.getD 0) ordinal))
    else (containers, none)

def applyEntries (ordinal : UInt32) :
    List Entry → List Container → List Container × Option MutationError
  | [], containers => (containers, none)
  | entry :: rest, containers =>
    match entry.apply ordinal containers with
    | (containers, none) => applyEntries ordinal rest containers
    | (containers, some error) => (containers, some error)

/-- What is left of the spec, and why the work stopped, if it did. A qualifier that does not let the
ordinal in leaves the spec as it is. -/
def mutate (config : Qualified Config) (ordinal : UInt32) (spec : PodSpec) :
    PodSpec × Option MutationError :=
  if config.appliesTo ordinal then
    let (containers, error) := applyEntries ordinal config.value.containers spec.containers
    ({ spec with containers }, error)
  else (spec, none)

def declared? (annotations : Annotations.Collection) :
    Except MutationError (Option (Qualified Config)) :=
  Feature.hostPort.declared? Config.codec annotations

end OrdinalAdmission.HostPort
