/-
# Setting up and taking down

Before the balancer serves, the object is loaded, its maps are filled from the configuration and
pinned, and the packet program is attached.  Pins left over from an earlier run are replaced.  When
pinning or attaching fails, all pins are removed again, as they are at the end of a run.
-/
import VoiceSteering.Config.Toml
import VoiceSteering.Host.State

namespace VoiceSteering.Service

open Kernel (Object Loaded MapId MapDefinition Role)
open HostAction (tell during modifyKernel runOnSlots runPool)

/-- What a run is asked to do. -/
structure Options where
  iface : String
  pinDir : String
  mode : AttachMode
  config : Config

/-! ## Loading -/

/-- Creates the maps of definitions, in order. -/
def createMaps : List MapDefinition → HostAction (List (String × MapId))
  | [] => return []
  | d :: ds => do
    let h ← get
    match h.faults.error? .createMap d.spec.name none with
    | some errno => throw (.mapCreation d.spec.name errno)
    | none =>
      let (id, kernel) := h.kernel.create ⟨d.spec, d.role.zeroed⟩
      set { h with kernel := kernel.log (.created d.spec.name d.spec.maxEntries) }
      return (d.spec.name, id) :: (← createMaps ds)

/-- Loads an object, with a rate table of the configured size. -/
def load (object : Object) (config : Config) : HostAction Loaded := do
  let object := object.resize Kernel.rateMap config.rateLimit.tableCapacity.toNat
  let maps ← during .loadObject (createMaps object.maps)
  return ⟨maps, object.program⟩

/-- The map of a name. -/
def findMap (loaded : Loaded) (name : String) : HostAction MapId :=
  match loaded.maps.lookup name with
  | some id => return id
  | none => throw (.mapMissing name)

/-- The map of a name, which has to fit a role. -/
def takeMap (loaded : Loaded) (name : String) (role : Role) : HostAction MapId := do
  let id ← findMap loaded name
  match (← get).kernel.map? id with
  | none => throw (.mapMissing name)
  | some m =>
    match m.spec.checkRole role with
    | .ok () => return id
    | .error e => throw (.during (.mapRole role.label) (.map e))

/-! ## Filling -/

/-- Writes the settings of a configuration. -/
def writeSettings (loaded : Loaded) (config : Config) : HostAction Unit := do
  let id ← takeMap loaded Kernel.configMap .config
  let h ← get
  match h.kernel.writeSettings h.faults id config.settings with
  | .ok kernel => set { h with kernel }
  | .error e => throw (.during .writeSettings (.map e))

/-- Lays out the backends of a pool and writes both of its maps. -/
def fillPool (loaded : Loaded) (config : Config) (pool : Pool) : HostAction Unit := do
  let (layout, warnings) := config.layOut pool
  for w in warnings do tell (.unreachableSlot w)
  match layout with
  | .error e => throw (.invalidConfig e)
  | .ok table =>
    let backends ← takeMap loaded (Kernel.backendMap pool) .backends
    runOnSlots backends (PoolScript.writeSlots table (List.finRange 16))
    let maglev ← takeMap loaded (Kernel.maglevMap pool) .maglev
    runPool backends maglev (PoolScript.writeMaglev table)
    tell (.poolLoaded pool table.usableCount)

/-! ## Pins -/

/-- Makes the directory of the pins, with the directories above it. -/
def makePinDirectory (pinDir : String) : HostAction Unit := do
  let directory := Path.parentOfJoin pinDir
  let h ← get
  let (files, made) := h.files.makeDirectories directory
  set { h with files }
  if let .error e := made then throw (.during (.createDirectory directory) (.file e))

/-- Removes what an earlier run has left in the place of a pin. -/
def removeStalePin (pinDir name : String) : HostAction Unit := do
  let path := Path.join pinDir name
  match (← get).files.removeFile path with
  | .ok files =>
    modify fun h => { h with files }
    tell (.stalePinRemoved path)
  | .error e => if !e.isAbsence then throw (.during (.removeStalePin path) (.file e))

/-- Makes the pin of a map. -/
def placePin (loaded : Loaded) (pinDir name : String) : HostAction Unit := do
  let path := Path.join pinDir name
  let id ← findMap loaded name
  let h ← get
  match h.faults.error? .pin name none with
  | some errno => throw (.pinning name path (.failed .pin errno))
  | none =>
    match h.files.makePin path id with
    | .ok files => set { h with files, kernel := h.kernel.log (.pinned name path) }
    | .error e => throw (.pinning name path (.failed .pin e.errno))

/-- Pins a map in a directory, in the place of an old pin. -/
def pinMap (loaded : Loaded) (pinDir name : String) : HostAction Unit := do
  makePinDirectory pinDir
  removeStalePin pinDir name
  placePin loaded pinDir name

/-- Removes a pin, if it is there. -/
def unpin (pinDir name : String) : HostAction Unit := do
  let path := Path.join pinDir name
  match (← get).files.removeFile path with
  | .ok files => modify fun h => { h with files }
  | .error e => if !e.isAbsence then tell (.pinNotRemoved path e)

/-- Removes all pins. -/
def unpinAll (pinDir : String) : HostAction Unit := Kernel.pinnedMaps.forM (unpin pinDir)

/-- Pins all maps. -/
def pinAll (loaded : Loaded) (pinDir : String) : HostAction Unit :=
  Kernel.pinnedMaps.forM (pinMap loaded pinDir)

/-! ## The packet program -/

/-- Checks that the object has its packet program. -/
def findProgram (loaded : Loaded) : HostAction Unit :=
  match loaded.program with
  | some p =>
    if p.name ≠ Kernel.programName then throw (.programMissing Kernel.programName)
    else if p.isXdp then return ()
    else throw (.during .programKind .programNotXdp)
  | none => throw (.programMissing Kernel.programName)

/-- Loads the packet program and attaches it to an interface. -/
def attach (loaded : Loaded) (iface : String) (mode : AttachMode) : HostAction Unit := do
  findProgram loaded
  let h ← get
  match h.faults.error? .programLoad "" none with
  | some errno => throw (.during .loadProgram (.programLoad errno))
  | none => modifyKernel (·.log .programLoaded)
  if iface ∉ h.kernel.interfaces then throw (.during (.attach iface) (.unknownInterface iface))
  match h.faults.error? .linkCreate "" none with
  | some errno => throw (.during (.attach iface) (.map (.failed .linkCreate errno)))
  | none =>
    modifyKernel fun k => { k.log (.attached iface mode.flag) with attachedTo := some iface }

/-- Detaches the packet program. -/
def detach (loaded : Loaded) (iface : String) : HostAction Unit := do
  findProgram loaded
  match (← get).faults.error? .detach "" none with
  | some _ => throw (.during .detach .notAttached)
  | none => modifyKernel fun k => { k.log (.detached iface) with attachedTo := none }

/-! ## The whole -/

/-- Everything before the first pin: the object is loaded and its maps are filled. -/
def prepare (object : Option Object) (config : Config) : HostAction Loaded := do
  match object with
  | none => throw .noObject
  | some object =>
    let loaded ← load object config
    writeSettings loaded config
    Pool.all.forM (fillPool loaded config)
    return loaded

/-- Everything up to the point where the balancer serves.  Before the first pin a failure leaves
the files alone; from then on it removes all pins. -/
def setUp (object : Option Object) (o : Options) : HostAction Loaded := do
  let loaded ← prepare object o.config
  match ← HostAction.attempt (do pinAll loaded o.pinDir; attach loaded o.iface o.mode) with
  | .ok () => tell (.attached o.iface o.mode o.pinDir)
  | .error cause =>
    unpinAll o.pinDir
    throw cause
  return loaded

/-- Detaches the packet program and removes all pins; the result is that of serving, or else that
of detaching. -/
def takeDown (loaded : Loaded) (o : Options) (served : Except Failure Unit) :
    HostAction Unit := do
  tell (.detaching o.iface)
  let detached ← HostAction.attempt (detach loaded o.iface)
  unpinAll o.pinDir
  MonadExcept.ofExcept served
  MonadExcept.ofExcept detached

end VoiceSteering.Service
