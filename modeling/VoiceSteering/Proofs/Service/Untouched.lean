/-
# What leaves files and program alone

Loading an object, filling its maps and serving work on the contents of maps, on the clock and on
what is told.  None of them touches a file or attaches or detaches the packet program, whether it
succeeds or fails, so a run does that only while it pins and attaches and while it takes down.
-/
import Mathlib.Tactic.Common
import VoiceSteering.Proofs.Host.Ending
import VoiceSteering.Service.Session

namespace VoiceSteering

open Kernel (Loaded MapId MapDefinition Object)
open HostAction

/-- The files of a host, and the interface that the packet program is attached to. -/
structure Host.Exposes (h : Host) (files : FileTree) (attachedTo : Option String) : Prop where
  files_eq : h.files = files
  attachedTo_eq : h.kernel.attachedTo = attachedTo

variable {α : Type} {files : FileTree} {attachedTo : Option String}

/-! ### The kernel -/

lemma Host.Exposes.withKernel {h : Host} (hkept : h.Exposes files attachedTo)
    {kernel : Kernel.State} (hkernel : kernel.attachedTo = h.kernel.attachedTo) :
    ({ h with kernel } : Host).Exposes files attachedTo :=
  ⟨hkept.files_eq, hkernel.trans hkept.attachedTo_eq⟩

namespace HostAction

lemma keeps_tell (e : Event) : Keeps (tell e) (Host.Exposes · files attachedTo) :=
  keeps_modify fun _ hkept => ⟨hkept.files_eq, hkept.attachedTo_eq⟩

/-- Running an operation on slots changes nothing but the kernel. -/
lemma run_runOnSlots (backends : MapId) (script : PoolScript α) (h : Host) :
    (runOnSlots backends script).run.run h =
      ((h.kernel.runOnSlots h.faults backends script).1,
        { h with kernel := (h.kernel.runOnSlots h.faults backends script).2 }) := by
  let ran := h.kernel.runOnSlots h.faults backends script
  change (MonadExcept.ofExcept ran.1 : HostAction α).run.run { h with kernel := ran.2 } = _
  cases ran.1 with
  | error cause => rfl
  | ok a => rfl

lemma keeps_runOnSlots (backends : MapId) (script : PoolScript α) :
    Keeps (runOnSlots backends script) (Host.Exposes · files attachedTo) := by
  intro h hkept
  rw [run_runOnSlots]
  exact hkept.withKernel rfl

lemma keeps_runPool (backends maglev : MapId) (script : PoolScript α) :
    Keeps (runPool backends maglev script) (Host.Exposes · files attachedTo) := by
  intro h hkept
  rw [run_runPool]
  exact hkept.withKernel rfl

end HostAction

lemma Kernel.State.attachedTo_writeSettings {k k' : Kernel.State} {faults : Kernel.Faults}
    {id : MapId} {s : Settings} (hwritten : k.writeSettings faults id s = .ok k') :
    k'.attachedTo = k.attachedTo := by
  rw [writeSettings] at hwritten
  split at hwritten
  · exact absurd hwritten (by simp)
  · rw [← Except.ok.inj hwritten]
    rfl

lemma Kernel.State.attachedTo_removeRate {k k' : Kernel.State} {faults : Kernel.Faults}
    {id : MapId} {source : Address} (hremoved : k.removeRate faults id source = .ok k') :
    k'.attachedTo = k.attachedTo := by
  simp only [removeRate] at hremoved
  split at hremoved
  · exact absurd hremoved (by simp)
  · rw [← Except.ok.inj hremoved]
    rfl

namespace Service

/-! ### Loading and filling -/

lemma keeps_createMaps (definitions : List MapDefinition) :
    Keeps (createMaps definitions) (Host.Exposes · files attachedTo) := by
  induction definitions with
  | nil => exact keeps_pure []
  | cons d ds ih =>
    refine keeps_get_bind fun h hkept => ?_
    split
    · exact hkept
    · exact (ih.bind fun _ => keeps_pure _) _ (hkept.withKernel rfl)

lemma keeps_load (object : Object) (config : Config) :
    Keeps (load object config) (Host.Exposes · files attachedTo) :=
  ((keeps_createMaps _).during _).bind fun _ => keeps_pure _

lemma keeps_findMap (loaded : Loaded) (name : String) {I : Host → Prop} :
    Keeps (findMap loaded name) I := by
  rw [findMap]
  split
  · exact keeps_pure _
  · exact keeps_throw _

lemma keeps_takeMap (loaded : Loaded) (name : String) (role : Kernel.Role) {I : Host → Prop} :
    Keeps (takeMap loaded name role) I := by
  refine (keeps_findMap loaded name).bind fun id => keeps_get_bind fun h hkept => ?_
  split
  · exact hkept
  · split
    · exact hkept
    · exact hkept

lemma keeps_writeSettings (loaded : Loaded) (config : Config) :
    Keeps (writeSettings loaded config) (Host.Exposes · files attachedTo) := by
  refine (keeps_takeMap loaded _ _).bind fun id => keeps_get_bind fun h hkept => ?_
  split
  · next hwritten => exact hkept.withKernel (Kernel.State.attachedTo_writeSettings hwritten)
  · exact hkept

lemma keeps_fillPool (loaded : Loaded) (config : Config) (pool : Pool) :
    Keeps (fillPool loaded config pool) (Host.Exposes · files attachedTo) := by
  refine (keeps_forIn (fun _ _ => ?_) _ _).bind fun _ => ?_
  · exact (keeps_tell _).bind fun _ => keeps_pure _
  · split
    · exact keeps_throw _
    · exact (keeps_takeMap loaded _ _).bind fun _ => (keeps_runOnSlots _ _).bind fun _ =>
        (keeps_takeMap loaded _ _).bind fun _ => (keeps_runPool _ _ _).bind fun _ => keeps_tell _

/-- Whatever becomes of the preparations, they leave files and program alone. -/
lemma keeps_prepare (object : Option Object) (config : Config) :
    Keeps (prepare object config) (Host.Exposes · files attachedTo) := by
  cases object with
  | none => exact keeps_throw _
  | some object =>
    exact (keeps_load object config).bind fun loaded => (keeps_writeSettings loaded config).bind
      fun _ => (keeps_forM fun pool _ => keeps_fillPool loaded config pool).bind fun _ =>
        keeps_pure loaded

/-! ### Serving -/

lemma keeps_readCounters (stats : MapId) (counters : List Counter) {I : Host → Prop} :
    Keeps (readCounters stats counters) I := by
  induction counters with
  | nil => exact keeps_pure []
  | cons c cs ih =>
    refine keeps_get_bind fun h hkept => ?_
    split
    · exact (ih.bind fun _ => keeps_pure _) _ hkept
    · exact hkept

lemma keeps_snapshot (stats : MapId) {I : Host → Prop} : Keeps (snapshot stats) I :=
  (keeps_readCounters stats _).bind fun _ => keeps_get_bind fun _ hkept => keeps_pure _ _ hkept

lemma keeps_report (s : Session) : Keeps (report s) (Host.Exposes · files attachedTo) := by
  refine (keeps_snapshot _).attempt.bind fun result => ?_
  cases result with
  | ok current => exact (keeps_tell _).bind fun _ => keeps_pure _
  | error cause => exact (keeps_tell _).bind fun _ => keeps_pure _

lemma keeps_removeRates (rate : MapId) (sources : List Address) :
    Keeps (removeRates rate sources) (Host.Exposes · files attachedTo) := by
  induction sources with
  | nil => exact keeps_pure 0
  | cons source sources ih =>
    refine keeps_get_bind fun h hkept => ?_
    split
    · next hremoved =>
      exact (ih.bind fun _ => keeps_pure _) _
        (hkept.withKernel (Kernel.State.attachedTo_removeRate hremoved))
    · exact ((keeps_tell _).bind fun _ => ih) _ hkept

lemma keeps_sweep (s : Session) : Keeps (sweep s) (Host.Exposes · files attachedTo) := by
  refine keeps_get_bind_of_keeps fun h => ?_
  dsimp only
  split
  · exact (keeps_tell _).bind fun _ => (keeps_removeRates _ _).bind fun _ => keeps_tell _
  · exact (keeps_removeRates _ _).bind fun _ => keeps_tell _

lemma keeps_checkAll (targets : List (ℕ × Endpoint)) :
    Keeps (checkAll targets) (Host.Exposes · files attachedTo) := by
  refine keeps_get_bind_of_keeps fun h => ?_
  refine (keeps_forIn (fun target _ => ?_) _ _).bind fun _ => keeps_pure _
  split
  split
  · exact (keeps_tell _).bind fun _ => keeps_pure _
  · exact keeps_pure _

lemma keeps_checkPool (policy : HealthPolicy) (w : WatchedPool) :
    Keeps (checkPool policy w) (Host.Exposes · files attachedTo) := by
  refine (keeps_runPool _ _ _).attempt.bind fun result => ?_
  cases result with
  | error cause => exact (keeps_tell _).bind fun _ => keeps_pure _
  | ok table =>
    refine (keeps_pure ()).bind fun _ => ?_
    dsimp only
    split
    · exact keeps_pure _
    · refine (keeps_checkAll _).bind fun _ => (keeps_forM fun _ _ => keeps_tell _).bind fun _ => ?_
      split
      · refine (keeps_runPool _ _ _).attempt.bind fun result => ?_
        cases result with
        | ok _ => exact (keeps_tell _).bind fun _ => keeps_pure _
        | error cause => exact (keeps_tell _).bind fun _ => keeps_pure _
      · exact keeps_pure _

lemma keeps_runDue (s : Session) : Keeps (runDue s) (Host.Exposes · files attachedTo) := by
  refine keeps_get_bind_of_keeps fun h => ?_
  -- the timers one after the other, the last one first
  extract_lets now s finish check sweepAndCheck
  have hfinish : ∀ u s', Keeps (finish u s') (Host.Exposes · files attachedTo) :=
    fun _ s' => keeps_pure s'
  have hcheck : ∀ u s', Keeps (check u s') (Host.Exposes · files attachedTo) := by
    intro u s'
    dsimp only [check]
    split
    · split
      · exact (keeps_mapM (keeps_checkPool _) _).bind fun _ => hfinish () _
      · exact hfinish () s'
    · exact hfinish () s'
  have hsweep : ∀ u s', Keeps (sweepAndCheck u s') (Host.Exposes · files attachedTo) := by
    intro u s'
    dsimp only [sweepAndCheck]
    split
    · split
      · exact (keeps_sweep _).bind fun u => hcheck u _
      · exact hcheck () s'
    · exact hcheck () s'
  split
  · exact (keeps_report _).bind fun s' => hsweep () s'
  · exact hsweep () s

lemma keeps_beginServing (loaded : Loaded) (o : Options) :
    Keeps (beginServing loaded o) (Host.Exposes · files attachedTo) := by
  refine (keeps_takeMap loaded _ _).bind fun stats => (keeps_takeMap loaded _ _).bind fun rate =>
    (keeps_mapM (fun pool => ?_) _).bind fun pools => (keeps_snapshot _).bind fun previous =>
      keeps_get_bind fun h hkept => keeps_runDue _ _ hkept
  exact (keeps_findMap loaded _).bind fun _ => (keeps_findMap loaded _).bind fun _ =>
    (keeps_takeMap loaded _ _).bind fun _ => (keeps_takeMap loaded _ _).bind fun _ => keeps_pure _

lemma keeps_advance (ms : ℕ) (s : Session) :
    Keeps (advance ms s) (Host.Exposes · files attachedTo) := by
  refine (keeps_modify fun h hkept => ?_).bind fun _ => keeps_runDue s
  exact ⟨hkept.files_eq, hkept.attachedTo_eq⟩

end Service

end VoiceSteering
