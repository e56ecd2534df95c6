/-
# Filling the pools of a run

A run lays the pools out again before it writes their maps.  With a configuration that has been
accepted this cannot go wrong: whatever else keeps a run from being prepared, it is never an entry
that cannot be placed.
-/
import VoiceSteering.Proofs.Config.Accepted
import VoiceSteering.Proofs.Config.Placement
import VoiceSteering.Proofs.Service.Untouched

namespace VoiceSteering

open Kernel (Loaded MapId Object)

/-! ### Actions that do not reject a configuration -/

namespace HostAction

variable {α β : Type}

/-- An action never fails because of the configuration. -/
def NeverRejects (action : HostAction α) : Prop :=
  ∀ (h : Host) (err : Config.Invalid), (action.run.run h).1 ≠ .error (.invalidConfig err)

lemma neverRejects_pure (a : α) : NeverRejects (pure a) := by
  intro h err hrun
  exact absurd (show Except.ok a = .error _ from hrun) (by simp)

lemma neverRejects_throw {e : Failure} (he : ∀ err, e ≠ .invalidConfig err) :
    NeverRejects (throw e : HostAction α) :=
  fun _ err hrun => he err (Except.error.inj hrun)

lemma neverRejects_modify (f : Host → Host) : NeverRejects (modify f) := by
  intro h err hrun
  exact absurd (show Except.ok () = .error _ from hrun) (by simp)

lemma neverRejects_tell (e : Event) : NeverRejects (tell e) := neverRejects_modify _

lemma neverRejects_get_bind {next : Host → HostAction α} (hnext : ∀ h, NeverRejects (next h)) :
    NeverRejects (get >>= next) := fun h err => hnext h h err

lemma NeverRejects.bind {action : HostAction α} {next : α → HostAction β}
    (haction : NeverRejects action) (hnext : ∀ a, NeverRejects (next a)) :
    NeverRejects (action >>= next) := by
  intro h err
  rw [run_bind]
  cases hresult : (action.run.run h).1 with
  | ok a => exact hnext a _ err
  | error e =>
    intro hrun
    exact haction h err (hresult.trans (congrArg Except.error (Except.error.inj hrun)))

/-- A failure during a stage is not one of the configuration. -/
lemma neverRejects_during (stage : Stage) (action : HostAction α) :
    NeverRejects (during stage action) := by
  intro h err
  rw [during, run_tryCatch]
  cases (action.run.run h).1 with
  | ok a => simp
  | error e => exact neverRejects_throw (by simp) _ err

lemma neverRejects_forM {ι : Type} {f : ι → HostAction Unit} (hf : ∀ x, NeverRejects (f x))
    (xs : List ι) : NeverRejects (xs.forM f) := by
  induction xs with
  | nil => exact neverRejects_pure ()
  | cons x xs ih => exact (hf x).bind fun _ => ih

lemma neverRejects_forIn {ι σ : Type} {f : ι → σ → HostAction (ForInStep σ)}
    (hf : ∀ x s, NeverRejects (f x s)) (xs : List ι) (s : σ) : NeverRejects (forIn xs s f) := by
  induction xs generalizing s with
  | nil => exact neverRejects_pure s
  | cons x xs ih =>
    rw [List.forIn_cons]
    refine (hf x s).bind fun step => ?_
    cases step with
    | done s' => exact neverRejects_pure s'
    | yield s' => exact ih s'

end HostAction

/-! ### Writing the maps -/

namespace PoolScript

variable {α : Type}

/-- A script that fails only when an access is refused. -/
inductive Willing : PoolScript α → Prop
  | done (a : α) : Willing (.done a)
  | readSlot (slot : Fin 16) {next : Backend → PoolScript α} (hnext : ∀ b, Willing (next b)) :
      Willing (.readSlot slot next)
  | writeSlot (slot : Fin 16) (b : Backend) {next : PoolScript α} (hnext : Willing next) :
      Willing (.writeSlot slot b next)
  | writeEntry (index : Fin 4099) (entry : UInt32) {next : PoolScript α} (hnext : Willing next) :
      Willing (.writeEntry index entry next)

lemma willing_writeSlots (table : SlotTable) (slots : List (Fin 16)) :
    Willing (writeSlots table slots) := by
  induction slots with
  | nil => exact .done ()
  | cons slot slots ih => exact .writeSlot slot _ ih

lemma willing_writeEntries (t : Maglev.Table) (indices : List (Fin 4099)) :
    Willing (writeEntries t indices) := by
  induction indices with
  | nil => exact .done ()
  | cons index indices ih => exact .writeEntry index _ ih

/-- A refused access is a failure during that access. -/
lemma Willing.run_ne {script : PoolScript α} (hscript : Willing script)
    (refusal : PoolAccess → Option Failure) (maps : PoolMaps) (err : Config.Invalid) :
    (script.run refusal maps).1 ≠ .error (.invalidConfig err) := by
  induction hscript generalizing maps with
  | done a => simp [run]
  | readSlot slot _ ih =>
    simp only [run]
    cases refusal (.readSlot slot) with
    | some e => simp
    | none => exact ih _ maps
  | writeSlot slot b _ ih =>
    simp only [run]
    cases refusal (.writeSlot slot) with
    | some e => simp
    | none => exact ih _
  | writeEntry index entry _ ih =>
    simp only [run]
    cases refusal (.writeEntry index) with
    | some e => simp
    | none => exact ih _

end PoolScript

namespace Service

open HostAction

variable {α : Type}

lemma neverRejects_findMap (loaded : Loaded) (name : String) :
    NeverRejects (findMap loaded name) := by
  rw [findMap]
  split
  · exact neverRejects_pure _
  · exact neverRejects_throw (by simp)

lemma neverRejects_takeMap (loaded : Loaded) (name : String) (role : Kernel.Role) :
    NeverRejects (takeMap loaded name role) := by
  refine (neverRejects_findMap loaded name).bind fun id => neverRejects_get_bind fun h => ?_
  split
  · exact neverRejects_throw (by simp)
  · split
    · exact neverRejects_pure _
    · exact neverRejects_throw (by simp)

lemma neverRejects_load (object : Object) (config : Config) :
    NeverRejects (load object config) :=
  (neverRejects_during _ _).bind fun _ => neverRejects_pure _

lemma neverRejects_writeSettings (loaded : Loaded) (config : Config) :
    NeverRejects (writeSettings loaded config) := by
  refine (neverRejects_takeMap loaded _ _).bind fun id => neverRejects_get_bind fun h => ?_
  split
  · exact neverRejects_modify _
  · exact neverRejects_throw (by simp)

lemma neverRejects_runOnSlots (backends : MapId) {script : PoolScript α}
    (hscript : script.Willing) : NeverRejects (runOnSlots backends script) := by
  intro h err
  rw [run_runOnSlots]
  exact hscript.run_ne _ _ err

lemma neverRejects_runPool (backends maglev : MapId) {script : PoolScript α}
    (hscript : script.Willing) : NeverRejects (runPool backends maglev script) := by
  intro h err
  rw [run_runPool]
  exact hscript.run_ne _ _ err

/-- A pool that can be laid out is filled or fails for another reason. -/
lemma neverRejects_fillPool (loaded : Loaded) {config : Config} {pool : Pool} {table : SlotTable}
    (hok : config.slotTable pool = .ok table) : NeverRejects (fillPool loaded config pool) := by
  have hlayout : (config.layOut pool).1 = .ok table := hok
  rw [fillPool]
  dsimp only
  rw [hlayout]
  refine (neverRejects_forIn (fun w _ => ?_) _ _).bind fun _ => ?_
  · exact (neverRejects_tell _).bind fun _ => neverRejects_pure _
  · have hslots := PoolScript.willing_writeSlots table (List.finRange 16)
    have hmaglev := PoolScript.willing_writeEntries (Maglev.buildTable table.toList)
      (List.finRange 4099)
    exact (neverRejects_takeMap loaded _ _).bind fun backends =>
      (neverRejects_runOnSlots backends hslots).bind fun _ =>
        (neverRejects_takeMap loaded _ _).bind fun maglev =>
          (neverRejects_runPool backends maglev hmaglev).bind fun _ => neverRejects_tell _

lemma neverRejects_prepare (object : Option Object) {config : Config}
    (haccepted : config.isAccepted = true) : NeverRejects (prepare object config) := by
  cases object with
  | none => exact neverRejects_throw (by simp)
  | some object =>
    refine (neverRejects_load object config).bind fun loaded =>
      (neverRejects_writeSettings loaded config).bind fun _ =>
        (neverRejects_forM (fun pool => ?_) _).bind fun _ => neverRejects_pure loaded
    obtain ⟨table, hok⟩ := Config.exists_slotTable haccepted pool
    exact neverRejects_fillPool loaded hok

end Service

/-! ### The configured layout -/

namespace Config

/-- **A layout places exactly the configured backends.**  It succeeds if all entries have addresses
and ask for different slots of the table, which then holds their backends and is empty elsewhere; it
fails with the fault of the first entry that has one.  No run fails because of the layout of an
accepted configuration. -/
theorem layout_as_configured (c : Config) (pool : Pool) :
    ((∃ table, c.slotTable pool = .ok table) ↔ Placeable (c.placements pool)) ∧
      (∀ table, c.slotTable pool = .ok table →
        Holds table (c.placements pool) ∧
          (∀ b ∈ table.toList, b = Backend.empty ∨ b.isUsable = true) ∧
          table.usableCount = (c.entries pool).length) ∧
      (∀ err, c.slotTable pool = .error err ↔ FirstFault pool (c.placements pool) err) ∧
      (c.isAccepted = true → ∀ object, HostAction.NeverRejects (Service.prepare object c)) := by
  rw [slotTable_eq_placeAll]
  refine ⟨exists_placeAll_eq_ok_iff, fun table hok => ?_, fun err => placeAll_eq_error_iff,
    fun haccepted object => Service.neverRejects_prepare object haccepted⟩
  have hplaceable : Placeable (c.placements pool) := exists_placeAll_eq_ok_iff.1 ⟨table, hok⟩
  have hholds := holds_of_placeAll hok
  refine ⟨hholds, hholds.empty_or_usable hplaceable, ?_⟩
  rw [hholds.usableCount_eq, length_placements]

/-- Three backends, the second of which has the slot of its position. -/
def mixedSlots : Config where
  signalingBackends := [
    { slot := some 15, address := 0x0a000001, port := 5060 },
    { address := 0x0a000002, port := 5060, mac := some Mac.zero },
    { slot := some 0, address := 0x0a000003, port := 5060 }]

/-- Two backends, the second of which has the slot of its position, but the first one has it too. -/
def crowdedSlots : Config where
  signalingBackends := [
    { slot := some 1, address := 0x0a000001, port := 5060 },
    { address := 0x0a000002, port := 5060 }]

theorem mixedSlots_crowdedSlots_laid_out :
    (∃ table, mixedSlots.slotTable .signaling = .ok table ∧ table.usableCount = 3) ∧
      (∀ object, HostAction.NeverRejects (Service.prepare object mixedSlots)) ∧
      crowdedSlots.slotTable .signaling = .error (.slotTaken .signaling 1) := by
  obtain ⟨hok, hholds, -, haccepted⟩ := layout_as_configured mixedSlots .signaling
  obtain ⟨-, -, herror, -⟩ := layout_as_configured crowdedSlots .signaling
  refine ⟨?_, haccepted (by decide), (herror _).2 ⟨1, by decide, by decide⟩⟩
  obtain ⟨table, htable⟩ := hok.2 (by decide)
  exact ⟨table, htable, (hholds table htable).2.2⟩

end Config

end VoiceSteering
