/-
# Control-plane operations one after another

The control plane writes the maps of a pool element by element: it loads a configuration, edits a
slot, or makes a health pass, which writes only if a backend changed its state.  Here each of them
is carried out by the scripts that do the single writes, and compared with what the balancer in
memory does at once.

Slots and look-up table are written by different parts of these operations.  All the same, after
every operation the look-up table of each pool is the one built from its slots.
-/
import Mathlib.Tactic.Common
import VoiceSteering.Balancer
import VoiceSteering.Proofs.Config.Accepted
import VoiceSteering.Proofs.Pool.Script

namespace VoiceSteering

open VoiceSteering.Maglev (buildTable)

/-- An operation of the control plane. -/
inductive Operation where
  /-- Loads a configuration. -/
  | load (c : Config)
  /-- Fills a slot, or empties it when no backend is given. -/
  | edit (pool : Pool) (slot : ℕ) (backend : Option Backend)
  /-- Makes a health pass over a pool, with the histories it starts from and the results of its
  checks. -/
  | healthPass (pool : Pool) (policy : HealthPolicy) (histories : PoolHealth)
    (results : List (ℕ × Bool))

/-- Runs a script alone on the maps of a pool. -/
def Memory.onPool {α : Type} (m : Memory) (pool : Pool) (script : PoolScript α) :
    Except Failure α × Memory :=
  let (result, maps) := script.run PoolScript.granted ⟨m.slots.get pool, m.maglev.get pool⟩
  (result, { m with
    slots := m.slots.set pool maps.slots
    maglev := m.maglev.set pool maps.maglev })

/-- Lays out the backends of a pool and writes both of its maps. -/
def Memory.fillPool (m : Memory) (c : Config) (pool : Pool) : Memory :=
  match c.slotTable pool with
  | .ok table => (m.onPool pool (PoolScript.replace table)).2
  | .error _ => m

namespace Balancer

/-- Loads a configuration; one that is not accepted is not loaded. -/
def performLoad (b : Balancer) (c : Config) : Balancer :=
  if c.isAccepted then
    { b with
      settings := c.settings
      memory := (b.memory.fillPool c .signaling).fillPool c .api }
  else b

/-- Updates a slot of a pool. -/
def performEdit (b : Balancer) (pool : Pool) (slot : ℕ) (backend : Option Backend) : Balancer :=
  { b with memory := (b.memory.onPool pool (PoolScript.update slot backend)).2 }

/-- Makes a health pass: lists the slots, brings the histories up to date, applies the results and
writes both maps if a backend changed its state. -/
def performHealthPass (b : Balancer) (pool : Pool) (policy : HealthPolicy)
    (histories : PoolHealth) (results : List (ℕ × Bool)) : Balancer :=
  match b.memory.onPool pool PoolScript.list with
  | (.error _, _) => b
  | (.ok table, memory) =>
    let applied := PoolHealth.apply policy (PoolHealth.targets histories table).1 table results
    { b with
      health := b.health.set pool applied.health
      memory :=
        if applied.changed then (memory.onPool pool (PoolScript.replace applied.table)).2
        else memory }

/-- Carries out an operation. -/
def perform (b : Balancer) : Operation → Balancer
  | .load c => b.performLoad c
  | .edit pool slot backend => b.performEdit pool slot backend
  | .healthPass pool policy histories results =>
    b.performHealthPass pool policy histories results

/-- Carries out operations one after another. -/
def performAll (b : Balancer) (ops : List Operation) : Balancer := ops.foldl perform b

end Balancer

/-! ### Scripts on the maps of a pool -/

lemma PerPool.set_get {α : Type} (v : PerPool α) (pool : Pool) : v.set pool (v.get pool) = v := by
  cases pool <;> rfl

lemma PerPool.set_set {α : Type} (v : PerPool α) (pool : Pool) (a b : α) :
    (v.set pool a).set pool b = v.set pool b := by
  cases pool <;> rfl

lemma Memory.onPool_list (m : Memory) (pool : Pool) :
    m.onPool pool PoolScript.list = (.ok (m.slots.get pool), m) := by
  rw [onPool, PoolScript.run_list]
  simp only [PerPool.set_get]

lemma Memory.onPool_replace (m : Memory) (pool : Pool) (table : SlotTable) :
    m.onPool pool (PoolScript.replace table) = (.ok (), m.replacePool pool table) := by
  rw [onPool, PoolScript.run_replace, replacePool]

lemma Memory.onPool_update_of_ok {m : Memory} {pool : Pool} {slot : ℕ} {backend : Option Backend}
    {table : SlotTable} (hedit : (m.slots.get pool).withSlot slot backend = .ok table) :
    (m.onPool pool (PoolScript.update slot backend)).2 = m.replacePool pool table := by
  rw [onPool, PoolScript.run_update_of_ok hedit, replacePool]

lemma Memory.onPool_update_of_error {m : Memory} {pool : Pool} {slot : ℕ}
    {backend : Option Backend} {e : SlotError}
    (hedit : (m.slots.get pool).withSlot slot backend = .error e) :
    (m.onPool pool (PoolScript.update slot backend)).2 = m := by
  rw [onPool, PoolScript.run_update_of_error hedit]
  simp only [PerPool.set_get]

/-! ### Operations in one step -/

lemma Memory.fillPool_eq {c : Config} {pool : Pool} {table : SlotTable}
    (htable : c.slotTable pool = .ok table) (m : Memory) :
    m.fillPool c pool = m.replacePool pool table := by
  simp only [fillPool, htable, onPool_replace]

namespace Balancer

variable (b : Balancer)

theorem configure_eq {c : Config} (hc : c.isAccepted = true) :
    b.configure c = .ok (b.perform (.load c)) := by
  obtain ⟨signaling, hsignaling⟩ := Config.exists_slotTable hc .signaling
  obtain ⟨api, hapi⟩ := Config.exists_slotTable hc .api
  rw [perform, performLoad, if_pos hc, Memory.fillPool_eq hsignaling, Memory.fillPool_eq hapi]
  simp only [configure, hsignaling, hapi]
  rfl

/-- Loading a configuration fills the slots as they are laid out. -/
lemma slots_perform_load {c : Config} (hc : c.isAccepted = true) {pool : Pool}
    {table : SlotTable} (htable : c.slotTable pool = .ok table) :
    (b.perform (.load c)).memory.slots.get pool = table := by
  obtain ⟨signaling, hsignaling⟩ := Config.exists_slotTable hc .signaling
  obtain ⟨api, hapi⟩ := Config.exists_slotTable hc .api
  rw [perform, performLoad, if_pos hc, Memory.fillPool_eq hsignaling, Memory.fillPool_eq hapi]
  cases pool with
  | signaling => exact Except.ok.inj (hsignaling.symm.trans htable)
  | api => exact Except.ok.inj (hapi.symm.trans htable)

theorem perform_edit (pool : Pool) (slot : ℕ) (backend : Option Backend) :
    b.perform (.edit pool slot backend) = (b.editSlot pool slot backend).toOption.getD b := by
  rw [perform, performEdit, editSlot]
  cases hedit : (b.memory.slots.get pool).withSlot slot backend with
  | ok table =>
    rw [Memory.onPool_update_of_ok hedit]
    rfl
  | error e =>
    rw [Memory.onPool_update_of_error hedit]
    rfl

theorem perform_healthPass (pool : Pool) (policy : HealthPolicy) (histories : PoolHealth)
    (results : List (ℕ × Bool)) :
    b.perform (.healthPass pool policy histories results) =
      ((({ b with health := b.health.set pool histories }).targets pool).1.applyChecks
        pool policy results).1 := by
  rw [perform, performHealthPass, Memory.onPool_list]
  simp only [Memory.onPool_replace, targets, applyChecks, PerPool.get_set_self, PerPool.set_set]
  split
  · rfl
  · rfl

end Balancer

/-! ### The look-up tables stay current -/

/-- The look-up table of each pool is the one built from its slots. -/
def Memory.IsCurrent (m : Memory) : Prop :=
  ∀ pool, m.maglev.get pool = buildTable (m.slots.get pool).toList

lemma Memory.replacePool_get (m : Memory) (pool other : Pool) (table : SlotTable)
    (hother : m.maglev.get other = buildTable (m.slots.get other).toList ∨ other = pool) :
    (m.replacePool pool table).maglev.get other =
      buildTable ((m.replacePool pool table).slots.get other).toList := by
  simp only [replacePool]
  rcases eq_or_ne other pool with rfl | hne
  · rw [PerPool.get_set_self, PerPool.get_set_self]
  · rw [PerPool.get_set_ne _ _ hne, PerPool.get_set_ne _ _ hne]
    exact hother.resolve_right hne

lemma Memory.IsCurrent.replacePool {m : Memory} (hm : m.IsCurrent) (pool : Pool)
    (table : SlotTable) : (m.replacePool pool table).IsCurrent :=
  fun other => m.replacePool_get pool other table (.inl (hm other))

namespace Balancer

/-- Whatever the maps held before, loading an accepted configuration makes them current. -/
lemma isCurrent_load (b : Balancer) {c : Config} (hc : c.isAccepted = true) :
    (b.perform (.load c)).memory.IsCurrent := by
  obtain ⟨signaling, hsignaling⟩ := Config.exists_slotTable hc .signaling
  obtain ⟨api, hapi⟩ := Config.exists_slotTable hc .api
  rw [perform, performLoad, if_pos hc, Memory.fillPool_eq hsignaling, Memory.fillPool_eq hapi]
  intro pool
  -- the signaling pool is written first, so its table is current when the other one is written
  refine Memory.replacePool_get _ _ _ _ ?_
  cases pool with
  | signaling => exact .inl (Memory.replacePool_get _ _ _ _ (.inr rfl))
  | api => exact .inr rfl

/-- Every operation keeps the maps current. -/
lemma isCurrent_perform {b : Balancer} (hb : b.memory.IsCurrent) (op : Operation) :
    (b.perform op).memory.IsCurrent := by
  cases op with
  | load c =>
    by_cases hc : c.isAccepted = true
    · exact b.isCurrent_load hc
    · rw [perform, performLoad, if_neg hc]
      exact hb
  | edit pool slot backend =>
    rw [perform, performEdit]
    cases hedit : (b.memory.slots.get pool).withSlot slot backend with
    | ok table =>
      rw [Memory.onPool_update_of_ok hedit]
      exact hb.replacePool pool table
    | error e =>
      rw [Memory.onPool_update_of_error hedit]
      exact hb
  | healthPass pool policy histories results =>
    rw [perform, performHealthPass, Memory.onPool_list]
    simp only [Memory.onPool_replace]
    split
    · exact hb.replacePool pool _
    · exact hb

lemma isCurrent_performAll {b : Balancer} (hb : b.memory.IsCurrent) (ops : List Operation) :
    (b.performAll ops).memory.IsCurrent := by
  induction ops generalizing b with
  | nil => exact hb
  | cons op ops ih => exact ih (isCurrent_perform hb op)

end Balancer

end VoiceSteering
