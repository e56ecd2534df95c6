/-
# How an action ends

An action that fails has had effects all the same.  The contracts here say what holds of the host
afterwards however the action ended, with a result or with a failure.  They cover clean-up, which has
to leave the host in order in either case.
-/
import Mathlib.Tactic.Common
import VoiceSteering.Proofs.Host.Action

namespace VoiceSteering.HostAction

variable {α β : Type}

/-- On every host with a property, an action ends in one way or the other, and how it ended and the
host then have another property. -/
def Ends (action : HostAction α) (before : Host → Prop)
    (after : Except Failure α → Host → Prop) : Prop :=
  ∀ h, before h → after (action.run.run h).1 (action.run.run h).2

/-- One property after a result and another one after a failure. -/
structure EitherWay (succeeded : α → Host → Prop) (failed : Host → Prop)
    (ended : Except Failure α) (h : Host) : Prop where
  of_ok : ∀ a, ended = .ok a → succeeded a h
  of_error : ∀ e, ended = .error e → failed h

/-- However an action ends, it keeps a property of the host. -/
def Keeps (action : HostAction α) (I : Host → Prop) : Prop := Ends action I fun _ => I

lemma run_bind (action : HostAction α) (next : α → HostAction β) (h : Host) :
    (action >>= next).run.run h =
      match (action.run.run h).1 with
      | .ok a => (next a).run.run (action.run.run h).2
      | .error e => (.error e, (action.run.run h).2) := by
  rcases hrun : action.run.run h with ⟨result, h'⟩
  simp only [ExceptT.run_bind, StateT.run_bind, hrun]
  cases result with
  | ok a => rfl
  | error e => rfl

lemma run_tryCatch (action : HostAction α) (handler : Failure → HostAction α) (h : Host) :
    (tryCatch action handler).run.run h =
      match (action.run.run h).1 with
      | .ok a => (.ok a, (action.run.run h).2)
      | .error e => (handler e).run.run (action.run.run h).2 := by
  rcases hrun : action.run.run h with ⟨result, h'⟩
  simp only [ExceptT.run_tryCatch, StateT.run_bind, hrun]
  cases result with
  | ok a => rfl
  | error e => rfl

lemma run_get_bind (next : Host → HostAction α) (h : Host) :
    (get >>= next).run.run h = (next h).run.run h := rfl

section Ends

variable {P : Host → Prop} {Q : Except Failure α → Host → Prop}
  {R : Except Failure β → Host → Prop}

/-- What holds whatever the host is can be assumed at once. -/
lemma ends_and {p : Prop} {action : HostAction α} (h : p → Ends action P Q) :
    Ends action (fun h => p ∧ P h) Q :=
  fun host hbefore => h hbefore.1 host hbefore.2

/-- One action after another: a failure of the first one is the failure of both. -/
lemma Ends.bind {action : HostAction α} {next : α → HostAction β} (haction : Ends action P Q)
    (hfailed : ∀ e h, Q (.error e) h → R (.error e) h)
    (hnext : ∀ a, Ends (next a) (Q (.ok a)) R) : Ends (action >>= next) P R := by
  intro h hbefore
  have hbetween := haction h hbefore
  rw [run_bind]
  cases hresult : (action.run.run h).1 with
  | ok a =>
    rw [hresult] at hbetween
    exact hnext a _ hbetween
  | error e =>
    rw [hresult] at hbetween
    exact hfailed e _ hbetween

/-- Telling an event never fails. -/
lemma ends_tell_bind {e : Event} {next : Unit → HostAction β} (htold : ∀ h, P h → P (h.tell e))
    (hnext : Ends (next ()) P R) : Ends (tell e >>= next) P R :=
  fun h hbefore => hnext (h.tell e) (htold h hbefore)

/-- What comes after an attempt is told how the action ended. -/
lemma Ends.attempt_bind {action : HostAction α} {next : Except Failure α → HostAction β}
    (haction : Ends action P Q) (hnext : ∀ ended, Ends (next ended) (Q ended) R) :
    Ends (attempt action >>= next) P R := by
  intro h hbefore
  rw [run_bind, run_attempt]
  exact hnext _ _ (haction h hbefore)

section EitherWay

variable {succeeded : α → Host → Prop} {failed : Host → Prop}

lemma EitherWay.ok {a : α} {h : Host} (hok : succeeded a h) :
    EitherWay succeeded failed (.ok a) h :=
  ⟨fun _ heq => Except.ok.inj heq ▸ hok, fun _ heq => absurd heq (by simp)⟩

lemma EitherWay.error {e : Failure} {h : Host} (herror : failed h) :
    EitherWay succeeded failed (.error e) h :=
  ⟨fun _ heq => absurd heq (by simp), fun _ _ => herror⟩

/-- One action after another, each of which may fail. -/
lemma Ends.bind_either {action : HostAction α} {next : α → HostAction β}
    (haction : Ends action P (EitherWay succeeded failed))
    (hfailed : ∀ e h, failed h → R (.error e) h)
    (hnext : ∀ a, Ends (next a) (succeeded a) R) : Ends (action >>= next) P R :=
  haction.bind (fun e h hended => hfailed e h (hended.of_error e rfl))
    fun a h hended => hnext a h (hended.of_ok a rfl)

/-- An attempt never fails, but its action may have. -/
lemma Ends.attempt_bind_either {action : HostAction α} {next : Except Failure α → HostAction β}
    (haction : Ends action P (EitherWay succeeded failed))
    (hok : ∀ a, Ends (next (.ok a)) (succeeded a) R)
    (herror : ∀ e, Ends (next (.error e)) failed R) : Ends (attempt action >>= next) P R := by
  refine haction.attempt_bind fun ended => ?_
  cases ended with
  | ok a => exact fun h hended => hok a h (hended.of_ok a rfl)
  | error e => exact fun h hended => herror e h (hended.of_error e rfl)

end EitherWay

end Ends

variable {I : Host → Prop}

lemma keeps_pure (a : α) : Keeps (pure a) I := fun _ hkept => hkept

lemma keeps_throw (e : Failure) : Keeps (throw e : HostAction α) I := fun _ hkept => hkept

lemma keeps_ofExcept (result : Except Failure α) :
    Keeps (MonadExcept.ofExcept result : HostAction α) I := by
  cases result with
  | ok a => exact keeps_pure a
  | error e => exact keeps_throw e

lemma keeps_modify {f : Host → Host} (hf : ∀ h, I h → I (f h)) : Keeps (modify f) I := hf

lemma Keeps.bind {action : HostAction α} {next : α → HostAction β} (haction : Keeps action I)
    (hnext : ∀ a, Keeps (next a) I) : Keeps (action >>= next) I :=
  Ends.bind haction (fun _ _ hkept => hkept) hnext

/-- What comes after reading the host starts from the host that was read. -/
lemma keeps_get_bind {next : Host → HostAction α}
    (hnext : ∀ h, I h → I ((next h).run.run h).2) : Keeps (get >>= next) I := hnext

lemma keeps_get_bind_of_keeps {next : Host → HostAction α} (hnext : ∀ h, Keeps (next h) I) :
    Keeps (get >>= next) I :=
  keeps_get_bind fun h hkept => hnext h h hkept

lemma Keeps.tryCatch {action : HostAction α} {handler : Failure → HostAction α}
    (haction : Keeps action I) (hhandler : ∀ e, Keeps (handler e) I) :
    Keeps (tryCatch action handler) I := by
  intro h hkept
  have hbetween := haction h hkept
  rw [run_tryCatch]
  cases (action.run.run h).1 with
  | ok a => exact hbetween
  | error e => exact hhandler e _ hbetween

lemma Keeps.during {action : HostAction α} (haction : Keeps action I) (stage : Stage) :
    Keeps (during stage action) I :=
  haction.tryCatch fun _ => keeps_throw _

lemma Keeps.attempt {action : HostAction α} (haction : Keeps action I) :
    Keeps (attempt action) I := by
  intro h hkept
  rw [run_attempt]
  exact haction h hkept

section Lists

variable {ι σ : Type}

lemma keeps_forM {f : ι → HostAction Unit} {xs : List ι} (hf : ∀ x ∈ xs, Keeps (f x) I) :
    Keeps (xs.forM f) I := by
  induction xs with
  | nil => exact keeps_pure ()
  | cons x xs ih =>
    exact (hf x List.mem_cons_self).bind fun _ => ih fun y hy => hf y (List.mem_cons_of_mem x hy)

lemma keeps_mapM {f : ι → HostAction α} (hf : ∀ x, Keeps (f x) I) (xs : List ι) :
    Keeps (xs.mapM f) I := by
  induction xs with
  | nil => exact keeps_pure []
  | cons x xs ih =>
    rw [List.mapM_cons]
    exact (hf x).bind fun _ => ih.bind fun _ => keeps_pure _

lemma keeps_forIn {f : ι → σ → HostAction (ForInStep σ)} (hf : ∀ x s, Keeps (f x s) I)
    (xs : List ι) (s : σ) : Keeps (forIn xs s f) I := by
  induction xs generalizing s with
  | nil => exact keeps_pure s
  | cons x xs ih =>
    rw [List.forIn_cons]
    refine (hf x s).bind fun step => ?_
    cases step with
    | done s' => exact keeps_pure s'
    | yield s' => exact ih s'

end Lists

end VoiceSteering.HostAction
