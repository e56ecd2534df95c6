/-
# Clean-up

A run can fail at any of its steps.  Before the first pin it has touched no file.  From then on it
ends by removing all pins, after a failed set-up as well as after serving, and after serving it first
detaches the packet program.  So whatever a run has found and however it ends, it leaves no pin and
no other change of the files than the directory it made for them.
-/
import Mathlib.Tactic.Common
import VoiceSteering.Proofs.Service.Pins

namespace VoiceSteering.Service

open Kernel (Faults Loaded)
open HostAction

/-- The packet program is not attached, if the detaching call works. -/
def Detached (attachedTo : Option String) (faults : Faults) : Prop :=
  faults.error? .detach "" none = none → attachedTo = none

/-- All pins are removed, and the files are otherwise as when their directory had been made. -/
structure CleanedUp (pinDir : String) (made : FileTree) (P : Option String → Faults → Prop)
    (h : Host) : Prop where
  pinning : Pinning pinDir made P h
  unpinned : Unpinned pinDir h.files

/-- What has been loaded has its packet program, and the files are tidy. -/
structure Ready (loaded : Loaded) (pinDir : String) (made : FileTree) (h : Host) : Prop where
  found : findProgram loaded = pure ()
  tidy : Tidy pinDir made h.files

variable {pinDir : String} {made files : FileTree} {P : Option String → Faults → Prop}
  {loaded : Loaded} {o : Options}

/-- An action that leaves the files alone leaves them tidy. -/
lemma keeps_ready {α : Type} {action : HostAction α}
    (haction : ∀ files, Keeps action (fun h => h.files = files)) :
    Keeps action (Ready loaded pinDir made) := by
  intro h hready
  have hfiles := haction h.files h rfl
  exact ⟨hready.found, hfiles ▸ hready.tidy⟩

/-! ### The packet program -/

lemma findProgram_cases (loaded : Loaded) :
    findProgram loaded = pure () ∨ ∃ e, findProgram loaded = throw e := by
  rw [findProgram]
  split
  · split
    · exact .inr ⟨_, rfl⟩
    · split
      · exact .inl rfl
      · exact .inr ⟨_, rfl⟩
  · exact .inr ⟨_, rfl⟩

/-- What is attached has a packet program; if attaching fails nothing is attached. -/
lemma ends_attach (iface : String) (mode : AttachMode) :
    Ends (attach loaded iface mode) (Pinning pinDir made P)
      (EitherWay (fun _ => Ready loaded pinDir made) (Pinning pinDir made P)) := by
  intro h hpinning
  have hfailed : ∀ {e : Failure} {h' : Host}, h'.files = h.files →
      h'.kernel.attachedTo = h.kernel.attachedTo → h'.faults = h.faults →
      EitherWay (fun _ => Ready loaded pinDir made) (Pinning pinDir made P)
        (.error e : Except Failure Unit) h' := by
    intro e h' hfiles hattached hfaults
    refine .error ⟨hfiles ▸ hpinning.tidy, ?_⟩
    rw [hattached, hfaults]
    exact hpinning.kept
  rw [attach]
  rcases findProgram_cases loaded with hfound | ⟨e, hmissing⟩
  · have hready : Ready loaded pinDir made h := ⟨hfound, hpinning.tidy⟩
    rw [hfound, pure_bind, run_get_bind]
    cases h.faults.error? .programLoad "" none with
    | some errno => exact hfailed rfl rfl rfl
    | none =>
      by_cases hiface : iface ∉ h.kernel.interfaces
      · rw [if_pos hiface]
        exact hfailed rfl rfl rfl
      · rw [if_neg hiface]
        cases h.faults.error? .linkCreate "" none with
        | some errno => exact hfailed rfl rfl rfl
        | none => exact .ok ⟨hready.found, hready.tidy⟩
  · rw [hmissing]
    exact hfailed rfl rfl rfl

/-- Detaching what has been attached works unless the call fails. -/
lemma ends_detach (iface : String) :
    Ends (detach loaded iface) (Ready loaded pinDir made)
      fun _ => Pinning pinDir made Detached := by
  intro h hready
  rw [detach, hready.found, pure_bind, run_get_bind]
  cases hfault : h.faults.error? .detach "" none with
  | some errno =>
    exact ⟨hready.tidy, fun hworks => absurd (hfault.symm.trans hworks) (by simp)⟩
  | none => exact ⟨hready.tidy, fun _ => rfl⟩

/-! ### Taking down -/

/-- Removing all pins is the whole clean-up, whatever comes after it. -/
lemma ends_unpinAll_bind {α : Type} {next : Unit → HostAction α}
    {R : Except Failure α → Host → Prop}
    (hnext : Ends (next ()) (CleanedUp pinDir made P) R) :
    Ends (unpinAll pinDir >>= next) (Pinning pinDir made P) R := by
  refine (ends_unpinAll pinDir).bind ?_ fun _ => ?_
  · rintro e h ⟨hended, -⟩
    exact absurd hended (by simp)
  · rintro h ⟨-, hpinning, hunpinned⟩
    exact hnext h ⟨hpinning, hunpinned⟩

/-- However serving and detaching have ended, nothing is left of a run that is taken down. -/
lemma ends_takeDown (served : Except Failure Unit) :
    Ends (takeDown loaded o served) (Ready loaded o.pinDir made)
      fun _ => CleanedUp o.pinDir made Detached := by
  refine ends_tell_bind (fun _ hready => ⟨hready.found, hready.tidy⟩) ?_
  refine (ends_detach o.iface).attempt_bind fun detached => ends_unpinAll_bind ?_
  exact (keeps_ofExcept served).bind fun _ => keeps_ofExcept detached

/-! ### Setting up and serving -/

section Run

variable {object : Option Kernel.Object} {start : Host} {result : Except FileError Unit}

/-- A run that has been set up can be taken down; one that has not been is cleaned up, and what is
attached has not changed. -/
lemma ends_setUp (hprepared : ((prepare object o.config).run.run start).1 = .ok loaded)
    (hmade : start.files.makeDirectories (Path.parentOfJoin o.pinDir) = (made, result))
    (htidy : Tidy o.pinDir made made) :
    Ends (setUp object o) (· = start)
      (EitherWay (fun loaded => Ready loaded o.pinDir made)
        (CleanedUp o.pinDir made fun attachedTo _ => attachedTo = start.kernel.attachedTo)) := by
  have hprepare : Ends (prepare object o.config) (· = start)
      (EitherWay (fun _ h => h.files = start.files ∧
          h.kernel.attachedTo = start.kernel.attachedTo)
        fun _ => False) := by
    rintro h rfl
    obtain ⟨hfiles, hattached⟩ := keeps_prepare object o.config h ⟨rfl, rfl⟩
    rw [hprepared]
    exact .ok ⟨hfiles, hattached⟩
  refine hprepare.bind_either (fun _ _ hfalse => hfalse.elim) fun loaded' => ?_
  have hpinned := ends_pinAll (P := fun attachedTo _ => attachedTo = start.kernel.attachedTo)
    loaded' hmade htidy
  have hattached : Ends (do pinAll loaded' o.pinDir; attach loaded' o.iface o.mode)
      (fun h => h.files = start.files ∧ h.kernel.attachedTo = start.kernel.attachedTo)
      (EitherWay (fun _ => Ready loaded' o.pinDir made)
        (Pinning o.pinDir made fun attachedTo _ => attachedTo = start.kernel.attachedTo)) :=
    hpinned.bind (fun _ _ hpinning => .error hpinning) fun _ => ends_attach o.iface o.mode
  -- whether pinning or attaching has failed, the same is known of the host
  refine hattached.attempt_bind_either (fun _ => ?_) fun cause => ?_
  · refine ends_tell_bind (fun _ hready => ⟨hready.found, hready.tidy⟩) ?_
    exact fun _ hready => .ok hready
  · refine ends_unpinAll_bind ?_
    exact fun _ hcleaned => .error hcleaned

/-- A run that has been set up is cleaned up in the end, whatever happens while it serves. -/
lemma ends_run {meanwhile : Session → HostAction Session}
    (hmeanwhile : ∀ s files, Keeps (meanwhile s) (fun h => h.files = files))
    (hready : Ends (setUp object o) (· = start)
      (EitherWay (fun loaded => Ready loaded o.pinDir made) fun _ => False)) :
    Ends (run object o meanwhile) (· = start) fun _ => CleanedUp o.pinDir made Detached := by
  have hstarted : Ends (Service.start object o) (· = start)
      (EitherWay (fun running h => running.options = o ∧ Ready running.loaded o.pinDir made h)
        (CleanedUp o.pinDir made Detached)) := by
    refine hready.bind_either (fun _ _ hfalse => hfalse.elim) fun loaded' => ?_
    have hserving : Keeps (beginServing loaded' o) (Ready loaded' o.pinDir made) :=
      keeps_ready fun files h hfiles => (keeps_beginServing loaded' o h ⟨hfiles, rfl⟩).files_eq
    refine Ends.attempt_bind hserving fun ended => ?_
    cases ended with
    | ok session => exact fun _ hready => .ok ⟨rfl, hready⟩
    | error cause =>
      refine (ends_takeDown (.error cause)).bind (fun _ _ hcleaned => .error hcleaned) fun _ => ?_
      exact fun _ hcleaned => .error hcleaned
  refine hstarted.bind_either (fun _ _ hcleaned => hcleaned)
    fun running => ends_and fun hoptions => ?_
  have hserving : Keeps (meanwhile running.session) (Ready running.loaded o.pinDir made) :=
    keeps_ready (hmeanwhile running.session)
  refine Ends.attempt_bind hserving fun ended => ?_
  -- stopping and failing differ in the result of serving only
  rw [← hoptions]
  cases ended with
  | ok _ => exact ends_takeDown (.ok ())
  | error cause => exact ends_takeDown (.error cause)

/-- A run that cannot be set up fails with just that. -/
lemma run_run_of_error {meanwhile : Session → HostAction Session} {cause : Failure}
    (hfailed : ((setUp object o).run.run start).1 = .error cause) :
    (run object o meanwhile).run.run start =
      (.error cause, ((setUp object o).run.run start).2) := by
  simp only [run, Service.start, run_bind, hfailed]

/-- A run that cannot be prepared is not set up. -/
lemma run_setUp_of_error {cause : Failure}
    (hfailed : ((prepare object o.config).run.run start).1 = .error cause) :
    (setUp object o).run.run start =
      (.error cause, ((prepare object o.config).run.run start).2) := by
  simp only [setUp, run_bind, hfailed]

lemma exists_prepared (hinstalled : ((setUp object o).run.run start).1 = .ok loaded) :
    ∃ loaded, ((prepare object o.config).run.run start).1 = .ok loaded := by
  cases hprepared : ((prepare object o.config).run.run start).1 with
  | ok loaded' => exact ⟨loaded', rfl⟩
  | error cause =>
    rw [run_setUp_of_error hprepared] at hinstalled
    exact absurd hinstalled (by simp)

section CleanedUp

variable {meanwhile : Session → HostAction Session}
  (hprepared : ((prepare object o.config).run.run start).1 = .ok loaded)
  (hmade : start.files.makeDirectories (Path.parentOfJoin o.pinDir) = (made, result))
  (htidy : Tidy o.pinDir made made)

include hprepared hmade htidy

/-- A run that fails from the first pin on, but before it serves, is cleaned up. -/
lemma cleanedUp_of_error {cause : Failure}
    (hinstalled : ((setUp object o).run.run start).1 = .error cause) :
    CleanedUp o.pinDir made (fun attachedTo _ => attachedTo = start.kernel.attachedTo)
      ((run object o meanwhile).run.run start).2 := by
  rw [run_run_of_error hinstalled]
  exact (ends_setUp hprepared hmade htidy start rfl).of_error cause hinstalled

/-- A run that comes to serve is cleaned up, however serving and detaching end. -/
lemma cleanedUp_of_ok (hmeanwhile : ∀ s files, Keeps (meanwhile s) (fun h => h.files = files))
    {loaded' : Loaded} (hinstalled : ((setUp object o).run.run start).1 = .ok loaded') :
    CleanedUp o.pinDir made Detached ((run object o meanwhile).run.run start).2 := by
  have hready : Ends (setUp object o) (· = start)
      (EitherWay (fun loaded => Ready loaded o.pinDir made) fun _ => False) := by
    rintro h rfl
    have hready := (ends_setUp hprepared hmade htidy h rfl).of_ok loaded' hinstalled
    rw [hinstalled]
    exact .ok hready
  exact ends_run hmeanwhile hready start rfl

end CleanedUp

end Run

/-- **A run leaves no pins.**  Suppose that whatever is in the place of a pin once their directory has
been made can be removed, and that serving leaves the files alone.  If a run fails before its first
pin, no file has changed.  Otherwise, however it ends, nothing is in the place of any pin; everywhere
else the files are as they were, but for directories made on the way to the pins, and if the
directory of the pins was there none has been made.  If a run cannot be set up, what is attached has
not changed; otherwise nothing is attached at its end, unless the detaching call fails. -/
theorem run_cleans_up (object : Option Kernel.Object) (o : Options)
    (meanwhile : Session → HostAction Session) (h : Host)
    (hmeanwhile : ∀ s files, Keeps (meanwhile s) (fun h => h.files = files))
    (hremovable : ∀ name ∈ Kernel.pinnedMaps,
      (h.files.makeDirectories (Path.parentOfJoin o.pinDir)).1.find?
          (pinLocation o.pinDir name) ≠ none →
        ∃ files, (h.files.makeDirectories (Path.parentOfJoin o.pinDir)).1.removeFile
          (Path.join o.pinDir name) = .ok files) :
    let made := (h.files.makeDirectories (Path.parentOfJoin o.pinDir)).1
    let prepared := ((prepare object o.config).run.run h).1
    let installed := ((setUp object o).run.run h).1
    let ended := (run object o meanwhile).run.run h
    (∀ cause, prepared = .error cause → ended.1 = .error cause ∧ ended.2.files = h.files) ∧
    (∀ loaded, prepared = .ok loaded →
      (∀ name ∈ Kernel.pinnedMaps, ended.2.files.find? (pinLocation o.pinDir name) = none) ∧
      (∀ l, (∀ name ∈ Kernel.pinnedMaps, l ≠ pinLocation o.pinDir name) →
        ended.2.files.find? l = made.find? l) ∧
      h.files.GrowsTo made ∧
      ((∃ l, h.files.resolve (Path.parentOfJoin o.pinDir) = .ok (l, .directory)) →
        made = h.files)) ∧
    (∀ cause, installed = .error cause →
      ended.1 = .error cause ∧ ended.2.kernel.attachedTo = h.kernel.attachedTo) ∧
    (∀ loaded, installed = .ok loaded → ended.2.faults.error? .detach "" none = none →
      ended.2.kernel.attachedTo = none) := by
  rcases hmade : h.files.makeDirectories (Path.parentOfJoin o.pinDir) with ⟨made, result⟩
  rw [hmade] at hremovable
  have htidy : Tidy o.pinDir made made := Tidy.of_removable hremovable
  refine ⟨fun cause hprepared => ?_, fun loaded hprepared => ?_, fun cause hinstalled => ?_,
    fun loaded hinstalled => ?_⟩
  · rw [run_run_of_error (congrArg Prod.fst (run_setUp_of_error hprepared)),
      run_setUp_of_error hprepared]
    exact ⟨rfl, (keeps_prepare object o.config h ⟨rfl, rfl⟩).files_eq⟩
  · -- for the files it does not matter whether the run comes to serve
    have hcleaned : ∃ P, CleanedUp o.pinDir made P ((run object o meanwhile).run.run h).2 := by
      cases hinstalled : ((setUp object o).run.run h).1 with
      | error cause => exact ⟨_, cleanedUp_of_error hprepared hmade htidy hinstalled⟩
      | ok loaded' => exact ⟨_, cleanedUp_of_ok hprepared hmade htidy hmeanwhile hinstalled⟩
    obtain ⟨P, hcleaned⟩ := hcleaned
    refine ⟨hcleaned.unpinned, hcleaned.pinning.tidy.others, ?_, ?_⟩
    · have hgrows := h.files.growsTo_makeDirectories (Path.parentOfJoin o.pinDir)
      rwa [hmade] at hgrows
    · rintro ⟨l, hthere⟩
      have hsame := FileTree.makeDirectories_of_resolve hthere
      rw [hmade] at hsame
      exact congrArg Prod.fst hsame
  · refine ⟨congrArg Prod.fst (run_run_of_error hinstalled), ?_⟩
    cases hprepared : ((prepare object o.config).run.run h).1 with
    | ok loaded =>
      have hcleaned : CleanedUp o.pinDir made (fun attachedTo _ => attachedTo = h.kernel.attachedTo)
          ((run object o meanwhile).run.run h).2 :=
        cleanedUp_of_error hprepared hmade htidy hinstalled
      exact hcleaned.pinning.kept
    | error cause' =>
      rw [run_run_of_error hinstalled, run_setUp_of_error hprepared]
      exact (keeps_prepare object o.config h ⟨rfl, rfl⟩).attachedTo_eq
  · obtain ⟨loaded', hprepared⟩ := exists_prepared hinstalled
    exact (cleanedUp_of_ok hprepared hmade htidy hmeanwhile hinstalled).pinning.kept

/-- A host on which an earlier run has left a pin, beside a file of somebody else. -/
def litteredHost : Host where
  files := ⟨[(["pins"], .directory), (["pins", "stats"], .pin 3), (["pins", "notes"], .file [7])]⟩

/-- A run on that host. -/
def plainRun : Options := { iface := "eth0", pinDir := "pins", mode := .driver, config := {} }

/-- A run for a minute removes the old pin with its own ones, and the file stays. -/
theorem litteredHost_cleaned_up :
    let ended := (run (some .standard) plainRun (advance 60000)).run.run litteredHost
    (∀ name ∈ Kernel.pinnedMaps, ended.2.files.find? ["pins", name] = none) ∧
      ended.2.files.find? ["pins", "notes"] = some (.file [7]) ∧
      ended.2.kernel.attachedTo = none := by
  have hmade : (litteredHost.files.makeDirectories (Path.parentOfJoin plainRun.pinDir)).1 =
      litteredHost.files :=
    congrArg Prod.fst (FileTree.makeDirectories_of_resolve (l := ["pins"]) (by decide +kernel))
  have hplaces : ∀ name ∈ Kernel.pinnedMaps,
      pinLocation plainRun.pinDir name = ["pins", name] := by
    decide +kernel
  have hremovable : ∀ name ∈ Kernel.pinnedMaps,
      litteredHost.files.find? (pinLocation plainRun.pinDir name) = none ∨
        litteredHost.files.removeFile (Path.join plainRun.pinDir name) =
          .ok (litteredHost.files.erase (pinLocation plainRun.pinDir name)) := by
    decide +kernel
  have hfaults : ((run (some .standard) plainRun (advance 60000)).run.run
      litteredHost).2.faults.error? .detach "" none = none := by
    decide +kernel
  have hok : ((setUp (some .standard) plainRun).run.run litteredHost).1.isOk = true := by
    decide +kernel
  obtain ⟨loaded, hinstalled⟩ : ∃ loaded,
      ((setUp (some .standard) plainRun).run.run litteredHost).1 = .ok loaded := by
    generalize ((setUp (some .standard) plainRun).run.run litteredHost).1 = result at hok ⊢
    cases result with
    | ok loaded => exact ⟨loaded, rfl⟩
    | error cause => exact absurd hok (by simp [Except.isOk, Except.toBool])
  obtain ⟨loaded', hprepared⟩ := exists_prepared hinstalled
  obtain ⟨-, hcleaned, -, hdetached⟩ :=
    run_cleans_up (some .standard) plainRun (advance 60000) litteredHost
      (fun s files h hfiles => (keeps_advance 60000 s h ⟨hfiles, rfl⟩).files_eq)
      fun name hname hsome => ⟨_, (hmade ▸ hremovable name hname).resolve_left hsome⟩
  obtain ⟨hgone, hothers, -, -⟩ := hcleaned loaded' hprepared
  refine ⟨fun name hname => ?_, ?_, hdetached loaded hinstalled hfaults⟩
  · rw [← hplaces name hname]
    exact hgone name hname
  · rw [hothers ["pins", "notes"] (by decide +kernel), hmade]
    decide +kernel

end VoiceSteering.Service
