/-
# Pins

Before anything is pinned the directory of the pins is made.  From then on `Tidy` holds of the files,
whether an action succeeds or fails: outside the places of the pins they are as they were then, the
directories stay, and what is in the place of a pin can be removed.  So removing all pins leaves
nothing in their places, however far pinning has come.
-/
import Mathlib.Tactic.Common
import VoiceSteering.Proofs.Host.Files
import VoiceSteering.Proofs.Service.Untouched

namespace VoiceSteering.Service

open Kernel (Faults Loaded MapId)
open HostAction

/-- The location of the pin of a map. -/
def pinLocation (pinDir name : String) : Location := Path.location (Path.join pinDir name)

lemma isPlain_of_pinned {name : String} (hname : name ∈ Kernel.pinnedMaps) :
    Path.IsPlain name := by
  have hall : ∀ name ∈ Kernel.pinnedMaps,
      name ≠ "" ∧ name ≠ "." ∧ name ≠ ".." ∧ '/' ∉ name.toList := by decide
  obtain ⟨hempty, hdot, hdots, hslash⟩ := hall name hname
  exact ⟨hempty, hdot, hdots, hslash⟩

/-- Pins stand right below the location of their directory. -/
lemma pinLocation_eq {name : String} (hname : name ∈ Kernel.pinnedMaps) (pinDir : String) :
    pinLocation pinDir name = Path.location pinDir ++ [name] :=
  Path.location_join (isPlain_of_pinned hname) pinDir

/-! ### Files while pins are made and removed -/

/-- The files once the directory of the pins has been made, up to pins and what can be removed from
their places. -/
structure Tidy (pinDir : String) (made files : FileTree) : Prop where
  others : ∀ l, (∀ name ∈ Kernel.pinnedMaps, l ≠ pinLocation pinDir name) →
    files.find? l = made.find? l
  directories : made.SameDirectories files
  removable : ∀ name ∈ Kernel.pinnedMaps, files.find? (pinLocation pinDir name) ≠ none →
    files.Leads (Path.join pinDir name) ∧ files.find? (pinLocation pinDir name) ≠ some .directory

/-- No pin is left. -/
def Unpinned (pinDir : String) (files : FileTree) : Prop :=
  ∀ name ∈ Kernel.pinnedMaps, files.find? (pinLocation pinDir name) = none

variable {pinDir name : String} {made files files' : FileTree}

namespace Tidy

lemma of_removable (hremovable : ∀ name ∈ Kernel.pinnedMaps,
      made.find? (pinLocation pinDir name) ≠ none →
        ∃ files, made.removeFile (Path.join pinDir name) = .ok files) :
    Tidy pinDir made made := by
  refine ⟨fun _ _ => rfl, .refl made, fun name hname hsome => ?_⟩
  obtain ⟨files, hremove⟩ := hremovable name hname hsome
  obtain ⟨hleads, -, -, hfile, -⟩ := FileTree.removeFile_eq_ok_iff.1 hremove
  exact ⟨hleads, hfile⟩

/-- What is in the place of a pin can be removed. -/
lemma removeFile_eq (htidy : Tidy pinDir made files) (hname : name ∈ Kernel.pinnedMaps)
    (hsome : files.find? (pinLocation pinDir name) ≠ none) :
    files.removeFile (Path.join pinDir name) = .ok (files.erase (pinLocation pinDir name)) := by
  obtain ⟨hleads, hfile⟩ := htidy.removable name hname hsome
  exact FileTree.removeFile_eq_ok_iff.2
    ⟨hleads, Path.mustBeDirectory_join (isPlain_of_pinned hname) pinDir, hsome, hfile, rfl⟩

/-- One place of a pin changes, and no directory. -/
lemma change (htidy : Tidy pinDir made files) (hname : name ∈ Kernel.pinnedMaps)
    (hsame : files.SameDirectories files')
    (hothers : ∀ l, l ≠ pinLocation pinDir name → files'.find? l = files.find? l)
    (hthere : files'.find? (pinLocation pinDir name) ≠ none →
      files.Leads (Path.join pinDir name) ∧
        files'.find? (pinLocation pinDir name) ≠ some .directory) :
    Tidy pinDir made files' := by
  refine ⟨fun l hl => ?_, htidy.directories.trans hsame, fun other hother hsome => ?_⟩
  · rw [hothers l (hl name hname), htidy.others l hl]
  · by_cases hplace : pinLocation pinDir other = pinLocation pinDir name
    · have hjoin : other = name := by
        rw [pinLocation_eq hother, pinLocation_eq hname] at hplace
        exact List.singleton_inj.1 (List.append_cancel_left hplace)
      subst hjoin
      obtain ⟨hleads, hfile⟩ := hthere hsome
      exact ⟨hleads.mono hsame, hfile⟩
    · rw [hothers _ hplace] at hsome ⊢
      obtain ⟨hleads, hfile⟩ := htidy.removable other hother hsome
      exact ⟨hleads.mono hsame, hfile⟩

lemma removeFile (htidy : Tidy pinDir made files) (hname : name ∈ Kernel.pinnedMaps)
    (hremove : files.removeFile (Path.join pinDir name) = .ok files') :
    Tidy pinDir made files' ∧ files'.find? (pinLocation pinDir name) = none ∧
      ∀ l, files.find? l = none → files'.find? l = none := by
  obtain ⟨-, -, -, hfile, rfl⟩ := FileTree.removeFile_eq_ok_iff.1 hremove
  have hgone : (files.erase (pinLocation pinDir name)).find? (pinLocation pinDir name) = none :=
    FileTree.find?_erase_self (FileTree.isGround_of_find?_ne hfile)
  refine ⟨htidy.change hname (FileTree.sameDirectories_erase hfile)
    (fun l hl => FileTree.find?_erase_of_ne hl) fun hsome => absurd hgone hsome, hgone,
    fun l hl => ?_⟩
  rcases eq_or_ne l (pinLocation pinDir name) with rfl | hne
  · exact hgone
  · exact (FileTree.find?_erase_of_ne hne).trans hl

lemma makePin (htidy : Tidy pinDir made files) (hname : name ∈ Kernel.pinnedMaps) {id : MapId}
    (hmake : files.makePin (Path.join pinDir name) id = .ok files') :
    Tidy pinDir made files' := by
  obtain ⟨hleads, hnone, rfl⟩ := FileTree.makePin_eq_ok_iff.1 hmake
  have hfile : files.find? (pinLocation pinDir name) ≠ some .directory := by
    simp [pinLocation, hnone]
  refine htidy.change hname (FileTree.sameDirectories_put hnone (by simp))
    (fun l hl => FileTree.find?_put_of_ne hl _) fun _ => ⟨hleads, ?_⟩
  have hpin := FileTree.find?_put_self (t := files) (FileTree.isGround_of_find?_ne hfile) (.pin id)
  exact fun hdirectory => absurd (hpin.symm.trans hdirectory) (by simp)

end Tidy

/-! ### The actions -/

/-- The host from the making of the directory on, with a property that is not about files. -/
structure Pinning (pinDir : String) (made : FileTree) (P : Option String → Faults → Prop)
    (h : Host) : Prop where
  tidy : Tidy pinDir made h.files
  kept : P h.kernel.attachedTo h.faults

variable {P : Option String → Faults → Prop} {loaded : Loaded}

lemma Pinning.withFiles {h : Host} (hpinning : Pinning pinDir made P h)
    (htidy : Tidy pinDir made files) : Pinning pinDir made P { h with files } :=
  ⟨htidy, hpinning.kept⟩

lemma keeps_tell_pinning (e : Event) : Keeps (tell e) (Pinning pinDir made P) :=
  keeps_modify fun _ hpinning => ⟨hpinning.tidy, hpinning.kept⟩

/-- Making the directory changes the files, and nothing else, also when it fails. -/
lemma run_makePinDirectory {h : Host} {result : Except FileError Unit}
    (hmade : h.files.makeDirectories (Path.parentOfJoin pinDir) = (files, result)) :
    (makePinDirectory pinDir).run.run h =
      (result.mapError fun e => .during (.createDirectory (Path.parentOfJoin pinDir)) (.file e),
        { h with files }) := by
  rw [makePinDirectory, run_get_bind, hmade]
  cases result with
  | ok _ => rfl
  | error e => rfl

lemma keeps_removeStalePin (hname : name ∈ Kernel.pinnedMaps) :
    Keeps (removeStalePin pinDir name) (Pinning pinDir made P) := by
  refine keeps_get_bind fun h hpinning => ?_
  split
  · next hremove =>
    exact keeps_tell_pinning _ _ (hpinning.withFiles (hpinning.tidy.removeFile hname hremove).1)
  · split
    · exact hpinning
    · exact hpinning

lemma keeps_placePin (hname : name ∈ Kernel.pinnedMaps) :
    Keeps (placePin loaded pinDir name) (Pinning pinDir made P) := by
  refine (keeps_findMap loaded name).bind fun id => keeps_get_bind fun h hpinning => ?_
  split
  · exact hpinning
  · split
    · next hmake => exact ⟨hpinning.tidy.makePin hname hmake, hpinning.kept⟩
    · exact hpinning

/-- Pinning a map, once the directory is there to stay. -/
lemma keeps_pinMap (hname : name ∈ Kernel.pinnedMaps)
    (hmade : ∀ files, made.SameDirectories files →
      files.makeDirectories (Path.parentOfJoin pinDir) = (files, .ok ())) :
    Keeps (pinMap loaded pinDir name) (Pinning pinDir made P) := by
  have hdirectory : Keeps (makePinDirectory pinDir) (Pinning pinDir made P) := by
    intro h hpinning
    rw [run_makePinDirectory (hmade h.files hpinning.tidy.directories)]
    exact hpinning
  exact hdirectory.bind fun _ => (keeps_removeStalePin hname).bind fun _ => keeps_placePin hname

/-- However far pinning comes, from the making of the directory on the files are tidy. -/
lemma ends_pinAll (loaded : Loaded) {start made : FileTree} {result : Except FileError Unit}
    (hmade : start.makeDirectories (Path.parentOfJoin pinDir) = (made, result))
    (htidy : Tidy pinDir made made) :
    Ends (pinAll loaded pinDir) (fun h => h.files = start ∧ P h.kernel.attachedTo h.faults)
      fun _ => Pinning pinDir made P := by
  have hdirectory : Ends (makePinDirectory pinDir)
      (fun h => h.files = start ∧ P h.kernel.attachedTo h.faults)
      fun ended h => Pinning pinDir made P h ∧ (ended = .ok () → result = .ok ()) := by
    rintro h ⟨rfl, hkept⟩
    rw [run_makePinDirectory hmade]
    refine ⟨⟨htidy, hkept⟩, fun hok => ?_⟩
    cases result with
    | ok _ => rfl
    | error e => exact absurd hok (by simp [Except.mapError])
  have hstays : result = .ok () → ∀ files, made.SameDirectories files →
      files.makeDirectories (Path.parentOfJoin pinDir) = (files, .ok ()) := by
    rintro rfl files hsame
    refine FileTree.makeDirectories_again (t := start) ?_ ?_
    · rw [hmade]
    · rwa [hmade]
  -- only the first map finds the directory as it was; if pinning it succeeds the directory stays
  have hfirst : Ends (pinMap loaded pinDir Kernel.rateMap)
      (fun h => h.files = start ∧ P h.kernel.attachedTo h.faults)
      fun ended h => Pinning pinDir made P h ∧ (ended = .ok () → result = .ok ()) := by
    have hmem : Kernel.rateMap ∈ Kernel.pinnedMaps := List.mem_cons_self
    refine hdirectory.bind (fun e h hended => ⟨hended.1, fun hok => absurd hok (by simp)⟩) ?_
    rintro _ h ⟨hpinning, hok⟩
    have hkeeps : Keeps (removeStalePin pinDir Kernel.rateMap >>= fun _ =>
        placePin loaded pinDir Kernel.rateMap) (Pinning pinDir made P) :=
      (keeps_removeStalePin hmem).bind fun _ => keeps_placePin hmem
    exact ⟨hkeeps h hpinning, fun _ => hok rfl⟩
  refine hfirst.bind (fun e h hended => hended.1) ?_
  rintro _ h ⟨hpinning, hok⟩
  exact keeps_forM
    (fun name hname => keeps_pinMap (List.mem_cons_of_mem _ hname) (hstays (hok rfl))) h hpinning

/-! ### Removing all pins -/

/-- Removing a pin empties its place and refills no other one. -/
lemma ends_unpin (hname : name ∈ Kernel.pinnedMaps) {gone : List String} :
    Ends (unpin pinDir name)
      (fun h => Pinning pinDir made P h ∧
        ∀ other ∈ gone, h.files.find? (pinLocation pinDir other) = none)
      fun result h => result = .ok () ∧ Pinning pinDir made P h ∧
        ∀ other ∈ name :: gone, h.files.find? (pinLocation pinDir other) = none := by
  rintro h ⟨hpinning, hgone⟩
  rw [unpin, run_get_bind]
  cases hremove : h.files.removeFile (Path.join pinDir name) with
  | ok files =>
    obtain ⟨htidy, hempty, hkept⟩ := hpinning.tidy.removeFile hname hremove
    refine ⟨rfl, hpinning.withFiles htidy, List.forall_mem_cons.2 ⟨hempty, ?_⟩⟩
    exact fun other hother => hkept _ (hgone other hother)
  | error e =>
    have hempty : h.files.find? (pinLocation pinDir name) = none := by
      by_contra hsome
      rw [hpinning.tidy.removeFile_eq hname hsome] at hremove
      exact absurd hremove (by simp)
    dsimp only
    split
    · exact ⟨rfl, ⟨hpinning.tidy, hpinning.kept⟩, List.forall_mem_cons.2 ⟨hempty, hgone⟩⟩
    · exact ⟨rfl, hpinning, List.forall_mem_cons.2 ⟨hempty, hgone⟩⟩

/-- **Removing all pins never fails and leaves none.** -/
theorem ends_unpinAll (pinDir : String) :
    Ends (unpinAll pinDir) (Pinning pinDir made P) fun result h =>
      result = .ok () ∧ Pinning pinDir made P h ∧ Unpinned pinDir h.files := by
  have hlist : ∀ names gone : List String, (∀ name ∈ names, name ∈ Kernel.pinnedMaps) →
      Ends (names.forM (unpin pinDir))
        (fun h => Pinning pinDir made P h ∧
          ∀ other ∈ gone, h.files.find? (pinLocation pinDir other) = none)
        fun result h => result = .ok () ∧ Pinning pinDir made P h ∧
          ∀ other ∈ names.reverse ++ gone, h.files.find? (pinLocation pinDir other) = none := by
    intro names
    induction names with
    | nil => exact fun gone _ h hbefore => ⟨rfl, hbefore⟩
    | cons name names ih =>
      intro gone hnames
      refine (ends_unpin (hnames name List.mem_cons_self)).bind ?_ ?_
      · exact fun e h hended => absurd hended.1 (by simp)
      · rintro _ h ⟨-, hbetween⟩
        have hrest := ih (name :: gone) (fun other hother => hnames other (.tail _ hother)) h
          hbetween
        rwa [List.reverse_cons, List.append_assoc]
  intro h hpinning
  obtain ⟨hok, hpinning', hgone⟩ :=
    hlist Kernel.pinnedMaps [] (fun _ hname => hname) h ⟨hpinning, by simp⟩
  refine ⟨hok, hpinning', fun name hname => hgone name ?_⟩
  rw [List.append_nil, List.mem_reverse]
  exact hname

end VoiceSteering.Service
