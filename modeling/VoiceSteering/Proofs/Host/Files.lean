/-
# Changing files

Removing a file and making a pin change one location and no directory, and walks see directories
only.  So neither of them takes a path away from another one: a path that leads somewhere goes on to
lead there.  Making a directory adds directories where nothing was, and once it has succeeded it does
nothing more as long as the directories stay.
-/
import Mathlib.Tactic.Common
import VoiceSteering.Proofs.Host.Location

namespace VoiceSteering.FileTree

open VoiceSteering.Kernel (MapId)

variable {t u : FileTree} {l l' : Location}

/-! ### Single locations -/

lemma lookup_filter (entries : List (Location × FileNode)) (l l' : Location) :
    (entries.filter fun e => e.1 ≠ l).lookup l' = if l' = l then none else entries.lookup l' := by
  induction entries with
  | nil => simp
  | cons e entries ih =>
    obtain ⟨place, node⟩ := e
    by_cases hplace : place = l
    · subst hplace
      rw [List.filter_cons_of_neg (by simp), ih]
      by_cases hl : l' = place
      · rw [if_pos hl, if_pos hl]
      · rw [if_neg hl, if_neg hl, List.lookup_cons, beq_eq_false_iff_ne.2 hl]
    · rw [List.filter_cons_of_pos (by simpa using hplace), List.lookup_cons, List.lookup_cons, ih]
      by_cases hl : l' = place
      · subst hl
        rw [beq_self_eq_true]
        simp only [if_neg hplace]
      · rw [beq_eq_false_iff_ne.2 hl]

lemma find?_of_isGround (hground : isGround l = true) : t.find? l = some .directory :=
  if_pos hground

lemma isGround_of_find?_ne (hl : t.find? l ≠ some .directory) : isGround l = false := by
  rw [← Bool.not_eq_true]
  exact fun hground => hl (find?_of_isGround hground)

lemma find?_put_self (hl : isGround l = false) (n : FileNode) : (t.put l n).find? l = some n := by
  rw [find?, put, hl, List.lookup_append, lookup_filter, if_pos rfl]
  simp

lemma find?_put_of_ne (hne : l' ≠ l) (n : FileNode) : (t.put l n).find? l' = t.find? l' := by
  rw [find?, put, List.lookup_append, lookup_filter, if_neg hne, List.lookup_cons,
    beq_eq_false_iff_ne.2 hne]
  simp [find?]

lemma find?_erase_self (hl : isGround l = false) : (t.erase l).find? l = none := by
  rw [find?, erase, hl, lookup_filter, if_pos rfl]
  rfl

lemma find?_erase_of_ne (hne : l' ≠ l) : (t.erase l).find? l' = t.find? l' := by
  rw [find?, erase, lookup_filter, if_neg hne, find?]

/-! ### Directories -/

/-- The same locations are directories. -/
def SameDirectories (t u : FileTree) : Prop :=
  ∀ l, u.find? l = some .directory ↔ t.find? l = some .directory

lemma SameDirectories.refl (t : FileTree) : t.SameDirectories t := fun _ => Iff.rfl

lemma SameDirectories.trans {v : FileTree} (h : t.SameDirectories u) (h' : u.SameDirectories v) :
    t.SameDirectories v := fun l => (h' l).trans (h l)

lemma sameDirectories_put (hl : t.find? l = none) {n : FileNode} (hn : n ≠ .directory) :
    t.SameDirectories (t.put l n) := by
  intro l'
  rcases eq_or_ne l' l with rfl | hne
  · have hfile : t.find? l' ≠ some .directory := by simp [hl]
    simp [find?_put_self (isGround_of_find?_ne hfile), hl, hn]
  · rw [find?_put_of_ne hne]

lemma sameDirectories_erase (hl : t.find? l ≠ some .directory) :
    t.SameDirectories (t.erase l) := by
  intro l'
  rcases eq_or_ne l' l with rfl | hne
  · simp [find?_erase_self (isGround_of_find?_ne hl), hl]
  · rw [find?_erase_of_ne hne]

/-- A walk goes on to lead where it leads as long as no directory is lost. -/
lemma walk_mono (hkept : ∀ l, t.find? l = some .directory → u.find? l = some .directory)
    {names : List String} (hwalk : t.walk l names = .ok l') : u.walk l names = .ok l' := by
  induction names generalizing l with
  | nil => exact hwalk
  | cons name names ih =>
    rw [walk] at hwalk ⊢
    cases hl : t.find? l with
    | none => simp [hl] at hwalk
    | some n =>
      cases n with
      | directory =>
        rw [hl] at hwalk
        rw [hkept l hl]
        cases hstep : step l name with
        | ok next =>
          simp only [hstep] at hwalk ⊢
          exact ih hwalk
        | error e => simp [hstep] at hwalk
      | file content => simp [hl] at hwalk
      | pin map => simp [hl] at hwalk

/-! ### Paths -/

/-- A path is one that calls take, and nothing on the way to its location is in the way. -/
structure Leads (t : FileTree) (path : String) : Prop where
  accepted : accept path = .ok ()
  ne_empty : path ≠ ""
  walk_eq : t.walk [] (Path.parts path) = .ok (Path.location path)

lemma Leads.mono {path : String} (hleads : t.Leads path) (hsame : t.SameDirectories u) :
    u.Leads path :=
  ⟨hleads.accepted, hleads.ne_empty, walk_mono (fun l => (hsame l).2) hleads.walk_eq⟩

lemma bind_eq_ok_iff {α β : Type} {x : Except FileError α} {f : α → Except FileError β} {b : β} :
    (x >>= f) = .ok b ↔ ∃ a, x = .ok a ∧ f a = .ok b := by
  cases x <;> simp [bind, Except.bind]

lemma locate_eq_ok_iff {path : String} :
    t.locate path = .ok l ↔ t.Leads path ∧ l = Path.location path ∧
      (t.find? l = some .directory ∨ t.find? l = none ∨ Path.mustBeDirectory path = false) := by
  simp only [locate, bind_eq_ok_iff]
  constructor
  · rintro ⟨_, haccept, h⟩
    split at h
    · exact absurd h (by simp [bind, Except.bind])
    · next hempty =>
      obtain ⟨target, hwalk, h⟩ := bind_eq_ok_iff.1 h
      have htarget : target = Path.location path := eq_foldl_of_walk hwalk
      have hl : l = target ∧ (t.find? target = some .directory ∨ t.find? target = none ∨
          Path.mustBeDirectory path = false) := by
        split at h
        · next hdirectory => exact ⟨(Except.ok.inj h).symm, .inl hdirectory⟩
        · next hnone => exact ⟨(Except.ok.inj h).symm, .inr (.inl hnone)⟩
        · split at h
          · exact absurd h (by simp)
          · next hfile =>
            exact ⟨(Except.ok.inj h).symm, .inr (.inr (Bool.eq_false_iff.2 hfile))⟩
      obtain ⟨rfl, hfound⟩ := hl
      subst htarget
      exact ⟨⟨haccept, hempty, hwalk⟩, rfl, hfound⟩
  · rintro ⟨hleads, rfl, hfound⟩
    refine ⟨(), hleads.accepted, ?_⟩
    rw [if_neg hleads.ne_empty]
    refine bind_eq_ok_iff.2 ⟨_, hleads.walk_eq, ?_⟩
    rcases hfound with hdirectory | hnone | hfile
    · rw [hdirectory]
      rfl
    · rw [hnone]
      rfl
    · split
      · rfl
      · rfl
      · rw [hfile]
        rfl

/-- What a file is removed from: something is at the location of the path, and it is no directory. -/
lemma removeFile_eq_ok_iff {path : String} :
    t.removeFile path = .ok u ↔ t.Leads path ∧ Path.mustBeDirectory path = false ∧
      t.find? (Path.location path) ≠ none ∧
      t.find? (Path.location path) ≠ some .directory ∧ u = t.erase (Path.location path) := by
  simp only [removeFile, resolve, bind_eq_ok_iff, locate_eq_ok_iff]
  constructor
  · rintro ⟨found, ⟨_, ⟨hleads, rfl, hfound⟩, hresolve⟩, hremove⟩
    cases hn : t.find? (Path.location path) with
    | none =>
      rw [hn] at hresolve
      exact absurd hresolve (by simp)
    | some n =>
      rw [hn] at hresolve hfound
      obtain rfl := Except.ok.inj hresolve
      have hdirectory : n ≠ .directory := by
        rintro rfl
        exact absurd hremove (by simp)
      have hfile : Path.mustBeDirectory path = false := by simpa [hdirectory] using hfound
      refine ⟨hleads, hfile, by simp, by simpa using hdirectory, ?_⟩
      cases n with
      | directory => exact absurd rfl hdirectory
      | file content => exact (Except.ok.inj hremove).symm
      | pin map => exact (Except.ok.inj hremove).symm
  · rintro ⟨hleads, hfile, hsome, hdirectory, rfl⟩
    cases hn : t.find? (Path.location path) with
    | none => exact absurd hn hsome
    | some n =>
      refine ⟨(Path.location path, n), ⟨_, ⟨hleads, rfl, .inr (.inr hfile)⟩, ?_⟩, ?_⟩
      · rw [hn]
        rfl
      · cases n with
        | directory => exact absurd hn hdirectory
        | file content => rfl
        | pin map => rfl

/-- What a pin is put into: nothing is at the location of the path. -/
lemma makePin_eq_ok_iff {path : String} {map : MapId} :
    t.makePin path map = .ok u ↔ t.Leads path ∧ t.find? (Path.location path) = none ∧
      u = t.put (Path.location path) (.pin map) := by
  simp only [makePin, bind_eq_ok_iff, locate_eq_ok_iff]
  constructor
  · rintro ⟨_, ⟨hleads, rfl, -⟩, hmake⟩
    split at hmake
    · exact absurd hmake (by simp)
    · next hnone => exact ⟨hleads, hnone, (Except.ok.inj hmake).symm⟩
  · rintro ⟨hleads, hnone, rfl⟩
    refine ⟨_, ⟨hleads, rfl, .inr (.inl hnone)⟩, ?_⟩
    rw [hnone]
    rfl

/-! ### Making directories -/

/-- Directories have been made where nothing was, and nothing else has changed. -/
def GrowsTo (t u : FileTree) : Prop :=
  ∀ l, u.find? l = t.find? l ∨ (t.find? l = none ∧ u.find? l = some .directory)

lemma GrowsTo.refl (t : FileTree) : t.GrowsTo t := fun _ => .inl rfl

lemma GrowsTo.trans {v : FileTree} (h : t.GrowsTo u) (h' : u.GrowsTo v) : t.GrowsTo v := by
  intro l
  rcases h' l with heq | ⟨hnone, hmade⟩
  · rw [heq]
    exact h l
  · rcases h l with heq | ⟨-, hdirectory⟩
    · exact .inr ⟨heq ▸ hnone, hmade⟩
    · exact absurd (hdirectory.symm.trans hnone) (by simp)

lemma growsTo_put (hl : t.find? l = none) : t.GrowsTo (t.put l .directory) := by
  intro l'
  rcases eq_or_ne l' l with rfl | hne
  · have hfile : t.find? l' ≠ some .directory := by simp [hl]
    exact .inr ⟨hl, find?_put_self (isGround_of_find?_ne hfile) _⟩
  · exact .inl (find?_put_of_ne hne _)

/-- The names lead to a directory. -/
def HasDirectory (t : FileTree) (names : List String) : Prop :=
  ∃ l, t.walk [] names = .ok l ∧ t.find? l = some .directory

lemma HasDirectory.mono {names : List String} (hdirectory : t.HasDirectory names)
    (hsame : t.SameDirectories u) : u.HasDirectory names := by
  obtain ⟨l, hwalk, hl⟩ := hdirectory
  exact ⟨l, walk_mono (fun l => (hsame l).2) hwalk, (hsame l).2 hl⟩

lemma ensureDirectory_of_hasDirectory {names : List String} (hdirectory : t.HasDirectory names) :
    t.ensureDirectory names = .ok t := by
  obtain ⟨l, hwalk, hl⟩ := hdirectory
  refine bind_eq_ok_iff.2 ⟨l, hwalk, ?_⟩
  rw [hl]
  rfl

lemma ensureDirectory_ok {names : List String} (hok : t.ensureDirectory names = .ok u) :
    t.GrowsTo u ∧ u.HasDirectory names := by
  obtain ⟨l, hwalk, hmake⟩ := bind_eq_ok_iff.1 hok
  split at hmake
  · next hl =>
    obtain rfl := Except.ok.inj hmake
    exact ⟨.refl t, l, hwalk, hl⟩
  · exact absurd hmake (by simp)
  · next hl =>
    obtain rfl := Except.ok.inj hmake
    have hgrows := growsTo_put hl
    have hkept : ∀ l', t.find? l' = some .directory → (t.put l .directory).find? l' =
        some .directory := by
      intro l' hl'
      rcases hgrows l' with heq | ⟨-, hmade⟩
      · rw [heq, hl']
      · exact hmade
    have hfile : t.find? l ≠ some .directory := by simp [hl]
    exact ⟨hgrows, l, walk_mono hkept hwalk, find?_put_self (isGround_of_find?_ne hfile) _⟩

lemma makeUpwards_of_hasDirectory {names : List String}
    (hdirectory : t.HasDirectory names.reverse) : t.makeUpwards names = (t, .ok ()) := by
  cases names with
  | nil => rfl
  | cons name names =>
    rw [makeUpwards, ensureDirectory_of_hasDirectory hdirectory]

/-- However far the making of directories comes, it adds directories only, and if it succeeds the
last one is there. -/
lemma makeUpwards_spec (t : FileTree) (names : List String) :
    t.GrowsTo (t.makeUpwards names).1 ∧
      ((t.makeUpwards names).2 = .ok () → (t.makeUpwards names).1.HasDirectory names.reverse) := by
  induction names with
  | nil => exact ⟨.refl t, fun _ => ⟨[], rfl, rfl⟩⟩
  | cons name names ih =>
    rw [makeUpwards]
    split
    · next hensured =>
      obtain ⟨hgrows, hdirectory⟩ := ensureDirectory_ok hensured
      exact ⟨hgrows, fun _ => hdirectory⟩
    · split
      · -- nothing is there: the directories above are made first, by induction
        split
        · next habove =>
          rw [habove] at ih
          exact ⟨ih.1, fun hok => absurd hok (by simp)⟩
        · next habove =>
          rw [habove] at ih
          split
          · next hensured =>
            obtain ⟨hgrows, hdirectory⟩ := ensureDirectory_ok hensured
            exact ⟨ih.1.trans hgrows, fun _ => hdirectory⟩
          · exact ⟨ih.1, fun hok => absurd hok (by simp)⟩
      · exact ⟨.refl t, fun hok => absurd hok (by simp)⟩

lemma growsTo_makeDirectories (t : FileTree) (path : String) :
    t.GrowsTo (t.makeDirectories path).1 := by
  rw [makeDirectories]
  split
  · exact .refl t
  · exact (t.makeUpwards_spec _).1

/-- A directory that is there need not be made. -/
lemma makeDirectories_of_resolve {path : String} (hthere : t.resolve path = .ok (l, .directory)) :
    t.makeDirectories path = (t, .ok ()) := by
  obtain ⟨_, hlocate, hfound⟩ := bind_eq_ok_iff.1 hthere
  obtain ⟨hleads, rfl, -⟩ := locate_eq_ok_iff.1 hlocate
  have hdirectory : t.find? (Path.location path) = some .directory := by
    split at hfound
    · next n hn => rw [hn, (Prod.mk.inj (Except.ok.inj hfound)).2]
    · exact absurd hfound (by simp)
  rw [makeDirectories, hleads.accepted]
  refine makeUpwards_of_hasDirectory ⟨Path.location path, ?_, hdirectory⟩
  rw [List.reverse_reverse]
  exact hleads.walk_eq

/-- A directory that has been made need not be made again. -/
lemma makeDirectories_again {path : String} (hok : (t.makeDirectories path).2 = .ok ())
    (hsame : (t.makeDirectories path).1.SameDirectories u) :
    u.makeDirectories path = (u, .ok ()) := by
  rw [makeDirectories] at hok hsame ⊢
  cases haccept : accept path with
  | error e =>
    rw [haccept] at hok
    exact absurd hok (by simp)
  | ok _ =>
    rw [haccept] at hok hsame
    exact makeUpwards_of_hasDirectory (((t.makeUpwards_spec _).2 hok).mono hsame)

end VoiceSteering.FileTree
