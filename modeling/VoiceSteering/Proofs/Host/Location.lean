/-
# Where paths lead

A walk checks at every name that it has come to a directory.  Where it leads does not depend on that:
it is the location of the path, which is read off its names.  A name that is joined to a directory
stands right below the location of the directory, and the joined path does not ask for a directory.
-/
import Mathlib.Data.List.Basic
import Mathlib.Tactic.Common
import VoiceSteering.Host.Files

namespace VoiceSteering

namespace FileTree

/-- The location that a name in a directory leads to, whatever is there. -/
def enter (l : Location) (name : String) : Location :=
  if name = ".." then above l else if name = "/" then ["/"] else l ++ [name]

lemma eq_enter_of_step {l next : Location} {name : String} (hstep : step l name = .ok next) :
    next = enter l name := by
  rw [step] at hstep
  split at hstep
  · exact absurd hstep (by simp)
  · exact (Except.ok.inj hstep).symm

/-- A walk that comes to its end has followed the names. -/
lemma eq_foldl_of_walk {t : FileTree} {l target : Location} {names : List String}
    (hwalk : t.walk l names = .ok target) : target = names.foldl enter l := by
  induction names generalizing l with
  | nil => exact (Except.ok.inj hwalk).symm
  | cons name names ih =>
    rw [walk] at hwalk
    split at hwalk
    · split at hwalk
      · next hstep =>
        rw [List.foldl_cons, ← eq_enter_of_step hstep]
        exact ih hwalk
      · exact absurd hwalk (by simp)
    · exact absurd hwalk (by simp)
    · exact absurd hwalk (by simp)

end FileTree

namespace Path

/-- The location of a path, whatever is on the way there. -/
def location (path : String) : Location := (parts path).foldl FileTree.enter []

/-- A name of a file: it is not empty, has no slash and does not stand for a directory. -/
structure IsPlain (name : String) : Prop where
  ne_empty : name ≠ ""
  ne_dot : name ≠ "."
  ne_dots : name ≠ ".."
  no_slash : '/' ∉ name.toList

/-! ### Names -/

/-- The names between the slashes of a text. -/
def namesOf (cs : List Char) : List String :=
  ((cs.splitOn '/').map String.ofList).filter fun name => name ≠ "" && name ≠ "."

lemma namesOf_append (cs ds : List Char) :
    namesOf (cs ++ '/' :: ds) = namesOf cs ++ namesOf ds := by
  rw [namesOf, List.splitOn_append_cons_self, List.map_append, List.filter_append]
  rfl

lemma namesOf_plain {name : String} (hname : IsPlain name) : namesOf name.toList = [name] := by
  rw [namesOf, List.splitOn_eq_singleton hname.no_slash]
  simp [hname.ne_empty, hname.ne_dot]

lemma parts_eq (path : String) :
    parts path = if path.toList.head? = some '/' then "/" :: namesOf path.toList
      else namesOf path.toList := by
  have hstart : path.startsWith "/" = true ↔ path.toList.head? = some '/' := by
    rw [String.startsWith_string_iff]
    exact List.singleton_prefix_iff_head?_eq_some
  simp only [parts, hstart, namesOf]

/-! ### Joined paths -/

lemma endsWith_iff {text ending : String} :
    text.endsWith ending = true ↔ ending.toList <:+ text.toList := by
  rw [← String.endsWith_toSlice, String.Slice.endsWith_string_iff, String.copy_toSlice]

/-- A joined path has the names of the directory and one more. -/
lemma parts_join {name : String} (hname : IsPlain name) (directory : String) :
    parts (join directory name) = parts directory ++ [name] := by
  rw [join]
  split
  · next hempty =>
    subst hempty
    have hhead : name.toList.head? ≠ some '/' := fun hslash =>
      hname.no_slash (List.mem_of_mem_head? hslash)
    rw [parts_eq, parts_eq, if_neg hhead, namesOf_plain hname]
    rfl
  · next hdirectory =>
    have hne : directory.toList ≠ [] := by simpa using hdirectory
    have hhead : ∀ cs, (directory.toList ++ cs).head? = directory.toList.head? := fun cs =>
      List.head?_append_of_ne_nil _ hne
    split
    · next hslash =>
      obtain ⟨cs, hcs⟩ := endsWith_iff.1 hslash
      have hcs' : directory.toList = cs ++ '/' :: [] := hcs.symm
      have hnames : namesOf (directory.toList ++ name.toList) =
          namesOf directory.toList ++ [name] := by
        rw [hcs', List.append_assoc, List.cons_append, List.nil_append, namesOf_append,
          namesOf_append, namesOf_plain hname]
        simp [namesOf]
      rw [parts_eq, parts_eq, String.toList_append, hhead, hnames]
      split
      · rfl
      · rfl
    · have hnames : namesOf (directory.toList ++ '/' :: name.toList) =
          namesOf directory.toList ++ [name] := by
        rw [namesOf_append, namesOf_plain hname]
      have htext : (directory ++ "/" ++ name).toList = directory.toList ++ '/' :: name.toList := by
        simp
      rw [parts_eq, parts_eq, htext, hhead, hnames]
      split
      · rfl
      · rfl

/-- **A joined path leads right below the directory.** -/
theorem location_join {name : String} (hname : IsPlain name) (directory : String) :
    location (join directory name) = location directory ++ [name] := by
  have hslash : name ≠ "/" := by
    rintro rfl
    exact hname.no_slash (by decide)
  rw [location, parts_join hname, List.foldl_append]
  simp only [List.foldl_cons, List.foldl_nil, FileTree.enter, if_neg hname.ne_dots, if_neg hslash]
  rfl

/-- What a joined path ends with from a slash on, the name ends there as well. -/
lemma suffix_of_suffix_join {name : String} (hname : IsPlain name) {directory : String}
    {rest : List Char} (hslash : '/' :: rest <:+ (join directory name).toList) :
    name.toList <:+ rest := by
  have hsuffix : name.toList <:+ (join directory name).toList := by
    rw [join]
    split
    · exact List.suffix_refl _
    · split
      · exact ⟨_, String.toList_append.symm⟩
      · exact ⟨_, String.toList_append.symm⟩
  rcases List.suffix_or_suffix_of_suffix hslash hsuffix with hin | hin
  · exact absurd (hin.mem List.mem_cons_self) hname.no_slash
  · rcases List.suffix_cons_iff.1 hin with heq | hrest
    · exact absurd (heq ▸ List.mem_cons_self) hname.no_slash
    · exact hrest

/-- A joined path may name a file. -/
lemma mustBeDirectory_join {name : String} (hname : IsPlain name) (directory : String) :
    mustBeDirectory (join directory name) = false := by
  have hne : name.toList ≠ [] := by simpa using hname.ne_empty
  rw [mustBeDirectory, Bool.or_eq_false_iff, ← Bool.not_eq_true, ← Bool.not_eq_true, endsWith_iff,
    endsWith_iff]
  constructor
  · intro hslash
    exact hne (List.suffix_nil.1 (suffix_of_suffix_join hname hslash))
  · intro hslash
    have hdot : name.toList <:+ ['.'] := suffix_of_suffix_join hname hslash
    rcases List.suffix_cons_iff.1 hdot with heq | hnil
    · exact hname.ne_dot (String.toList_inj.1 heq)
    · exact hne (List.suffix_nil.1 hnil)

end Path

end VoiceSteering
