/-
# Rate records

The records of all sources behave like a map.  No source occurs twice, so what a sweep removes is
exactly the records that are expired, and what it does to one source depends on that source's own
record only.
-/
import Mathlib.Tactic.Common
import VoiceSteering.Rate.Sweep

namespace VoiceSteering.Rate

namespace Records

/-! ### Look-ups -/

lemma find?_cons (a : Address) (r : Record) (rs : Records) (source : Address) :
    find? ((a, r) :: rs) source = if a = source then some r else rs.find? source := rfl

lemma find?_append (rs rs' : Records) (source : Address) :
    find? (rs ++ rs') source = (rs.find? source).or (rs'.find? source) := by
  induction rs with
  | nil => rfl
  | cons entry rs ih =>
    obtain ⟨a, r⟩ := entry
    rw [List.cons_append, find?_cons, find?_cons, ih]
    split
    · rfl
    · rfl

lemma find?_eq_none_iff {rs : Records} {source : Address} :
    rs.find? source = none ↔ source ∉ rs.map Prod.fst := by
  induction rs with
  | nil => simp [find?]
  | cons entry rs ih =>
    obtain ⟨a, r⟩ := entry
    rw [find?_cons, List.map_cons, List.mem_cons, not_or, ← ih]
    rcases eq_or_ne a source with rfl | hne
    · simp
    · simp [hne, hne.symm]

lemma find?_replace (rs : Records) (source other : Address) (r : Record) :
    (rs.replace source r).find? other =
      if other = source then (rs.find? source).map fun _ => r else rs.find? other := by
  induction rs with
  | nil => simp [replace, find?]
  | cons entry rs ih =>
    obtain ⟨a, r'⟩ := entry
    have hcons : replace ((a, r') :: rs) source r =
        (if a = source then (source, r) else (a, r')) :: replace rs source r := rfl
    rw [hcons]
    rcases eq_or_ne a source with rfl | ha
    · rw [if_pos rfl, find?_cons, find?_cons, find?_cons, ih, if_pos rfl]
      rcases eq_or_ne other a with rfl | hother
      · simp
      · simp [hother, hother.symm]
    · rw [if_neg ha, find?_cons, find?_cons, find?_cons, ih, if_neg ha]
      rcases eq_or_ne other source with rfl | hother
      · simp [ha]
      · simp [hother]

lemma find?_put (rs : Records) (source other : Address) (r : Record) :
    (rs.put source r).find? other = if other = source then some r else rs.find? other := by
  rw [put]
  split
  · next hsome =>
    obtain ⟨r', hr'⟩ := Option.isSome_iff_exists.1 hsome
    rw [find?_replace, hr', Option.map_some]
  · next hnone =>
    rw [Option.not_isSome_iff_eq_none] at hnone
    rw [find?_append, find?_cons]
    rcases eq_or_ne other source with rfl | hne
    · simp [hnone]
    · simp [hne, hne.symm, find?]

lemma find?_foldl_erase (sources : List Address) (rs : Records) (source : Address) :
    (sources.foldl erase rs).find? source =
      if source ∈ sources then none else rs.find? source := by
  induction sources generalizing rs with
  | nil => simp
  | cons a sources ih =>
    rw [List.foldl_cons, ih, find?_erase]
    rcases eq_or_ne source a with rfl | hne
    · simp
    · simp [hne]

/-! ### No source occurs twice -/

/-- No source occurs twice. -/
def Unique (rs : Records) : Prop := (rs.map Prod.fst).Nodup

variable {rs : Records}

lemma map_fst_replace (rs : Records) (source : Address) (r : Record) :
    (rs.replace source r).map Prod.fst = rs.map Prod.fst := by
  rw [Records.replace, List.map_map]
  refine List.map_congr_left fun entry _ => ?_
  rw [Function.comp_apply]
  split
  · next h => exact h.symm
  · rfl

lemma Unique.replace (hrs : rs.Unique) (source : Address) (r : Record) :
    (rs.replace source r).Unique := by
  rw [Unique, map_fst_replace]
  exact hrs

lemma Unique.put (hrs : rs.Unique) (source : Address) (r : Record) :
    (rs.put source r).Unique := by
  rw [Records.put]
  split
  · exact hrs.replace source r
  · next hnone =>
    rw [Option.not_isSome_iff_eq_none, find?_eq_none_iff] at hnone
    rw [Unique, List.map_append, List.map_cons, List.map_nil, List.nodup_append]
    refine ⟨hrs, List.pairwise_singleton _ _, fun a ha b hb => ?_⟩
    obtain rfl : b = source := List.mem_singleton.1 hb
    rintro rfl
    exact hnone ha

lemma Unique.erase (hrs : rs.Unique) (source : Address) : (rs.erase source).Unique :=
  hrs.sublist (List.filter_sublist.map Prod.fst)

lemma Unique.foldl_erase (hrs : rs.Unique) (sources : List Address) :
    Unique (sources.foldl Records.erase rs) := by
  induction sources generalizing rs with
  | nil => exact hrs
  | cons source sources ih => exact ih (hrs.erase source)

lemma Unique.mem_iff (hrs : rs.Unique) {source : Address} {r : Record} :
    (source, r) ∈ rs ↔ rs.find? source = some r := by
  induction rs with
  | nil => simp [find?]
  | cons entry rs ih =>
    obtain ⟨a, r'⟩ := entry
    rw [Unique, List.map_cons, List.nodup_cons] at hrs
    rw [find?_cons, List.mem_cons, ih hrs.2]
    rcases eq_or_ne a source with rfl | hne
    · rw [find?_eq_none_iff.2 hrs.1]
      simp [eq_comm]
    · simp [hne, hne.symm]

/-! ### Sweeps -/

lemma Unique.mem_expiredSources (hrs : rs.Unique) (now : UInt64) (policy : SweepPolicy)
    (source : Address) :
    source ∈ expiredSources rs now policy ↔
      ∃ r, rs.find? source = some r ∧
        r.isExpired now policy.window policy.idleWindows = true := by
  simp only [expiredSources, List.mem_map, List.mem_filter, Prod.exists]
  constructor
  · rintro ⟨a, r, ⟨hmem, hexpired⟩, rfl⟩
    exact ⟨r, hrs.mem_iff.1 hmem, hexpired⟩
  · rintro ⟨r, hfind, hexpired⟩
    exact ⟨source, r, ⟨hrs.mem_iff.2 hfind, hexpired⟩, rfl⟩

/-- After a sweep a source has its record if it is not expired. -/
theorem Unique.find?_sweep (hrs : rs.Unique) (now : UInt64) (policy : SweepPolicy)
    (source : Address) :
    ((expiredSources rs now policy).foldl Records.erase rs).find? source =
      (rs.find? source).filter fun r => !r.isExpired now policy.window policy.idleWindows := by
  rw [find?_foldl_erase]
  cases hfind : rs.find? source with
  | none => simp
  | some r =>
    have hmem := hrs.mem_expiredSources now policy source
    rw [hfind] at hmem
    rw [Option.filter_some]
    cases hexpired : r.isExpired now policy.window policy.idleWindows with
    | true => simp [hmem.2 ⟨r, rfl, hexpired⟩]
    | false =>
      have hkept : source ∉ expiredSources rs now policy := by
        rw [hmem]
        rintro ⟨r', hr', hexpired'⟩
        obtain rfl := Option.some_inj.1 hr'
        rw [hexpired] at hexpired'
        exact Bool.noConfusion hexpired'
      simp [hkept]

end Records

end VoiceSteering.Rate
