/-
# Windows of one source

What a rate table says to a source depends on the source's own record only, and so does what a
sweep does to it.  In numbers: a window lasts until its length after it opened, both ends included;
within it requests are counted up to the limit, and the first later request opens the next one.  A
sweep only takes records whose window is over.  The answers need no particular table, only a
`LawfulStore`, which keeps what it is given.
-/
import VoiceSteering.Proofs.Rate.Records

namespace VoiceSteering.Rate

/-! ### One record -/

namespace Record

variable {r : Record} {limit : Limit} {now : UInt64}

lemma allow?_of_later (hlater : r.windowStart.toNat + limit.window.toNat < now.toNat) :
    r.allow? limit now = some (opened now) := by
  have hover : Saturating.sub now r.windowStart > limit.window := by
    rw [gt_iff_lt, UInt64.lt_iff_toNat_lt, Saturating.toNat_sub]
    omega
  rw [allow?, if_pos hover]

lemma allow?_of_within (hwithin : now.toNat ≤ r.windowStart.toNat + limit.window.toNat) :
    r.allow? limit now =
      if limit.requests ≤ r.count then none else some { r with count := r.count + 1 } := by
  have hopen : ¬Saturating.sub now r.windowStart > limit.window := by
    rw [gt_iff_lt, UInt64.lt_iff_toNat_lt, Saturating.toNat_sub]
    omega
  rw [allow?, if_neg hopen]

/-- A request is admitted by opening a window, or by counting it below the limit. -/
lemma allow?_cases {r' : Record} (hnext : r.allow? limit now = some r') :
    r' = opened now ∨ r.count < limit.requests ∧ r' = { r with count := r.count + 1 } := by
  rw [allow?] at hnext
  split at hnext
  · exact .inl (Option.some_inj.1 hnext).symm
  · split at hnext
    · exact absurd hnext (by simp)
    · next hfull => exact .inr ⟨UInt64.not_le.1 hfull, (Option.some_inj.1 hnext).symm⟩

/-- Below a limit the count does not wrap. -/
lemma toNat_count_succ (hcount : r.count < limit.requests) :
    (r.count + 1).toNat = r.count.toNat + 1 := by
  have hlt := UInt64.lt_iff_toNat_lt.1 hcount
  have hmax := limit.requests.toNat_lt
  rw [UInt64.toNat_add]
  exact Nat.mod_eq_of_lt (by change r.count.toNat + 1 < 2 ^ 64; omega)

/-- An expired record belongs to a window that is over. -/
lemma later_of_isExpired {window idleWindows : UInt64}
    (hexpired : r.isExpired now window idleWindows = true) :
    r.windowStart.toNat + window.toNat < now.toNat := by
  have hlt : Saturating.mul window (max idleWindows 1) < Saturating.sub now r.windowStart :=
    of_decide_eq_true hexpired
  rw [UInt64.lt_iff_toNat_lt, Saturating.toNat_mul, Saturating.toNat_sub] at hlt
  have hidle : 1 ≤ (max idleWindows 1).toNat := by
    change 1 ≤ (if idleWindows ≤ 1 then 1 else idleWindows).toNat
    split
    · exact Nat.le_refl 1
    · next hmany => exact Nat.le_of_not_le fun hfew => hmany (UInt64.le_iff_toNat_le.2 hfew)
  -- an idle time of no windows counts as one window
  have hwindow : window.toNat ≤ window.toNat * (max idleWindows 1).toNat :=
    Nat.le_mul_of_pos_right _ hidle
  have hsize := window.toNat_lt
  have hmax : UInt64.size - 1 = 2 ^ 64 - 1 := rfl
  omega

end Record

/-! ### One source -/

/-- What a source with a given record is told, with its record afterwards. -/
def respond (limit : Limit) (now : UInt64) : Option Record → Bool × Option Record
  | none => (true, some (.opened now))
  | some r =>
    match r.allow? limit now with
    | some r' => (true, some r')
    | none => (false, some r)

/-- Whoever asks has a record afterwards. -/
lemma respond_isSome (limit : Limit) (now : UInt64) (record : Option Record) :
    (respond limit now record).2.isSome = true := by
  cases record with
  | none => rfl
  | some r =>
    rw [respond]
    split
    · rfl
    · rfl

/-! ### Stores that keep what they are given -/

/-- A store that answers with the record written last. -/
class LawfulStore (τ : Type) [Store τ] : Prop where
  /-- A look-up changes no record of the source. -/
  lookup_lookup : ∀ (store : τ) (source : Address),
    (Store.lookup (Store.lookup store source).2 source).1 = (Store.lookup store source).1
  /-- A record that was found and overwritten is found as it was written. -/
  lookup_update : ∀ (store : τ) (source : Address) (r r' : Record),
    (Store.lookup store source).1 = some r →
      (Store.lookup (Store.update (Store.lookup store source).2 source r') source).1 = some r'
  /-- A record that the store took is found. -/
  lookup_insert : ∀ (store : τ) (source : Address) (r : Record),
    (Store.insert (Store.lookup store source).2 source r).1 = true →
      (Store.lookup (Store.insert (Store.lookup store source).2 source r).2 source).1 = some r

instance : LawfulStore Table where
  lookup_lookup _ _ := rfl
  lookup_update t source r r' hfind := by
    have hfind' : t.records.find? source = some r := hfind
    simp [Store.lookup, Store.update, Records.find?_replace, hfind']
  lookup_insert t source r htaken := by
    simp only [Store.lookup, Store.insert, Table.insert] at htaken ⊢
    split at htaken
    · exact absurd htaken Bool.false_ne_true
    · next hroom => simp [hroom, Records.find?_put]

/-- A store that keeps what it is given treats a source by its record. -/
lemma allow_eq_respond {τ : Type} [Store τ] [LawfulStore τ] (limit : Limit) (source : Address)
    (store : τ) (now : UInt64)
    (htaken : (Store.lookup store source).1 = none →
      (Store.insert (Store.lookup store source).2 source (.opened now)).1 = true) :
    (allow store source now limit).1 = (respond limit now (Store.lookup store source).1).1 ∧
      (Store.lookup (allow store source now limit).2 source).1 =
        (respond limit now (Store.lookup store source).1).2 := by
  cases hfind : Store.lookup store source with
  | mk record store' =>
    have hrepeat := LawfulStore.lookup_lookup store source
    have hupdate := LawfulStore.lookup_update store source
    have hinsert := LawfulStore.lookup_insert store source (.opened now)
    simp only [hfind] at htaken hrepeat hupdate hinsert
    cases record with
    | none =>
      simp only [allow, hfind, respond, true_and]
      exact hinsert (htaken rfl)
    | some r =>
      cases hnext : r.allow? limit now with
      | none =>
        simp only [allow, hfind, hnext, respond, true_and]
        exact hrepeat
      | some r' =>
        simp only [allow, hfind, hnext, respond, true_and]
        exact hupdate r r' rfl

/-! ### Tables -/

/-- A table that takes every new source, and in which no source occurs twice. -/
structure Table.Open (t : Table) : Prop where
  capacity_eq : t.capacity = none
  unique : t.records.Unique

variable {t : Table} {limit : Limit} {now : UInt64}

/-- The answer of a table, and the record it keeps of the source that asked, unless the table
refuses the source its first record. -/
lemma Table.allow_eq_respond (t : Table) (source : Address) (now : UInt64) (limit : Limit)
    (htaken : t.isFull = true → (t.records.find? source).isSome = true) :
    (allow t source now limit).1 = (respond limit now (t.records.find? source)).1 ∧
      (allow t source now limit).2.records.find? source =
        (respond limit now (t.records.find? source)).2 := by
  refine VoiceSteering.Rate.allow_eq_respond limit source t now fun hnew => ?_
  have hfind : t.records.find? source = none := hnew
  have hroom : t.isFull = false := by
    rw [← Bool.not_eq_true]
    intro hfull
    simpa [hfind] using htaken hfull
  simp [Store.insert, Store.lookup, Table.insert, hroom]

lemma Table.isFull_of_unlimited (hcapacity : t.capacity = none) : t.isFull = false := by
  rw [isFull, hcapacity]

lemma Table.Open.allow_eq (ht : t.Open) (source : Address) (now : UInt64) (limit : Limit) :
    (allow t source now limit).1 = (respond limit now (t.records.find? source)).1 ∧
      (allow t source now limit).2.records.find? source =
        (respond limit now (t.records.find? source)).2 :=
  t.allow_eq_respond source now limit fun hfull =>
    absurd (Table.isFull_of_unlimited ht.capacity_eq) (by simp [hfull])

/-- Other sources keep their records. -/
lemma find?_allow_of_ne (t : Table) {source other : Address} (hne : other ≠ source) :
    (allow t source now limit).2.records.find? other = t.records.find? other := by
  cases hfind : t.records.find? source with
  | none =>
    simp only [allow, Store.lookup, Store.insert, hfind, Table.insert]
    split
    · rfl
    · simp only [Records.find?_put, if_neg hne]
  | some r =>
    cases hnext : r.allow? limit now with
    | none => simp [allow, Store.lookup, hfind, hnext]
    | some r' =>
      simp [allow, Store.lookup, Store.update, hfind, hnext, Records.find?_replace, hne]

/-- A source is denied if its window is open and its record has reached the limit. -/
lemma allow_eq_false_iff {source : Address} :
    (allow t source now limit).1 = false ↔
      ∃ r, t.records.find? source = some r ∧
        now.toNat ≤ r.windowStart.toNat + limit.window.toNat ∧ limit.requests ≤ r.count := by
  cases hfind : t.records.find? source with
  | none => simp [allow, Store.lookup, hfind]
  | some r =>
    simp only [Option.some_inj, exists_eq_left']
    rcases Nat.lt_or_ge (r.windowStart.toNat + limit.window.toNat) now.toNat with hlater | hwithin
    · simp [allow, Store.lookup, hfind, Record.allow?_of_later hlater, Nat.not_le.2 hlater]
    · by_cases hfull : limit.requests ≤ r.count
      · simp [allow, Store.lookup, hfind, Record.allow?_of_within hwithin, hfull, hwithin]
      · simp [allow, Store.lookup, hfind, Record.allow?_of_within hwithin, hfull]

lemma Table.Open.allow (ht : t.Open) (source : Address) :
    (Rate.allow t source now limit).2.Open := by
  cases hfind : t.records.find? source with
  | none =>
    simp only [Rate.allow, Store.lookup, Store.insert, hfind, Table.insert]
    split
    · exact ht
    · exact ⟨ht.capacity_eq, ht.unique.put _ _⟩
  | some r =>
    cases hnext : r.allow? limit now with
    | none => simpa [Rate.allow, Store.lookup, hfind, hnext] using ht
    | some r' =>
      simp only [Rate.allow, Store.lookup, Store.update, hfind, hnext]
      exact ⟨ht.capacity_eq, ht.unique.replace _ _⟩

/-! ### Sweeps -/

lemma Table.foldl_erase (t : Table) (sources : List Address) :
    sources.foldl Table.erase t = { t with records := sources.foldl Records.erase t.records } := by
  induction sources generalizing t with
  | nil => rfl
  | cons source sources ih => exact ih (t.erase source)

lemma Table.Open.sweep (ht : t.Open) (now : UInt64) (policy : SweepPolicy) :
    (t.sweep now policy).2.Open := by
  simp only [Table.sweep, Table.foldl_erase]
  exact ⟨ht.capacity_eq, ht.unique.foldl_erase _⟩

/-- A sweep treats every source by its own record. -/
lemma Table.Open.find?_sweep (ht : t.Open) (now : UInt64) (policy : SweepPolicy)
    (source : Address) :
    (t.sweep now policy).2.records.find? source =
      (t.records.find? source).filter
        fun r => !r.isExpired now policy.window policy.idleWindows := by
  simp only [Table.sweep, Table.foldl_erase]
  exact ht.unique.find?_sweep now policy source

end VoiceSteering.Rate
