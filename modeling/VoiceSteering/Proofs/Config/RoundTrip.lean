/-
# Configurations read back from JSON

Whatever a configuration is, valid or not, its JSON form is read as that configuration.  Each reader
is taken together with the writer that it undoes: `Undoes read write`.  Lists, optional values and
sections undo what is written if the readers of their elements and members do.
-/
import Mathlib.Tactic.Common
import VoiceSteering.Config.Json
import VoiceSteering.Proofs.Net.Address
import VoiceSteering.Proofs.Net.Mac

namespace VoiceSteering.Config

open Json (Value)

/-- Whatever value is written, the reader finds it. -/
def Undoes {α : Type} (read : Reader α) (write : α → Value) : Prop :=
  ∀ a, read .json (.ofJson (write a)) = .ok a

/-! ### Plain values -/

lemma readWord_word {bound n : ℕ} (hn : n < bound) (name : String) :
    readWord bound name .json (.ofJson (word n)) = .ok n := by
  have hrange : (0 : ℤ) ≤ n ∧ (n : ℤ) < bound := ⟨Int.natCast_nonneg n, Int.ofNat_lt.2 hn⟩
  show readWord bound name .json (.integer n) = .ok n
  rw [readWord]
  exact if_pos hrange

lemma undoes_word {ω : Type} {bound : ℕ} {name : String} {toNat : ω → ℕ} {ofNat : ℕ → ω}
    (hlt : ∀ w, toNat w < bound) (hofNat : ∀ w, ofNat (toNat w) = w) :
    Undoes (fun dialect d => ofNat <$> readWord bound name dialect d) fun w => word (toNat w) :=
  fun w => by
    show ofNat <$> readWord bound name .json (.ofJson (word (toNat w))) = .ok w
    rw [readWord_word (hlt w)]
    exact congrArg Except.ok (hofNat w)

lemma undoes_word8 : Undoes readWord8 fun w => word w.toNat :=
  undoes_word UInt8.toNat_lt fun _ => UInt8.ofNat_toNat

lemma undoes_word16 : Undoes readWord16 fun w => word w.toNat :=
  undoes_word UInt16.toNat_lt fun _ => UInt16.ofNat_toNat

lemma undoes_word32 : Undoes readWord32 fun w => word w.toNat :=
  undoes_word UInt32.toNat_lt fun _ => UInt32.ofNat_toNat

lemma undoes_word64 : Undoes readWord64 fun w => word w.toNat :=
  undoes_word UInt64.toNat_lt fun _ => UInt64.ofNat_toNat

lemma undoes_bool : Undoes readBool .bool := fun _ => rfl

lemma undoes_address : Undoes readAddress fun a => .string (Address.render a) := fun a => by
  show readAddress .json (.string (Address.render a)) = .ok a
  rw [readAddress, Address.read?_render]

lemma undoes_mac : Undoes readMac fun m => .string m.render := fun m => by
  show readMac .json (.string m.render) = .ok m
  rw [readMac, Mac.read_render]

/-- The name of an alternative chooses it if no alternative before it has the name. -/
lemma undoes_choice {α : Type} {variants : List (String × α)} {name : α → String}
    (hname : ∀ a, variants.lookup (name a) = some a) :
    Undoes (readChoice variants) fun a => .string (name a) := fun a => by
  show readVariant variants (name a) = .ok a
  rw [readVariant, hname]

/-! ### Composite values -/

section Composite

variable {α : Type} {read : Reader α} {write : α → Value}

/-- Null is left to the value that is not there. -/
lemma Undoes.optional (hread : Undoes read write) (hnull : ∀ a, Datum.ofJson (write a) ≠ .null) :
    Undoes (readOptional read) (.ofOption write) := by
  rintro (_ | a)
  · rfl
  · rw [Value.ofOption, readOptional, hread a]
    · rfl
    · exact hnull a

lemma Datum.ofElements_eq_map (vs : List Value) : Datum.ofElements vs = vs.map Datum.ofJson := by
  induction vs with
  | nil => rfl
  | cons v vs ih => exact congrArg (Datum.ofJson v :: ·) ih

lemma Undoes.list (hread : Undoes read write) : Undoes (readList read) (.ofList write) := fun as => by
  have hread' : ∀ a, read .json (.ofJson (write a)) = pure a := hread
  show (Datum.ofElements (as.map write)).mapM (read .json) = .ok as
  rw [Datum.ofElements_eq_map, List.map_map, List.mapM_map]
  simp only [Function.comp_def, hread']
  rw [List.mapM_pure, List.map_id']
  rfl

end Composite

/-! ### Sections -/

section Sections

variable {δ α β : Type} {s : Section δ α}

/-- A written member changes the draft of a section. -/
def Section.Takes (s : Section δ α) (m : String × Value) (change : δ → δ) : Prop :=
  ∀ draft, s.readMember .json draft (m.1, .ofJson m.2) = .ok (change draft)

/-- The value of a member is put into the draft if the reader of that name undoes its writer. -/
lemma Undoes.member {read : Reader β} {write : β → Value} (hread : Undoes read write) (b : β)
    {name : String} {put : β → δ → δ}
    (hmember : s.members.find? (·.name == name) = some (member name read put)) :
    s.Takes (name, write b) (put b) := fun draft => by
  rw [Section.readMember, hmember]
  show (put · draft) <$> read .json (.ofJson (write b)) = _
  rw [hread b]
  rfl

/-- The members of an object change the draft in the order in which they are written, which need not
be that of the section. -/
lemma foldlM_readMember {ms : List (String × Value)} {changes : List (δ → δ)}
    (htakes : List.Forall₂ s.Takes ms changes) (draft : δ) :
    (Datum.ofMembers ms).foldlM (s.readMember .json) draft =
      .ok (changes.foldl (fun draft change => change draft) draft) := by
  induction htakes generalizing draft with
  | nil => rfl
  | @cons m change ms changes hm _ ih =>
    have hcons : Datum.ofMembers (m :: ms) = (m.1, .ofJson m.2) :: Datum.ofMembers ms := rfl
    rw [hcons, List.foldlM_cons, hm draft]
    exact ih (change draft)

/-- A section is read from an object that has a value for it member by member. -/
lemma Section.read_object {ms : List (String × Value)} {changes : List (δ → δ)}
    (htakes : List.Forall₂ s.Takes ms changes) {a : α}
    (hfinish : s.finish (changes.foldl (fun draft change => change draft) s.blank) = .ok a) :
    s.read .json (.ofJson (.object ms)) = .ok a := by
  have hread : s.read .json (.ofJson (.object ms)) =
      s.readTable .json (Datum.ofMembers ms) := rfl
  rw [hread, Section.readTable, foldlM_readMember htakes]
  simp only [bind, Except.bind, hfinish]
  rfl

end Sections

/-! ### The configuration -/

lemma undoes_ports : Undoes portsSection.read Ports.toJson := fun p =>
  Section.read_object
    (.cons (undoes_word16.member p.api rfl) <|
      .cons (undoes_word16.member p.mediaEnd rfl) <|
      .cons (undoes_word16.member p.mediaStart rfl) <|
      .cons (undoes_word16.member p.signaling rfl) <|
      .cons (undoes_word16.member p.signalingTls rfl) .nil)
    rfl

lemma undoes_rateLimit : Undoes rateLimitSection.read RateLimit.toJson := fun r =>
  Section.read_object
    (.cons (undoes_word64.member r.requestsPerWindow rfl) <|
      .cons (undoes_word64.member r.sweepIdleWindows rfl) <|
      .cons (undoes_word64.member r.sweepIntervalSecs rfl) <|
      .cons (undoes_word32.member r.tableCapacity rfl) <|
      .cons (undoes_word64.member r.windowMs rfl) .nil)
    rfl

lemma undoes_selectorMode : Undoes (readChoice selectorNames) fun m => .string m.name :=
  undoes_choice fun m => by cases m <;> rfl

lemma undoes_selection : Undoes selectionSection.read Selection.toJson := fun s =>
  Section.read_object
    (.cons (undoes_word8.member s.apiSlots rfl) <|
      .cons (undoes_selectorMode.member s.mode rfl) <|
      .cons (undoes_word8.member s.signalingSlots rfl) .nil)
    rfl

lemma undoes_reporting : Undoes reportingSection.read Reporting.toJson := fun r =>
  Section.read_object (.cons (undoes_word64.member r.intervalSecs rfl) .nil) rfl

lemma undoes_checks : Undoes checksSection.read Checks.toJson := fun c =>
  Section.read_object
    (.cons (undoes_bool.member c.enabled rfl) <|
      .cons (undoes_word8.member c.healthyThreshold rfl) <|
      .cons (undoes_word64.member c.intervalSecs rfl) <|
      .cons (undoes_word64.member c.timeoutMs rfl) <|
      .cons (undoes_word8.member c.unhealthyThreshold rfl) .nil)
    rfl

/-- A backend is complete: its address and its port are always written. -/
lemma undoes_entry : Undoes entrySection.read Entry.toJson := fun e =>
  Section.read_object
    (.cons (undoes_address.member e.address rfl) <|
      .cons ((undoes_mac.optional nofun).member e.mac rfl) <|
      .cons (undoes_word16.member e.port rfl) <|
      .cons ((undoes_word32.optional nofun).member e.slot rfl) <|
      .cons (undoes_word16.member e.weight rfl) .nil)
    rfl

lemma undoes_checksumMode : Undoes (readChoice checksumNames) fun m => .string m.name :=
  undoes_choice fun m => by cases m <;> rfl

/-- **The round trip.**  Every configuration is read back from its JSON form as it was: whatever its
numbers, modes and backends are, and whether or not it would be accepted. -/
theorem ofJson_toJson (c : Config) : ofJson c.toJson = .ok c :=
  Section.read_object
    (.cons (undoes_entry.list.member c.apiBackends rfl) <|
      .cons (undoes_checksumMode.member c.checksum rfl) <|
      .cons (undoes_checks.member c.checks rfl) <|
      .cons (undoes_ports.member c.ports rfl) <|
      .cons (undoes_rateLimit.member c.rateLimit rfl) <|
      .cons (undoes_selection.member c.selection rfl) <|
      .cons (undoes_entry.list.member c.signalingBackends rfl) <|
      .cons (undoes_reporting.member c.reporting rfl) .nil)
    rfl

end VoiceSteering.Config
