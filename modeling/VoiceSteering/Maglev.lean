/-
# Maglev look-up tables

Every usable backend of a pool prefers the entries of the table in an order of its own, an
arithmetic progression modulo the prime table size whose start and step are hashes of the
backend's address and port.  The usable backends take turns in slot order, and each turn claims
the first entry of the backend's progression that is still free, until the table is full.

A turn keeps a cursor per backend: the entries before the cursor are known to be taken, so the
search goes on from there.
-/
import VoiceSteering.Backend

namespace VoiceSteering.Maglev

/-! ## Hashes -/

/-- FNV-1a over some octets, from a given starting value. -/
def fnv (start : UInt64) (bytes : List UInt8) : UInt64 :=
  bytes.foldl (fun h b => (h ^^^ b.toUInt64) * 0x100000001b3) start

/-- Spreads the low bits, in which FNV-1a leaves neighbouring addresses correlated. -/
def spread (h : UInt64) : UInt64 :=
  let h := (h ^^^ (h >>> 33)) * 0xff51afd7ed558ccd
  h ^^^ (h >>> 33)

/-- The starting value of FNV-1a. -/
def fnvStart : UInt64 := 0xcbf29ce484222325

/-- The hash of a backend's address and port under a seed. -/
def hash (seed : UInt64) (b : Backend) : UInt64 :=
  spread (fnv (fnvStart ^^^ seed)
    ((Frame.octets32 b.address).toList ++ (Frame.octets16 b.port).toList))

/-! ## Preferences -/

/-- A backend that claims entries, with its progression and its cursor. -/
structure Claimant where
  slot : Nat
  /-- The first preference. -/
  offset : Nat
  /-- The step from one preference to the next. -/
  skip : Nat
  /-- The number of preferences already tried. -/
  next : Nat
deriving DecidableEq, Repr

/-- The claimant of a slot, before its first turn. -/
def Claimant.ofBackend (slot : Nat) (b : Backend) : Claimant where
  slot := slot
  offset := (hash 0 b).toNat % maglevSize
  skip := (hash 0x9e3779b97f4a7c15 b).toNat % (maglevSize - 1) + 1
  next := 0

/-- The `j`-th preference. -/
def Claimant.preference (c : Claimant) (j : Nat) : Nat := (c.offset + j * c.skip) % maglevSize

theorem Claimant.preference_lt (c : Claimant) (j : Nat) : c.preference j < maglevSize :=
  Nat.mod_lt _ (by decide)

/-- The claimants of a pool, in slot order. -/
def claimants (backends : List Backend) : List Claimant :=
  (backends.mapIdx fun slot b => (slot, b)).filterMap fun (slot, b) =>
    if b.isUsable then some (.ofBackend slot b) else none

/-! ## The table -/

/-- A look-up table. -/
abbrev Table := Vector UInt32 4099

/-- The table without assigned entries. -/
def Table.blank : Table := Vector.replicate 4099 maglevEmpty

/-- The table of zeros, which names slot 0 everywhere. -/
def Table.zeroed : Table := Vector.replicate 4099 0

/-- The first free preference from the cursor on, with the cursor moved past it.  The search
tries at most `fuel + 1` preferences; one round through the table is always enough. -/
def seek (isFree : Nat → Bool) : (fuel : Nat) → Claimant → Nat × Claimant
  | 0, c => (c.preference c.next, { c with next := c.next + 1 })
  | fuel + 1, c =>
    if isFree (c.preference c.next) then (c.preference c.next, { c with next := c.next + 1 })
    else seek isFree fuel { c with next := c.next + 1 }

/-- The state of a fill: the table so far and the claimants with their cursors. -/
structure Fill where
  table : Table
  claimants : Array Claimant

/-- Turn number `k`: the claimants go round in slot order, so it is the turn of the one at
position `k` modulo their number. -/
def Fill.turn (fill : Fill) (k : Nat) : Fill :=
  let i := k % fill.claimants.size
  match fill.claimants[i]? with
  | none => fill
  | some c =>
    let (entry, c) := seek (fun e => fill.table[e]? == some maglevEmpty) maglevSize c
    { table := fill.table.setIfInBounds entry (UInt32.ofNat c.slot)
      claimants := fill.claimants.setIfInBounds i c }

/-- The fill after a number of turns. -/
def Fill.after (start : Fill) (turns : Nat) : Fill :=
  (List.range turns).foldl Fill.turn start

/-- The look-up table of a list of backends. -/
def buildTable (backends : List Backend) : Table :=
  (Fill.after ⟨Table.blank, (claimants backends).toArray⟩ maglevSize).table

/-! ## Summaries -/

/-- How often each entry occurs, in ascending order of the entries. -/
def Table.counts (t : Table) : List (UInt32 × Nat) :=
  let entries := t.toList.mergeSort (· ≤ ·)
  (entries.foldl (fun groups e =>
    match groups with
    | (e', n) :: rest => if e = e' then (e, n + 1) :: rest else (e, 1) :: groups
    | [] => [(e, 1)]) []).reverse

/-- FNV-1a over all entries, each as four octets. -/
def Table.fingerprint (t : Table) : UInt64 :=
  t.toList.foldl (fun h e => fnv h (Frame.octets32 e).toList) fnvStart

end VoiceSteering.Maglev
