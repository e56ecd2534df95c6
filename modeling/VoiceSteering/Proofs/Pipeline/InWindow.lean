/-
# Frames in memory and frames in lists

The packet program finds its frame between two addresses and computes the end of each access with
words that wrap.  The pipeline reaches no further than 94 octets into a frame, so nothing wraps when
there is room for that many octets between the start of the frame and the end of memory.  Then a frame
in memory and the list of its octets answer alike, and no access strays from the frame.
-/
import VoiceSteering.Memory
import VoiceSteering.Proofs.Frame.Window
import VoiceSteering.Proofs.Pipeline.Affinity
import VoiceSteering.Proofs.Pipeline.Reach

namespace VoiceSteering

open VoiceSteering.Frame (Access Octets Watched Window)

/-- The window `w` is the window `origin` with the octets `frame` in it; outside nothing changed. -/
structure Holds (origin w : Window) (frame : Octets) : Prop where
  start_eq : w.start = origin.start
  stop_eq : w.stop = origin.stop
  octets_eq : w.octets = frame
  outside : ∀ a, ¬origin.Covers a → w.memory a = origin.memory a

/-- The watched window `g` is the window `w`, with the ends of `origin` and a watcher who answers as
that of `watch` does. -/
structure Watches (origin : Window) (watch : Watched) (w : Window) (g : Watched) : Prop where
  start_eq : w.start = origin.start
  stop_eq : w.stop = origin.stop
  watched_eq : g = { watch with window := w }

section

variable {origin : Window} (hends : origin.start ≤ origin.stop)
  (hroom : origin.start.toNat + reach < 2 ^ 64)

include hends hroom

/-- A window that has kept its ends has room for every access within reach. -/
lemma room_of_ends_eq {w : Window} (hstart : w.start = origin.start)
    (hstop : w.stop = origin.stop) {k : ℕ} (hle : k ≤ reach) :
    w.start ≤ w.stop ∧ w.start.toNat + k < 2 ^ 64 := by
  rw [hstart, hstop]
  exact ⟨hends, by omega⟩

lemma alike_holds : Alike (Holds origin) where
  length_eq := by
    rintro w frame ⟨-, -, rfl, -⟩
    exact w.length_octets.symm
  load_eq := by
    rintro w frame offset n ⟨hstart, hstop, rfl, -⟩ hle
    obtain ⟨hends', hroom'⟩ := room_of_ends_eq hends hroom hstart hstop hle
    exact Window.load_eq hends' hroom'
  store := by
    rintro w frame offset n v ⟨hstart, hstop, rfl, houtside⟩ hle
    obtain ⟨hends', hroom'⟩ := room_of_ends_eq hends hroom hstart hstop hle
    rw [Window.store_eq hends' hroom']
    by_cases hfits : offset + n ≤ w.octets.length
    · have hstore : Access.store w.octets offset v = some (w.octets.overwrite offset v) :=
        Octets.store_eq_some v hfits
      rw [if_pos hfits, hstore]
      refine .some ⟨hstart, hstop, Window.octets_stored hroom' v, fun a ha => ?_⟩
      have ha' : ¬w.Covers a := by
        rw [Window.Covers, hstart, hstop]
        exact ha
      rw [Window.memory_stored_of_not_covers hroom' v hfits ha', houtside a ha]
    · have hstore : Access.store w.octets offset v = none := if_neg hfits
      rw [if_neg hfits, hstore]
      exact .none

/-- Nobody ever asks the watcher. -/
lemma alike_watches (watch : Watched) : Alike (Watches origin watch) where
  length_eq := by
    rintro w g ⟨-, -, rfl⟩
    rfl
  load_eq := by
    rintro w g offset n ⟨hstart, hstop, rfl⟩ hle
    obtain ⟨hends', hroom'⟩ := room_of_ends_eq hends hroom hstart hstop hle
    exact (if_neg (Window.not_strays hends' hroom')).symm
  store := by
    rintro w g offset n v ⟨hstart, hstop, rfl⟩ hle
    obtain ⟨hends', hroom'⟩ := room_of_ends_eq hends hroom hstart hstop hle
    have hstore : Access.store ({ watch with window := w } : Watched) offset v =
        (Access.store w offset v).map fun window => { watch with window } :=
      congrArg (Option.map _) (if_neg (Window.not_strays hends' hroom'))
    rw [hstore, Window.store_eq hends' hroom']
    split
    · exact .some ⟨hstart, hstop, rfl⟩
    · exact .none

end

/-- **A frame in memory is handled as the list of its octets is, and nothing but the frame is
touched.**  The verdict, the octets of the frame and the whole state after it, with its counters and
its rate records, are those of the list; the memory outside the frame is as before; and a watcher who
answers every access that leaves the frame, in whatever way, makes no difference. -/
theorem process_window {σ : Type} [Datapath σ] (settings : Settings) (w : Window) (state : σ)
    (hends : w.start ≤ w.stop) (hroom : w.start.toNat + 94 < 2 ^ 64) :
    let outcome := process settings w state
    let expected := process settings w.octets state
    outcome.verdict = expected.verdict ∧ outcome.frame.octets = expected.frame ∧
      outcome.state = expected.state ∧
      (outcome.frame.start = w.start ∧ outcome.frame.stop = w.stop ∧
        ∀ a, ¬w.Covers a → outcome.frame.memory a = w.memory a) ∧
      ∀ watch : Watched,
        let watched := process settings ({ watch with window := w } : Watched) state
        watched.verdict = outcome.verdict ∧ watched.frame.window = outcome.frame ∧
          watched.state = outcome.state := by
  intro outcome expected
  have hlist : Outcome.Alike (Holds w) outcome expected :=
    process_alike (alike_holds hends hroom) ⟨rfl, rfl, rfl, fun _ _ => rfl⟩ settings state
  obtain ⟨hstart, hstop, hoctets, houtside⟩ := hlist.frame
  refine ⟨hlist.verdict_eq, hoctets, hlist.state_eq, ⟨hstart, hstop, houtside⟩, fun watch => ?_⟩
  intro watched
  have hwatched : Outcome.Alike (Watches w watch) outcome watched :=
    process_alike (alike_watches hends hroom watch) ⟨rfl, rfl, rfl⟩ settings state
  refine ⟨hwatched.verdict_eq.symm, ?_, hwatched.state_eq.symm⟩
  rw [hwatched.frame.watched_eq]

/-- A window that holds a frame from an address on.  Everywhere else memory is full of ones. -/
def Frame.Window.placed (start : UInt64) (frame : Octets) : Window where
  memory a := frame[(a - start).toNat]?.getD 0xff
  start := start
  stop := start + UInt64.ofNat frame.length

/-- The frame lies as high in memory as the theorem allows. -/
theorem topmost_callDatagram :
    let settings : Settings := {}
    let slots : SlotTable := SlotTable.empty.setIfInBounds 4 { address := 0x0a000004, flags := 1 }
    let m : Memory := { slots := ⟨slots, SlotTable.empty⟩ }
    let w : Window := .placed 0xffffffffffffffa1 callDatagram
    w.start ≤ w.stop ∧ w.start.toNat + 94 < 2 ^ 64 ∧ w.octets = callDatagram ∧
      (process settings w m).verdict = .transmit ∧
      (process settings w m).frame.octets = (process settings callDatagram m).frame := by
  intro settings slots m w
  have hends : w.start ≤ w.stop := by decide
  have hroom : w.start.toNat + 94 < 2 ^ 64 := by decide
  have hoctets : w.octets = callDatagram := by decide
  obtain ⟨hverdict, hframe, -⟩ := process_window settings w m hends hroom
  rw [hoctets] at hverdict hframe
  have hsent : (process settings callDatagram m).verdict = .transmit := by decide
  exact ⟨hends, hroom, hoctets, hverdict.trans hsent, hframe⟩

end VoiceSteering
