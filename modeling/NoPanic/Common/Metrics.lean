/-
# Activity events

The event buffer that the services share. It keeps the newest events up to a capacity,
each with the time since the buffer was made, behind a lock; a poisoned lock makes a push do
nothing and a snapshot empty. Times are readings of the clock in nanoseconds.

A buffer that is only pushed to holds the end of all that was pushed. `EventBuffer.holding`
names the buffer by that whole list, so that what a run does to a buffer is said on lists.
The module also has the texts of times and sizes in an event.
-/

import NoPanic.Math.Numeral
import NoPanic.Math.Window

namespace NoPanic

open NoPanic.Math

universe u v

/-- Data behind a lock, which a panic of its holder poisons. -/
structure Mutex (α : Type u) where
  data : α
  poisoned : Bool

/-- A fresh lock. -/
def Mutex.new {α : Type u} (data : α) : Mutex α := ⟨data, false⟩

/-- What the lock gives access to, unless it is poisoned. -/
def Mutex.lock {α : Type u} (m : Mutex α) : Option α := if m.poisoned then none else some m.data

/-- A timestamped event. -/
structure TuiEvent (E : Type u) where
  elapsed : Nat
  kind : E

/-- What an event buffer locks. -/
structure EventBufferInner (E : Type u) where
  events : List (TuiEvent E)
  capacity : Nat
  startTime : Nat

/-- A ring buffer of events. -/
structure EventBuffer (E : Type u) where
  inner : Mutex (EventBufferInner E)

namespace EventBuffer

variable {E : Type u}

/-- An empty buffer. -/
def new (capacity now : Nat) : EventBuffer E :=
  ⟨Mutex.new { events := [], capacity, startTime := now }⟩

/-- Push a new event, dropping the oldest if at capacity. -/
def push (b : EventBuffer E) (kind : E) (now : Nat) : EventBuffer E :=
  match b.inner.lock with
  | none => b
  | some inner =>
      let elapsed := now - inner.startTime
      let events := if inner.capacity ≤ inner.events.length then inner.events.tail
        else inner.events
      ⟨{ b.inner with data := { inner with events := events ++ [⟨elapsed, kind⟩] } }⟩

/-- All events of the buffer through a function. -/
def snapshot {T : Type v} (b : EventBuffer E) (mapFn : TuiEvent E → T) : List T :=
  match b.inner.lock with
  | none => []
  | some inner => inner.events.map mapFn

/-- Push events in their order, each at its reading of the clock. -/
def pushAll (b : EventBuffer E) (pushes : List (Nat × E)) : EventBuffer E :=
  pushes.foldl (fun b p => b.push p.2 p.1) b

/-- The buffer that was made at `startTime` and has had all of `events` pushed. -/
def holding (capacity startTime : Nat) (events : List (TuiEvent E)) : EventBuffer E :=
  ⟨Mutex.new { events := events.rtake capacity, capacity, startTime }⟩

/-- The event of a push. -/
def event (startTime : Nat) (p : Nat × E) : TuiEvent E := ⟨p.1 - startTime, p.2⟩

variable {capacity startTime : Nat} {events : List (TuiEvent E)}

theorem new_eq_holding : (new capacity startTime : EventBuffer E) =
    holding capacity startTime [] := by
  rw [holding, List.rtake_nil, new]

/-- One more event. -/
theorem push_holding (hcapacity : 1 ≤ capacity) (kind : E) (now : Nat) :
    (holding capacity startTime events).push kind now =
      holding capacity startTime (events ++ [⟨now - startTime, kind⟩]) := by
  rw [holding, holding, ← pushBounded_rtake hcapacity]
  rfl

/-- All events of a sequence of pushes. -/
theorem pushAll_holding (hcapacity : 1 ≤ capacity) (pushes : List (Nat × E)) :
    (holding capacity startTime events).pushAll pushes =
      holding capacity startTime (events ++ pushes.map (event startTime)) := by
  induction pushes generalizing events with
  | nil => rw [pushAll, List.foldl_nil, List.map_nil, List.append_nil]
  | cons p rest ih =>
      have hrest : ((holding capacity startTime events).push p.2 p.1).pushAll rest =
          holding capacity startTime (events ++ (p :: rest).map (event startTime)) := by
        rw [push_holding hcapacity, ih, List.append_assoc, List.singleton_append]
        rfl
      exact hrest

/-- A snapshot shows the newest events in the order they were pushed. -/
@[simp]
theorem snapshot_holding {T : Type v} (mapFn : TuiEvent E → T) :
    (holding capacity startTime events).snapshot mapFn = (events.rtake capacity).map mapFn := rfl

/-! ## A new buffer after some pushes -/

/-- The clock does not go back between pushes. -/
def ClockMonotone (pushes : List (Nat × E)) : Prop := (pushes.map Prod.fst).Pairwise (· ≤ ·)

/-- A new buffer after some pushes. -/
theorem pushAll_new (hcapacity : 1 ≤ capacity) (startTime : Nat) (pushes : List (Nat × E)) :
    (new capacity startTime).pushAll pushes =
      holding capacity startTime (pushes.map (event startTime)) := by
  rw [new_eq_holding, pushAll_holding hcapacity, List.nil_append]

/-- A snapshot of it, said of the pushes themselves. -/
theorem snapshot_pushAll_new {T : Type v} (hcapacity : 1 ≤ capacity) (startTime : Nat)
    (pushes : List (Nat × E)) (mapFn : TuiEvent E → T) :
    ((new capacity startTime).pushAll pushes).snapshot mapFn =
      (pushes.rtake (min pushes.length capacity)).map fun p => mapFn (event startTime p) := by
  rw [pushAll_new hcapacity, snapshot_holding, rtake_min_length, rtake_map, List.map_map]
  rfl

/-- The elapsed times that it shows never decrease. -/
theorem pairwise_elapsed (hcapacity : 1 ≤ capacity) (startTime : Nat) {pushes : List (Nat × E)}
    (hclock : ClockMonotone pushes) :
    (((new capacity startTime).pushAll pushes).snapshot TuiEvent.elapsed).Pairwise (· ≤ ·) := by
  rw [snapshot_pushAll_new hcapacity, List.pairwise_map]
  rw [ClockMonotone, List.pairwise_map] at hclock
  have hnewest := hclock.sublist (rtake_suffix pushes (min pushes.length capacity)).sublist
  exact hnewest.imp fun hle => Nat.sub_le_sub_right hle startTime

end EventBuffer

/-! ## Texts -/

/-- Nanoseconds in a second. -/
def nanosPerSec : Nat := 1000000000

/-- The whole seconds of a duration. -/
def asSecs (d : Nat) : Nat := d / nanosPerSec

/-- At least two decimal digits. -/
def twoDigits (n : Nat) : String := String.ofList ((Nat.toDigits 10 n).leftpad 2 '0')

/-- A duration as an offset of hours, minutes and seconds. -/
def formatTimestamp (d : Nat) : String :=
  let secs := asSecs d
  let h := secs / 3600
  let m := secs % 3600 / 60
  let s := secs % 60
  "+" ++ decimal h ++ ":" ++ twoDigits m ++ ":" ++ twoDigits s

example : formatTimestamp (3912 * nanosPerSec) = "+1:05:12" := by decide

/-- A quotient rounded to the nearest integer, a tie to the even one. -/
def divRound (n d : Nat) : Nat :=
  let q := n / d
  if 2 * (n % d) < d ∨ 2 * (n % d) = d ∧ q % 2 = 0 then q else q + 1

/-- The value of an integer as a 64-bit float, which has 53 significant bits. -/
def toF64 (n : UInt64) : Nat :=
  let ulp := 2 ^ (n.toNat.log2 - 52)
  divRound n.toNat ulp * ulp

/-- A quotient by a power of two with one decimal. -/
def oneDecimal (n unit : Nat) : String :=
  let tenths := divRound (10 * n) unit
  decimal (tenths / 10) ++ "." ++ decimal (tenths % 10)

/-- A byte count as text. Dividing a float by these units is exact, so that only the
conversion and the decimal round. -/
def formatBytes (bytes : UInt64) : String :=
  let kb : UInt64 := 1024
  let mb : UInt64 := 1024 * kb
  let gb : UInt64 := 1024 * mb
  if gb ≤ bytes then oneDecimal (toF64 bytes) gb.toNat ++ " GB"
  else if mb ≤ bytes then oneDecimal (toF64 bytes) mb.toNat ++ " MB"
  else if kb ≤ bytes then oneDecimal (toF64 bytes) kb.toNat ++ " KB"
  else decimal bytes.toNat ++ " B"

example : formatBytes 512 = "512 B" ∧ formatBytes 1536 = "1.5 KB" := by decide

end NoPanic
