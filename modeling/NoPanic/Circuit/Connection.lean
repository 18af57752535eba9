/-
# A connection, byte by byte

The tasks of a party write cells to a connection, each under the lock of its write half, and one
task of the other party reads them. `write_all` hands the bytes of a cell over in pieces, the
network brings them in other pieces, and `read_exact` collects them until it has as many as a
cell. A write may fail when a part of its cell is gone.

Elsewhere a connection is a `Wire`, to which whole cells are written one after the other, and an
inbox from which they are read. `simulation` shows that the connection of bytes does nothing else:
a cell is written when the stream takes its last byte, and it is read when `from_stream` returns.
-/

import NoPanic.Circuit.WireOrder
import NoPanic.Common.Codec
import NoPanic.Math.Framing
import NoPanic.Math.TransitionSystem

namespace NoPanic

open NoPanic.Math

universe u

/-! ## Cells -/

/-- A connection of whole cells: those written, whether the write half has been dropped, those that
are still to be read, and what the reader has been given. -/
structure CellLink where
  wire : Wire
  closed : Bool
  inbox : List Message
  results : List (Except ReadError (Option Message))
  reading : Bool
  deriving DecidableEq, Repr

/-- What happens on a connection of cells. -/
inductive CellEvent
  | writes (msg : Message) (stream : Except String Unit)
  | closes
  | reads
  | ends
  | breaks (e : String)
  deriving DecidableEq, Repr

namespace CellLink

/-- A new connection. -/
def start : CellLink := ⟨⟨[], true⟩, false, [], [], true⟩

/-- One step. Cells are written while the connection is up and open. The reader gets the next cell,
or is told that there will be no more, or meets an error; the last two end its reading. -/
inductive Step : CellLink → CellEvent → CellLink → Prop
  | writes {l : CellLink} {msg : Message} (hfits : msg.data.length ≤ maxPayloadSize)
      (hup : l.wire.up = true) (hopen : l.closed = false) :
      Step l (.writes msg (.ok ()))
        { l with wire := (l.wire.write msg (.ok ())).1, inbox := l.inbox ++ [msg] }
  | fails {l : CellLink} {msg : Message} (e : String)
      (hfits : msg.data.length ≤ maxPayloadSize) :
      Step l (.writes msg (.error e)) { l with wire := (l.wire.write msg (.error e)).1 }
  | closes {l : CellLink} : Step l .closes { l with closed := true }
  | reads {l : CellLink} {msg : Message} {rest : List Message} (hreading : l.reading = true)
      (hinbox : l.inbox = msg :: rest) :
      Step l .reads { l with inbox := rest, results := l.results ++ [.ok (some msg)] }
  | ends {l : CellLink} (hreading : l.reading = true) (hinbox : l.inbox = [])
      (hover : l.closed = true ∨ l.wire.up = false) :
      Step l .ends { l with results := l.results ++ [.ok none], reading := false }
  | breaks {l : CellLink} (e : String) (hreading : l.reading = true) :
      Step l (.breaks e)
        { l with results := l.results ++ [.error (.io e)], reading := false }

/-- The runs of a connection of cells. -/
def system : TransitionSystem CellLink CellEvent where
  init l := l = start
  step := Step

/-- The messages among what a reader has been given. -/
def messages (results : List (Except ReadError (Option Message))) : List Message :=
  results.filterMap fun result => result.toOption.join

/-- One more message. -/
theorem messages_concat (results : List (Except ReadError (Option Message))) (msg : Message) :
    messages (results ++ [.ok (some msg)]) = messages results ++ [msg] :=
  List.filterMap_append ..

/-- Anything else is no message. -/
theorem messages_last (results : List (Except ReadError (Option Message)))
    {last : Except ReadError (Option Message)} (hlast : last.toOption.join = none) :
    messages (results ++ [last]) = messages results := by
  have hnil : messages [last] = [] := List.filterMap_cons_none hlast
  have happend : messages (results ++ [last]) = messages results ++ messages [last] :=
    List.filterMap_append ..
  rw [happend, hnil, List.append_nil]

/-- What a reader is given, with the connection around it: the cells in the order they were
written, and its end only when nothing is left and nothing more will come. -/
structure Sound (l : CellLink) : Prop where
  order : messages l.results ++ l.inbox = l.wire.cells
  results : ∀ result ∈ l.results, ∀ text, result ≠ .error (.invalidData text)
  ended : .ok none ∈ l.results →
    l.reading = false ∧ l.inbox = [] ∧ (l.closed = true ∨ l.wire.up = false)

/-- A reader that goes on has not been told that there will be no more. -/
theorem Sound.not_ended {l : CellLink} (h : l.Sound) (hreading : l.reading = true) :
    .ok none ∉ l.results := by
  intro hnone
  have hdone := (h.ended hnone).1
  rw [hreading] at hdone
  cases hdone

/-- One more result that is no malformed cell. -/
theorem Sound.results_append {l : CellLink} (h : l.Sound)
    {last : Except ReadError (Option Message)}
    (hlast : ∀ text, last ≠ .error (.invalidData text)) :
    ∀ result ∈ l.results ++ [last], ∀ text, result ≠ .error (.invalidData text) := by
  intro result hmem
  rcases List.mem_append.mp hmem with hbefore | hnew
  · exact h.results result hbefore
  · rwa [List.mem_singleton.mp hnew]

/-- It is so after every step. -/
theorem Sound.step {l l' : CellLink} {e : CellEvent} (h : l.Sound) (hstep : Step l e l') :
    l'.Sound := by
  cases hstep with
  | @writes msg hfits hup hopen =>
      rw [Wire.write_eq l.wire hfits]
      refine ⟨?_, h.results, fun hnone => ?_⟩
      · show messages l.results ++ (l.inbox ++ [msg]) = l.wire.cells ++ [msg]
        rw [← List.append_assoc, h.order]
      · obtain ⟨-, -, hover⟩ := h.ended hnone
        rw [hopen, hup] at hover
        simp at hover
  | @fails msg e hfits =>
      rw [Wire.write_eq l.wire hfits]
      refine ⟨h.order, h.results, fun hnone => ?_⟩
      obtain ⟨hdone, hinbox, -⟩ := h.ended hnone
      exact ⟨hdone, hinbox, Or.inr rfl⟩
  | closes =>
      refine ⟨h.order, h.results, fun hnone => ?_⟩
      obtain ⟨hdone, hinbox, -⟩ := h.ended hnone
      exact ⟨hdone, hinbox, Or.inl rfl⟩
  | @reads msg rest hreading hinbox =>
      refine ⟨?_, h.results_append (by simp), fun hnone => ?_⟩
      · rw [← h.order, hinbox, messages_concat, List.append_assoc]
        rfl
      · rcases List.mem_append.mp hnone with hbefore | hlast
        · exact absurd hbefore (h.not_ended hreading)
        · simp at hlast
  | ends hreading hinbox hover =>
      refine ⟨?_, h.results_append (by simp), fun _ => ⟨rfl, hinbox, hover⟩⟩
      rw [messages_last l.results rfl]
      exact h.order
  | breaks e hreading =>
      refine ⟨?_, h.results_append (by simp), fun hnone => ?_⟩
      · rw [messages_last l.results rfl]
        exact h.order
      · rcases List.mem_append.mp hnone with hbefore | hlast
        · exact absurd hbefore (h.not_ended hreading)
        · simp at hlast

/-- It is so in every reachable state. -/
theorem sound_of_reachable {l : CellLink} (hreach : system.Reachable l) : l.Sound := by
  apply hreach.invariant Sound
  · rintro l rfl
    exact ⟨rfl, by simp [start], by simp [start]⟩
  · intro l e l' h hstep
    exact h.step hstep

end CellLink

/-! ## Bytes -/

/-- Who holds the write half: its message, and the bytes of the cell that the stream has still to
take. -/
structure Writing (ι : Type u) where
  who : ι
  msg : Message
  rest : Bytes

/-- A connection of bytes, written by the tasks `ι`: the holder of the write half, the log of the
cells that have been taken whole, the bytes on their way, what the reader has of the next cell,
and what it has been given so far. -/
structure Connection (ι : Type u) where
  writer : Option (Writing ι)
  wire : Wire
  closed : Bool
  inFlight : Bytes
  buffer : Bytes
  results : List (Except ReadError (Option Message))
  reading : Bool

/-- What happens on a connection of bytes. -/
inductive ConnectionEvent (ι : Type u)
  | takes (who : ι) (msg : Message) (random : Nat → UInt8)
  | refuses (who : ι) (msg : Message)
  | writes (count : Nat)
  | releases
  | fails (e : String)
  | closes
  | reads (count : Nat)
  | decodes
  | ends
  | breaks (e : String)

namespace Connection

variable {ι : Type u}

/-- A new connection. -/
def start : Connection ι := ⟨none, ⟨[], true⟩, false, [], [], [], true⟩

/-- What a cell in the buffer gives. -/
def decoded (buffer : Bytes) : Except ReadError (Option Message) :=
  match Message.fromBytes buffer with
  | .ok msg => .ok (some msg)
  | .error e => .error (.invalidData e)

/-- The cells that are written once the stream has taken so many more bytes. -/
def written (wire : Wire) (w : Writing ι) (count : Nat) : Wire :=
  if w.rest.drop count = [] then { wire with cells := wire.cells ++ [w.msg] } else wire

/-- One step. A payload that is too large is refused before anything is written. An error of the
stream is final, and so is its end for the reader, who asks for no further cell after anything
but a message. -/
inductive Step : Connection ι → ConnectionEvent ι → Connection ι → Prop
  | takes {c : Connection ι} {who : ι} {msg : Message} {random : Nat → UInt8}
      (hfree : c.writer = none) (hopen : c.closed = false)
      (hfits : msg.data.length ≤ maxPayloadSize) :
      Step c (.takes who msg random)
        { c with writer := some ⟨who, msg, msg.toBytes random⟩ }
  | refuses {c : Connection ι} {who : ι} {msg : Message} (hfree : c.writer = none)
      (hopen : c.closed = false) (hlarge : msg.data.length > maxPayloadSize) :
      Step c (.refuses who msg) c
  | writes {c : Connection ι} {w : Writing ι} {count : Nat} (hheld : c.writer = some w)
      (hup : c.wire.up = true) (hsome : 0 < count) (hcount : count ≤ w.rest.length) :
      Step c (.writes count)
        { c with
          writer := some { w with rest := w.rest.drop count }
          wire := written c.wire w count
          inFlight := c.inFlight ++ w.rest.take count }
  | releases {c : Connection ι} {w : Writing ι} (hheld : c.writer = some w)
      (hdone : w.rest = []) : Step c .releases { c with writer := none }
  | fails {c : Connection ι} {w : Writing ι} (e : String) (hheld : c.writer = some w)
      (hleft : w.rest ≠ []) :
      Step c (.fails e)
        { c with writer := none, wire := { c.wire with up := false } }
  | closes {c : Connection ι} (hfree : c.writer = none) :
      Step c .closes { c with closed := true }
  | reads {c : Connection ι} {count : Nat} (hreading : c.reading = true) (hsome : 0 < count)
      (hthere : count ≤ c.inFlight.length) (hroom : c.buffer.length + count ≤ cellSize) :
      Step c (.reads count)
        { c with
          inFlight := c.inFlight.drop count
          buffer := c.buffer ++ c.inFlight.take count }
  | decodes {c : Connection ι} (hreading : c.reading = true)
      (hfull : c.buffer.length = cellSize) :
      Step c .decodes
        { c with
          buffer := []
          results := c.results ++ [decoded c.buffer]
          reading := (decoded c.buffer).isOk }
  | ends {c : Connection ι} (hreading : c.reading = true) (hshort : c.buffer.length < cellSize)
      (hdrained : c.inFlight = []) (hover : c.closed = true ∨ c.wire.up = false) :
      Step c .ends
        { c with buffer := [], results := c.results ++ [.ok none], reading := false }
  | breaks {c : Connection ι} (e : String) (hreading : c.reading = true) :
      Step c (.breaks e)
        { c with
          buffer := [], results := c.results ++ [.error (.io e)], reading := false }

/-- The runs of a connection of bytes. -/
def system (ι : Type u) : TransitionSystem (Connection ι) (ConnectionEvent ι) where
  init c := c = start
  step := Step

/-! ## What the bytes are -/

/-- How far the cell has gone that is being written: nothing of it has, or all, or a part of it, or
a write has failed, and no more will come. -/
inductive Pending (c : Connection ι) (part : Bytes) : Prop
  | free (hfree : c.writer = none) (hpart : part = [])
  | done {w : Writing ι} (hheld : c.writer = some w) (hrest : w.rest = []) (hpart : part = [])
  | writing {w : Writing ι} {random : Nat → UInt8} (hheld : c.writer = some w)
      (hrest : w.rest ≠ []) (hcell : part ++ w.rest = w.msg.toBytes random)
  | down (hdown : c.wire.up = false)

/-- Only the write half matters for it. -/
theorem Pending.congr {c c' : Connection ι} {part : Bytes} (h : c.Pending part)
    (hwriter : c'.writer = c.writer) (hwire : c'.wire = c.wire) : c'.Pending part := by
  cases h with
  | free hfree hpart => exact .free (hwriter.trans hfree) hpart
  | done hheld hrest hpart => exact .done (hwriter.trans hheld) hrest hpart
  | writing hheld hrest hcell => exact .writing (hwriter.trans hheld) hrest hcell
  | down hdown => exact .down (by rw [hwire, hdown])

/-- When nobody holds the write half, there is no part of a cell, or no more will come. -/
theorem Pending.of_free {c : Connection ι} {part : Bytes} (h : c.Pending part)
    (hfree : c.writer = none) : part = [] ∨ c.wire.up = false := by
  cases h with
  | free _ hpart => exact Or.inl hpart
  | done hheld => cases hfree.symm.trans hheld
  | writing hheld => cases hfree.symm.trans hheld
  | down hdown => exact Or.inr hdown

/-- The bytes between the two parties are the cells that are still to be read, each with the
padding it was given, and the part of one that is being written. -/
structure Carries (c : Connection ι) (unread : List (Message × (Nat → UInt8))) (part : Bytes) :
    Prop where
  order : CellLink.messages c.results ++ unread.map Prod.fst = c.wire.cells
  fits : ∀ cell ∈ unread, cell.1.data.length ≤ maxPayloadSize
  framed : Framed cellSize (unread.map fun cell => cell.1.toBytes cell.2) part
    (c.buffer ++ c.inFlight)
  pending : c.Pending part

/-- What holds on every connection. -/
structure Sound (c : Connection ι) : Prop where
  held : ∀ w, c.writer = some w → w.msg.data.length ≤ maxPayloadSize ∧ c.closed = false
  within : (CellLink.messages c.results).length ≤ c.wire.cells.length
  carries : c.reading = true → ∃ unread part, c.Carries unread part

/-- The connection of cells that a connection of bytes is. -/
def cellLink (c : Connection ι) : CellLink where
  wire := c.wire
  closed := c.closed
  inbox := c.wire.cells.drop (CellLink.messages c.results).length
  results := c.results
  reading := c.reading

/-- A cell has the size of a cell. -/
theorem length_toBytes (msg : Message) (random : Nat → UInt8) :
    (msg.toBytes random).length = cellSize := by
  rw [Message.toBytes_eq]
  exact CellLayout.length_bytes _

/-- The cells that are still to be read. -/
theorem Carries.inbox {c : Connection ι} {unread : List (Message × (Nat → UInt8))} {part : Bytes}
    (h : c.Carries unread part) : c.cellLink.inbox = unread.map Prod.fst := by
  show c.wire.cells.drop (CellLink.messages c.results).length = _
  rw [← h.order, List.drop_left]

/-- A full buffer is the first of them, which decodes. -/
theorem Carries.front {c : Connection ι} {unread : List (Message × (Nat → UInt8))} {part : Bytes}
    (h : c.Carries unread part) (hfull : c.buffer.length = cellSize) :
    ∃ msg random rest, unread = (msg, random) :: rest ∧ decoded c.buffer = .ok (some msg) ∧
      Framed cellSize (rest.map fun cell => cell.1.toBytes cell.2) part c.inFlight := by
  obtain ⟨others, hframes, hframed⟩ := h.framed.front hfull
  cases unread with
  | nil => cases hframes
  | cons cell rest =>
      obtain ⟨hbuffer, rfl⟩ := List.cons.inj hframes
      refine ⟨cell.1, cell.2, rest, rfl, ?_, hframed⟩
      rw [decoded, ← hbuffer, Message.fromBytes_toBytes (h.fits cell List.mem_cons_self)]

/-- The stream takes some more bytes of a cell. -/
theorem Carries.writes {c : Connection ι} {unread : List (Message × (Nat → UInt8))} {part : Bytes}
    (h : c.Carries unread part) {w : Writing ι} {count : Nat} (hheld : c.writer = some w)
    (hfits : w.msg.data.length ≤ maxPayloadSize) (hup : c.wire.up = true) (hsome : 0 < count)
    (hcount : count ≤ w.rest.length) :
    ∃ unread part, Carries
      { c with
        writer := some { w with rest := w.rest.drop count }
        wire := written c.wire w count
        inFlight := c.inFlight ++ w.rest.take count } unread part := by
  cases h.pending with
  | free hfree => cases hfree.symm.trans hheld
  | done hheld' hrest =>
      cases hheld'.symm.trans hheld
      rw [hrest, List.length_nil] at hcount
      omega
  | down hdown => cases hdown.symm.trans hup
  | @writing w random hheld' hrest hcell =>
      cases hheld'.symm.trans hheld
      have hpieces : part ++ w.rest.take count ++ w.rest.drop count = w.msg.toBytes random := by
        rw [List.append_assoc, List.take_append_drop, hcell]
      have hlength := congrArg List.length hpieces
      rw [List.length_append, length_toBytes] at hlength
      by_cases hlast : w.rest.drop count = []
      · -- the last byte has been taken, and the cell is written
        rw [hlast, List.append_nil] at hpieces
        rw [hlast, List.length_nil, Nat.add_zero] at hlength
        refine ⟨unread ++ [(w.msg, random)], [], ?_, ?_, ?_, .done rfl hlast rfl⟩
        · rw [written, if_pos hlast, List.map_append, ← List.append_assoc, h.order]
          rfl
        · intro cell hcell'
          rcases List.mem_append.mp hcell' with hbefore | hnew
          · exact h.fits cell hbefore
          · rw [List.mem_singleton.mp hnew]
            exact hfits
        · have hframed := h.framed.complete hlength
          rw [hpieces] at hframed
          rw [List.map_append, ← List.append_assoc]
          exact hframed
      · have hleft : 0 < (w.rest.drop count).length := List.length_pos_iff.mpr hlast
        refine ⟨unread, part ++ w.rest.take count, ?_, h.fits, ?_, .writing rfl hlast hpieces⟩
        · rw [written, if_neg hlast]
          exact h.order
        · rw [← List.append_assoc]
          exact h.framed.extend (by omega)

/-- A new connection carries nothing. -/
theorem sound_start : (start : Connection ι).Sound := by
  refine ⟨?_, Nat.le_refl _, fun _ => ⟨[], [], rfl, by simp, ?_, .free rfl rfl⟩⟩
  · intro w hnone
    cases hnone
  · exact Framed.nil (by decide)

/-- Every step keeps a connection sound. -/
theorem Sound.step {c c' : Connection ι} {e : ConnectionEvent ι} (h : c.Sound)
    (hstep : Step c e c') : c'.Sound := by
  cases hstep with
  | @takes who msg random hfree hopen hfits =>
      refine ⟨?_, h.within, fun hreading => ?_⟩
      · rintro w ⟨⟩
        exact ⟨hfits, hopen⟩
      · obtain ⟨unread, part, hcarries⟩ := h.carries hreading
        refine ⟨unread, part, hcarries.order, hcarries.fits, hcarries.framed, ?_⟩
        rcases hcarries.pending.of_free hfree with rfl | hdown
        · refine .writing rfl ?_ rfl
          exact List.ne_nil_of_length_pos (by rw [length_toBytes]; decide)
        · exact .down hdown
  | refuses => exact h
  | @writes w count hheld hup hsome hcount =>
      obtain ⟨hfits, hopen⟩ := h.held w hheld
      refine ⟨?_, ?_, fun hreading => ?_⟩
      · rintro w ⟨⟩
        exact ⟨hfits, hopen⟩
      · refine h.within.trans ?_
        rw [written]
        split
        · simp
        · exact le_rfl
      · obtain ⟨unread, part, hcarries⟩ := h.carries hreading
        exact hcarries.writes hheld hfits hup hsome hcount
  | @releases w hheld hdone =>
      refine ⟨?_, h.within, fun hreading => ?_⟩
      · intro w hnone
        cases hnone
      · obtain ⟨unread, part, hcarries⟩ := h.carries hreading
        refine ⟨unread, part, hcarries.order, hcarries.fits, hcarries.framed, ?_⟩
        cases hcarries.pending with
        | free _ hpart => exact .free rfl hpart
        | done _ _ hpart => exact .free rfl hpart
        | writing hheld' hrest =>
            cases hheld'.symm.trans hheld
            exact absurd hdone hrest
        | down hdown => exact .down hdown
  | fails =>
      refine ⟨?_, h.within, fun hreading => ?_⟩
      · intro w hnone
        cases hnone
      · obtain ⟨unread, part, hcarries⟩ := h.carries hreading
        exact ⟨unread, part, hcarries.order, hcarries.fits, hcarries.framed, .down rfl⟩
  | closes hfree =>
      refine ⟨?_, h.within, fun hreading => ?_⟩
      · intro w hheld
        cases hfree.symm.trans hheld
      · obtain ⟨unread, part, hcarries⟩ := h.carries hreading
        exact ⟨unread, part, hcarries.order, hcarries.fits, hcarries.framed,
          hcarries.pending.congr rfl rfl⟩
  | reads =>
      refine ⟨h.held, h.within, fun hreading => ?_⟩
      obtain ⟨unread, part, hcarries⟩ := h.carries hreading
      refine ⟨unread, part, hcarries.order, hcarries.fits, ?_, hcarries.pending.congr rfl rfl⟩
      rw [List.append_assoc, List.take_append_drop]
      exact hcarries.framed
  | decodes hreading hfull =>
      obtain ⟨unread, part, hcarries⟩ := h.carries hreading
      obtain ⟨msg, random, rest, rfl, hdecoded, hframed⟩ := hcarries.front hfull
      have horder : CellLink.messages (c.results ++ [decoded c.buffer]) ++ rest.map Prod.fst =
          c.wire.cells := by
        rw [← hcarries.order, hdecoded, CellLink.messages_concat, List.append_assoc]
        rfl
      refine ⟨h.held, ?_, fun _ => ⟨rest, part, horder, ?_, hframed,
        hcarries.pending.congr rfl rfl⟩⟩
      · rw [← horder, List.length_append]
        exact Nat.le_add_right _ _
      · exact fun cell hcell => hcarries.fits cell (List.mem_cons_of_mem _ hcell)
  | ends =>
      refine ⟨h.held, ?_, fun hreading => by cases hreading⟩
      rw [CellLink.messages_last c.results rfl]
      exact h.within
  | breaks =>
      refine ⟨h.held, ?_, fun hreading => by cases hreading⟩
      rw [CellLink.messages_last c.results rfl]
      exact h.within

/-! ## The connection of cells -/

/-- The reader has been given the last it gets. -/
theorem cellLink_last (c : Connection ι) {last : Except ReadError (Option Message)}
    (hlast : last.toOption.join = none) :
    cellLink { c with buffer := [], results := c.results ++ [last], reading := false } =
      { c.cellLink with results := c.results ++ [last], reading := false } := by
  simp only [cellLink, CellLink.messages_last c.results hlast]

/-- What happens to the bytes is a step of the connection of cells, or is not seen there. -/
theorem simulation : TransitionSystem.Simulation (system ι) CellLink.system cellLink Sound where
  init := by
    rintro c rfl
    rfl
  step := by
    intro c e c' h hstep
    cases hstep with
    | takes => exact Or.inl rfl
    | refuses => exact Or.inl rfl
    | @writes w count hheld hup hsome hcount =>
        obtain ⟨hfits, hopen⟩ := h.held w hheld
        by_cases hlast : w.rest.drop count = []
        · refine Or.inr ⟨.writes w.msg (.ok ()), ?_⟩
          have hinbox : (c.wire.cells ++ [w.msg]).drop (CellLink.messages c.results).length =
              c.cellLink.inbox ++ [w.msg] := List.drop_append_of_le_length h.within
          have hstep := CellLink.Step.writes (l := c.cellLink) hfits hup hopen
          rw [Wire.write_eq _ hfits, ← hinbox] at hstep
          rw [written, if_pos hlast]
          exact hstep
        · refine Or.inl ?_
          rw [cellLink, written, if_neg hlast]
          rfl
    | releases => exact Or.inl rfl
    | @fails w e hheld =>
        refine Or.inr ⟨.writes w.msg (.error e), ?_⟩
        have hstep := CellLink.Step.fails (l := c.cellLink) e (h.held w hheld).1
        rw [Wire.write_eq _ (h.held w hheld).1] at hstep
        exact hstep
    | closes => exact Or.inr ⟨.closes, .closes⟩
    | reads => exact Or.inl rfl
    | decodes hreading hfull =>
        obtain ⟨unread, part, hcarries⟩ := h.carries hreading
        obtain ⟨msg, random, rest, rfl, hdecoded, -⟩ := hcarries.front hfull
        refine Or.inr ⟨.reads, ?_⟩
        have horder : CellLink.messages (c.results ++ [.ok (some msg)]) ++ rest.map Prod.fst =
            c.wire.cells := by
          rw [← hcarries.order, CellLink.messages_concat, List.append_assoc]
          rfl
        have hinbox : c.wire.cells.drop
            (CellLink.messages (c.results ++ [.ok (some msg)])).length = rest.map Prod.fst := by
          rw [← horder, List.drop_left]
        have hstep := CellLink.Step.reads (l := c.cellLink) hreading hcarries.inbox
        rw [← hinbox] at hstep
        have hgoes : c.cellLink.reading = (decoded c.buffer).isOk := by
          rw [hdecoded]
          exact hreading
        rw [← hgoes, hdecoded]
        exact hstep
    | ends hreading hshort hdrained hover =>
        obtain ⟨unread, part, hcarries⟩ := h.carries hreading
        refine Or.inr ⟨.ends, ?_⟩
        have hpart : (c.buffer ++ c.inFlight).length < cellSize := by
          rw [hdrained, List.append_nil]
          exact hshort
        obtain ⟨hnil, -⟩ := hcarries.framed.eq_part hpart
        have hinbox : c.cellLink.inbox = [] := by
          rw [hcarries.inbox, List.map_eq_nil_iff.mp hnil]
          rfl
        rw [cellLink_last c rfl]
        exact CellLink.Step.ends (l := c.cellLink) hreading hinbox hover
    | breaks e hreading =>
        refine Or.inr ⟨.breaks e, ?_⟩
        rw [cellLink_last c rfl]
        exact CellLink.Step.breaks (l := c.cellLink) e hreading

/-- Every reachable connection is sound. -/
theorem sound_of_reachable {c : Connection ι} (hreach : (system ι).Reachable c) : c.Sound := by
  apply hreach.invariant Sound
  · rintro c rfl
    exact sound_start
  · intro c e c' h hstep
    exact h.step hstep

/-- However the writes of the tasks interleave, and in whatever pieces the bytes are taken and
arrive, a connection of bytes is one of cells. Its reader gets whole cells in the order in which
they were written, and never a malformed one. When it is told that there will be no more, it has
got every cell that was written, and the part of a cell whose write failed is dropped. -/
theorem delivers_cells {c : Connection ι} (hreach : (system ι).Reachable c) :
    CellLink.system.Reachable c.cellLink ∧
      (∀ result ∈ c.results, ∀ text, result ≠ .error (.invalidData text)) ∧
      CellLink.messages c.results <+: c.wire.cells ∧
      (.ok none ∈ c.results → CellLink.messages c.results = c.wire.cells) := by
  have hcells : CellLink.system.Reachable c.cellLink := by
    refine simulation.reachable ?_ (fun c e c' h hstep => h.step hstep) hreach
    rintro c rfl
    exact sound_start
  have hsound := CellLink.sound_of_reachable hcells
  refine ⟨hcells, hsound.results, ⟨_, hsound.order⟩, fun hnone => ?_⟩
  obtain ⟨-, hinbox, -⟩ := hsound.ended hnone
  have horder := hsound.order
  rw [hinbox, List.append_nil] at horder
  exact horder

/-! ## Cells in pieces -/

section

variable {c : Connection ι} {msg : Message}

/-- A cell is not written before its last byte is taken. -/
theorem written_of_lt (wire : Wire) (who : ι) (msg : Message) (random : Nat → UInt8) {count : Nat}
    (hcount : count < cellSize) : written wire ⟨who, msg, msg.toBytes random⟩ count = wire := by
  apply if_neg
  apply List.ne_nil_of_length_pos
  rw [List.length_drop, length_toBytes]
  omega

/-- A task writes the first bytes of a cell. -/
theorem reachable_begun (hreach : (system ι).Reachable c) (hfree : c.writer = none)
    (hopen : c.closed = false) (hup : c.wire.up = true) (who : ι)
    (hfits : msg.data.length ≤ maxPayloadSize) (random : Nat → UInt8) (count : Nat)
    (hsome : 0 < count) (hcount : count < cellSize) :
    (system ι).Reachable
      { c with
        writer := some ⟨who, msg, (msg.toBytes random).drop count⟩
        inFlight := c.inFlight ++ (msg.toBytes random).take count } := by
  have htakes : Step c (.takes who msg random)
      { c with writer := some ⟨who, msg, msg.toBytes random⟩ } := .takes hfree hopen hfits
  have hlength : count ≤ (msg.toBytes random).length := by
    rw [length_toBytes]
    exact hcount.le
  have hwrites := Step.writes (c := { c with writer := some ⟨who, msg, msg.toBytes random⟩ }) rfl
    hup hsome hlength
  rw [written_of_lt c.wire who msg random hcount] at hwrites
  exact (hreach.next htakes).next hwrites

/-- A task writes a cell in two pieces, and gives the write half back. -/
theorem reachable_written (hreach : (system ι).Reachable c) (hfree : c.writer = none)
    (hopen : c.closed = false) (hup : c.wire.up = true) (who : ι)
    (hfits : msg.data.length ≤ maxPayloadSize) (random : Nat → UInt8) (count : Nat)
    (hsome : 0 < count) (hcount : count < cellSize) :
    (system ι).Reachable
      { c with
        writer := none
        wire := { c.wire with cells := c.wire.cells ++ [msg] }
        inFlight := c.inFlight ++ msg.toBytes random } := by
  let rest := (msg.toBytes random).drop count
  have hbegun := reachable_begun hreach hfree hopen hup who hfits random count hsome hcount
  have hleft : 0 < rest.length := by
    rw [List.length_drop, length_toBytes]
    omega
  have hwrites : Step
      { c with
        writer := some ⟨who, msg, rest⟩
        inFlight := c.inFlight ++ (msg.toBytes random).take count }
      (.writes rest.length) _ := .writes rfl hup hleft le_rfl
  rw [written, if_pos List.drop_length, List.take_length, List.append_assoc,
    List.take_append_drop] at hwrites
  exact (hbegun.next hwrites).next (.releases rfl List.drop_length)

/-- A write fails when the first bytes of its cell are gone. -/
theorem reachable_failed (hreach : (system ι).Reachable c) (hfree : c.writer = none)
    (hopen : c.closed = false) (hup : c.wire.up = true) (who : ι)
    (hfits : msg.data.length ≤ maxPayloadSize) (random : Nat → UInt8) (count : Nat)
    (hsome : 0 < count) (hcount : count < cellSize) (e : String) :
    (system ι).Reachable
      { c with
        writer := none
        wire := { c.wire with up := false }
        inFlight := c.inFlight ++ (msg.toBytes random).take count } := by
  have hbegun := reachable_begun hreach hfree hopen hup who hfits random count hsome hcount
  have hleft : (msg.toBytes random).drop count ≠ [] := by
    apply List.ne_nil_of_length_pos
    rw [List.length_drop, length_toBytes]
    omega
  exact hbegun.next (.fails e rfl hleft)

/-- The reader gets the next cell in two pieces. -/
theorem reachable_read (hreach : (system ι).Reachable c) (hreading : c.reading = true)
    (hbuffer : c.buffer = []) (hfits : msg.data.length ≤ maxPayloadSize) {random : Nat → UInt8}
    {behind : Bytes} (hflight : c.inFlight = msg.toBytes random ++ behind) (count : Nat)
    (hsome : 0 < count) (hcount : count < cellSize) :
    (system ι).Reachable
      { c with
        inFlight := behind
        buffer := []
        results := c.results ++ [.ok (some msg)]
        reading := true } := by
  let cell := msg.toBytes random
  have hcell : cell.length = cellSize := length_toBytes msg random
  have hle : count ≤ cell.length := hcell ▸ hcount.le
  have hfirst : Step c (.reads count)
      { c with inFlight := cell.drop count ++ behind, buffer := cell.take count } := by
    have hreads : Step c (.reads count) _ := .reads hreading hsome
      (by rw [hflight, List.length_append]; exact hle.trans (Nat.le_add_right _ _))
      (by rw [hbuffer, List.length_nil]; omega)
    rwa [hflight, hbuffer, List.nil_append, List.take_append_of_le_length hle,
      List.drop_append_of_le_length hle] at hreads
  have hsecond : Step
      { c with inFlight := cell.drop count ++ behind, buffer := cell.take count }
      (.reads (cellSize - count)) _ := .reads hreading (by omega)
        (by rw [List.length_append, List.length_drop]; omega)
        (by rw [List.length_take]; omega)
  have hdrop : (cell.drop count).length = cellSize - count := by
    rw [List.length_drop, hcell]
  rw [← hdrop, List.take_left, List.drop_left, List.take_append_drop] at hsecond
  have hdecodes := Step.decodes (c := { c with inFlight := behind, buffer := cell }) hreading hcell
  have hdecoded : decoded cell = .ok (some msg) := by
    rw [decoded, Message.fromBytes_toBytes hfits]
  rw [hdecoded] at hdecodes
  exact ((hreach.next hfirst).next hsecond).next hdecodes

/-- The reader gets the part of a cell that is left, and then the end. -/
theorem reachable_ended (hreach : (system ι).Reachable c) (hreading : c.reading = true)
    (hbuffer : c.buffer = []) (hpart : c.inFlight ≠ []) (hshort : c.inFlight.length < cellSize)
    (hdown : c.wire.up = false) :
    (system ι).Reachable
      { c with
        inFlight := [], buffer := [], results := c.results ++ [.ok none], reading := false } := by
  have hreads : Step c (.reads c.inFlight.length) _ := .reads hreading
    (List.length_pos_iff.mpr hpart) le_rfl (by rw [hbuffer, List.length_nil]; omega)
  rw [hbuffer, List.nil_append, List.take_length, List.drop_length] at hreads
  exact (hreach.next hreads).next (.ends hreading hshort rfl (Or.inr hdown))

end

/-- A connection to which two tasks have written a cell each, the first has failed in the middle
of another one, and the reader has come to the end. -/
def broken (first second : Message) : Connection Nat :=
  { start with
    wire := ⟨[first, second], false⟩
    results := [.ok (some first), .ok (some second), .ok none]
    reading := false }

/-- The cells are taken, and arrive, in pieces of other sizes. -/
theorem reachable_broken (first second third : Message)
    (hfirst : first.data.length ≤ maxPayloadSize) (hsecond : second.data.length ≤ maxPayloadSize)
    (hthird : third.data.length ≤ maxPayloadSize) :
    (system Nat).Reachable (broken first second) := by
  let zeros : Nat → UInt8 := fun _ => 0
  have hpart : ((third.toBytes zeros).take 60).length = 60 := by
    rw [List.length_take, length_toBytes]
    rfl
  have hstart : (system Nat).Reachable start := TransitionSystem.reachable_of_init rfl
  have hone := reachable_written hstart rfl rfl rfl 0 hfirst zeros 200 (by decide) (by decide)
  have htwo := reachable_written hone rfl rfl rfl 1 hsecond zeros 1 (by decide) (by decide)
  have hreads := reachable_read htwo rfl rfl hfirst rfl 150 (by decide) (by decide)
  have hfails := reachable_failed hreads rfl rfl rfl 0 hthird zeros 60 (by decide) (by decide)
    "connection reset"
  have hreadsOn := reachable_read hfails rfl rfl hsecond rfl 500 (by decide) (by decide)
  refine reachable_ended hreadsOn rfl rfl ?_ ?_ rfl
  · exact List.ne_nil_of_length_pos (by rw [hpart]; decide)
  · rw [hpart]
    decide

/-- A reply of a stream and the end of a circuit. -/
def sampleBroken : Connection Nat := broken (Message.dataMsg 1 7 [104, 105]) (Message.destroy 2)

theorem reachable_sampleBroken : (system Nat).Reachable sampleBroken :=
  reachable_broken _ _ (Message.connected 3 9) (by decide) (by decide) (by decide)

/-- The reader has got the two cells that were written whole, and nothing of the third. -/
theorem delivers_cells_sampleBroken :
    CellLink.system.Reachable sampleBroken.cellLink ∧
      (∀ result ∈ sampleBroken.results, ∀ text, result ≠ .error (.invalidData text)) ∧
      CellLink.messages sampleBroken.results = sampleBroken.wire.cells ∧
      sampleBroken.wire.cells = [Message.dataMsg 1 7 [104, 105], Message.destroy 2] := by
  obtain ⟨hcells, hresults, -, hended⟩ := delivers_cells reachable_sampleBroken
  exact ⟨hcells, hresults, hended (by simp [sampleBroken, broken]), rfl⟩

end Connection

end NoPanic
