/-
# What a running digest tells of the cells

A running digest is fed the stream id, the command and the data of a cell, one cell after
another. The length of the data is not fed, so the bytes alone do not say where a cell ends:
the same bytes cut elsewhere are other cells, with the same digest.

Where the data have the same lengths, equal digests mean equal cells, or a collision of the
hash. Both ends of a circuit compare after every cell, and digests that agree after every
cell do mean equal cells.
-/

import NoPanic.Common.Reference
import NoPanic.Math.Concatenation

namespace NoPanic

open NoPanic.Math

/-- What a running digest is fed of a cell. -/
structure DigestCell where
  streamId : StreamId
  command : UInt8
  data : Bytes
  deriving DecidableEq, Repr

namespace DigestCell

/-- The bytes a cell feeds. -/
def record (cell : DigestCell) : Bytes :=
  RunningDigest.record cell.streamId cell.command cell.data

@[simp]
theorem length_record (cell : DigestCell) : cell.record.length = 3 + cell.data.length := by
  rw [record, RunningDigest.record, List.length_append, List.length_append,
    (beBytes16 cell.streamId).2, List.length_singleton]

theorem record_ne_nil (cell : DigestCell) : cell.record ≠ [] := by
  apply List.ne_nil_of_length_pos
  rw [length_record]
  omega

/-- A cell is determined by what it feeds alone. -/
theorem record_injective : Function.Injective record := by
  intro cell cell' h
  simp only [record, RunningDigest.record, List.append_assoc, List.singleton_append] at h
  obtain ⟨hid, hrest⟩ := FixedBytes.append_inj h
  obtain ⟨hcommand, hdata⟩ := List.cons.inj hrest
  have hid' : cell.streamId = cell'.streamId := by
    rw [← ofBe16_beBytes16 cell.streamId, hid, ofBe16_beBytes16]
  rw [DigestCell.mk.injEq]
  exact ⟨hid', hcommand, hdata⟩

/-- Any three bytes and more are what some cell feeds. -/
theorem exists_record {bytes : Bytes} (h : 3 ≤ bytes.length) :
    ∃ cell : DigestCell, cell.record = bytes := by
  cases bytes with
  | nil => exact absurd h (by decide)
  | cons b1 rest =>
      cases rest with
      | nil => exact absurd h (by simp)
      | cons b0 rest =>
          cases rest with
          | nil => exact absurd h (by simp)
          | cons command data =>
              refine ⟨⟨ofBe16 ⟨[b1, b0], rfl⟩, command, data⟩, ?_⟩
              simp only [record, RunningDigest.record, beBytes16_ofBe16, List.cons_append,
                List.nil_append]

/-- Cells at the same place have data of the same length. -/
def SameLengths (cells cells' : List DigestCell) : Prop :=
  ∀ (i : Nat) (cell cell' : DigestCell), cells[i]? = some cell → cells'[i]? = some cell' →
    cell.data.length = cell'.data.length

/-- It is so when the lengths of the data are the same in order. -/
theorem sameLengths_of_map {cells cells' : List DigestCell}
    (h : cells.map (fun cell => cell.data.length) = cells'.map fun cell => cell.data.length) :
    SameLengths cells cells' := by
  intro i cell cell' hcell hcell'
  have hlength := congrArg (fun lengths => lengths[i]?) h
  simpa [hcell, hcell'] using hlength

theorem SameLengths.sameCut {cells cells' : List DigestCell} (h : SameLengths cells cells') :
    SameCut record cells cells' := by
  intro i cell cell' hcell hcell'
  rw [length_record, length_record, h i cell cell' hcell hcell']

end DigestCell

namespace RunningDigest

/-- Two byte strings with one hash. -/
def Collision [Primitives] (a b : Bytes) : Prop :=
  a ≠ b ∧ Primitives.sha256 a = Primitives.sha256 b

section

variable [Primitives]

/-- Feed cells in their order. -/
def updateAll (digest : RunningDigest) (cells : List DigestCell) : RunningDigest :=
  cells.foldl (fun d cell => (d.update cell.streamId cell.command cell.data).1) digest

/-- Feeding cells appends their records. -/
theorem updateAll_state (digest : RunningDigest) (cells : List DigestCell) :
    (digest.updateAll cells).state = digest.state ++ cells.flatMap DigestCell.record := by
  induction cells generalizing digest with
  | nil => rw [updateAll, List.foldl_nil, List.flatMap_nil, List.append_nil]
  | cons cell rest ih =>
      have hrest := ih (digest.update cell.streamId cell.command cell.data).1
      rw [update_fst, List.append_assoc] at hrest
      exact hrest

/-- All bytes that a fresh digest is fed of some cells. -/
theorem updateAll_new_state (cells : List DigestCell) :
    (new.updateAll cells).state = cells.flatMap DigestCell.record := updateAll_state new cells

variable {cells cells' : List DigestCell}

/-- The bytes determine cells whose data have the same lengths. -/
theorem eq_of_state (hlengths : DigestCell.SameLengths cells cells')
    (h : (new.updateAll cells).state = (new.updateAll cells').state) : cells = cells' := by
  rw [updateAll_new_state, updateAll_new_state] at h
  exact hlengths.sameCut.eq_of_flatMap DigestCell.record_injective DigestCell.record_ne_nil h

/-- States that agree after every cell determine the cells. -/
theorem eq_of_states (h : ∀ k, (new.updateAll (cells.take k)).state =
    (new.updateAll (cells'.take k)).state) : cells = cells' := by
  apply eq_of_flatMap_take DigestCell.record_injective DigestCell.record_ne_nil
  intro k
  rw [← updateAll_new_state, ← updateAll_new_state, h k]

/-- Any cut of some bytes into records is a history that feeds them, so the lengths are
exactly what the digest leaves open. -/
theorem exists_cells {bytes : Bytes} {lengths : List Nat} (hthree : ∀ n ∈ lengths, 3 ≤ n)
    (hsum : lengths.sum = bytes.length) :
    ∃ cells, (new.updateAll cells).state = bytes ∧
      cells.map (fun cell => cell.record.length) = lengths := by
  obtain ⟨cells, hcells, hlengths⟩ := exists_of_cut (fun _ h => DigestCell.exists_record h)
    lengths hthree bytes hsum
  exact ⟨cells, by rw [updateAll_new_state, hcells], hlengths⟩

/-- Two histories of a fresh digest. Where cells at the same place have data of the same
length, equal bytes mean equal histories, and equal hashes do unless the hash collides on
them. And histories whose states agree after every cell are equal, whatever the lengths. -/
theorem history_determined (cells cells' : List DigestCell) :
    (DigestCell.SameLengths cells cells' →
        ((new.updateAll cells).state = (new.updateAll cells').state ↔ cells = cells') ∧
          (Primitives.sha256 (new.updateAll cells).state =
              Primitives.sha256 (new.updateAll cells').state →
            cells = cells' ∨
              Collision (new.updateAll cells).state (new.updateAll cells').state)) ∧
      ((∀ k, (new.updateAll (cells.take k)).state = (new.updateAll (cells'.take k)).state) →
        cells = cells') := by
  refine ⟨fun hlengths => ⟨⟨eq_of_state hlengths, ?_⟩, ?_⟩, eq_of_states⟩
  · rintro rfl
    rfl
  · intro hhash
    by_cases hbytes : (new.updateAll cells).state = (new.updateAll cells').state
    · exact Or.inl (eq_of_state hlengths hbytes)
    · exact Or.inr ⟨hbytes, hhash⟩

end

section

open Reference

/-- Two empty cells. -/
def twoCells : List DigestCell := [⟨1, 0x12, []⟩, ⟨2, 0x13, []⟩]

/-- One cell with the second one in its data. -/
def oneCell : List DigestCell := [⟨1, 0x12, [0, 2, 0x13]⟩]

/-- Two cells are fed the same as one. -/
theorem not_injective_oneCell :
    ¬ ∀ cells cells' : List DigestCell,
      (new.updateAll cells).state = (new.updateAll cells').state → cells = cells' := by
  intro hclaim
  have heq : twoCells = oneCell := hclaim twoCells oneCell (by decide)
  exact absurd heq (by decide)

/-- Three cells of two streams. -/
def threeCells (last : UInt8) : List DigestCell :=
  [⟨1, 0x12, [7, 8]⟩, ⟨2, 0x13, []⟩, ⟨1, 0x12, [last]⟩]

/-- Histories of three cells that differ in the last byte feed different bytes, and have different
hashes or collide. The two cells that are fed the same as one are told apart after some cell. -/
theorem history_determined_lastByte :
    (new.updateAll (threeCells 1)).state ≠ (new.updateAll (threeCells 2)).state ∧
      (Primitives.sha256 (new.updateAll (threeCells 1)).state =
          Primitives.sha256 (new.updateAll (threeCells 2)).state →
        Collision (new.updateAll (threeCells 1)).state (new.updateAll (threeCells 2)).state) ∧
      ∃ k, (new.updateAll (twoCells.take k)).state ≠ (new.updateAll (oneCell.take k)).state := by
  have hother : threeCells 1 ≠ threeCells 2 := by decide
  have hlengths : DigestCell.SameLengths (threeCells 1) (threeCells 2) :=
    DigestCell.sameLengths_of_map rfl
  obtain ⟨hbytes, hhash⟩ := (history_determined _ _).1 hlengths
  refine ⟨fun hstate => hother (hbytes.mp hstate), fun hsame => (hhash hsame).resolve_left hother,
    ?_⟩
  apply not_forall.mp
  intro hstates
  exact absurd ((history_determined twoCells oneCell).2 hstates) (by decide)

end

end RunningDigest

end NoPanic
