/-
# The streams of a circuit

A circuit numbers its streams with a 16-bit counter that wraps and skips zero, and
keeps the channel of every open stream in a map. The counter does not look at the
map, so whether an id is fresh depends on how long a stream stays open: the ids of
two openings agree exactly when a multiple of 65535 openings lies between them.
-/

import NoPanic.Client.Circuit
import NoPanic.Math.History

namespace NoPanic

open NoPanic.Math

namespace Circuit

/-- The number of open streams. -/
def activeStreamCount (c : Circuit) : Nat := c.streamSenders.keys.length

/-- Take the next stream id. Zero is skipped, it is reserved for messages of the
circuit itself. -/
def allocateStreamId (c : Circuit) : Circuit × StreamId :=
  let id := c.nextStreamId
  let nextStreamId := c.nextStreamId + 1
  let nextStreamId := if nextStreamId = 0 then 1 else nextStreamId
  ({ c with nextStreamId }, id)

/-- Register the channel of a stream, in place of the one its id had before. -/
def registerStream (c : Circuit) (streamId : StreamId) (sender : List Message) : Circuit :=
  { c with streamSenders := c.streamSenders.insert streamId sender }

/-- Remove the channel of a stream. -/
def unregisterStream (c : Circuit) (streamId : StreamId) : Circuit :=
  { c with streamSenders := c.streamSenders.erase streamId }

/-- Open a stream: take an id and register a new channel under it. -/
def openStream (c : Circuit) : Circuit :=
  (c.allocateStreamId.1).registerStream c.allocateStreamId.2 []

/-! ## Calls -/

/-- The calls that open and close streams. -/
inductive StreamCall
  | opens
  | closes (streamId : StreamId)
  deriving DecidableEq, Repr

/-- A circuit after a call. -/
def call (c : Circuit) : StreamCall → Circuit
  | .opens => c.openStream
  | .closes streamId => c.unregisterStream streamId

/-- A circuit after a sequence of calls. -/
def callAll (c : Circuit) (calls : List StreamCall) : Circuit := calls.foldl call c

/-- How many streams a sequence of calls opens. -/
def openings (calls : List StreamCall) : Nat := calls.count .opens

/-- The id of the stream that is opened after `k` others. -/
def streamIdAt (k : Nat) : StreamId := UInt16.ofNat (k % 65535 + 1)

theorem toNat_streamIdAt (k : Nat) : (streamIdAt k).toNat = k % 65535 + 1 := by
  rw [streamIdAt, UInt16.toNat_ofNat']
  omega

/-- No stream gets the id zero. -/
theorem streamIdAt_ne_zero (k : Nat) : streamIdAt k ≠ 0 := by
  intro h
  have hnat := congrArg UInt16.toNat h
  rw [toNat_streamIdAt] at hnat
  exact absurd hnat (Nat.succ_ne_zero _)

/-- Two openings get the same id exactly when their distance is a multiple of the
number of ids. -/
theorem streamIdAt_eq_iff {j k : Nat} : streamIdAt j = streamIdAt k ↔ j % 65535 = k % 65535 := by
  rw [← UInt16.toNat_inj, toNat_streamIdAt, toNat_streamIdAt]
  omega

/-- The counter goes from one id to the next. -/
theorem allocateStreamId_eq {c : Circuit} {k : Nat} (hnext : c.nextStreamId = streamIdAt k) :
    c.allocateStreamId.2 = streamIdAt k ∧
      c.allocateStreamId.1.nextStreamId = streamIdAt (k + 1) := by
  refine ⟨hnext, ?_⟩
  have hk := Nat.mod_lt k (show 0 < 65535 by decide)
  have hnat : (streamIdAt k + 1).toNat = (k % 65535 + 2) % 65536 := by
    rw [UInt16.toNat_add, toNat_streamIdAt]
    rfl
  have hzero : streamIdAt k + 1 = 0 ↔ k % 65535 = 65534 := by
    rw [← UInt16.toNat_inj, hnat]
    constructor
    · intro h
      have h0 : (0 : UInt16).toNat = 0 := rfl
      omega
    · intro h
      rw [h]
      rfl
  simp only [allocateStreamId, hnext]
  apply UInt16.toNat_inj.mp
  rw [toNat_streamIdAt]
  by_cases hwrap : streamIdAt k + 1 = 0
  · rw [if_pos hwrap]
    have hlast := hzero.mp hwrap
    have hone : (1 : UInt16).toNat = 1 := rfl
    omega
  · rw [if_neg hwrap, hnat]
    have hbefore : k % 65535 ≠ 65534 := fun h => hwrap (hzero.mpr h)
    omega

section

variable {start : Circuit}

theorem callAll_snoc (c : Circuit) (calls : List StreamCall) (last : StreamCall) :
    c.callAll (calls ++ [last]) = (c.callAll calls).call last := by
  simp [callAll]

/-- After any calls the counter stands at the id of the next opening. -/
theorem nextStreamId_callAll (hnext : start.nextStreamId = 1) (calls : List StreamCall) :
    (start.callAll calls).nextStreamId = streamIdAt (openings calls) := by
  induction calls using List.reverseRecOn with
  | nil => exact hnext
  | append_singleton calls last ih =>
      rw [callAll_snoc]
      cases last with
      | opens =>
          have hcount : openings (calls ++ [.opens]) = openings calls + 1 := by simp [openings]
          rw [hcount]
          exact (allocateStreamId_eq ih).2
      | closes streamId =>
          have hcount : openings (calls ++ [.closes streamId]) = openings calls := by
            simp [openings]
          rw [hcount]
          exact ih

/-- The history opens a stream with an id. -/
def Gets (streamId : StreamId) (before : List StreamCall) (call : StreamCall) : Prop :=
  call = .opens ∧ streamIdAt (openings before) = streamId

/-- The history closes the stream with an id. -/
def Loses (streamId : StreamId) (_ : List StreamCall) (call : StreamCall) : Prop :=
  call = .closes streamId

/-- An id is registered exactly when some opening got it and it has not been closed
since. -/
theorem isSome_lookup_callAll (hnext : start.nextStreamId = 1)
    (hempty : start.streamSenders = ∅) (calls : List StreamCall) (streamId : StreamId) :
    ((start.callAll calls).streamSenders.lookup streamId).isSome = true ↔
      Since (Gets streamId) (Loses streamId) calls := by
  induction calls using List.reverseRecOn with
  | nil => simp [callAll, hempty, not_since_nil]
  | append_singleton calls last ih =>
      rw [callAll_snoc, since_snoc]
      cases last with
      | opens =>
          have hid := (allocateStreamId_eq (nextStreamId_callAll hnext calls)).1
          have hsenders : (start.callAll calls).allocateStreamId.1.streamSenders =
              (start.callAll calls).streamSenders := rfl
          simp only [call, openStream, registerStream, HashMap.lookup_insert_eq, hid, hsenders,
            Gets, Loses]
          by_cases hsame : streamId = streamIdAt (openings calls)
          · simp [hsame]
          · simp [hsame, Ne.symm hsame, ← ih]
      | closes closed =>
          simp only [call, unregisterStream, HashMap.lookup_erase_eq, Gets, Loses]
          by_cases hsame : streamId = closed
          · simp [hsame]
          · simp [hsame, Ne.symm hsame, ← ih]

/-! ## When a fresh id is free -/

/-- Whenever a stream is opened, the id it gets is not zero and no open stream has
it. -/
def AllocatesFresh (c : Circuit) (calls : List StreamCall) : Prop :=
  ∀ before after, calls = before ++ .opens :: after →
    (c.callAll before).allocateStreamId.2 ≠ 0 ∧
      (c.callAll before).streamSenders.lookup (c.callAll before).allocateStreamId.2 = none

/-- No stream stays open while as many others are opened as there are ids: whenever
a stream is opened, fewer than 65534 were opened since any stream that is still
open. -/
def OpenBriefly (calls : List StreamCall) : Prop :=
  ∀ before between after, calls = before ++ .opens :: (between ++ .opens :: after) →
    .closes (streamIdAt (openings before)) ∉ between → openings between < 65534

/-- A history with more than `n` openings goes through one with exactly `n`. -/
theorem exists_openings_eq {calls : List StreamCall} {n : Nat} (h : n < openings calls) :
    ∃ before after, calls = before ++ .opens :: after ∧ openings before = n := by
  induction calls using List.reverseRecOn with
  | nil => simp [openings] at h
  | append_singleton calls last ih =>
      by_cases hbefore : n < openings calls
      · obtain ⟨before, after, rfl, hn⟩ := ih hbefore
        exact ⟨before, after ++ [last], by simp, hn⟩
      · cases last with
        | opens =>
            have hcount : openings (calls ++ [.opens]) = openings calls + 1 := by simp [openings]
            exact ⟨calls, [], rfl, by omega⟩
        | closes streamId =>
            have hcount : openings (calls ++ [.closes streamId]) = openings calls := by
              simp [openings]
            omega

/-- After a first stream, `n` others are opened and closed at once. -/
def rounds (n : Nat) : List StreamCall :=
  (List.range n).flatMap fun k => [.opens, .closes (streamIdAt (k + 1))]

/-- A stream stays open during the rounds of others. -/
def longLived (n : Nat) : List StreamCall := .opens :: rounds n

theorem longLived_succ (n : Nat) :
    longLived (n + 1) = longLived n ++ [.opens, .closes (streamIdAt (n + 1))] := by
  simp [longLived, rounds, List.range_succ]

theorem openings_longLived (n : Nat) : openings (longLived n) = n + 1 := by
  induction n with
  | zero => rfl
  | succ n ih =>
      rw [longLived_succ]
      simp only [openings, List.count_append] at ih ⊢
      rw [ih]
      rfl

/-- Opening a stream adds one to the open streams at most, and closing it again
takes it away. -/
theorem activeStreamCount_round (c : Circuit) {k : Nat} (hnext : c.nextStreamId = streamIdAt k) :
    (c.call .opens).activeStreamCount ≤ c.activeStreamCount + 1 ∧
      ((c.call .opens).call (.closes (streamIdAt k))).activeStreamCount ≤
        c.activeStreamCount := by
  have hid := (allocateStreamId_eq hnext).1
  have herase : (c.streamSenders.keys.erase (streamIdAt k)).length ≤ c.streamSenders.keys.length :=
    List.length_erase_le
  have hopened : (c.call .opens).streamSenders.keys =
      streamIdAt k :: c.streamSenders.keys.erase (streamIdAt k) := by
    rw [← hid]
    exact AList.keys_insert _
  have hclosed : ((c.call .opens).call (.closes (streamIdAt k))).streamSenders.keys =
      c.streamSenders.keys.erase (streamIdAt k) := by
    have hkeys : ((c.call .opens).call (.closes (streamIdAt k))).streamSenders.keys =
        (c.call .opens).streamSenders.keys.erase (streamIdAt k) := AList.keys_erase _ _
    rw [hkeys, hopened, List.erase_cons_head]
  refine ⟨?_, ?_⟩
  · rw [activeStreamCount, hopened, List.length_cons]
    exact Nat.succ_le_succ herase
  · rw [activeStreamCount, hclosed]
    exact herase

/-- While one stream stays open and others come and go, at most two are open. -/
theorem activeStreamCount_longLived (hnext : start.nextStreamId = 1)
    (hempty : start.streamSenders = ∅) (n : Nat) :
    (start.callAll (longLived n)).activeStreamCount ≤ 1 ∧
      ∀ before, before <+: longLived n → (start.callAll before).activeStreamCount ≤ 2 := by
  have hnone : start.activeStreamCount = 0 := by
    rw [activeStreamCount, hempty]
    rfl
  induction n with
  | zero =>
      have hone := (start.activeStreamCount_round (k := 0) hnext).1
      rw [hnone] at hone
      refine ⟨hone, ?_⟩
      intro before hinitial
      have hsnoc : before <+: [] ++ [.opens] := hinitial
      rcases List.prefix_concat_iff.mp hsnoc with rfl | hnil
      · exact Nat.le_trans hone (by decide)
      · rw [List.prefix_nil.mp hnil]
        exact Nat.le_trans (Nat.le_of_eq hnone) (by decide)
  | succ n ih =>
      obtain ⟨hend, hall⟩ := ih
      have hcounter := nextStreamId_callAll hnext (longLived n)
      rw [openings_longLived] at hcounter
      obtain ⟨hopened, hclosed⟩ := activeStreamCount_round _ hcounter
      have hsplit : longLived (n + 1) =
          (longLived n ++ [.opens]) ++ [.closes (streamIdAt (n + 1))] := by
        rw [longLived_succ]
        simp
      have hend' : (start.callAll (longLived (n + 1))).activeStreamCount ≤ 1 := by
        rw [hsplit, callAll_snoc, callAll_snoc]
        exact Nat.le_trans hclosed hend
      refine ⟨hend', ?_⟩
      intro before hinitial
      rw [hsplit, List.prefix_concat_iff, ← hsplit, List.prefix_concat_iff] at hinitial
      rcases hinitial with rfl | rfl | hinitial
      · exact Nat.le_trans hend' (by decide)
      · rw [callAll_snoc]
        exact Nat.le_trans hopened (Nat.succ_le_succ hend)
      · exact hall before hinitial

/-- A stream that stays open for too long meets its own id. -/
theorem AllocatesFresh.openBriefly (hnext : start.nextStreamId = 1)
    (hempty : start.streamSenders = ∅) {calls : List StreamCall}
    (hfresh : start.AllocatesFresh calls) : OpenBriefly calls := by
  have hid : ∀ before, (start.callAll before).allocateStreamId.2 = streamIdAt (openings before) :=
    fun before => (allocateStreamId_eq (nextStreamId_callAll hnext before)).1
  intro before between after hcalls hopen
  by_contra hlong
  have hmany : 65534 < openings (between ++ [.opens]) := by
    simp only [openings, List.count_append, List.count_singleton_self] at hlong ⊢
    omega
  -- the opening that comes round to the id of the open stream
  obtain ⟨first, rest, hfirst, hcount⟩ := exists_openings_eq hmany
  have hwithin : first ⊆ between := by
    rcases snoc_eq_append_cons_iff.mp hfirst with ⟨rfl, -, -⟩ | ⟨front, -, rfl⟩
    · exact List.Subset.refl _
    · exact List.subset_append_left _ _
  have hsplit : calls = (before ++ .opens :: first) ++ .opens :: (rest ++ after) := by
    have hend : between ++ .opens :: after = (between ++ [.opens]) ++ after := by simp
    rw [hcalls, hend, hfirst]
    simp
  have hsame : streamIdAt (openings (before ++ .opens :: first)) =
      streamIdAt (openings before) := by
    rw [streamIdAt_eq_iff]
    simp only [openings, List.count_append, List.count_cons_self] at hcount ⊢
    omega
  have hnone := (hfresh _ _ hsplit).2
  rw [hid, hsame] at hnone
  have hsome := (isSome_lookup_callAll hnext hempty (before ++ .opens :: first)
    (streamIdAt (openings before))).mpr
    ⟨before, .opens, first, rfl, ⟨rfl, rfl⟩, by
      rintro front call back rfl rfl
      exact hopen (hwithin (by simp))⟩
  rw [hnone] at hsome
  exact absurd hsome (by decide)

/-- An id that is in use belongs to a stream that has been open for too long. -/
theorem OpenBriefly.allocatesFresh (hnext : start.nextStreamId = 1)
    (hempty : start.streamSenders = ∅) {calls : List StreamCall} (hbrief : OpenBriefly calls) :
    start.AllocatesFresh calls := by
  have hid : ∀ before, (start.callAll before).allocateStreamId.2 = streamIdAt (openings before) :=
    fun before => (allocateStreamId_eq (nextStreamId_callAll hnext before)).1
  intro before after hcalls
  refine ⟨?_, ?_⟩
  · rw [hid]
    exact streamIdAt_ne_zero _
  · rw [hid]
    by_contra hsome
    obtain ⟨front, call, between, rfl, ⟨rfl, hsame⟩, hkept⟩ :=
      (isSome_lookup_callAll hnext hempty before _).mp (Option.isSome_iff_ne_none.mpr hsome)
    have hopen : .closes (streamIdAt (openings front)) ∉ between := by
      intro hmem
      obtain ⟨first, rest, rfl⟩ := List.append_of_mem hmem
      exact hkept first _ rest rfl (congrArg StreamCall.closes hsame)
    have hfew := hbrief front between after (by rw [hcalls]; simp) hopen
    rw [streamIdAt_eq_iff] at hsame
    simp only [openings, List.count_append, List.count_cons_self] at hsame hfew
    omega

/-- From the state in which a circuit is built, the allocator gives only fresh ids
if and only if streams stay open briefly. -/
theorem allocatesFresh_iff (hnext : start.nextStreamId = 1) (hempty : start.streamSenders = ∅)
    (calls : List StreamCall) : start.AllocatesFresh calls ↔ OpenBriefly calls :=
  ⟨AllocatesFresh.openBriefly hnext hempty, OpenBriefly.allocatesFresh hnext hempty⟩

end

/-- A run of calls on a fresh circuit, and a stream that gets an id that is in use: the
first stream stays open while 65534 others are opened and closed. At most two streams
are ever open. -/
theorem not_allocatesFresh_longLived :
    let start : Circuit := ⟨1, .ready, OnionKeys.new [] [], ∅, 1⟩
    let calls := longLived 65534 ++ [.opens]
    (∀ before, before <+: calls → (start.callAll before).activeStreamCount < 65535) ∧
      ¬ start.AllocatesFresh calls := by
  intro start calls
  refine ⟨?_, ?_⟩
  · intro before hinitial
    have hlong := activeStreamCount_longLived (show start.nextStreamId = 1 from rfl) rfl 65534
    rcases List.prefix_concat_iff.mp hinitial with rfl | hinitial
    · have hcounter :=
        nextStreamId_callAll (show start.nextStreamId = 1 from rfl) (longLived 65534)
      have hopened := (activeStreamCount_round _ hcounter).1
      rw [callAll_snoc]
      omega
    · exact Nat.lt_of_le_of_lt (hlong.2 before hinitial) (by decide)
  · intro hfresh
    have hbrief := hfresh.openBriefly rfl rfl
    have hopen : .closes (streamIdAt (openings [])) ∉ rounds 65534 := by
      intro hmem
      obtain ⟨k, hk, hcall⟩ := List.mem_flatMap.mp hmem
      have hlt := List.mem_range.mp hk
      simp only [List.mem_cons, List.not_mem_nil, or_false, reduceCtorEq, false_or,
        StreamCall.closes.injEq, streamIdAt_eq_iff, openings, List.count_nil] at hcall
      omega
    have hsplit : calls = [] ++ .opens :: (rounds 65534 ++ .opens :: []) := by
      rw [List.nil_append, ← List.cons_append, ← longLived]
    have hfew := hbrief [] _ [] hsplit hopen
    have hmany := openings_longLived 65534
    simp only [longLived, openings, List.count_cons_self] at hmany hfew
    omega

/-- In a history with at most as many openings as there are ids, streams stay open briefly. -/
theorem openBriefly_of_le {calls : List StreamCall} (hfew : openings calls ≤ 65535) :
    OpenBriefly calls := by
  intro before between after hcalls _
  rw [hcalls] at hfew
  simp only [openings, List.count_append, List.count_cons_self] at hfew ⊢
  omega

/-- With one opening less the ids are fresh, although the first stream stays open. -/
theorem allocatesFresh_iff_longLived :
    let start : Circuit := ⟨1, .ready, OnionKeys.new [] [], ∅, 1⟩
    start.AllocatesFresh (longLived 65533 ++ [.opens]) := by
  intro start
  refine (allocatesFresh_iff rfl rfl _).mpr (openBriefly_of_le ?_)
  have hmany := openings_longLived 65533
  simp only [openings, List.count_append, List.count_singleton_self] at hmany ⊢
  omega

end Circuit

end NoPanic
