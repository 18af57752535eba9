/-
# Demultiplexers

Messages arrive in one order and carry a key each. A subscriber registers a channel
under a key and gets what arrives with that key until its channel is dropped. A
`Demux` keeps the history of this: everything that has arrived, and every channel
there ever was, with the times at which it was registered and dropped and with what
was sent into it. Times are counted in arrivals.

The code under study keeps only a map from keys to open channels. `Agrees` says that
the map is what the history shows as open, and is kept by the operations on the two.
-/

import NoPanic.Math.HashMap

namespace NoPanic.Math

universe u v

/-- A channel that was registered under a key. -/
structure Subscription (κ : Type u) (μ : Type v) where
  key : κ
  /-- How many messages had arrived when it was registered. -/
  opened : Nat
  /-- How many had arrived when it was dropped, if it was. -/
  dropped : Option Nat
  sent : List μ

/-- What has arrived, and all channels. -/
structure Demux (κ : Type u) (μ : Type v) where
  arrived : List μ
  channels : List (Subscription κ μ)

namespace Subscription

variable {κ : Type u} {μ : Type v}

/-- Drop a channel at some time, unless it was dropped before. -/
def dropAt (now : Nat) (ch : Subscription κ μ) : Subscription κ μ :=
  { ch with dropped := ch.dropped.or (some now) }

/-- Send a message into a channel that is open. -/
def send (x : μ) (ch : Subscription κ μ) : Subscription κ μ :=
  if ch.dropped = none then { ch with sent := ch.sent ++ [x] } else ch

/-- What arrives while the channel is registered. -/
def window (arrived : List μ) (ch : Subscription κ μ) : List μ :=
  (arrived.take (ch.dropped.getD arrived.length)).drop ch.opened

end Subscription

namespace Demux

variable {κ : Type u} {μ : Type v}

/-- The history before anything happens. -/
def empty : Demux κ μ := ⟨[], []⟩

variable [DecidableEq κ]

/-- Drop the channels of some keys. -/
def drop (d : Demux κ μ) (p : κ → Bool) : Demux κ μ :=
  { d with
    channels := d.channels.map fun ch =>
      if p ch.key then ch.dropAt d.arrived.length else ch }

/-- Register a channel, in place of the one its key had before. -/
def register (d : Demux κ μ) (key : κ) : Demux κ μ :=
  { (d.drop fun k => k == key) with
    channels := (d.drop fun k => k == key).channels ++ [⟨key, d.arrived.length, none, []⟩] }

/-- A message arrives, and goes to the open channel of its key. -/
def deliver (d : Demux κ μ) (key : κ) (x : μ) : Demux κ μ where
  arrived := d.arrived ++ [x]
  channels := d.channels.map fun ch => if ch.key = key then ch.send x else ch

/-! ## What the channels hold -/

/-- A channel has been sent exactly what arrived with its key while it was
registered. -/
structure Exact (keyOf : μ → κ) (arrived : List μ) (ch : Subscription κ μ) : Prop where
  opened_le : ch.opened ≤ arrived.length
  dropped_le : ∀ n, ch.dropped = some n → n ≤ arrived.length
  sent_eq : ch.sent = (ch.window arrived).filter fun x => decide (keyOf x = ch.key)

/-- Every channel holds exactly what it should. -/
def Sound (keyOf : μ → κ) (d : Demux κ μ) : Prop :=
  ∀ ch ∈ d.channels, Exact keyOf d.arrived ch

variable {keyOf : μ → κ} {d : Demux κ μ}

theorem sound_empty : Sound keyOf (empty : Demux κ μ) := by
  intro ch hmem
  cases hmem

/-- Dropping a channel freezes what it holds. -/
theorem Exact.dropAt {arrived : List μ} {ch : Subscription κ μ}
    (h : Exact keyOf arrived ch) : Exact keyOf arrived (ch.dropAt arrived.length) := by
  refine ⟨h.opened_le, ?_, ?_⟩
  · intro n hn
    cases hdropped : ch.dropped with
    | none =>
        simp only [Subscription.dropAt, hdropped, Option.none_or, Option.some.injEq] at hn
        exact Nat.le_of_eq hn.symm
    | some m =>
        simp only [Subscription.dropAt, hdropped, Option.some_or, Option.some.injEq] at hn
        exact hn ▸ h.dropped_le m hdropped
  · have hwindow : (ch.dropAt arrived.length).window arrived = ch.window arrived := by
      cases hdropped : ch.dropped with
      | none => simp [Subscription.dropAt, Subscription.window, hdropped]
      | some m => simp [Subscription.dropAt, Subscription.window, hdropped]
    rw [hwindow]
    exact h.sent_eq

/-- One more arrival is in the window of a channel exactly when the channel is open. -/
theorem Exact.arrive {arrived : List μ} {ch : Subscription κ μ} (h : Exact keyOf arrived ch)
    (x : μ) :
    Exact keyOf (arrived ++ [x]) (if ch.key = keyOf x then ch.send x else ch) := by
  cases hdropped : ch.dropped with
  | some m =>
      -- the channel is closed to what arrives now
      have hm := h.dropped_le m hdropped
      have hsame : (if ch.key = keyOf x then ch.send x else ch) = ch := by
        simp [Subscription.send, hdropped]
      have hwindow : ch.window (arrived ++ [x]) = ch.window arrived := by
        simp only [Subscription.window, hdropped, Option.getD_some]
        rw [List.take_append_of_le_length hm]
      rw [hsame]
      refine ⟨Nat.le_trans h.opened_le (by simp), ?_, ?_⟩
      · intro n hn
        exact Nat.le_trans (h.dropped_le n hn) (by simp)
      · rw [hwindow]
        exact h.sent_eq
  | none =>
      have hopen := h.opened_le
      have hwindow : ch.window (arrived ++ [x]) = ch.window arrived ++ [x] := by
        simp only [Subscription.window, hdropped, Option.getD_none, List.take_length]
        exact List.drop_append_of_le_length hopen
      by_cases hkey : ch.key = keyOf x
      · rw [if_pos hkey]
        have hsend : ch.send x = { ch with sent := ch.sent ++ [x] } := by
          simp [Subscription.send, hdropped]
        rw [hsend]
        refine ⟨Nat.le_trans hopen (by simp), ?_, ?_⟩
        · intro n hn
          exact absurd (hdropped.symm.trans hn) (by simp)
        · show ch.sent ++ [x] = (ch.window (arrived ++ [x])).filter _
          rw [hwindow, List.filter_append, h.sent_eq]
          simp [hkey]
      · rw [if_neg hkey]
        refine ⟨Nat.le_trans hopen (by simp), ?_, ?_⟩
        · intro n hn
          exact absurd (hdropped.symm.trans hn) (by simp)
        · rw [hwindow, List.filter_append, ← h.sent_eq]
          simp [Ne.symm hkey]

/-- Dropping channels keeps a history sound. -/
theorem Sound.drop (h : Sound keyOf d) (p : κ → Bool) : Sound keyOf (d.drop p) := by
  intro ch hmem
  obtain ⟨ch', hmem', rfl⟩ := List.mem_map.mp hmem
  show Exact keyOf d.arrived _
  by_cases hp : p ch'.key = true
  · rw [if_pos hp]
    exact (h ch' hmem').dropAt
  · rw [if_neg hp]
    exact h ch' hmem'

/-- A new channel holds nothing. -/
theorem Sound.register (h : Sound keyOf d) (key : κ) : Sound keyOf (d.register key) := by
  intro ch hmem
  rcases List.mem_append.mp hmem with hold | hnew
  · exact h.drop _ ch hold
  · rw [List.mem_singleton.mp hnew]
    exact ⟨Nat.le_refl _, by simp, by simp [Subscription.window, Demux.register, Demux.drop]⟩

/-- A message that arrives goes where it should. -/
theorem Sound.deliver (h : Sound keyOf d) (x : μ) : Sound keyOf (d.deliver (keyOf x) x) := by
  intro ch hmem
  obtain ⟨ch', hmem', rfl⟩ := List.mem_map.mp hmem
  exact (h ch' hmem').arrive x

/-! ## The map of the open channels -/

/-- A map holds under each key what was sent into the open channel of the key. -/
def Agrees (senders : HashMap κ (List μ)) (d : Demux κ μ) : Prop :=
  ∀ key sent, senders.lookup key = some sent ↔
    ∃ ch ∈ d.channels, ch.dropped = none ∧ ch.key = key ∧ ch.sent = sent

variable {senders : HashMap κ (List μ)}

theorem agrees_empty : Agrees ∅ (empty : Demux κ μ) := by
  intro key sent
  simp [empty]

/-- Dropping the channels of some keys removes those keys. -/
theorem Agrees.drop (h : Agrees senders d) (p : κ → Bool) {senders' : HashMap κ (List μ)}
    (hlookup : ∀ key, senders'.lookup key = if p key then none else senders.lookup key) :
    Agrees senders' (d.drop p) := by
  intro key sent
  rw [hlookup]
  constructor
  · intro hsome
    split at hsome
    · cases hsome
    · next hp =>
        obtain ⟨ch, hmem, hopen, rfl, rfl⟩ := (h key sent).mp hsome
        exact ⟨ch, List.mem_map.mpr ⟨ch, hmem, by rw [if_neg hp]⟩, hopen, rfl, rfl⟩
  · rintro ⟨ch, hmem, hopen, rfl, rfl⟩
    obtain ⟨ch', hmem', rfl⟩ := List.mem_map.mp hmem
    by_cases hp : p ch'.key = true
    · rw [if_pos hp] at hopen
      cases hdropped : ch'.dropped with
      | none => simp [Subscription.dropAt, hdropped] at hopen
      | some n => simp [Subscription.dropAt, hdropped] at hopen
    · rw [if_neg hp] at hopen ⊢
      rw [if_neg hp]
      exact (h _ _).mpr ⟨ch', hmem', hopen, rfl, rfl⟩

/-- Registering a channel puts it into the map. -/
theorem Agrees.register (h : Agrees senders d) (key : κ) :
    Agrees (senders.insert key []) (d.register key) := by
  have hdrop : Agrees (senders.erase key) (d.drop fun k => k == key) := by
    apply h.drop _
    intro k
    rw [HashMap.lookup_erase_eq]
    simp only [beq_iff_eq]
  intro k sent
  rw [HashMap.lookup_insert_eq]
  have hmem : ∀ ch, ch ∈ (d.register key).channels ↔
      ch ∈ (d.drop fun k => k == key).channels ∨ ch = ⟨key, d.arrived.length, none, []⟩ := by
    intro ch
    simp [Demux.register]
  by_cases hk : k = key
  · subst hk
    rw [if_pos rfl]
    constructor
    · intro hsent
      exact ⟨_, (hmem _).mpr (Or.inr rfl), rfl, rfl, Option.some.inj hsent⟩
    · rintro ⟨ch, hch, hopen, hkey, rfl⟩
      rcases (hmem ch).mp hch with hold | rfl
      · have hgone := (hdrop k ch.sent).mpr ⟨ch, hold, hopen, hkey, rfl⟩
        rw [HashMap.lookup_erase_eq, if_pos rfl] at hgone
        cases hgone
      · rfl
  · rw [if_neg hk, ← show (senders.erase key).lookup k = senders.lookup k by
      rw [HashMap.lookup_erase_eq, if_neg hk], hdrop k sent]
    constructor
    · rintro ⟨ch, hch, hrest⟩
      exact ⟨ch, (hmem ch).mpr (Or.inl hch), hrest⟩
    · rintro ⟨ch, hch, hopen, hkey, hsent⟩
      rcases (hmem ch).mp hch with hold | rfl
      · exact ⟨ch, hold, hopen, hkey, hsent⟩
      · exact absurd hkey.symm hk

/-- A message for an open channel is appended to what the map holds. -/
theorem Agrees.deliver {key : κ} {queued : List μ} (h : Agrees senders d)
    (hopen : senders.lookup key = some queued) (x : μ) :
    Agrees (senders.insert key (queued ++ [x])) (d.deliver key x) := by
  intro k sent
  rw [HashMap.lookup_insert_eq]
  have hsent : ∀ ch ∈ d.channels, ch.dropped = none → ch.key = key → ch.sent = queued := by
    intro ch hmem hlive hkey
    have hlookup := (h key ch.sent).mpr ⟨ch, hmem, hlive, hkey, rfl⟩
    exact Option.some.inj (hlookup.symm.trans hopen)
  by_cases hk : k = key
  · subst hk
    rw [if_pos rfl]
    constructor
    · intro heq
      obtain ⟨ch, hmem, hlive, hkey, hqueued⟩ := (h k queued).mp hopen
      refine ⟨ch.send x, List.mem_map.mpr ⟨ch, hmem, by rw [if_pos hkey]⟩, ?_, ?_, ?_⟩
      · simp [Subscription.send, hlive]
      · simp [Subscription.send, hlive, hkey]
      · simp only [Subscription.send, hlive, if_true, hqueued]
        exact Option.some.inj heq
    · rintro ⟨ch, hmem, hlive, hkey, rfl⟩
      obtain ⟨ch', hmem', rfl⟩ := List.mem_map.mp hmem
      by_cases hkey' : ch'.key = k
      · rw [if_pos hkey'] at hlive ⊢
        by_cases hopen' : ch'.dropped = none
        · simp [Subscription.send, hopen', hsent ch' hmem' hopen' hkey']
        · simp [Subscription.send, hopen'] at hlive
      · rw [if_neg hkey'] at hkey
        exact absurd hkey hkey'
  · rw [if_neg hk, h k sent]
    constructor
    · rintro ⟨ch, hmem, hlive, rfl, rfl⟩
      exact ⟨ch, List.mem_map.mpr ⟨ch, hmem, by rw [if_neg hk]⟩, hlive, rfl, rfl⟩
    · rintro ⟨ch, hmem, hlive, hkey, rfl⟩
      obtain ⟨ch', hmem', rfl⟩ := List.mem_map.mp hmem
      by_cases hkey' : ch'.key = key
      · rw [if_pos hkey', Subscription.send] at hkey
        split at hkey
        · exact absurd (hkey.symm.trans hkey') hk
        · exact absurd (hkey.symm.trans hkey') hk
      · rw [if_neg hkey'] at hlive hkey ⊢
        exact ⟨ch', hmem', hlive, hkey, rfl⟩

/-- A message that no open channel wants changes no channel. -/
theorem Agrees.deliver_none {key : κ} (h : Agrees senders d) (hnone : senders.lookup key = none)
    (x : μ) : Agrees senders (d.deliver key x) := by
  have hchannels : (d.deliver key x).channels = d.channels := by
    refine (List.map_congr_left ?_).trans (List.map_id _)
    intro ch hmem
    by_cases hkey : ch.key = key
    · have hclosed : ch.dropped ≠ none := by
        intro hopen
        have hlookup := (h key ch.sent).mpr ⟨ch, hmem, hopen, hkey, rfl⟩
        rw [hnone] at hlookup
        cases hlookup
      simp [hkey, Subscription.send, hclosed]
    · simp [hkey]
  intro k sent
  rw [h k sent, hchannels]

end Demux

end NoPanic.Math
