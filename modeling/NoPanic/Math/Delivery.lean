/-
# Delivery through a line of transducers

A source encodes values, a line of transducers rewrites the messages on their
way, and a sink decodes what arrives. The line is faithful when it turns each
encoding of the source into the encoding the sink expects, and keeps source,
line and sink in step while it does so. Messages that the line swallows may be
mixed in at any time.

Then, whatever the schedule, the sink has read a part of what was sent, from the
start and in order; the next message that reaches it decodes to the next value;
and once nothing is on its way it has read everything.
-/

import NoPanic.Math.Channel
import NoPanic.Math.Pipeline
import Mathlib.Data.List.ReduceOption

namespace NoPanic.Math

universe u v w x

variable {σ : Type u} {τ : Type v} {α : Type w} {β : Type x}

/-- A line turns the source's encoding of a value into the sink's, and keeps the
three in step. -/
def Carries (C : Channel σ α β) (T : Transducer τ β) (inStep : List τ → σ → σ → Prop)
    (ok : α → Prop) : Prop :=
  ∀ line source sink a, ok a → inStep line source sink →
    (T.chain line [(C.encode source a).2]).2 = [(C.encode sink a).2] ∧
      inStep (T.chain line [(C.encode source a).2]).1 (C.encode source a).1 (C.encode sink a).1

/-- A line in step drops a message and stays as it is. -/
def Swallows (T : Transducer τ β) (inStep : List τ → σ → σ → Prop) (b : β) : Prop :=
  ∀ line source sink, inStep line source sink → T.chain line [b] = (line, [])

/-- One direction of a connection: its two ends, the line between them, what has
arrived and is not read yet, and the values sent and read so far. -/
@[ext]
structure Link (σ : Type u) (τ : Type v) (α : Type w) (β : Type x) where
  source : σ
  stages : List (Stage τ β)
  inbox : List β
  sink : σ
  sent : List α
  read : List α

namespace Link

/-- Nothing is on its way. -/
def Drained (l : Link σ τ α β) : Prop :=
  l.inbox = [] ∧ ∀ stage ∈ l.stages, stage.inbox = []

/-- A link that nothing has been sent on. -/
def start (source : σ) (line : List τ) (sink : σ) : Link σ τ α β :=
  ⟨source, line.map fun s => ⟨s, []⟩, [], sink, [], []⟩

/-- Hand a message to the line. -/
def feed (l : Link σ τ α β) (b : β) : Link σ τ α β :=
  { l with
    stages := (Pipeline.feed l.stages l.inbox [b]).1
    inbox := (Pipeline.feed l.stages l.inbox [b]).2 }

/-- The source sends a value. -/
def send (C : Channel σ α β) (l : Link σ τ α β) (a : α) : Link σ τ α β :=
  { l.feed (C.encode l.source a).2 with
    source := (C.encode l.source a).1
    sent := l.sent ++ [a] }

/-- The line after one of its stages has read. -/
def moved (l : Link σ τ α β) (line : List (Stage τ β) × List β) : Link σ τ α β :=
  { l with stages := line.1, inbox := line.2 }

/-- The sink reads a value. -/
def receive (l : Link σ τ α β) (sink : σ) (rest : List β) (a : α) : Link σ τ α β :=
  { l with inbox := rest, sink, read := l.read ++ [a] }

/-- One of the stages reads, and nothing else changes. -/
def Moves (T : Transducer τ β) (l l' : Link σ τ α β) : Prop :=
  ∃ after, Pipeline.Step T (l.stages, l.inbox) after ∧ l' = l.moved after

/-- The sink reads the oldest message in front of it, which is the next value sent. -/
def Reads (l : Link σ τ α β) (a : α) (l' : Link σ τ α β) : Prop :=
  ∃ b rest sink, l.inbox = b :: rest ∧ l.read ++ [a] <+: l.sent ∧ l' = l.receive sink rest a

/-- A read of the sink shows in its log alone, and what it adds there is the next value sent. -/
theorem Reads.logs {l l' : Link σ τ α β} {a : α} (hreads : l.Reads a l') :
    l'.sent = l.sent ∧ l'.read = l.read ++ [a] ∧ l.sent[l.read.length]? = some a := by
  obtain ⟨b, rest, sink, -, ⟨later, hlater⟩, rfl⟩ := hreads
  refine ⟨rfl, rfl, ?_⟩
  rw [← hlater]
  simp

/-- A read of a stage shows in no log. -/
theorem Moves.logs {T : Transducer τ β} {l l' : Link σ τ α β} (hmoves : l.Moves T l') :
    l'.sent = l.sent ∧ l'.read = l.read := by
  obtain ⟨after, -, rfl⟩ := hmoves
  exact ⟨rfl, rfl⟩

/-- Values that are sent one after the other stand in the log in that order. -/
theorem logs_sends (C : Channel σ α β) (values : List α) (l : Link σ τ α β) :
    (values.foldl (send C) l).sent = l.sent ++ values ∧
      (values.foldl (send C) l).read = l.read := by
  induction values generalizing l with
  | nil => simp
  | cons a values ih => simpa [send, feed] using ih (l.send C a)

/-- What the sink will read of what is on its way: all of it goes through the stages that it has
still in front of it, and is decoded behind them. -/
def onTheWay (C : Channel σ α β) (T : Transducer τ β) (l : Link σ τ α β) : List α :=
  (C.decodeAll l.sink (l.inbox ++ Pipeline.flush T l.stages [])).2.reduceOption

/-- The reads that are left until nothing is on its way. -/
def pending (l : Link σ τ α β) : Nat := Pipeline.pending l.stages l.inbox

/-- Nothing is left to read exactly where nothing is on its way. -/
theorem pending_eq_zero {l : Link σ τ α β} : l.pending = 0 ↔ l.Drained :=
  Pipeline.pending_eq_zero

/-- A stage that reads leaves less to read. -/
theorem Moves.pending_lt {T : Transducer τ β} (honce : ∀ s b, (T.step s b).2.length ≤ 1)
    {l l' : Link σ τ α β} (hmoves : l.Moves T l') : l'.pending < l.pending := by
  obtain ⟨after, hstep, rfl⟩ := hmoves
  exact hstep.pending_lt honce

/-- So does the sink. -/
theorem Reads.pending_lt {l l' : Link σ τ α β} {a : α} (hreads : l.Reads a l') :
    l'.pending < l.pending := by
  obtain ⟨b, rest, sink, hinbox, -, rfl⟩ := hreads
  have hless : ∀ stages : List (Stage τ β),
      Pipeline.pending stages rest < Pipeline.pending stages (b :: rest) := by
    intro stages
    induction stages with
    | nil => exact Nat.lt_succ_self _
    | cons stage stages ih => exact Nat.add_lt_add_left ih _
  rw [pending, pending, hinbox]
  exact hless l.stages

/-! ## The invariant -/

variable (C : Channel σ α β) (T : Transducer τ β) (inStep : List τ → σ → σ → Prop)

/-- Nothing is lost, changed or reordered on a link that started with the line
`line` and the sink's end `first`. -/
structure Sound (line : List τ) (first : σ) (l : Link σ τ α β) : Prop where
  /-- The sink stands where its readings have brought it. -/
  sink_eq : l.sink = (C.encodeAll first l.read).1
  /-- What was read is the first part of what was sent. -/
  read_sent : l.read <+: l.sent
  /-- All that was handed to the line comes out as the encoding of what was sent,
  and what the line has done of it is accounted for. -/
  fed : ∃ input, (T.chain line input).2 = (C.encodeAll first l.sent).2 ∧
    inStep (T.chain line input).1 l.source (C.encodeAll first l.sent).1 ∧
      Pipeline.Feeds T line l.stages input ((C.encodeAll first l.read).2 ++ l.inbox)

variable {C T inStep} {line : List τ} {first : σ} {l : Link σ τ α β}

/-- A fresh link is sound when its ends and its line start in step. -/
theorem sound_start (source sink : σ) (line : List τ) (hstep : inStep line source sink) :
    Sound C T inStep line sink (start source line sink) where
  sink_eq := rfl
  read_sent := List.prefix_refl _
  fed := ⟨[], by simp [start], by simpa [start] using hstep,
    by simpa [start] using Pipeline.feeds_start line⟩

/-- What is handed to the line is accounted for. -/
theorem Sound.feeds_feed {input : List β}
    (h : Pipeline.Feeds T line l.stages input ((C.encodeAll first l.read).2 ++ l.inbox)) (b : β) :
    Pipeline.Feeds T line (l.feed b).stages (input ++ [b])
      ((C.encodeAll first l.read).2 ++ (l.feed b).inbox) := by
  have hfed := h.feed [b]
  rwa [Pipeline.feed_append] at hfed

/-- Sending keeps a link sound. -/
theorem Sound.send {ok : α → Prop} (hcarries : Carries C T inStep ok)
    (h : Sound C T inStep line first l) {a : α} (ha : ok a) :
    Sound C T inStep line first (l.send C a) := by
  obtain ⟨input, hchain, hstep, hfeeds⟩ := h.fed
  obtain ⟨hout, hnext⟩ := hcarries _ _ _ a ha hstep
  refine ⟨h.sink_eq, h.read_sent.trans (List.prefix_append _ _),
    input ++ [(C.encode l.source a).2], ?_, ?_, Sound.feeds_feed hfeeds _⟩
  · simp only [Transducer.chain_append, Link.send, Channel.encodeAll_append, hchain, hout,
      Channel.encodeAll_singleton]
  · simp only [Transducer.chain_append, Link.send, Channel.encodeAll_append,
      Channel.encodeAll_singleton]
    exact hnext

/-- A message that the line swallows keeps a link sound. -/
theorem Sound.swallow (h : Sound C T inStep line first l) {b : β} (hb : Swallows T inStep b) :
    Sound C T inStep line first (l.feed b) := by
  obtain ⟨input, hchain, hstep, hfeeds⟩ := h.fed
  have hnone := hb _ _ _ hstep
  refine ⟨h.sink_eq, h.read_sent, input ++ [b], ?_, ?_, Sound.feeds_feed hfeeds b⟩
  · simpa [Transducer.chain_append, hnone, feed] using hchain
  · simpa [Transducer.chain_append, hnone, feed] using hstep

/-- A read of any stage keeps a link sound. -/
theorem Sound.step (h : Sound C T inStep line first l) {after : List (Stage τ β) × List β}
    (hstep : Pipeline.Step T (l.stages, l.inbox) after) :
    Sound C T inStep line first (l.moved after) := by
  obtain ⟨input, hchain, hin, hfeeds⟩ := h.fed
  refine ⟨h.sink_eq, h.read_sent, input, hchain, hin, ?_⟩
  exact Pipeline.Feeds.step hfeeds (hstep.append_arrived (C.encodeAll first l.read).2)

/-- The oldest message in front of the sink decodes to the next value sent, and
reading it keeps the link sound. -/
theorem Sound.receive (h : Sound C T inStep line first l) {b : β} {rest : List β}
    (hinbox : l.inbox = b :: rest) :
    ∃ a, (C.decode l.sink b).2 = some a ∧ l.read ++ [a] <+: l.sent ∧
      Sound C T inStep line first (l.receive (C.decode l.sink b).1 rest a) := by
  obtain ⟨input, hchain, hstep, hfeeds⟩ := h.fed
  have hdelivered := hfeeds.arrived_isInitial
  rw [hchain, hinbox] at hdelivered
  obtain ⟨a, hread, rfl⟩ := C.next_of_delivered h.read_sent hdelivered
  have hdecode := C.decode_encode (C.encodeAll first l.read).1 a
  rw [← h.sink_eq] at hdecode hinbox
  refine ⟨a, by rw [← h.sink_eq, hdecode], hread, ?_, hread, input, hchain, hstep, ?_⟩
  · simp only [Link.receive, Channel.encodeAll_append, Channel.encodeAll_singleton, ← h.sink_eq,
      hdecode]
  · rw [hinbox] at hfeeds
    simpa [Link.receive, Channel.encodeAll_append, ← h.sink_eq] using hfeeds

/-- What has been read and what is on its way are together what was sent. -/
theorem Sound.read_append_onTheWay (h : Sound C T inStep line first l) :
    l.read ++ l.onTheWay C T = l.sent := by
  obtain ⟨input, hchain, -, hfeeds⟩ := h.fed
  obtain ⟨later, hlater⟩ := h.read_sent
  have hall := hfeeds.flushed []
  rw [List.append_nil, hchain, ← hlater, Channel.encodeAll_append, List.append_assoc,
    List.append_cancel_left_eq] at hall
  rw [onTheWay, hall, h.sink_eq, Channel.decodeAll_encodeAll, ← hlater]
  congr 1
  simp [List.reduceOption]

/-- Once nothing is on its way, everything has been read. -/
theorem Sound.read_eq_sent (h : Sound C T inStep line first l) (hdrained : l.Drained) :
    l.read = l.sent := by
  obtain ⟨input, hchain, -, hfeeds⟩ := h.fed
  have hall := hfeeds.drained hdrained.2
  rw [hdrained.1, List.append_nil, hchain] at hall
  exact C.done_of_delivered h.read_sent hall

end Link

end NoPanic.Math
