/-
# What a relay sees

A relay reads the header of every cell that passes it: the circuit, the stream,
the command, the length of the payload and the digest. The payload itself stays
under the layers of the relays behind. The digest is computed over the plaintext
and travels beside it, unmasked, so two runs that differ only in what the
payloads say look alike to a relay exactly when the hashes of the two plaintexts
start alike after every cell.
-/

import NoPanic.Circuit.Network
import NoPanic.Common.Reference

namespace NoPanic

open NoPanic.Math

/-- The part of a cell that no layer covers. -/
structure Visible where
  circuitId : CircuitId
  streamId : StreamId
  command : MessageCommand
  length : Nat
  digest : FixedBytes 4
  deriving DecidableEq, Repr

/-- What a relay sees of a message. -/
def Message.visible (msg : Message) : Visible :=
  ⟨msg.circuitId, msg.streamId, msg.command, msg.data.length, msg.digest⟩

/-- Two cells on one stream, with one command and payloads of one length. -/
structure RelayCell.SameShape (cell cell' : RelayCell) : Prop where
  streamId : cell.streamId = cell'.streamId
  command : cell.command = cell'.command
  length : cell.data.length = cell'.data.length

section

variable [Primitives]

/-- What the hop at a position sees of the cells that a client sends. -/
def relayView [AddrText] (client : Circuit) (hops : List HopNode) (position : Nat) (io : RelayIo)
    (cells : List RelayCell) : List Visible :=
  (((relayTransducer io).chain (hops.take position) (client.sendAll cells)).2).map
    Message.visible

/-- After every cell of two runs the hashes of what was sent start alike. -/
def TagsAgree (digest digest' : RunningDigest) (cells cells' : List RelayCell) : Prop :=
  ∀ n < cells.length, digestTag (digest.state ++ records (cells.take (n + 1))) =
    digestTag (digest'.state ++ records (cells'.take (n + 1)))

/-- A relay learns nothing from the cells that pass it: whenever a client may send
either of two sequences of one shape, no relay in front of the exit can tell which
one it sends. -/
def NothingLearned [AddrText] : Prop :=
  ∀ (client : Circuit) (hops : List HopNode) (position : Nat) (io : RelayIo)
    (cells cells' : List RelayCell), 3 ≤ hops.length + 1 → position < hops.length →
    (∀ node ∈ hops, node.handler.Established) → io.Delivers →
    (∀ cell ∈ cells, cell.Sendable) → (∀ cell ∈ cells', cell.Sendable) →
    List.Forall₂ RelayCell.SameShape cells cells' →
    relayView client hops position io cells = relayView client hops position io cells'

/-! ## A line of hops keeps what is visible -/

/-- A hop changes nothing that is visible. -/
theorem visible_run (cipher : Aes128Ctr) {msgs : List Message}
    (hmsgs : ∀ msg ∈ msgs, msg.command ≠ .padding) :
    (hopTransducer.run cipher msgs).2.map Message.visible = msgs.map Message.visible ∧
      ∀ msg ∈ (hopTransducer.run cipher msgs).2, msg.command ≠ .padding := by
  induction msgs generalizing cipher with
  | nil => simp
  | cons msg msgs ih =>
      have hmsg := hmsgs msg (by simp)
      obtain ⟨hvisible, hcommand⟩ := ih (hopTransducer.step cipher msg).1
        fun other hother => hmsgs other (by simp [hother])
      simp only [Transducer.run, List.map_append, List.map_cons, hvisible]
      simp only [hopTransducer, if_neg hmsg] at hcommand ⊢
      refine ⟨by simp [Message.visible], ?_⟩
      rintro out hout
      rcases List.mem_append.mp hout with hout | hout
      · rw [List.mem_singleton.mp hout]
        exact hmsg
      · exact hcommand out hout

/-- A line of hops changes nothing that is visible. -/
theorem visible_chain (ciphers : List Aes128Ctr) {msgs : List Message}
    (hmsgs : ∀ msg ∈ msgs, msg.command ≠ .padding) :
    (hopTransducer.chain ciphers msgs).2.map Message.visible = msgs.map Message.visible := by
  induction ciphers generalizing msgs with
  | nil => rfl
  | cons cipher ciphers ih =>
      obtain ⟨hvisible, hcommand⟩ := visible_run cipher hmsgs
      simp only [Transducer.chain_cons, ih hcommand, hvisible]

/-- The cells a client sends travel as forward traffic. -/
theorem forwardTraffic_encodeAll (circuitId : CircuitId) (s : OnionEnd) {cells : List RelayCell}
    (hcells : ∀ cell ∈ cells, cell.Sendable) :
    ∀ msg ∈ ((OnionEnd.channel circuitId).encodeAll s cells).2,
      ForwardTraffic msg ∧ msg.command ≠ .padding := by
  intro msg hmsg
  obtain ⟨s', cell, hmem, rfl⟩ := Channel.exists_of_mem_encodeAll _ hmsg
  have hcell := hcells cell hmem
  have hdata : (OnionEnd.encode circuitId s' cell).2.data.length ≤ maxPayloadSize := by
    rw [OnionEnd.length_encode_data]
    exact hcell.fits
  exact ⟨⟨.inr hcell.command, hdata⟩, hcell.ne_padding⟩

/-- What a relay sees is what the client wrote. -/
theorem relayView_eq [AddrText] (client : Circuit) {hops : List HopNode} (position : Nat)
    {io : RelayIo} {cells : List RelayCell} (hhops : ∀ node ∈ hops, node.handler.Established)
    (hdelivers : io.Delivers) (hcells : ∀ cell ∈ cells, cell.Sendable) :
    relayView client hops position io cells =
      (((OnionEnd.channel client.circuitId).encodeAll client.onionKeys.forwardEnd cells).2).map
        Message.visible := by
  have hsent := client.sendAll_eq fun cell hcell => (hcells cell hcell).fits
  have htraffic := forwardTraffic_encodeAll client.circuitId client.onionKeys.forwardEnd hcells
  rw [relayView, hsent, (relayTransducer_seenAs hdelivers).chain
    (fun node hnode => hhops node (List.mem_of_mem_take hnode))
    fun msg hmsg => (htraffic msg hmsg).1]
  exact visible_chain _ fun msg hmsg => (htraffic msg hmsg).2

/-! ## Two runs -/

/-- Two runs of one shape look alike where they were written exactly when their
tags agree. -/
theorem visible_encodeAll_iff (circuitId : CircuitId) {cells cells' : List RelayCell}
    (hshape : List.Forall₂ RelayCell.SameShape cells cells') (s s' : OnionEnd) :
    ((OnionEnd.channel circuitId).encodeAll s cells).2.map Message.visible =
        ((OnionEnd.channel circuitId).encodeAll s' cells').2.map Message.visible ↔
      TagsAgree s.digest s'.digest cells cells' := by
  induction hshape generalizing s s' with
  | nil => simp [TagsAgree]
  | @cons cell cell' cells cells' hcell _ ih =>
      have hrest := ih (OnionEnd.encode circuitId s cell).1 (OnionEnd.encode circuitId s' cell').1
      have hfirst : (OnionEnd.encode circuitId s cell).2.visible =
          (OnionEnd.encode circuitId s' cell').2.visible ↔
            digestTag (s.digest.state ++ records [cell]) =
              digestTag (s'.digest.state ++ records [cell']) := by
        simp [Message.visible, OnionEnd.encode, Message.new, hcell.streamId, hcell.command,
          hcell.length, RunningDigest.update, records]
      have hlater : TagsAgree (OnionEnd.encode circuitId s cell).1.digest
          (OnionEnd.encode circuitId s' cell').1.digest cells cells' ↔
            ∀ n < cells.length,
              digestTag (s.digest.state ++ records ((cell :: cells).take (n + 1 + 1))) =
                digestTag (s'.digest.state ++ records ((cell' :: cells').take (n + 1 + 1))) := by
        simp [TagsAgree, records, List.append_assoc]
      simp only [Channel.encodeAll, OnionEnd.channel_encode, List.map_cons, List.cons.injEq]
      rw [hfirst, hrest, hlater, TagsAgree, List.length_cons, Nat.forall_lt_succ_left']
      simp

/-- A relay can tell two runs of one shape apart exactly when some tag differs. -/
theorem relayView_eq_iff [AddrText] (client : Circuit) {hops : List HopNode} (position : Nat)
    {io : RelayIo} {cells cells' : List RelayCell}
    (hhops : ∀ node ∈ hops, node.handler.Established) (hdelivers : io.Delivers)
    (hcells : ∀ cell ∈ cells, cell.Sendable) (hcells' : ∀ cell ∈ cells', cell.Sendable)
    (hshape : List.Forall₂ RelayCell.SameShape cells cells') :
    relayView client hops position io cells = relayView client hops position io cells' ↔
      TagsAgree client.onionKeys.forwardDigest client.onionKeys.forwardDigest cells cells' := by
  rw [relayView_eq client position hhops hdelivers hcells,
    relayView_eq client position hhops hdelivers hcells']
  exact visible_encodeAll_iff client.circuitId hshape _ _

end

/-! ## Two destinations -/

section

open Reference

/-- The same request for another destination. -/
def otherBegin : RelayCell := ⟨1, .begin, asBytes "example.net:80"⟩

/-- A client may send it. -/
theorem otherBegin_sendable : otherBegin.Sendable :=
  ⟨.inl rfl, by decide, fun _ => ⟨_, rfl⟩⟩

/-- The two requests have one shape. -/
theorem sampleBegin_sameShape : List.Forall₂ RelayCell.SameShape [sampleBegin] [otherBegin] :=
  .cons ⟨rfl, rfl, by decide⟩ .nil

/-- Their tags differ. -/
theorem digestTag_sampleBegin :
    digestTag (records [sampleBegin]) ≠ digestTag (records [otherBegin]) := by
  decide +kernel

/-- So the entry relay of a circuit of three hops can tell a request for one destination from a
request for the other. -/
theorem relayView_eq_iff_sampleBegin :
    relayView sampleNetwork.client sampleNetwork.hops 0 sampleIo [sampleBegin] ≠
      relayView sampleNetwork.client sampleNetwork.hops 0 sampleIo [otherBegin] := by
  intro hview
  have htags := (relayView_eq_iff sampleNetwork.client 0 sampleNetwork_ready.established
    sampleIo_delivers (by simpa using sampleBegin_sendable) (by simpa using otherBegin_sendable)
    sampleBegin_sameShape).mp hview
  exact digestTag_sampleBegin (htags 0 (by decide))

/-- So the entry relay sees which of the two destinations the client asks for. -/
theorem something_learned : ¬ NothingLearned := by
  intro hnothing
  have hview := hnothing sampleNetwork.client sampleNetwork.hops 0 sampleIo [sampleBegin]
    [otherBegin] (by decide) (by decide) sampleNetwork_ready.established sampleIo_delivers
    (by simpa using sampleBegin_sendable) (by simpa using otherBegin_sendable)
    sampleBegin_sameShape
  rw [relayView_eq _ 0 sampleNetwork_ready.established sampleIo_delivers
      (by simpa using sampleBegin_sendable),
    relayView_eq _ 0 sampleNetwork_ready.established sampleIo_delivers
      (by simpa using otherBegin_sendable)] at hview
  have htags := (visible_encodeAll_iff _ sampleBegin_sameShape _ _).mp hview 0 (by decide)
  exact digestTag_sampleBegin htags

end

end NoPanic
