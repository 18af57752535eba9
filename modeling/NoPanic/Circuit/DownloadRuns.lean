/-
# The runs of a circuit with its streams in both directions

Every step that keeps the order keeps three things for every stream: the exit has emitted what its
task has read, but for what the task holds; the call has written what it has taken from its channel,
and what it has not taken is there; and a call that has read END has got everything. Between the two
ends stands the circuit, which hands the client a first part of what the exit has emitted.
-/

import NoPanic.Circuit.Download

namespace NoPanic

open NoPanic.Math

namespace Tunnel

/-! ## What a step does to the way back -/

/-- The logs of two circuits are the same, but for what the client has sent. -/
structure SameLogs (net net' : Network) : Prop where
  recovered : net'.recovered = net.recovered
  emitted : net'.emitted = net.emitted
  received : net'.received = net.received

/-- And so are the channels. -/
structure SameBack (net net' : Network) : Prop extends SameLogs net net' where
  senders : net'.client.streamSenders = net.client.streamSenders

/-- Writing back changes none of the logs, and not the client. -/
theorem sameBack_writeBack (net : Network) (front back : List HopNode) (msgs : List Message) :
    SameBack net (net.writeBack front back msgs) := by
  unfold Network.writeBack
  split <;> exact ⟨⟨rfl, rfl, rfl⟩, rfl⟩

section

variable [Primitives]

/-- Neither does sending. -/
theorem sameBack_clientSends (net : Network) (cell : RelayCell) :
    SameBack net (net.clientSends cell) := by
  have hsenders := (CircuitTask.sendMessage_frame net.client cell.streamId cell.command cell.data
    (.ok ())).1
  unfold Network.clientSends
  split
  · next client error heq =>
      rw [heq] at hsenders
      exact ⟨⟨rfl, rfl, rfl⟩, hsenders⟩
  · next client msg heq =>
      rw [heq] at hsenders
      exact ⟨⟨rfl, rfl, rfl⟩, hsenders⟩

/-- Neither does what moves through the hops. -/
theorem sameBack_moves [AddrText] {net net' : Network} {event : NetworkEvent}
    (hmoves : event.Moves) (hemit : ∀ cell, event ≠ .emit cell) (hreceive : event ≠ .receive)
    (hstep : Network.Step net event net') : SameBack net net' := by
  cases hstep with
  | send | exit => exact absurd hmoves id
  | emit cell => exact absurd rfl (hemit cell)
  | receive => exact absurd rfl hreceive
  | padding => exact ⟨⟨rfl, rfl, rfl⟩, rfl⟩
  | relay =>
      unfold Network.hopReads
      simp only
      split
      · exact ⟨⟨rfl, rfl, rfl⟩, rfl⟩
      · obtain ⟨⟨hrecovered, hemitted, hreceived⟩, hsenders⟩ := sameBack_writeBack _ _ _ _
        exact ⟨⟨hrecovered, hemitted, hreceived⟩, hsenders⟩
  | relayBack =>
      unfold Network.hopReadsBack
      split
      · exact ⟨⟨rfl, rfl, rfl⟩, rfl⟩
      · simp only
        split
        · exact ⟨⟨rfl, rfl, rfl⟩, rfl⟩
        · obtain ⟨⟨hrecovered, hemitted, hreceived⟩, hsenders⟩ := sameBack_writeBack _ _ _ _
          exact ⟨⟨hrecovered, hemitted, hreceived⟩, hsenders⟩

/-- What the exit reads does not show at the client at once. -/
theorem received_exitReads (net : Network) (io : RelayIo) (msg : Message) (rest : List Message) :
    (net.exitReads io msg rest).received = net.received ∧
      (net.exitReads io msg rest).client = net.client := by
  unfold Network.exitReads
  simp only
  split
  · exact ⟨rfl, rfl⟩
  · unfold Network.writeBack
    split <;> exact ⟨rfl, rfl⟩

/-- What a task emits shows in the log of the exit alone. -/
theorem back_exitEmits {net : Network} {cell : RelayCell}
    (hstate : net.exit.sharedState = some net.exitState) :
    (net.exitEmits cell).recovered = net.recovered ∧
      (net.exitEmits cell).emitted = net.emitted ++ [cell] ∧
      (net.exitEmits cell).received = net.received ∧
      (net.exitEmits cell).client = net.client := by
  unfold Network.exitEmits
  rw [hstate]
  unfold Network.writeBack
  simp only
  split <;> exact ⟨rfl, rfl, rfl, rfl⟩

/-- A message that the reader delivers is in the channel of its stream, if there is one. -/
theorem lookup_readMessage {c : Circuit} {msg decrypted : Message}
    (hdelivered : (c.readMessage msg).2 = .delivered decrypted) (s : StreamId) :
    (c.readMessage msg).1.streamSenders.lookup s = (c.streamSenders.lookup s).map fun queue =>
      if decrypted.streamId = s then queue ++ [decrypted] else queue := by
  rw [Circuit.readMessage] at hdelivered ⊢
  split at hdelivered
  · cases hdelivered
  · next hdestroy =>
      rw [if_neg hdestroy]
      simp only at hdelivered ⊢
      split at hdelivered
      · cases hdelivered
      · next hvalid =>
          rw [if_neg hvalid]
          split at hdelivered
          · next hnone =>
              cases hdelivered
              by_cases hsame : msg.streamId = s
              · subst hsame
                simp [hnone]
              · simp [Message.new, hsame]
          · next queued hsome =>
              cases hdelivered
              simp only [HashMap.lookup_insert_eq]
              by_cases hsame : msg.streamId = s
              · subst hsame
                simp [Message.new, hsome]
              · simp [Message.new, hsame, Ne.symm hsame]

/-- The reader of the circuit accepts a message, and puts it into the channel of its stream. -/
theorem back_clientReads {net : Network} {msg : Message} {rest : List Message}
    (hrunning : (net.clientReads msg rest).failed = false) :
    ∃ decrypted : Message,
      (net.clientReads msg rest).received = net.received ++ [Circuit.cellOf decrypted] ∧
      (∀ s, (net.clientReads msg rest).client.streamSenders.lookup s =
        (net.client.streamSenders.lookup s).map fun queue =>
          if decrypted.streamId = s then queue ++ [decrypted] else queue) ∧
      (net.clientReads msg rest).recovered = net.recovered ∧
      (net.clientReads msg rest).emitted = net.emitted := by
  unfold Network.clientReads at hrunning ⊢
  simp only at hrunning ⊢
  cases hread : (net.client.readMessage msg).2 with
  | delivered decrypted =>
      exact ⟨decrypted, rfl, lookup_readMessage hread, rfl, rfl⟩
  | _ =>
      rw [hread] at hrunning
      cases hrunning

end

/-! ## Every run -/

/-- Writing after taking a message changes the download of the stream once. -/
theorem downloads_write (t : Tunnel) (s : StreamId) (msg : Message) (rest : List Message)
    (bytes : Bytes) :
    ((t.take s msg rest).write s bytes).downloads = Function.update t.downloads s
      ⟨(t.downloads s).task, (t.downloads s).read,
        (t.downloads s).taken ++ [Circuit.cellOf msg], (t.downloads s).written ++ bytes,
        (t.downloads s).ended⟩ := by
  show Function.update (Function.update t.downloads s _) s _ = _
  rw [Function.update_idem]
  show Function.update t.downloads s { Function.update t.downloads s _ s with
    written := (Function.update t.downloads s _ s).written ++ bytes } = _
  rw [Function.update_self]

/-- Reading END after taking it changes the download of the stream once. -/
theorem downloads_end (t : Tunnel) (s : StreamId) (msg : Message) (rest : List Message) :
    ((t.take s msg rest).setDownload s
      { (t.take s msg rest).downloads s with ended := true }).downloads =
        Function.update t.downloads s
          ⟨(t.downloads s).task, (t.downloads s).read,
            (t.downloads s).taken ++ [Circuit.cellOf msg],
            (t.downloads s).written ++ [], true⟩ := by
  show Function.update (Function.update t.downloads s _) s _ = _
  rw [Function.update_idem, List.append_nil]
  show Function.update t.downloads s { Function.update t.downloads s _ s with ended := true } = _
  rw [Function.update_self]

section

variable [Primitives]

/-- The invariant of a circuit with its streams in both directions. -/
structure Inv (t : Tunnel) : Prop where
  up : t.settled.Inv
  reply : ∀ reply, t.hand = some reply → reply.data.length ≤ maxPayloadSize
  exit : ∀ s, ExitSays s (t.downloads s).task (t.downloads s).read (t.up.tasks s)
    t.up.net.recovered t.up.net.emitted
  call : ∀ s, CallHears s (t.downloads s) (t.up.phases s) t.up.net.received (t.channel? s)
  whole : ∀ s, (t.downloads s).ended = true →
    Whole s (t.downloads s) (t.up.phases s) (t.up.tasks s) t.up.net.recovered

/-- The upload side does not look at the channels. -/
theorem inv_setSenders {st : StreamNetwork} (h : st.Inv)
    (senders : HashMap StreamId (List Message)) :
    StreamNetwork.Inv { st with net := { st.net with
      client := { st.net.client with streamSenders := senders } } } := by
  obtain ⟨origin, hsound⟩ := h.net
  exact ⟨⟨origin, ⟨hsound.clientId, hsound.exitId, hsound.hops, hsound.exit, hsound.forward,
    hsound.backward, hsound.traffic, hsound.backTraffic, hsound.sendable, hsound.running⟩⟩,
    h.client, h.exit⟩

variable {t t' : Tunnel} {s : StreamId}

/-- What has come back on a stream has been emitted on it. -/
theorem Inv.received (h : t.Inv) : t.up.net.received <+: t.up.net.emitted := by
  obtain ⟨origin, hsound⟩ := h.up.net
  exact hsound.backward.read_sent

/-- Two states that differ in one stream only. -/
structure SameBut (s : StreamId) (t t' : Tunnel) : Prop where
  hand : t'.hand = t.hand
  logs : SameLogs t.up.net t'.up.net
  others : ∀ other, other ≠ s → t'.downloads other = t.downloads other ∧
    t'.up.phases other = t.up.phases other ∧ t'.up.tasks other = t.up.tasks other ∧
      t'.channel? other = t.channel? other

/-- A step of one stream keeps the invariant where that stream keeps it. -/
theorem Inv.change (h : t.Inv) (hsame : SameBut s t t') (hup : t'.settled.Inv)
    (hexit : ExitSays s (t'.downloads s).task (t'.downloads s).read (t'.up.tasks s)
      t.up.net.recovered t.up.net.emitted)
    (hcall : CallHears s (t'.downloads s) (t'.up.phases s) t.up.net.received (t'.channel? s))
    (hwhole : (t'.downloads s).ended = true →
      Whole s (t'.downloads s) (t'.up.phases s) (t'.up.tasks s) t.up.net.recovered) : t'.Inv := by
  obtain ⟨hrecovered, hemitted, hreceived⟩ := hsame.logs
  refine ⟨hup, hsame.hand ▸ h.reply, ?_, ?_, ?_⟩
  · intro other
    rw [hrecovered, hemitted]
    by_cases heq : other = s
    · subst heq
      exact hexit
    · obtain ⟨hdownload, -, htask, -⟩ := hsame.others other heq
      rw [hdownload, htask]
      exact h.exit other
  · intro other
    rw [hreceived]
    by_cases heq : other = s
    · subst heq
      exact hcall
    · obtain ⟨hdownload, hphase, -, hchannel⟩ := hsame.others other heq
      rw [hdownload, hphase, hchannel]
      exact h.call other
  · intro other
    rw [hrecovered]
    by_cases heq : other = s
    · subst heq
      exact hwhole
    · obtain ⟨hdownload, hphase, htask, -⟩ := hsame.others other heq
      rw [hdownload, hphase, htask]
      exact h.whole other

/-! ### The call of a stream -/

/-- A call goes on without a look at its channel. -/
theorem Inv.goesOn (h : t.Inv) {up : StreamNetwork} {phase : StreamPhase}
    (hup : settled { t with up } |>.Inv)
    (hback : SameBack t.up.net up.net) (htasks : up.tasks = t.up.tasks)
    (hphases : up.phases = Function.update t.up.phases s phase)
    (hbefore : t.up.phases s ≠ .idle ∧ t.up.phases s ≠ .closed)
    (hafter : phase ≠ .idle ∧ phase ≠ .waiting)
    (hrelaying : (∃ chunks, phase = .relaying chunks) →
      ∃ chunks, t.up.phases s = .relaying chunks)
    (hclosing : t.up.phases s = .closing → phase = .closed) : Inv { t with up } := by
  have hphase : up.phases s = phase := by rw [hphases, Function.update_self]
  have hchannel : ∀ other, Tunnel.channel? { t with up } other = t.channel? other := by
    intro other
    rw [channel?, hback.senders, channel?]
  refine h.change (s := s) ⟨rfl, hback.toSameLogs, ?_⟩ hup ?_ ?_ ?_
  · intro other hne
    refine ⟨rfl, ?_, by rw [htasks], hchannel other⟩
    rw [hphases, Function.update_of_ne hne]
  · rw [htasks]
    exact h.exit s
  · rw [hchannel, hphase]
    exact (h.call s).goesOn hbefore hafter hrelaying
  · intro hended
    have hwhole := h.whole s hended
    rw [htasks, hphase]
    refine ⟨Or.inr (hclosing ?_), hwhole.stopped, hwhole.begun, hwhole.same⟩
    exact hwhole.left.resolve_right hbefore.2

/-- A call takes a message from its channel. -/
theorem Inv.takes (h : t.Inv) {msg : Message} {rest : List Message} {phase : StreamPhase}
    {written : Bytes} {ended : Bool} (hchannel : t.channel? s = some (msg :: rest))
    (hhand : t'.hand = t.hand) (hup : t'.settled.Inv) (hlogs : SameLogs t.up.net t'.up.net)
    (htasks : t'.up.tasks = t.up.tasks)
    (hphases : t'.up.phases = Function.update t.up.phases s phase)
    (hsenders : t'.up.net.client.streamSenders = t.up.net.client.streamSenders.insert s rest)
    (hdownloads : t'.downloads = Function.update t.downloads s
      ⟨(t.downloads s).task, (t.downloads s).read,
        (t.downloads s).taken ++ [Circuit.cellOf msg], written, ended⟩)
    (hafter : phase ≠ .idle ∧ phase ≠ .waiting)
    (hwritten : written <+: (dataOf s ((t.downloads s).taken ++ [Circuit.cellOf msg])).flatten)
    (hexact : (∃ chunks, phase = .relaying chunks) ∨ ended = true →
      written = (dataOf s ((t.downloads s).taken ++ [Circuit.cellOf msg])).flatten)
    (hwhole : ended = true → phase = .closing ∧ t.up.tasks s ≠ .running ∧
      commandsOf s t.up.net.recovered ≠ [] ∧ written = (t.downloads s).read) : t'.Inv := by
  have hdownload := congrFun hdownloads s
  rw [Function.update_self] at hdownload
  have hphase := congrFun hphases s
  rw [Function.update_self] at hphase
  refine h.change (s := s) ⟨hhand, hlogs, ?_⟩ hup ?_ ?_ ?_
  · intro other hne
    refine ⟨?_, ?_, by rw [htasks], ?_⟩
    · rw [hdownloads, Function.update_of_ne hne]
    · rw [hphases, Function.update_of_ne hne]
    · rw [channel?, hsenders, HashMap.lookup_insert_eq, if_neg hne, channel?]
  · rw [hdownload, htasks]
    exact h.exit s
  · have hcall := h.call s
    rw [hchannel] at hcall
    rw [channel?, hsenders, HashMap.lookup_insert_eq, if_pos rfl, hdownload, hphase]
    exact hcall.takes hafter hwritten hexact
  · rw [hdownload, hphase, htasks]
    intro hended
    obtain ⟨hleft, hstopped, hbegun, hsame⟩ := hwhole hended
    exact ⟨Or.inl hleft, hstopped, hbegun, hsame⟩

/-- A call in its loop has not sent END, and so none has been recovered. -/
theorem Inv.not_ended (h : t.Inv) (hphase : t.up.phases s = .relaying []) :
    .end ∉ commandsOf s t.up.net.recovered := by
  intro hend
  obtain ⟨n, hsaid⟩ : ∃ n, commandsOf s t.up.net.sent = .begin :: List.replicate n .data := by
    have hsaid : StreamNetwork.Said (t.up.phases s) (commandsOf s t.up.net.sent) :=
      (h.up.client s).said
    rw [hphase] at hsaid
    exact hsaid
  have hsent : .end ∈ commandsOf s t.up.net.sent := (h.up.recovered s).2.subset hend
  rw [hsaid] at hsent
  rcases List.mem_cons.mp hsent with heq | hmem
  · cases heq
  · cases List.eq_of_mem_replicate hmem

/-- When END is the next message for a call in its loop, the task of its stream has stopped, and
the call has written all that the task has read. -/
theorem Inv.whole_of_end (h : t.Inv) {msg : Message} {rest : List Message}
    (hphase : t.up.phases s = .relaying []) (hchannel : t.channel? s = some (msg :: rest))
    (hcommand : msg.command = .end) :
    t.up.tasks s ≠ .running ∧ commandsOf s t.up.net.recovered ≠ [] ∧
      (t.downloads s).written = (t.downloads s).read := by
  have hcall := h.call s
  have hexit := h.exit s
  obtain ⟨later, hlater⟩ := cellsOf_mono (s := s) h.received
  have hcells : cellsOf s t.up.net.emitted =
      (t.downloads s).taken ++ Circuit.cellOf msg :: (rest.map Circuit.cellOf ++ later) := by
    rw [← hlater, ← hcall.queued _ hchannel, List.map_cons, List.append_assoc, List.cons_append]
  have hover : .end ∈ commandsOf s t.up.net.emitted := by
    rw [commandsOf_eq_map, hcells]
    simp [Circuit.cellOf, hcommand]
  have hnever := h.not_ended hphase
  have hstopped := (hexit.ending hover).resolve_left hnever
  have hnone : (t.downloads s).task.cells = [] := by
    by_contra hcells
    exact hstopped (hexit.working hcells)
  refine ⟨hstopped, ?_, ?_⟩
  · intro hbegun
    rw [hexit.silent hbegun] at hcells
    simp at hcells
  · -- no DATA stands behind the first END
    have horder := hexit.order hnever
    rw [hcells, List.pairwise_append, List.pairwise_cons] at horder
    have hrest : dataOf s (Circuit.cellOf msg :: (rest.map Circuit.cellOf ++ later)) = [] := by
      apply dataOf_eq_nil_of_command
      intro cell hmem
      rcases List.mem_cons.mp hmem with rfl | hmem
      · simp [Circuit.cellOf, hcommand]
      · exact horder.2.1.1 cell hmem hcommand
    have hdata : dataOf s t.up.net.emitted = dataOf s (t.downloads s).taken := by
      rw [← dataOf_cellsOf, hcells, dataOf_append, hrest, List.append_nil]
    rw [hcall.exact (Or.inl ⟨[], hphase⟩), ← hexit.bytes, hdata, TaskPhase.bytes, hnone]
    simp

/-- A call that waits, or is in its loop, has not read END. -/
theorem Inv.ended_eq_false (h : t.Inv)
    (hphase : t.up.phases s = .waiting ∨ t.up.phases s = .relaying []) :
    (t.downloads s).ended = false := by
  rw [Bool.eq_false_iff]
  intro hended
  rcases (h.whole s hended).left with hleft | hleft <;> rw [hleft] at hphase <;> simp at hphase

/-! ### The circuit and the exit -/

/-- Nothing that the way back looks at changes. -/
theorem Inv.same (h : t.Inv) {up : StreamNetwork} (hup : settled { t with up } |>.Inv)
    (hback : SameBack t.up.net up.net) (htasks : up.tasks = t.up.tasks)
    (hphases : up.phases = t.up.phases) : Inv { t with up } := by
  obtain ⟨⟨hrecovered, hemitted, hreceived⟩, hsenders⟩ := hback
  refine ⟨hup, h.reply, ?_, ?_, ?_⟩
  · intro s
    rw [hrecovered, hemitted, htasks]
    exact h.exit s
  · intro s
    rw [hreceived, hphases, channel?, hsenders]
    exact h.call s
  · intro s
    rw [hrecovered, hphases, htasks]
    exact h.whole s

/-- The reader of the circuit receives a message. -/
theorem Inv.receives (h : t.Inv) {msg : Message} {rest : List Message}
    (hup : settled { t with up := { t.up with net := t.up.net.clientReads msg rest } } |>.Inv) :
    Inv { t with up := { t.up with net := t.up.net.clientReads msg rest } } := by
  obtain ⟨origin, hsound⟩ := hup.net
  have hrunning : (t.up.net.clientReads msg rest).failed = false := hsound.running
  obtain ⟨decrypted, hreceived, hlookup, hrecovered, hemitted⟩ := back_clientReads hrunning
  refine ⟨hup, h.reply, ?_, ?_, ?_⟩
  · intro s
    rw [hrecovered, hemitted]
    exact h.exit s
  · intro s
    rw [hreceived, channel?, hlookup]
    exact (h.call s).receives decrypted
  · intro s
    rw [hrecovered]
    exact h.whole s

omit [Primitives] in
/-- A loop that holds no reply. -/
theorem settled_of_hand (hhand : t.hand = none) : t.settled = t.up := by
  rw [settled, hhand]
  exact t.up.handBack_nil

/-- The exit has read the message once the reply is written. -/
theorem settled_handle [AddrText] {io : RelayIo} {msg : Message} {rest : List Message}
    (hup : (t.up.exitReads io msg rest).Inv) :
    (t.handle io msg rest).settled = t.up.exitReads io msg rest := by
  obtain ⟨origin, hsound⟩ := hup.net
  rw [settled, StreamNetwork.handBack, handle]
  simp only [(Network.exitHandles_handBack hsound.running).1]
  rfl

/-- The exit's loop handles a message. The task of a stream starts with the first cell of the
stream. -/
theorem Inv.handles [AddrText] (h : t.Inv) {io : RelayIo} {msg : Message} {rest : List Message}
    (hhand : t.hand = none) (hinbox : t.up.net.exitInbox = msg :: rest) (hdelivers : io.Delivers)
    (htexts : io.TextsFit)
    (hopen : ∀ s stream, t.up.net.exit.streams.lookup s = some stream →
      (io.destinationOpen s = true ↔ t.up.tasks s = .running)) :
    (t.handle io msg rest).Inv := by
  have hbefore := h.up
  rw [settled_of_hand hhand] at hbefore
  have hup := hbefore.step (.exits hinbox hdelivers htexts hopen)
  have hsettled := settled_handle hup
  obtain ⟨origin, hsound⟩ := hup.net
  obtain ⟨cell, hrecovered, -, ⟨later, hlater⟩, hserves, hseals⟩ :=
    hbefore.exitServes hinbox hdelivers htexts
  -- the first cell of a stream is the only BEGIN
  have hfirst : cell.command = .begin → commandsOf cell.streamId t.up.net.recovered = [] := by
    intro hbegin
    apply (hbefore.client cell.streamId).said.script.begins
    refine ⟨commandsOf cell.streamId later, ?_⟩
    rw [← hlater, commandsOf_append, commandsOf_append, commandsOf_singleton, if_pos rfl, hbegin]
  obtain ⟨-, -, hemitted, -⟩ := StreamNetwork.exitReads_frame t.up.net io msg rest
  obtain ⟨hreceived, hclient⟩ := received_exitReads t.up.net io msg rest
  have hemitted' : (t.up.exitReads io msg rest).net.emitted = _ := hemitted
  refine ⟨hsettled ▸ hup, (Network.exitHandles_handBack hsound.running).2, ?_, ?_, ?_⟩
  · intro s
    show ExitSays s _ _ (if s ∈ _ then .running else t.up.tasks s)
      (t.handle io msg rest).settled.net.recovered (t.handle io msg rest).settled.net.emitted
    rw [hsettled, hrecovered, hemitted']
    by_cases hstream : cell.streamId = s
    · subst hstream
      exact (h.exit _).serves (hbefore.exit _) hserves hseals hfirst (hopen _)
    · rw [if_neg (hserves.others hstream).2.2.1]
      apply (h.exit s).other
      · intro other hmem
        rw [List.mem_singleton.mp hmem]
        exact hstream
      · intro answer hmem
        rw [hseals answer hmem]
        exact hstream
  · intro s
    show CallHears s (t.downloads s) (t.up.phases s) (t.handle io msg rest).settled.net.received
      ((t.handle io msg rest).settled.net.client.streamSenders.lookup s)
    rw [hsettled]
    show CallHears s (t.downloads s) (t.up.phases s) (t.up.net.exitReads io msg rest).received
      ((t.up.net.exitReads io msg rest).client.streamSenders.lookup s)
    rw [hreceived, hclient]
    exact h.call s
  · intro s hended
    have hwhole := h.whole s hended
    show Whole s _ _ (if s ∈ _ then .running else t.up.tasks s)
      (t.handle io msg rest).settled.net.recovered
    rw [hsettled, hrecovered]
    have hbegun : commandsOf s (t.up.net.recovered ++ [cell]) ≠ [] := by
      rw [commandsOf_append]
      exact List.append_ne_nil_of_left_ne_nil hwhole.begun _
    have hnot : s ∉ (t.up.net.exit.handleMessage io (some exitPrevHop) msg).effects.filterMap
        RelayEffect.opened? := by
      intro hmem
      by_cases hstream : cell.streamId = s
      · subst hstream
        cases hserves with
        | connects stream hcommand => exact hwhole.begun (hfirst hcommand)
        | queues stream hcommand hlookup hstreams hqueued hopened =>
            rw [hopened] at hmem
            cases hmem
        | refuses hcommand hstreams hqueued hopened | ends hcommand hstreams hqueued hopened =>
            rw [hopened] at hmem
            cases hmem
      · exact (hserves.others hstream).2.2.1 hmem
    rw [if_neg hnot]
    exact ⟨hwhole.left, hwhole.stopped, hbegun, hwhole.same⟩

/-- A reply that is held can be written. -/
theorem Inv.writeBack_reply (h : t.Inv) {reply : Message} (hhand : t.hand = some reply) :
    t.up.net.writeBack t.up.net.hops [] [reply] = t.up.net.handBack [reply] :=
  Network.writeBack_eq_handBack _ (by simpa using h.reply reply hhand)

/-- The circuit as it will be does not change when the reply is written. -/
theorem Inv.settled_writeReply (h : t.Inv) {reply : Message} (hhand : t.hand = some reply) :
    (t.writeReply reply).settled = t.settled := by
  rw [settled_of_hand rfl, settled, hhand, writeReply, h.writeBack_reply hhand]
  rfl

/-- The loop writes its reply. -/
theorem Inv.replies (h : t.Inv) {reply : Message} (hhand : t.hand = some reply) :
    (t.writeReply reply).Inv := by
  have hwritten := h.writeBack_reply hhand
  have hup := h.settled_writeReply hhand
  have hnone : ∀ answer, (t.writeReply reply).hand = some answer →
      answer.data.length ≤ maxPayloadSize := fun _ hanswer => by cases hanswer
  refine ⟨hup ▸ h.up, hnone, ?_, ?_, ?_⟩
  · intro s
    rw [writeReply, hwritten]
    exact h.exit s
  · intro s
    rw [writeReply, hwritten]
    exact h.call s
  · intro s
    rw [writeReply, hwritten]
    exact h.whole s

/-- The task of a stream emits its next cell. -/
theorem Inv.emits [AddrText] (h : t.Inv) (hhand : t.hand = none) {cell : MessageCommand × Bytes}
    {cells : List (MessageCommand × Bytes)} (hcells : (t.downloads s).task.cells = cell :: cells) :
    (t.emit s cell).Inv := by
  have hbefore := h.up
  rw [settled_of_hand hhand] at hbefore
  obtain ⟨origin, hsound⟩ := hbefore.net
  have hexit := h.exit s
  have hrunning : t.up.tasks s = .running := hexit.working (by rw [hcells]; simp)
  have hbegun : commandsOf s t.up.net.recovered ≠ [] := by
    intro hnone
    cases hrunning.symm.trans ((hbefore.exit s).unopened (by rw [hnone]; simp))
  have hemittable := hexit.emittable cell (by rw [hcells]; exact List.mem_cons_self ..)
  have hstep : StreamNetwork.Step t.up (.moves (.emit ⟨s, cell.1, cell.2⟩))
      { t.up with net := t.up.net.exitEmits ⟨s, cell.1, cell.2⟩ } :=
    .moves trivial (.emit _ _ hsound.running hemittable)
  have hup := hbefore.step hstep
  have hback : (t.up.net.exitEmits ⟨s, cell.1, cell.2⟩).recovered = t.up.net.recovered ∧
      (t.up.net.exitEmits ⟨s, cell.1, cell.2⟩).emitted =
        t.up.net.emitted ++ [⟨s, cell.1, cell.2⟩] ∧
      (t.up.net.exitEmits ⟨s, cell.1, cell.2⟩).received = t.up.net.received ∧
      (t.up.net.exitEmits ⟨s, cell.1, cell.2⟩).client = t.up.net.client :=
    back_exitEmits hsound.exit
  obtain ⟨hrecovered, hemitted, hreceived, hclient⟩ := hback
  have hafter : (t.emit s cell).settled.Inv := by
    have hheld : (t.emit s cell).hand = none := hhand
    rw [settled_of_hand hheld]
    by_cases hfinished : (t.downloads s).task.advance = .finished
    · have hdies := hup.step (.dies hrunning)
      show StreamNetwork.Inv (StreamNetwork.setTask _ s (if _ then _ else _))
      rwa [if_pos hfinished]
    · show StreamNetwork.Inv (StreamNetwork.setTask _ s (if _ then _ else _))
      rw [if_neg hfinished, StreamNetwork.setTask, Function.update_eq_self]
      exact hup
  refine ⟨hafter, h.reply, ?_, ?_, ?_⟩
  · intro other
    show ExitSays other (Function.update t.downloads s _ other).task
      (Function.update t.downloads s _ other).read (Function.update t.up.tasks s _ other)
      (t.up.net.exitEmits _).recovered (t.up.net.exitEmits _).emitted
    rw [hrecovered, hemitted]
    by_cases heq : other = s
    · subst heq
      rw [Function.update_self, Function.update_self]
      exact hexit.emits hcells hbegun
    · rw [Function.update_of_ne heq, Function.update_of_ne heq]
      have hne : ∀ answer ∈ [(⟨s, cell.1, cell.2⟩ : RelayCell)], answer.streamId ≠ other := by
        simpa using Ne.symm heq
      have hother := (h.exit other).other (List.forall_mem_nil _) hne
      rwa [List.append_nil] at hother
  · intro other
    show CallHears other (Function.update t.downloads s _ other) (t.up.phases other)
      (t.up.net.exitEmits _).received ((t.up.net.exitEmits _).client.streamSenders.lookup other)
    rw [hreceived, hclient]
    by_cases heq : other = s
    · subst heq
      rw [Function.update_self]
      exact (h.call other).congr rfl rfl rfl
    · rw [Function.update_of_ne heq]
      exact h.call other
  · intro other
    show (Function.update t.downloads s _ other).ended = true →
      Whole other (Function.update t.downloads s _ other) (t.up.phases other)
        (Function.update t.up.tasks s _ other) (t.up.net.exitEmits _).recovered
    rw [hrecovered]
    by_cases heq : other = s
    · subst heq
      rw [Function.update_self]
      exact fun hended => absurd hrunning (h.whole other hended).stopped
    · rw [Function.update_of_ne heq, Function.update_of_ne heq]
      exact h.whole other

/-! ### Every step -/

/-- What the upload side does on its own. -/
theorem Inv.uploads [AddrText] (h : t.Inv) {event : StreamNetworkEvent} {up : StreamNetwork}
    (hevent : event.Uploads) (hstep : StreamNetwork.Step t.up event up) : Inv { t with up } := by
  have hup : (settled { t with up }).Inv := by
    refine h.up.step (hstep.handBack ?_ ?_ _)
    · rintro rfl
      exact hevent
    · rintro cell rfl
      exact hevent cell rfl
  cases hstep with
  | @moves event net hmoves hstep =>
      by_cases hreceive : event = .receive
      · subst hreceive
        cases hstep with
        | receive msg rest hrunning hinbox => exact h.receives hup
      · exact h.same hup (sameBack_moves hmoves hevent hreceive hstep) rfl rfl
  | @reads s slice hphase =>
      exact h.goesOn hup ⟨⟨rfl, rfl, rfl⟩, rfl⟩ rfl rfl (by simp [hphase]) (by simp)
        (fun _ => ⟨[], hphase⟩) (by simp [hphase])
  | @sends s chunk rest hphase =>
      exact h.goesOn hup (sameBack_clientSends _ _) rfl rfl (by simp [hphase]) (by simp)
        (fun _ => ⟨chunk :: rest, hphase⟩) (by simp [hphase])
  | @stops s hphase =>
      have hbefore : t.up.phases s ≠ .idle ∧ t.up.phases s ≠ .closed ∧
          t.up.phases s ≠ .closing := by
        rcases hphase with hphase | hphase <;> rw [hphase] <;> simp
      exact h.goesOn hup ⟨⟨rfl, rfl, rfl⟩, rfl⟩ rfl rfl ⟨hbefore.1, hbefore.2.1⟩ (by simp)
        (by simp) fun hclosing => absurd hclosing hbefore.2.2
  | @closes s hphase =>
      exact h.goesOn hup (sameBack_clientSends _ _) rfl rfl (by simp [hphase]) (by simp) (by simp)
        fun _ => rfl
  | opens | connects | abandons | exits | writes | finishes | dies => exact absurd hevent id

/-- The task of a stream writes to its destination, or stops. -/
theorem Inv.works [AddrText] (h : t.Inv) {event : StreamNetworkEvent} {up : StreamNetwork}
    (hevent : event.WorksOn s) (hidle : (t.downloads s).task = .idle)
    (hstep : StreamNetwork.Step t.up event up) : Inv { t with up } := by
  have hup : (settled { t with up }).Inv := by
    refine h.up.step (hstep.handBack ?_ ?_ _)
    · rintro rfl
      exact hevent
    · rintro cell rfl
      exact hevent
  have hstops : ∀ task : ExitTaskPhase, task ≠ .running →
      (settled { t with up := t.up.setTask s task }).Inv →
        Inv { t with up := t.up.setTask s task } := by
    intro task hstopped hup
    have htask : (t.up.setTask s task).tasks s = task := Function.update_self ..
    refine h.change (s := s) ⟨rfl, ⟨rfl, rfl, rfl⟩, ?_⟩ hup ?_ (h.call s) ?_
    · exact fun other hne => ⟨rfl, rfl, Function.update_of_ne hne .., rfl⟩
    · rw [htask]
      exact (h.exit s).stops hidle hstopped
    · rw [htask]
      intro hended
      have hwhole := h.whole s hended
      exact ⟨hwhole.left, hstopped, hwhole.begun, hwhole.same⟩
  cases hstep with
  | writes htask hqueued => exact h.same hup ⟨⟨rfl, rfl, rfl⟩, rfl⟩ rfl rfl
  | @finishes n htask hdropped hempty =>
      obtain rfl : n = s := hevent
      exact hstops _ (by decide) hup
  | @dies n htask =>
      obtain rfl : n = s := hevent
      exact hstops _ (by decide) hup
  | moves | opens | connects | reads | sends | stops | closes | abandons | exits =>
      exact absurd hevent id

/-- The exit has heard nothing of a stream that has not been opened. -/
theorem Inv.unheard (h : t.Inv) (hphase : t.up.phases s = .idle) :
    commandsOf s t.up.net.recovered = [] := by
  have hsaid : StreamNetwork.Said (t.up.phases s) (commandsOf s t.up.net.sent) :=
    (h.up.client s).said
  rw [hphase] at hsaid
  have hrecovered : commandsOf s t.up.net.recovered <+: commandsOf s t.up.net.sent :=
    (h.up.recovered s).2
  rwa [show commandsOf s t.up.net.sent = [] from hsaid, List.prefix_nil] at hrecovered

/-- A call registers its channel, when nothing has come for its stream. -/
theorem Inv.registers (h : t.Inv) (hphase : t.up.phases s = .idle) :
    (t.setSenders (t.up.net.client.registerStream s []).streamSenders).Inv := by
  have hcall := h.call s
  have hnone : cellsOf s t.up.net.received = [] := by
    have hprefix := cellsOf_mono (s := s) h.received
    rwa [(h.exit s).silent (h.unheard hphase), List.prefix_nil] at hprefix
  have hchannel : (t.setSenders (t.up.net.client.registerStream s []).streamSenders).channel? s =
      some [] := by
    rw [channel?]
    exact (HashMap.lookup_insert_eq ..).trans (if_pos rfl)
  refine h.change (s := s) ⟨rfl, ⟨rfl, rfl, rfl⟩, ?_⟩ (inv_setSenders h.up _) (h.exit s) ?_
    (h.whole s)
  · intro other hne
    refine ⟨rfl, rfl, rfl, ?_⟩
    exact (HashMap.lookup_insert_eq ..).trans (if_neg hne)
  · rw [hchannel]
    refine ⟨?_, hcall.taken, fun _ _ => by simp, hcall.waits, hcall.written, hcall.exact⟩
    intro queue heq
    cases heq
    show (t.downloads s).taken ++ [] = _
    rw [(hcall.waits (Or.inl hphase)).1, hnone]
    rfl

/-- A call that has returned drops its channel. -/
theorem Inv.unregisters (h : t.Inv) (hphase : t.up.phases s = .closed) :
    (t.setSenders (t.up.net.client.unregisterStream s).streamSenders).Inv := by
  have hcall := h.call s
  have hchannel : (t.setSenders (t.up.net.client.unregisterStream s).streamSenders).channel? s =
      none := by
    rw [channel?]
    exact (HashMap.lookup_erase_eq ..).trans (if_pos rfl)
  refine h.change (s := s) ⟨rfl, ⟨rfl, rfl, rfl⟩, ?_⟩ (inv_setSenders h.up _) (h.exit s) ?_
    (h.whole s)
  · intro other hne
    refine ⟨rfl, rfl, rfl, ?_⟩
    exact (HashMap.lookup_erase_eq ..).trans (if_neg hne)
  · rw [hchannel]
    refine ⟨?_, hcall.taken, ?_, hcall.waits, hcall.written, hcall.exact⟩
    · intro queue heq
      cases heq
    · exact fun _ hclosed => absurd hphase hclosed

/-- A call sends BEGIN. -/
theorem Inv.opens [AddrText] (h : t.Inv) {destination : String} (hphase : t.up.phases s = .idle)
    (hregistered : (t.channel? s).isSome = true)
    (hfits : (beginPayload destination).length ≤ maxPayloadSize) :
    Inv { t with
      up := (t.up.clientSends s .begin (beginPayload destination)).setPhase s .waiting } := by
  have hopens : StreamNetwork.Step t.up (.opens s destination) _ := .opens destination hphase hfits
  have hup : (settled { t with
      up := (t.up.clientSends s .begin (beginPayload destination)).setPhase s .waiting }).Inv :=
    h.up.step (hopens.handBack (by simp) (by simp) _)
  obtain ⟨⟨hrecovered, hemitted, hreceived⟩, hsenders⟩ :=
    sameBack_clientSends t.up.net ⟨s, .begin, beginPayload destination⟩
  have hcall := h.call s
  have hupdate : ∀ other, Function.update t.up.phases s .waiting other =
      if other = s then .waiting else t.up.phases other := fun other => Function.update_apply ..
  refine h.change (s := s) ⟨rfl, ⟨hrecovered, hemitted, hreceived⟩, ?_⟩ hup (h.exit s) ?_ ?_
  · intro other hne
    refine ⟨rfl, (hupdate other).trans (if_neg hne), rfl, ?_⟩
    exact congrArg (fun senders => senders.lookup other) hsenders
  · show CallHears s (t.downloads s) (Function.update t.up.phases s .waiting s) _
      ((t.up.net.clientSends _).client.streamSenders.lookup s)
    rw [hsenders, Function.update_self]
    refine ⟨hcall.queued, hcall.taken, ?_, fun _ => hcall.waits (Or.inl hphase), hcall.written, ?_⟩
    · intro _ _ hnone
      rw [channel?, hnone] at hregistered
      cases hregistered
    · rintro (hrelaying | hended)
      · obtain ⟨chunks, hrelaying⟩ := hrelaying
        cases hrelaying
      · exact hcall.exact (Or.inr hended)
  · intro hended
    have hleft := (h.whole s hended).left
    rw [hphase] at hleft
    rcases hleft with hleft | hleft <;> cases hleft

/-- The task of a stream reads from its destination. -/
theorem Inv.downloads (h : t.Inv) (read : StreamRead) (htask : t.up.tasks s = .running)
    (hidle : (t.downloads s).task = .idle)
    (hfits : ∀ cell ∈ read.cells, cell.2.length ≤ maxPayloadSize) :
    (t.setDownload s
      { t.downloads s with
        task := .next read.cells read.isLast
        read := (t.downloads s).read ++ read.bytes }).Inv := by
  have hexit := h.exit s
  rw [htask, hidle] at hexit
  refine h.change (s := s) ⟨rfl, ⟨rfl, rfl, rfl⟩, ?_⟩ h.up ?_ ?_ ?_
  · exact fun other hne => ⟨Function.update_of_ne hne .., rfl, rfl, rfl⟩
  · show ExitSays s (Function.update t.downloads s _ s).task
      (Function.update t.downloads s _ s).read (t.up.tasks s) _ _
    rw [Function.update_self, htask]
    exact hexit.reads read hfits
  · show CallHears s (Function.update t.downloads s _ s) _ _ _
    rw [Function.update_self]
    exact (h.call s).congr rfl rfl rfl
  · show (Function.update t.downloads s _ s).ended = true → _
    rw [Function.update_self]
    exact fun hended => absurd htask (h.whole s hended).stopped

/-- Taking a message keeps what the upload side knows. -/
theorem Inv.take (h : t.Inv) (msg : Message) (rest : List Message) :
    (t.take s msg rest).settled.Inv :=
  inv_setSenders h.up _

/-- A call that waits for CONNECTED takes the first message from its channel. -/
theorem Inv.answered [AddrText] (h : t.Inv) {msg : Message} {rest : List Message}
    {phase : StreamPhase} (hphase : t.up.phases s = .waiting)
    (hchannel : t.channel? s = some (msg :: rest))
    (hafter : phase ≠ .idle ∧ phase ≠ .waiting)
    (hrelaying : (∃ chunks, phase = .relaying chunks) → msg.command = .connected)
    (hup : ((t.take s msg rest).setPhase s phase).settled.Inv) :
    ((t.take s msg rest).setPhase s phase).Inv := by
  have hcall := h.call s
  have hempty := hcall.waits (Or.inr hphase)
  have hended := h.ended_eq_false (Or.inl hphase)
  rw [hchannel] at hcall
  have hwritten : (t.downloads s).written <+:
      (dataOf s ((t.downloads s).taken ++ [Circuit.cellOf msg])).flatten := by
    rw [hempty.2]
    exact List.nil_prefix
  refine h.takes hchannel rfl hup ⟨rfl, rfl, rfl⟩ rfl rfl rfl rfl hafter hwritten ?_ ?_
  · rintro (hloop | htrue)
    · rw [hcall.dataOf_taken, hempty.1, hempty.2, hrelaying hloop]
      rfl
    · cases hended.symm.trans htrue
  · exact fun htrue => by cases hended.symm.trans htrue

/-- A call in its loop takes the next message from its channel: it writes the data, or a part of
it and leaves the loop. END only lets it leave, and says that it has got everything. -/
theorem Inv.looped (h : t.Inv) {msg : Message} {rest : List Message} {phase : StreamPhase}
    {bytes : Bytes} {ended : Bool} (hphase : t.up.phases s = .relaying [])
    (hchannel : t.channel? s = some (msg :: rest)) (hhand : t'.hand = t.hand)
    (hup : t'.settled.Inv) (hlogs : SameLogs t.up.net t'.up.net) (htasks : t'.up.tasks = t.up.tasks)
    (hphases : t'.up.phases = Function.update t.up.phases s phase)
    (hsenders : t'.up.net.client.streamSenders = t.up.net.client.streamSenders.insert s rest)
    (hdownloads : t'.downloads = Function.update t.downloads s
      ⟨(t.downloads s).task, (t.downloads s).read,
        (t.downloads s).taken ++ [Circuit.cellOf msg], (t.downloads s).written ++ bytes, ended⟩)
    (hbytes : bytes <+: if msg.command = .data then msg.data else [])
    (hafter : phase = .closing ∧ (ended = true → msg.command = .end) ∨
      phase = .relaying [] ∧ ended = false ∧ bytes = if msg.command = .data then msg.data else []) :
    t'.Inv := by
  have hcall := h.call s
  rw [hchannel] at hcall
  have htaken := hcall.dataOf_taken
  rw [← hcall.exact (Or.inl ⟨[], hphase⟩)] at htaken
  refine h.takes hchannel hhand hup hlogs htasks hphases hsenders hdownloads ?_ ?_ ?_ ?_
  · rcases hafter with ⟨rfl, -⟩ | ⟨rfl, -⟩ <;> simp
  · rw [htaken, List.prefix_append_right_inj]
    exact hbytes
  · rw [htaken]
    rcases hafter with ⟨rfl, hended⟩ | ⟨-, -, rfl⟩
    · rintro (⟨chunks, hloop⟩ | htrue)
      · cases hloop
      · rw [hended htrue] at hbytes ⊢
        rw [List.prefix_nil.mp hbytes]
        rfl
    · exact fun _ => rfl
  · intro htrue
    rcases hafter with ⟨rfl, hended⟩ | ⟨-, hfalse, -⟩
    · have hcommand := hended htrue
      rw [hcommand] at hbytes
      obtain ⟨hstopped, hbegun, hsame⟩ := h.whole_of_end hphase hchannel hcommand
      rw [List.prefix_nil.mp hbytes, List.append_nil]
      exact ⟨rfl, hstopped, hbegun, hsame⟩
    · cases hfalse.symm.trans htrue

/-- A call that takes a message may end. -/
theorem Inv.takeStops [AddrText] (h : t.Inv) (msg : Message) (rest : List Message)
    (hphase : t.up.phases s = .relaying [] ∨ t.up.phases s = .waiting) :
    ((t.take s msg rest).setPhase s .closing).settled.Inv := by
  have hstep : StreamNetwork.Step (t.take s msg rest).settled (.stops s)
      ((t.take s msg rest).settled.setPhase s .closing) := .stops hphase
  exact (h.take msg rest).step hstep

/-- Every step that keeps the order keeps the invariant. -/
theorem Inv.step [AddrText] {e : TunnelEvent} (h : t.Inv) (hkeeps : t.KeepsOrder e)
    (hstep : Step t e t') : t'.Inv := by
  cases hstep with
  | uploads hevent hstep => exact h.uploads hevent hstep
  | handles hhand hinbox hdelivers htexts hopen =>
      exact h.handles hhand hinbox hdelivers htexts hopen
  | replies hhand => exact h.replies hhand
  | works hevent hidle hstep => exact h.works hevent hidle hstep
  | registers hphase => exact h.registers hphase
  | opens destination hphase hregistered hfits => exact h.opens hphase hregistered hfits
  | @connects s msg rest replied hphase hchannel hcommand =>
      have hmem : ⟨s, .connected, msg.data⟩ ∈ t.up.net.received := by
        have hcall := h.call s
        rw [hchannel] at hcall
        have hmem : Circuit.cellOf msg ∈ cellsOf s t.up.net.received := by
          rw [← hcall.queued _ rfl]
          simp
        rw [Circuit.cellOf, hcall.streamId_eq, hcommand] at hmem
        exact List.mem_of_mem_filter hmem
      cases replied with
      | true =>
          have hconnects : StreamNetwork.Step (t.take s msg rest).settled (.connects s)
              ((t.take s msg rest).settled.setPhase s (.relaying [])) := .connects hphase hmem
          exact h.answered hphase hchannel (by simp) (fun _ => hcommand)
            ((h.take msg rest).step hconnects)
      | false =>
          have habandons : StreamNetwork.Step (t.take s msg rest).settled (.abandons s)
              ((t.take s msg rest).settled.setPhase s .closed) := .abandons hphase
          exact h.answered hphase hchannel (by simp) (by simp) ((h.take msg rest).step habandons)
  | @refuses s msg rest hphase hchannel hcommand =>
      exact h.answered hphase hchannel (by simp) (by simp)
        (h.takeStops msg rest (Or.inr hphase))
  | @delivers s msg rest hphase hchannel hcommand =>
      have hended := h.ended_eq_false (Or.inr hphase)
      have hloop : t.up.phases = Function.update t.up.phases s (.relaying []) := by
        rw [← hphase, Function.update_eq_self]
      exact h.looped hphase hchannel rfl (h.take msg rest) ⟨rfl, rfl, rfl⟩ rfl hloop rfl
        (downloads_write t s msg rest msg.data) (by simp [hcommand])
        (Or.inr ⟨rfl, hended, by rw [if_pos hcommand]⟩)
  | @breaks s msg rest part hphase hchannel hcommand hpart =>
      have hended := h.ended_eq_false (Or.inr hphase)
      exact h.looped hphase hchannel rfl (h.takeStops msg rest (Or.inl hphase))
        ⟨rfl, rfl, rfl⟩ rfl rfl rfl (downloads_write t s msg rest part)
        (by rwa [if_pos hcommand])
        (Or.inl ⟨rfl, fun htrue => by cases hended.symm.trans htrue⟩)
  | @ends s msg rest hphase hchannel hcommand =>
      exact h.looped hphase hchannel rfl (h.takeStops msg rest (Or.inl hphase))
        ⟨rfl, rfl, rfl⟩ rfl rfl rfl (downloads_end t s msg rest) List.nil_prefix
        (Or.inl ⟨rfl, fun _ => hcommand⟩)
  | @ignores s msg rest hphase hchannel hcommand =>
      have hended := h.ended_eq_false (Or.inr hphase)
      have hloop : t.up.phases = Function.update t.up.phases s (.relaying []) := by
        rw [← hphase, Function.update_eq_self]
      have hdownloads : (t.take s msg rest).downloads = Function.update t.downloads s
          ⟨(t.downloads s).task, (t.downloads s).read,
            (t.downloads s).taken ++ [Circuit.cellOf msg], (t.downloads s).written ++ [],
            (t.downloads s).ended⟩ := by
        rw [List.append_nil]
        rfl
      exact h.looped hphase hchannel rfl (h.take msg rest) ⟨rfl, rfl, rfl⟩ rfl hloop rfl hdownloads
        List.nil_prefix (Or.inr ⟨rfl, hended, by rw [if_neg hcommand.1]⟩)
  | unregisters hphase => exact h.unregisters hphase
  | downloads read htask hidle hfits => exact h.downloads read htask hidle hfits
  | emits hcells => exact h.emits hkeeps hcells

/-- A circuit without streams. -/
theorem Ready.inv (h : t.Ready) : t.Inv := by
  obtain ⟨-, hrecovered, hemitted, hreceived⟩ := h.up.net.fresh
  have hup : t.settled.Inv := by
    rw [settled_of_hand h.hand]
    exact h.up.inv
  have hreply : ∀ reply, t.hand = some reply → reply.data.length ≤ maxPayloadSize := by
    rw [h.hand]
    simp
  have hchannel : ∀ s, t.channel? s = none := by
    intro s
    rw [channel?, h.senders]
    rfl
  refine ⟨hup, hreply, ?_, ?_, ?_⟩
  · intro s
    rw [h.downloads, hrecovered, hemitted]
    refine ⟨fun _ => rfl, rfl, fun hcells => absurd rfl hcells, trivial, ?_, ?_,
      fun _ => List.Pairwise.nil⟩
    · simp [Download.start, TaskPhase.cells]
    · simp [commandsOf]
  · intro s
    rw [h.downloads, hreceived, hchannel, h.up.phases]
    refine ⟨?_, List.prefix_refl _, fun hidle => absurd rfl hidle, fun _ => ⟨rfl, rfl⟩,
      List.prefix_refl _, fun _ => rfl⟩
    intro queue heq
    cases heq
  · intro s hended
    rw [h.downloads] at hended
    cases hended

/-- The invariant holds in every run that keeps the order. -/
theorem inv_of_reachable [AddrText] (hreach : orderly.Reachable t) : t.Inv := by
  refine hreach.invariant Inv (fun _ hready => Ready.inv hready) ?_
  intro s e t h hstep
  exact h.step hstep.1 hstep.2

end

end Tunnel

end NoPanic
