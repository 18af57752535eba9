/-
# Every byte a stream takes up

What the exit queues for the destination of a stream is what was read from its SOCKS client, as
far as it has come. Each read of the exit takes the next cell of the circuit and serves its stream
alone; the rest of what was read is in the messages that wait in front of the hops and of the exit,
or still to be sent. Reads alone bring all of it there, and a stream that is opened can be carried
through.
-/

import NoPanic.Circuit.StreamData

namespace NoPanic

open NoPanic.Math

namespace StreamNetwork

section

variable [Primitives] {st : StreamNetwork} {s : StreamId}

/-! ## What the exit queues -/

/-- What the exit does with the next cell that the client has sent. -/
structure ServesNext (st : StreamNetwork) (cell : RelayCell) (st' : StreamNetwork) : Prop where
  next : st.net.sent[st.net.recovered.length]? = some cell
  recovered : st'.net.recovered = st.net.recovered ++ [cell]
  /-- DATA is queued for its stream unless the task has died. -/
  data : cell.command = .data → st'.net.exit.streams = st.net.exit.streams ∧
    (st.tasks cell.streamId ≠ .dead →
      st'.queued cell.streamId = st.queued cell.streamId ++ [cell.data])
  /-- END takes its stream from the map, and finds all that was read in the queue. -/
  ends : cell.command = .end →
    st'.net.exit.streams = st.net.exit.streams.erase cell.streamId ∧
      (st.tasks cell.streamId ≠ .dead →
        (st.queued cell.streamId).flatten = (st.read cell.streamId).flatten)
  silent : cell.command ≠ .data → st'.queued cell.streamId = st.queued cell.streamId
  others : ∀ s, s ≠ cell.streamId → st'.queued s = st.queued s ∧
    st'.net.exit.streams.lookup s = st.net.exit.streams.lookup s

/-- When the exit has recovered END of a stream, all that was read has been queued. -/
theorem Inv.queued_of_end (h : st.Inv) (halive : st.tasks s ≠ .dead) {recovered : List RelayCell}
    (hinitial : recovered <+: st.net.sent) (hend : .end ∈ commandsOf s recovered)
    (hdata : dataOf s recovered = dataOf s st.net.recovered) :
    (st.queued s).flatten = (st.read s).flatten := by
  have hclient := h.client s
  obtain ⟨later, hlater⟩ := hinitial
  have hsent : commandsOf s recovered ++ commandsOf s later = commandsOf s st.net.sent := by
    rw [← hlater, commandsOf_append]
  obtain ⟨before, rest, hsplit⟩ := List.append_of_mem hend
  have hscript : before ++ .end :: (rest ++ commandsOf s later) = commandsOf s st.net.sent := by
    rw [← hsent, hsplit]
    simp
  have hlast := hclient.said.script.ends hscript
  have hnone := dataOf_eq_nil (List.append_eq_nil_iff.mp hlast).2
  have hleft := hclient.said.left_eq_nil (by rw [← hsent]; exact List.mem_append_left _ hend)
  rw [(h.exit s).given halive, ← hclient.bytes, ← hlater, dataOf_append, hnone, hleft, hdata]
  simp

/-- A read of the exit. -/
theorem Inv.servesNext [AddrText] (h : st.Inv) {io : RelayIo} {msg : Message}
    {rest : List Message} (hinbox : st.net.exitInbox = msg :: rest) (hdelivers : io.Delivers)
    (htexts : io.TextsFit)
    (hopen : ∀ s stream, st.net.exit.streams.lookup s = some stream →
      (io.destinationOpen s = true ↔ st.tasks s = .running)) :
    ∃ cell, st.ServesNext cell (st.exitReads io msg rest) := by
  obtain ⟨cell, hrecovered, hnext, hinitial, hserves, -⟩ := h.exitServes hinbox hdelivers htexts
  obtain ⟨-, -, -, hexit⟩ := exitReads_frame st.net io msg rest
  have hstreams : (st.exitReads io msg rest).net.exit.streams =
      (st.net.exit.handleMessage io (some exitPrevHop) msg).handler.streams :=
    congrArg ExitCircuitHandler.streams hexit
  have hqueue : ∀ s, (st.exitReads io msg rest).queued s = st.queued s ++
      (st.net.exit.handleMessage io (some exitPrevHop) msg).effects.filterMap
        (RelayEffect.queued? s) := fun _ => rfl
  have hlast : commandsOf cell.streamId (st.net.recovered ++ [cell]) =
      commandsOf cell.streamId st.net.recovered ++ [cell.command] := by
    rw [commandsOf_append, commandsOf_singleton, if_pos rfl]
  have hothers : ∀ s, s ≠ cell.streamId → (st.exitReads io msg rest).queued s = st.queued s ∧
      (st.exitReads io msg rest).net.exit.streams.lookup s = st.net.exit.streams.lookup s := by
    intro s hne
    obtain ⟨hlookup, hnone, -⟩ := hserves.others hne.symm
    rw [hqueue, hnone, List.append_nil, hstreams]
    exact ⟨rfl, hlookup⟩
  refine ⟨cell, hnext, hrecovered, fun hcommand => ?_, fun hcommand => ⟨?_, fun halive => ?_⟩,
    fun hcommand => ?_, hothers⟩
  · cases hserves with
    | connects stream hbegin => cases hcommand.symm.trans hbegin
    | ends hend => cases hcommand.symm.trans hend
    | queues stream hdata hlookup hsame hqueued =>
        refine ⟨hstreams.trans hsame, fun _ => ?_⟩
        rw [hqueue, hqueued, if_pos rfl]
    | refuses hrefused hsame =>
        refine ⟨hstreams.trans hsame, fun halive => absurd ?_ halive⟩
        obtain ⟨later, hlater⟩ := hinitial
        have hscript : commandsOf cell.streamId st.net.recovered ++
            .data :: commandsOf cell.streamId later = commandsOf cell.streamId st.net.sent := by
          rw [← hlater, commandsOf_append, hlast, hcommand, List.append_assoc]
          rfl
        have hclient := h.client cell.streamId
        refine (h.exit cell.streamId).dead_of_refused
          (hclient.answered (Or.inr (by rw [← hscript]; simp)))
          (by rw [hscript]; exact hclient.said.script) (hopen cell.streamId) ?_
        rcases hrefused with ⟨hbegin, -⟩ | ⟨-, hclosed⟩
        · cases hcommand.symm.trans hbegin
        · exact hclosed
  · cases hserves with
    | connects stream hbegin => cases hcommand.symm.trans hbegin
    | queues stream hdata => cases hcommand.symm.trans hdata
    | ends hend hsame => exact hstreams.trans hsame
    | refuses hrefused =>
        rcases hrefused with ⟨hbegin, -⟩ | ⟨hdata, -⟩
        · cases hcommand.symm.trans hbegin
        · cases hcommand.symm.trans hdata
  · refine h.queued_of_end halive hinitial (by rw [hlast, hcommand]; simp) ?_
    rw [dataOf_append, dataOf_singleton, if_neg (by simp [hcommand]), List.append_nil]
  · rw [hqueue]
    cases hserves with
    | queues stream hdata => exact absurd hdata hcommand
    | connects _ _ _ hnone | refuses _ _ hnone | ends _ _ hnone => rw [hnone, List.append_nil]

/-- Nothing but a read of the exit recovers a cell, queues data or changes the map. -/
theorem Step.frame [AddrText] {st' : StreamNetwork} {event : StreamNetworkEvent}
    (hstep : Step st event st') (hevent : event ≠ .exits) :
    st'.queued = st.queued ∧ st'.net.exit.streams = st.net.exit.streams ∧
      st'.net.recovered = st.net.recovered := by
  have hsends : ∀ cell, (st.net.clientSends cell).exit.streams = st.net.exit.streams ∧
      (st.net.clientSends cell).recovered = st.net.recovered := by
    intro cell
    unfold Network.clientSends
    split <;> exact ⟨rfl, rfl⟩
  cases hstep with
  | moves hmoves hstep =>
      obtain ⟨-, hrecovered, -, hstreams⟩ := moves_frame hmoves hstep
      exact ⟨rfl, hstreams, hrecovered⟩
  | opens | sends | closes => exact ⟨rfl, hsends _⟩
  | exits => exact absurd rfl hevent
  | connects | reads | stops | abandons | writes | finishes | dies => exact ⟨rfl, rfl, rfl⟩

/-! ## Where the way to the exit is empty -/

/-- The exit has not heard of a stream, or it has recovered BEGIN and answered with CONNECTED. -/
def Greeted (st : StreamNetwork) (s : StreamId) : Prop :=
  commandsOf s st.net.recovered = [] ∧ commandsOf s st.net.emitted = [] ∨
    commandsOf s st.net.recovered = [.begin] ∧ commandsOf s st.net.emitted = [.connected] ∧
      st.tasks s = .running

/-- Two states between which cells have only moved to the exit: no task has died, and a stream
whose BEGIN has come to the exit has been connected. -/
structure OnlyForwards (st st' : StreamNetwork) : Prop where
  phases : st'.phases = st.phases
  read : st'.read = st.read
  sent : st'.net.sent = st.net.sent
  alive : ∀ s, st.tasks s ≠ .dead → st'.tasks s ≠ .dead
  connected : ∀ s, Connected st.net.emitted s ∨ .begin ∉ commandsOf s st.net.recovered →
    Connected st'.net.emitted s ∨ .begin ∉ commandsOf s st'.net.recovered
  greeted : ∀ s, commandsOf s st.net.sent = [.begin] → st.Greeted s → st'.Greeted s

omit [Primitives] in
/-- Nothing has moved. -/
theorem OnlyForwards.refl (st : StreamNetwork) : OnlyForwards st st :=
  ⟨rfl, rfl, rfl, fun _ halive => halive, fun _ hconnected => hconnected,
    fun _ _ hgreeted => hgreeted⟩

omit [Primitives] in
/-- One after the other. -/
theorem OnlyForwards.trans {st₁ st₂ st₃ : StreamNetwork} (h : OnlyForwards st₁ st₂)
    (h' : OnlyForwards st₂ st₃) : OnlyForwards st₁ st₃ :=
  ⟨h'.phases.trans h.phases, h'.read.trans h.read, h'.sent.trans h.sent,
    fun s halive => h'.alive s (h.alive s halive),
    fun s hconnected => h'.connected s (h.connected s hconnected),
    fun s hsaid hgreeted => h'.greeted s (h.sent ▸ hsaid) (h.greeted s hsaid hgreeted)⟩

/-- The exit reads a message, and can reach every destination. -/
theorem Inv.onlyForwards_exitReads [AddrText] (h : st.Inv) {io : RelayIo} {msg : Message}
    {rest : List Message} (hinbox : st.net.exitInbox = msg :: rest) (hdelivers : io.Delivers)
    (htexts : io.TextsFit) (hconnects : io.Connects) :
    OnlyForwards st (st.exitReads io msg rest) := by
  obtain ⟨cell, hrecovered, -, hinitial, hserves, hseals⟩ :=
    h.exitServes hinbox hdelivers htexts
  obtain ⟨hsent, -, hemitted, -⟩ := exitReads_frame st.net io msg rest
  have hanswered : (st.exitReads io msg rest).net.emitted = _ := hemitted
  refine ⟨rfl, rfl, hsent, fun s halive => ?_, fun s hconnected => ?_, fun s hsaid hgreeted => ?_⟩
  · show (if s ∈ _ then ExitTaskPhase.running else st.tasks s) ≠ .dead
    split
    · decide
    · exact halive
  · show Connected (st.net.exitReads io msg rest).emitted s ∨ _
    rw [hemitted, hrecovered, commandsOf_append, commandsOf_singleton]
    rcases hconnected with hconnected | hnot
    · obtain ⟨answer, hmem, hanswer⟩ := hconnected
      exact .inl ⟨answer, List.mem_append_left _ hmem, hanswer⟩
    · by_cases hbegin : cell.streamId = s ∧ cell.command = .begin
      · obtain ⟨rfl, hcommand⟩ := hbegin
        cases hserves with
        | connects _ _ _ _ _ hsealed =>
            refine .inl ⟨⟨cell.streamId, .connected, []⟩, List.mem_append_right _ ?_, rfl, rfl⟩
            rw [hsealed]
            exact List.mem_singleton_self _
        | queues _ hdata => cases hcommand.symm.trans hdata
        | refuses hrefused =>
            rcases hrefused with ⟨-, hunreached⟩ | ⟨hdata, -⟩
            · exact absurd hconnects hunreached
            · cases hcommand.symm.trans hdata
        | ends hend => cases hcommand.symm.trans hend
      · refine .inr fun hmem => ?_
        rcases List.mem_append.mp hmem with hbefore | hnow
        · exact hnot hbefore
        · split at hnow
          · next hstream => exact hbegin ⟨hstream, (List.mem_singleton.mp hnow).symm⟩
          · cases hnow
  · by_cases hstream : cell.streamId = s
    · subst hstream
      have hnow : commandsOf cell.streamId (st.net.recovered ++ [cell]) =
          commandsOf cell.streamId st.net.recovered ++ [cell.command] := by
        rw [commandsOf_append, commandsOf_singleton, if_pos rfl]
      obtain ⟨later, hlater⟩ := hinitial
      rw [← hlater, commandsOf_append, hnow] at hsaid
      obtain ⟨hnone, hbegin⟩ : commandsOf cell.streamId st.net.recovered = [] ∧
          cell.command = .begin := by
        cases hcommands : commandsOf cell.streamId st.net.recovered with
        | nil =>
            rw [hcommands] at hsaid
            exact ⟨rfl, (List.cons.inj hsaid).1⟩
        | cons command commands =>
            rw [hcommands] at hsaid
            simp at hsaid
      rcases hgreeted with ⟨-, hsilent⟩ | ⟨hrecovered', -⟩
      · cases hserves with
        | connects _ _ _ _ hopened hsealed =>
            refine .inr ⟨?_, ?_, ?_⟩
            · rw [hrecovered, hnow, hnone, hbegin]
              rfl
            · rw [hanswered, commandsOf_append, hsilent, hsealed, commandsOf_singleton, if_pos rfl]
              rfl
            · show (if cell.streamId ∈ _ then ExitTaskPhase.running else _) = .running
              rw [hopened, if_pos (List.mem_singleton_self _)]
        | queues _ hdata => cases hbegin.symm.trans hdata
        | refuses hrefused =>
            rcases hrefused with ⟨-, hunreached⟩ | ⟨hdata, -⟩
            · exact absurd hconnects hunreached
            · cases hbegin.symm.trans hdata
        | ends hend => cases hbegin.symm.trans hend
      · rw [hnone] at hrecovered'
        cases hrecovered'
    · have hrecovered' : commandsOf s (st.exitReads io msg rest).net.recovered =
          commandsOf s st.net.recovered := by
        rw [hrecovered, commandsOf_append, commandsOf_singleton, if_neg hstream, List.append_nil]
      have hnone : commandsOf s ((st.net.exit.handleMessage io (some exitPrevHop)
          msg).effects.filterMap RelayEffect.sealed?) = [] := by
        refine commandsOf_eq_nil fun answer hmem => ?_
        rw [hseals answer hmem]
        exact hstream
      have hemitted' : commandsOf s (st.exitReads io msg rest).net.emitted =
          commandsOf s st.net.emitted := by
        rw [hanswered, commandsOf_append, hnone, List.append_nil]
      have htask : (st.exitReads io msg rest).tasks s = st.tasks s :=
        if_neg (hserves.others hstream).2.2.1
      rw [Greeted, hrecovered', hemitted', htask]
      exact hgreeted

/-- While a cell is on its way to the exit, somebody can read it. -/
theorem Inv.exists_forwards [AddrText] (h : st.Inv) (hbusy : ¬ st.net.ForwardIdle) :
    ∃ event st', Step st event st' ∧ event.Forwards ∧ OnlyForwards st st' ∧
      st'.net.forwardLink.pending < st.net.forwardLink.pending := by
  obtain ⟨origin, hsound⟩ := h.net
  obtain ⟨io, hdelivers, htexts, hconnects, hlive⟩ :=
    RelayIo.exists_connects fun s => decide (st.tasks s = .running)
  have hopen : ∀ s stream, st.net.exit.streams.lookup s = some stream →
      (io.destinationOpen s = true ↔ st.tasks s = .running) := by
    intro s stream _
    rw [hlive]
    exact decide_eq_true_iff
  obtain ⟨event, net, hstep, hforwards⟩ := hsound.exists_forwards hbusy hdelivers htexts
  have hless := (hsound.step hstep).2.forward_lt hforwards
  cases event with
  | relay position =>
      obtain ⟨hsent, hrecovered, hemitted, -⟩ := (hsound.step hstep).2.logStep
      refine ⟨.moves (.relay position), { st with net }, .moves trivial hstep, hforwards,
        ⟨rfl, rfl, hsent, fun _ halive => halive, fun s hconnected => ?_, fun s _ hgreeted => ?_⟩,
        hless⟩
      · show Connected net.emitted s ∨ .begin ∉ commandsOf s net.recovered
        rwa [hemitted, hrecovered]
      · show commandsOf s net.recovered = [] ∧ commandsOf s net.emitted = [] ∨
          commandsOf s net.recovered = [.begin] ∧ commandsOf s net.emitted = [.connected] ∧ _
        rwa [hemitted, hrecovered]
  | exit =>
      obtain ⟨msg, rest, hinbox⟩ : ∃ msg rest, st.net.exitInbox = msg :: rest := by
        cases hstep with
        | exit _ msg rest _ hinbox => exact ⟨msg, rest, hinbox⟩
      exact ⟨.exits, _, .exits hinbox hdelivers htexts hopen, trivial,
        h.onlyForwards_exitReads hinbox hdelivers htexts hconnects,
        (hsound.exitReads hinbox hdelivers htexts).2.forward_lt trivial⟩
  | _ => exact hforwards.elim

/-- Reads on the way to the exit alone bring everything there. -/
theorem Inv.drains [AddrText] (h : st.Inv) :
    ∃ events st', system.Run st events st' ∧ (∀ event ∈ events, event.Forwards) ∧ st'.Inv ∧
      OnlyForwards st st' ∧ st'.net.ForwardIdle := by
  obtain ⟨events, st', hrun, hevents, ⟨hinv, honly⟩, hzero⟩ :=
    TransitionSystem.exists_run_to_zero (T := system)
      (fun now => now.Inv ∧ OnlyForwards st now) StreamNetworkEvent.Forwards
      (fun now => now.net.forwardLink.pending) (fun now hnow hbusy => by
        obtain ⟨hinv, hbefore⟩ := hnow
        obtain ⟨event, next, hstep, hforwards, hafter, hless⟩ :=
          hinv.exists_forwards fun hidle => hbusy (Network.pending_forwardLink.mpr hidle)
        exact ⟨event, next, hforwards, hstep, ⟨hinv.step hstep, hbefore.trans hafter⟩, hless⟩)
      ⟨h, .refl st⟩
  exact ⟨events, st', hrun, hevents, hinv, honly, Network.pending_forwardLink.mp hzero⟩

/-! ## The result -/

/-- The data on its way to the exit: what the messages that wait in front of the hops and of the
exit hold for it. -/
def onTheWay (st : StreamNetwork) (s : StreamId) : List Bytes :=
  dataOf s (st.net.forwardLink.onTheWay (OnionEnd.channel st.net.client.circuitId) hopTransducer)

/-- What the exit has recovered and what is on its way to it is what the client has sent. -/
theorem Inv.recovered_append (h : st.Inv) :
    st.net.recovered ++ st.net.forwardLink.onTheWay
      (OnionEnd.channel st.net.client.circuitId) hopTransducer = st.net.sent := by
  obtain ⟨origin, hsound⟩ := h.net
  rw [hsound.clientId]
  exact hsound.forward.read_append_onTheWay

/-- What has been queued, what is on its way and what is still to be sent is what was read. -/
theorem Inv.queued_append (h : st.Inv) (halive : st.tasks s ≠ .dead) :
    (st.queued s).flatten ++ (st.onTheWay s).flatten ++ (st.phases s).left.flatten =
      (st.read s).flatten := by
  rw [(h.exit s).given halive, ← (h.client s).bytes, ← h.recovered_append, dataOf_append,
    List.flatten_append, onTheWay]

/-- Nothing is on its way where no forward cell waits. -/
theorem Inv.queued_of_idle (h : st.Inv) (halive : st.tasks s ≠ .dead)
    (hidle : st.net.ForwardIdle) :
    (st.queued s).flatten ++ (st.phases s).left.flatten = (st.read s).flatten := by
  obtain ⟨origin, hsound⟩ := h.net
  rw [(h.exit s).given halive, ← (h.client s).bytes, hsound.recovered_eq_sent hidle]

/-- In every run of the streams of an established circuit, and for every stream whose task
has not died: what the exit has queued for its destination, what the messages on their way hold
for it, and the chunks still to be sent are together the slices read; all of it is queued once
no forward cell is on its way and no chunk is left, and once the exit has recovered END, and the
task has written all of it when it ends. Every read of the
exit takes the next cell sent; it queues DATA for the cell's stream and no other, and END takes
the cell's stream and no other from the map, after every byte read has been queued. Nothing else
queues or drops anything. And wherever a run stands, reads alone bring it to where everything
that has been sent is queued. -/
theorem queued_eq_read [AddrText] (hreach : system.Reachable st) :
    (∀ s, st.tasks s ≠ .dead →
      (st.queued s).flatten ++ (st.onTheWay s).flatten ++ (st.phases s).left.flatten =
          (st.read s).flatten ∧
        (st.net.ForwardIdle → (st.phases s).left = [] →
          (st.queued s).flatten = (st.read s).flatten) ∧
        (.end ∈ commandsOf s st.net.recovered → (st.queued s).flatten = (st.read s).flatten) ∧
        (st.tasks s = .finished → (st.written s).flatten = (st.read s).flatten)) ∧
      (∀ st', Step st .exits st' → ∃ cell, st.ServesNext cell st') ∧
      (∀ event st', event ≠ .exits → Step st event st' →
        st'.queued = st.queued ∧ st'.net.exit.streams = st.net.exit.streams) ∧
      ∃ events st', system.Run st events st' ∧ (∀ event ∈ events, event.Forwards) ∧
        st'.net.ForwardIdle ∧ st'.phases = st.phases ∧ st'.read = st.read ∧
        ∀ s, st.tasks s ≠ .dead →
          (st'.queued s).flatten ++ (st.phases s).left.flatten = (st.read s).flatten := by
  have hinv := inv_of_reachable hreach
  refine ⟨fun s halive => ⟨hinv.queued_append halive, fun hidle hleft => ?_, fun hend => ?_,
    fun hfinished => ?_⟩, ?_, ?_, ?_⟩
  · rw [← hinv.queued_of_idle halive hidle, hleft]
    simp
  · exact hinv.queued_of_end halive (hinv.recovered s).1 hend rfl
  · obtain ⟨hwritten, hend⟩ := (hinv.exit s).finished hfinished
    rw [hwritten]
    exact hinv.queued_of_end halive (hinv.recovered s).1 hend rfl
  · intro st' hstep
    cases hstep with
    | exits hinbox hdelivers htexts hopen => exact hinv.servesNext hinbox hdelivers htexts hopen
  · intro event st' hevent hstep
    obtain ⟨hqueued, hstreams, -⟩ := hstep.frame hevent
    exact ⟨hqueued, hstreams⟩
  · obtain ⟨events, st', hrun, hevents, hinv', hforwards, hidle⟩ := hinv.drains
    refine ⟨events, st', hrun, hevents, hidle, hforwards.phases, hforwards.read, ?_⟩
    intro s halive
    rw [← hforwards.phases, ← hforwards.read]
    exact hinv'.queued_of_idle (hforwards.alive s halive) hidle

/-! ## A stream that is carried through -/

/-- A run of the circuit is a run of its streams when it sends nothing and the exit does not
read. -/
theorem run_moves [AddrText] {net net' : Network} {events : List NetworkEvent}
    (hrun : Network.system.Run net events net') (hmoves : ∀ event ∈ events, event.Moves)
    (hnet : st.net = net) :
    system.Run st (events.map .moves) { st with net := net' } := by
  induction hrun with
  | nil =>
      subst hnet
      exact .nil st
  | snoc _ last ih =>
      rw [List.map_append]
      exact (ih fun event hevent => hmoves event (List.mem_append_left _ hevent)).snoc
        (.moves (hmoves _ (List.mem_append_right _ (List.mem_singleton_self _))) last)

/-- A stream whose BEGIN is the last of its cells and waits for an answer can be told that it is
connected, where its task has not been refused. -/
theorem Inv.connects [AddrText] (h : st.Inv) (hphase : st.phases s = .waiting)
    (hconnected : Connected st.net.emitted s ∨ .begin ∉ commandsOf s st.net.recovered) :
    ∃ events st', system.Run st events st' ∧ st'.Inv ∧ st'.read = st.read ∧
      st'.phases = Function.update st.phases s (.relaying []) ∧
      ∀ other, st.tasks other ≠ .dead → st'.tasks other ≠ .dead := by
  obtain ⟨forwards, halfway, hrun, -, hhalfway, honly, hidle⟩ := h.drains
  obtain ⟨origin, hsound⟩ := hhalfway.net
  obtain ⟨backwards, net, hback, hbackwards, hnet, hquiet, -, hemitted⟩ := hsound.drains_backward
  have hmoves := run_moves hback (fun event hevent => by
    have hbackward := hbackwards event hevent
    cases event with
    | relayBack | receive => trivial
    | _ => exact hbackward.elim) rfl
  -- its BEGIN has come to the exit, so CONNECTED has been emitted, and it has come back
  have hbegun : .begin ∈ commandsOf s halfway.net.recovered := by
    have hsaid := (hhalfway.client s).said
    rw [honly.phases, hphase] at hsaid
    rw [hsound.recovered_eq_sent hidle, show commandsOf s halfway.net.sent = [.begin] from hsaid]
    exact List.mem_singleton_self _
  obtain ⟨cell, hmem, hstream, hcommand⟩ :=
    (honly.connected s hconnected).resolve_right (not_not_intro hbegun)
  have hreceived : ⟨s, .connected, cell.data⟩ ∈ net.received := by
    rw [hnet.received_eq_emitted hquiet, hemitted, ← hstream, ← hcommand]
    exact hmem
  have hwaiting : ({ halfway with net } : StreamNetwork).phases s = .waiting := by
    show halfway.phases s = _
    rw [honly.phases, hphase]
  have hlast : Step { halfway with net } (.connects s) _ := .connects hwaiting hreceived
  have hall := (hrun.trans hmoves).snoc hlast
  refine ⟨_, _, hall, hall.invariant Inv h fun _ _ _ hinv hstep => hinv.step hstep, honly.read, ?_,
    honly.alive⟩
  show Function.update halfway.phases s _ = _
  rw [honly.phases]

/-- A stream can send all its chunks. -/
theorem exists_sends [AddrText] (st : StreamNetwork) {chunks : List Bytes}
    (hphase : st.phases s = .relaying chunks) :
    ∃ events st', system.Run st events st' ∧ st'.read = st.read ∧ st'.tasks = st.tasks ∧
      st'.phases = Function.update st.phases s (.relaying []) := by
  induction chunks generalizing st with
  | nil =>
      refine ⟨[], st, .nil st, rfl, rfl, ?_⟩
      rw [← hphase, Function.update_eq_self]
  | cons chunk rest ih =>
      have hsends : Step st (.sends s)
          ((st.clientSends s .data chunk).setPhase s (.relaying rest)) := .sends hphase
      obtain ⟨events, st', hrun, hread, htasks, hphases⟩ :=
        ih ((st.clientSends s .data chunk).setPhase s (.relaying rest)) (Function.update_self ..)
      refine ⟨.sends s :: events, st', hrun.cons hsends, hread, htasks, ?_⟩
      rw [hphases]
      exact Function.update_idem ..

/-- Wherever a run stands, a stream that has not been opened can be opened and connected, and what
its SOCKS client writes then can be sent. -/
theorem Inv.carries [AddrText] (h : st.Inv) (hphase : st.phases s = .idle) (destination slice)
    (hfits : (beginPayload destination).length ≤ maxPayloadSize) :
    ∃ events st', system.Run st events st' ∧
      st'.phases = Function.update st.phases s (.relaying []) ∧
      st'.read = Function.update st.read s (st.read s ++ [slice]) ∧
      ∀ other, st.tasks other ≠ .dead → st'.tasks other ≠ .dead := by
  have hopens : Step st (.opens s destination)
      ((st.clientSends s .begin (beginPayload destination)).setPhase s .waiting) :=
    .opens destination hphase hfits
  have hunheard : .begin ∉ commandsOf s st.net.recovered := by
    obtain ⟨later, hlater⟩ := (h.recovered s).2
    have hsaid := (h.client s).said
    rw [hphase, show commandsOf s st.net.sent = commandsOf s st.net.recovered ++ later from
      hlater.symm] at hsaid
    rw [(List.append_eq_nil_iff.mp hsaid).1]
    exact List.not_mem_nil
  obtain ⟨events, st', hrun, hinv, hread, hphases, halive⟩ :=
    (h.step hopens).connects (s := s) (Function.update_self ..) (Or.inr (by
      show .begin ∉ commandsOf s (st.net.clientSends _).recovered
      have hsends : ∀ cell, (st.net.clientSends cell).recovered = st.net.recovered := by
        intro cell
        unfold Network.clientSends
        split <;> rfl
      rwa [hsends]))
  have hrelaying : st'.phases s = .relaying [] := by rw [hphases, Function.update_self]
  let reading : StreamNetwork :=
    { st'.setPhase s (.relaying (chunks (maxPayloadSize - 1) slice.length slice)) with
      read := Function.update st'.read s (st'.read s ++ [slice]) }
  have hreads : Step st' (.reads s slice) reading := .reads slice hrelaying
  obtain ⟨later, last, hsends, hread', htasks, hphases'⟩ :=
    exists_sends (s := s) reading (Function.update_self ..)
  refine ⟨_, last, ((TransitionSystem.Run.cons hopens hrun).snoc hreads).trans hsends, ?_, ?_, ?_⟩
  · rw [hphases']
    show Function.update (Function.update st'.phases s _) s _ = _
    rw [hphases, Function.update_idem, Function.update_idem]
    exact Function.update_idem ..
  · rw [hread']
    show Function.update st'.read s (st'.read s ++ [slice]) = _
    rw [hread]
    rfl
  · rw [htasks]
    exact halive

end

/-! ## A circuit of three hops -/

section

open Reference

/-- Two streams of the circuit of three hops are opened, and the SOCKS client of each writes: the
circuit comes to where the exit has queued for each destination what its own client has
written. -/
theorem queued_eq_read_sampleStreams :
    ∃ st, system.Reachable st ∧ (st.queued 1).flatten = asBytes "GET /" ∧
      (st.queued 2).flatten = asBytes "QUIT" := by
  obtain ⟨events, st₁, hrun, hphases, hread, halive⟩ := sampleStreams_ready.inv.carries
    (s := 1) rfl "example.org:80" (asBytes "GET /") (by decide)
  have hreach : system.Reachable st₁ := ⟨_, _, sampleStreams_ready, hrun⟩
  obtain ⟨events', st₂, hrun', hphases', hread', halive'⟩ := (inv_of_reachable hreach).carries
    (s := 2) (by rw [hphases]; rfl) "example.org:25" (asBytes "QUIT") (by decide)
  have hreach' : system.Reachable st₂ := ⟨_, _, sampleStreams_ready, hrun.trans hrun'⟩
  obtain ⟨-, -, -, later, st, hlast, -, -, -, -, hqueued⟩ := queued_eq_read hreach'
  have hone := hqueued 1 (halive' 1 (halive 1 (by decide)))
  have htwo := hqueued 2 (halive' 2 (halive 2 (by decide)))
  rw [hphases', hread', hphases, hread] at hone htwo
  refine ⟨st, ⟨_, _, sampleStreams_ready, (hrun.trans hrun').trans hlast⟩, ?_, ?_⟩
  · simpa [StreamPhase.left, sampleStreams] using hone
  · simpa [StreamPhase.left, sampleStreams] using htwo

end

end StreamNetwork

end NoPanic
