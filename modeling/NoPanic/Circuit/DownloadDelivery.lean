/-
# Every byte a stream brings back

What the SOCKS client of a stream is given is what the task of the stream has read from its
destination, as far as it has come; the rest is in the channel of the call, in the messages that
wait on the way back, or still with the task. This takes a run in which no cell overtakes a reply
of the exit's loop. The rest can always be brought to the SOCKS client of a call in its loop, so a
stream that is opened brings back what its destination sends.
-/

import NoPanic.Circuit.DownloadRuns
import NoPanic.Circuit.Upload

namespace NoPanic

open NoPanic.Math

namespace Tunnel

section

variable [Primitives] {t : Tunnel} {s : StreamId}

/-! ## Bringing everything to the client -/

/-- Reads on the way to the client are steps of the tunnel. -/
theorem run_backwards [AddrText] {net net' : Network} {events : List NetworkEvent}
    (hrun : Network.system.Run net events net') (hbackwards : ∀ event ∈ events, event.Backwards)
    (hnet : t.up.net = net) :
    orderly.Run t (events.map fun event => .uploads (.moves event))
      { t with up := { t.up with net := net' } } := by
  induction hrun with
  | nil =>
      subst hnet
      exact .nil t
  | @snoc middle net' events event _ last ih =>
      have hlast := hbackwards event (List.mem_append_right _ (List.mem_singleton_self _))
      have hmoves : event.Moves ∧ ∀ cell, event ≠ .emit cell := by
        cases event with
        | relayBack | receive => exact ⟨trivial, by simp⟩
        | _ => exact hlast.elim
      rw [List.map_append]
      refine (ih fun event hevent => hbackwards event (List.mem_append_left _ hevent)).snoc
        ⟨trivial, ?_⟩
      exact Step.uploads hmoves.2 (StreamNetwork.Step.moves hmoves.1 last)

/-- Two states between which the loop has written its reply, and cells have only moved to the
client. -/
structure OnlyBackwards (t t' : Tunnel) : Prop where
  hand : t'.hand = none
  downloads : t'.downloads = t.downloads
  phases : t'.up.phases = t.up.phases
  tasks : t'.up.tasks = t.up.tasks
  recovered : t'.up.net.recovered = t.up.net.recovered
  emitted : t'.up.net.emitted = t.up.net.emitted
  idle : t'.up.net.BackwardIdle

/-- A loop that holds a reply can write it. -/
theorem Inv.exists_settled [AddrText] (h : t.Inv) :
    ∃ es t', orderly.Run t es t' ∧ t'.Inv ∧ t'.hand = none ∧ t'.up = t.settled ∧
      t'.downloads = t.downloads := by
  cases hhand : t.hand with
  | none => exact ⟨[], t, .nil t, h, hhand, (settled_of_hand hhand).symm, rfl⟩
  | some reply =>
      have hstep : orderly.step t .replies (t.writeReply reply) := ⟨trivial, .replies hhand⟩
      refine ⟨[.replies], _, (TransitionSystem.Run.nil t).snoc hstep, h.replies hhand, rfl, ?_, rfl⟩
      rw [← settled_of_hand (t := t.writeReply reply) rfl, h.settled_writeReply hhand]

/-- Reads alone bring everything to the client. -/
theorem Inv.drains [AddrText] (h : t.Inv) :
    ∃ es t', orderly.Run t es t' ∧ t'.Inv ∧ OnlyBackwards t t' := by
  obtain ⟨es, t₁, hrun, h₁, hhand, hup, hdownloads⟩ := h.exists_settled
  have hinv := h₁.up
  rw [settled_of_hand hhand] at hinv
  obtain ⟨origin, hsound⟩ := hinv.net
  obtain ⟨events, net, hback, hbackwards, hnet, hidle, hforward, hemitted⟩ :=
    hsound.drains_backward
  have hmoves := run_backwards hback hbackwards rfl
  have hrecovered : net.recovered = t₁.up.net.recovered := congrArg Link.read hforward
  rw [hup] at hemitted hrecovered
  refine ⟨_, _, hrun.trans hmoves, ?_, hhand, hdownloads, ?_, ?_, hrecovered, hemitted, hidle⟩
  · refine hmoves.invariant Inv h₁ ?_
    intro u e v hu hstep
    exact hu.step hstep.1 hstep.2
  · show t₁.up.phases = t.up.phases
    rw [hup, settled]
    rfl
  · show t₁.up.tasks = t.up.tasks
    rw [hup, settled]
    rfl

/-! ## Where the bytes are -/

/-- The data in the channel of a stream. -/
def inChannel (t : Tunnel) (s : StreamId) : List Bytes :=
  dataOf s (((t.channel? s).getD []).map Circuit.cellOf)

/-- The data on its way to the client: what the messages that wait in front of the hops and of the
client hold for it, and the reply that is to follow them. -/
def onTheWayBack (t : Tunnel) (s : StreamId) : List Bytes :=
  dataOf s (t.settled.net.backwardLink.onTheWay
    (OnionEnd.channel t.up.net.exit.context.circuitId) hopTransducer)

/-- What the client has received and what is on its way to it is what the exit has emitted. -/
theorem Inv.received_append (h : t.Inv) (s : StreamId) :
    dataOf s t.up.net.received ++ t.onTheWayBack s = dataOf s t.up.net.emitted := by
  obtain ⟨origin, hsound⟩ := h.up.net
  have hall : t.settled.net.received ++ t.settled.net.backwardLink.onTheWay
      (OnionEnd.channel origin.exitId) hopTransducer = t.settled.net.emitted :=
    hsound.backward.read_append_onTheWay
  rw [onTheWayBack, show t.up.net.exit.context.circuitId = origin.exitId from hsound.exitId,
    ← dataOf_append]
  exact congrArg (dataOf s) hall

/-- What has been written, what is in the channel or on its way, and what the task holds. -/
theorem Inv.written_append (h : t.Inv) (s : StreamId) :
    (t.downloads s).written <+: (t.downloads s).read ∧
      ∀ chunks, t.up.phases s = .relaying chunks →
        (t.downloads s).written ++ (t.inChannel s).flatten ++ (t.onTheWayBack s).flatten ++
          (t.downloads s).task.bytes = (t.downloads s).read := by
  have hcall := h.call s
  have hexit := h.exit s
  have hemitted := h.received_append s
  rw [← dataOf_cellsOf] at hemitted
  constructor
  · obtain ⟨untaken, huntaken⟩ := hcall.taken
    rw [← hexit.bytes, ← hemitted, ← huntaken, dataOf_append]
    simp only [List.flatten_append, List.append_assoc]
    exact hcall.written.trans (List.prefix_append _ _)
  · intro chunks hphase
    obtain ⟨queue, hqueue⟩ := Option.ne_none_iff_exists'.mp
      (hcall.registered (by simp [hphase]) (by simp [hphase]))
    rw [← hexit.bytes, ← hemitted, ← hcall.queued queue hqueue, dataOf_append, inChannel,
      hqueue, hcall.exact (Or.inl ⟨chunks, hphase⟩)]
    simp

/-- Nothing is on its way where no backward cell waits and the loop holds no reply. -/
theorem Inv.onTheWayBack_of_idle (h : t.Inv) (hhand : t.hand = none)
    (hidle : t.up.net.BackwardIdle) (s : StreamId) : t.onTheWayBack s = [] := by
  have hall := h.received_append s
  obtain ⟨origin, hsound⟩ := h.up.net
  rw [settled_of_hand hhand] at hsound
  rw [hsound.received_eq_emitted hidle] at hall
  exact List.append_right_eq_self.mp hall

/-! ## Bringing a stream to the end of what its task has read -/

/-- What a step of the call changes at its own end, and at no other. -/
structure OnlyCall (s : StreamId) (t t' : Tunnel) : Prop where
  hand : t'.hand = t.hand
  logs : SameLogs t.up.net t'.up.net
  task : (t'.downloads s).task = (t.downloads s).task
  read : (t'.downloads s).read = (t.downloads s).read

omit [Primitives] in
/-- One after the other. -/
theorem OnlyCall.trans {t₁ t₂ t₃ : Tunnel} (h : OnlyCall s t₁ t₂) (h' : OnlyCall s t₂ t₃) :
    OnlyCall s t₁ t₃ :=
  ⟨h'.hand.trans h.hand,
    ⟨h'.logs.recovered.trans h.logs.recovered, h'.logs.emitted.trans h.logs.emitted,
      h'.logs.received.trans h.logs.received⟩,
    h'.task.trans h.task, h'.read.trans h.read⟩

omit [Primitives] in
/-- A call that changes its download alone, but for its task and what that has read. -/
theorem OnlyCall.of_update {t' : Tunnel} {taken : List RelayCell} {written : Bytes} {ended : Bool}
    (hhand : t'.hand = t.hand) (hlogs : SameLogs t.up.net t'.up.net)
    (hdownloads : t'.downloads = Function.update t.downloads s
      ⟨(t.downloads s).task, (t.downloads s).read, taken, written, ended⟩) : OnlyCall s t t' := by
  refine ⟨hhand, hlogs, ?_, ?_⟩
  · rw [hdownloads, Function.update_self]
  · rw [hdownloads, Function.update_self]

omit [Primitives] in
/-- What is left in the channel of a stream when its call has taken a message. -/
theorem channel?_take (t : Tunnel) (s : StreamId) (msg : Message) (rest : List Message) :
    (t.take s msg rest).channel? s = some rest :=
  (HashMap.lookup_insert_eq ..).trans (if_pos rfl)

/-- A call in its loop can read all that is in its channel, up to END. -/
theorem Inv.exists_takes [AddrText] (h : t.Inv) {queue : List Message}
    (hphase : t.up.phases s = .relaying []) (hchannel : t.channel? s = some queue) :
    ∃ es t', orderly.Run t es t' ∧ t'.Inv ∧ OnlyCall s t t' ∧
      ((t'.downloads s).ended = true ∨
        t'.up.phases s = .relaying [] ∧ t'.channel? s = some [] ∧
          ∀ msg ∈ queue, msg.command ≠ .end) := by
  induction queue generalizing t with
  | nil =>
      exact ⟨[], t, .nil t, h, ⟨rfl, ⟨rfl, rfl, rfl⟩, rfl, rfl⟩,
        Or.inr ⟨hphase, hchannel, List.forall_mem_nil _⟩⟩
  | cons msg rest ih =>
      by_cases hend : msg.command = .end
      · have hstep : orderly.step t (.ends s) _ := ⟨trivial, Step.ends hphase hchannel hend⟩
        refine ⟨[.ends s], _, (TransitionSystem.Run.nil t).snoc hstep, h.step hstep.1 hstep.2,
          .of_update rfl ⟨rfl, rfl, rfl⟩ (downloads_end t s msg rest), Or.inl ?_⟩
        show ((t.take s msg rest).setDownload s _ |>.downloads s).ended = true
        rw [downloads_end, Function.update_self]
      · by_cases hdata : msg.command = .data
        · have hstep : orderly.step t (.delivers s) _ :=
            ⟨trivial, Step.delivers hphase hchannel hdata⟩
          obtain ⟨es, t', hrun, hinv, honly, hlast⟩ :=
            ih (h.step hstep.1 hstep.2) hphase (channel?_take t s msg rest)
          have honce : OnlyCall s t ((t.take s msg rest).write s msg.data) :=
            .of_update rfl ⟨rfl, rfl, rfl⟩ (downloads_write t s msg rest msg.data)
          refine ⟨_, t', TransitionSystem.Run.cons hstep hrun, hinv, honce.trans honly,
            hlast.imp_right ?_⟩
          rintro ⟨hloop, hempty, hrest⟩
          exact ⟨hloop, hempty, List.forall_mem_cons.mpr ⟨hend, hrest⟩⟩
        · have hstep : orderly.step t (.ignores s) _ :=
            ⟨trivial, Step.ignores hphase hchannel ⟨hdata, hend⟩⟩
          obtain ⟨es, t', hrun, hinv, honly, hlast⟩ :=
            ih (h.step hstep.1 hstep.2) hphase (channel?_take t s msg rest)
          have honce : OnlyCall s t (t.take s msg rest) := .of_update rfl ⟨rfl, rfl, rfl⟩ rfl
          refine ⟨_, t', TransitionSystem.Run.cons hstep hrun, hinv, honce.trans honly,
            hlast.imp_right ?_⟩
          rintro ⟨hloop, hempty, hrest⟩
          exact ⟨hloop, hempty, List.forall_mem_cons.mpr ⟨hend, hrest⟩⟩

/-- Two states between which the task of a stream has emitted cells. -/
structure OnlyTask (s : StreamId) (commands : List MessageCommand) (t t' : Tunnel) : Prop where
  hand : t'.hand = t.hand
  phases : t'.up.phases = t.up.phases
  read : (t'.downloads s).read = (t.downloads s).read
  taken : (t'.downloads s).taken = (t.downloads s).taken
  emitted : commandsOf s t'.up.net.emitted = commandsOf s t.up.net.emitted ++ commands

/-- The task of a stream can emit all that it holds; it ends with the last cell when that was its
last read, and goes on as it was when not. -/
theorem Inv.exists_emits [AddrText] (h : t.Inv) (hhand : t.hand = none)
    {cells : List (MessageCommand × Bytes)} {last : Bool}
    (htask : (t.downloads s).task = .next cells last) :
    ∃ es t', orderly.Run t es t' ∧ t'.Inv ∧ OnlyTask s (cells.map Prod.fst) t t' ∧
      (t'.downloads s).task = .next [] last ∧ (last = false → t'.up.tasks s = t.up.tasks s) := by
  induction cells generalizing t with
  | nil =>
      exact ⟨[], t, .nil t, h, ⟨rfl, rfl, rfl, rfl, (List.append_nil _).symm⟩, htask, fun _ => rfl⟩
  | cons cell cells ih =>
      have hcells : (t.downloads s).task.cells = cell :: cells := by rw [htask, cells_next]
      have hstep : orderly.step t (.emits s) (t.emit s cell) := ⟨hhand, .emits hcells⟩
      have hphase : (t.downloads s).task.advance = .next cells last := by
        rw [htask]
        rfl
      have hafter : (t.emit s cell).downloads s =
          { t.downloads s with task := .next cells last } := by
        rw [← hphase]
        exact Function.update_self ..
      obtain ⟨es, t', hrun, hinv, ⟨hhand', hphases, hread, htaken, hemitted⟩, hlast, htasks⟩ :=
        ih (h.step hstep.1 hstep.2) hhand (by rw [hafter])
      have hbefore := h.up
      rw [settled_of_hand hhand] at hbefore
      obtain ⟨origin, hsound⟩ := hbefore.net
      have hemits : (t.emit s cell).up.net.emitted = t.up.net.emitted ++ [⟨s, cell.1, cell.2⟩] :=
        (back_exitEmits hsound.exit).2.1
      refine ⟨_, t', TransitionSystem.Run.cons hstep hrun, hinv, ⟨hhand', hphases, ?_, ?_, ?_⟩,
        hlast, ?_⟩
      · rw [hread, hafter]
      · rw [htaken, hafter]
      · rw [hemitted, hemits, commandsOf_append, commandsOf_singleton, if_pos rfl,
          List.append_assoc]
        rfl
      · intro hmore
        rw [htasks hmore]
        show Function.update t.up.tasks s (if (t.downloads s).task.advance = _ then _ else _) s = _
        rw [Function.update_self, hphase, hmore, if_neg]
        cases cells <;> simp [TaskPhase.next]

/-- The task of a stream can emit all that it holds. -/
theorem Inv.exists_emptied [AddrText] (h : t.Inv) (hhand : t.hand = none) (s : StreamId) :
    ∃ es t', orderly.Run t es t' ∧ t'.Inv ∧
      OnlyTask s ((t.downloads s).task.cells.map Prod.fst) t t' ∧
      (t'.downloads s).task.cells = [] := by
  cases hcells : (t.downloads s).task.cells with
  | nil => exact ⟨[], t, .nil t, h, ⟨rfl, rfl, rfl, rfl, (List.append_nil _).symm⟩, hcells⟩
  | cons cell cells =>
      obtain ⟨last, htask⟩ := eq_sending_of_cells hcells
      have hnext : (t.downloads s).task = .next (cell :: cells) last := htask
      obtain ⟨es, t', hrun, hinv, honly, hlast, -⟩ := h.exists_emits hhand hnext
      exact ⟨es, t', hrun, hinv, honly, by rw [hlast, cells_next]⟩

/-- A call in its loop can send the chunks it has left. -/
theorem Inv.exists_sends [AddrText] (h : t.Inv) {chunks : List Bytes}
    (hphase : t.up.phases s = .relaying chunks) :
    ∃ es t', orderly.Run t es t' ∧ t'.Inv ∧ t'.up.phases s = .relaying [] ∧
      t'.hand = t.hand ∧ t'.downloads = t.downloads ∧ t'.up.net.emitted = t.up.net.emitted := by
  induction chunks generalizing t with
  | nil => exact ⟨[], t, .nil t, h, hphase, rfl, rfl, rfl⟩
  | cons chunk rest ih =>
      have hsends : StreamNetwork.Step t.up (.sends s) _ := .sends hphase
      have hstep : orderly.step t (.uploads (.sends s)) _ := ⟨trivial, Step.uploads trivial hsends⟩
      obtain ⟨es, t', hrun, hinv, hlast, hhand, hdownloads, hemitted⟩ :=
        ih (h.step hstep.1 hstep.2) (Function.update_self ..)
      refine ⟨_, t', TransitionSystem.Run.cons hstep hrun, hinv, hlast, hhand, hdownloads, ?_⟩
      rw [hemitted]
      exact (sameBack_clientSends t.up.net ⟨s, .data, chunk⟩).emitted

/-- A call in its loop can be brought to where it has written all that the task of its stream has
read; and where END is among the cells that the task has emitted or holds, the call reads it. -/
theorem Inv.catches_up [AddrText] (h : t.Inv) {chunks : List Bytes}
    (hphase : t.up.phases s = .relaying chunks) :
    ∃ es t', orderly.Run t es t' ∧ t'.Inv ∧ (t'.downloads s).read = (t.downloads s).read ∧
      (t'.downloads s).written = (t.downloads s).read ∧
      (.end ∈ (t.downloads s).task.cells.map Prod.fst → (t'.downloads s).ended = true) := by
  obtain ⟨es₁, t₁, hrun₁, h₁, hhand₁, hup₁, hdownloads₁⟩ := h.exists_settled
  have hphase₁ : t₁.up.phases s = .relaying chunks := by rw [hup₁]; exact hphase
  obtain ⟨es₂, t₂, hrun₂, h₂, hphase₂, hhand₂, hdownloads₂, -⟩ := h₁.exists_sends hphase₁
  have hsame : t₂.downloads = t.downloads := hdownloads₂.trans hdownloads₁
  obtain ⟨es₃, t₃, hrun₃, h₃, ⟨hhand₃, hphases₃, hread₃, htaken₃, hemitted₃⟩, hnone⟩ :=
    h₂.exists_emptied (hhand₂.trans hhand₁) s
  obtain ⟨es₄, t₄, hrun₄, h₄, hback⟩ := h₃.drains
  have hphase₄ : t₄.up.phases s = .relaying [] := by rw [hback.phases, hphases₃, hphase₂]
  obtain ⟨queue, hqueue⟩ := Option.ne_none_iff_exists'.mp
    ((h₄.call s).registered (by simp [hphase₄]) (by simp [hphase₄]))
  obtain ⟨es₅, t₅, hrun₅, h₅, ⟨hhand₅, hlogs, htask₅, hread₅⟩, hlast⟩ :=
    h₄.exists_takes hphase₄ hqueue
  have hread : (t₅.downloads s).read = (t.downloads s).read := by
    rw [hread₅, hback.downloads, hread₃, hsame]
  have hall : t₄.up.net.received = t₄.up.net.emitted := by
    obtain ⟨origin, hsound⟩ := h₄.up.net
    rw [settled_of_hand hback.hand] at hsound
    exact hsound.received_eq_emitted hback.idle
  refine ⟨_, t₅, (((hrun₁.trans hrun₂).trans hrun₃).trans hrun₄).trans hrun₅, h₅, hread, ?_, ?_⟩
  · rw [← hread]
    rcases hlast with hended | ⟨hphase₅, hchannel, -⟩
    · exact (h₅.whole s hended).same
    · have hcells : (t₅.downloads s).task.cells = [] := by rw [htask₅, hback.downloads, hnone]
      have htaken := (h₅.call s).queued [] hchannel
      rw [List.map_nil, List.append_nil] at htaken
      rw [(h₅.call s).exact (Or.inl ⟨[], hphase₅⟩), htaken, dataOf_cellsOf, ← (h₅.exit s).bytes,
        hlogs.received, hall, hlogs.emitted, TaskPhase.bytes, hcells]
      simp
  · intro hend
    refine hlast.resolve_right ?_
    rintro ⟨-, -, hnever⟩
    -- what the task has just emitted cannot have been taken yet, so it is in the channel
    obtain ⟨more, hmore⟩ := (h₂.call s).taken.trans (cellsOf_mono h₂.received)
    have hqueued := (h₄.call s).queued queue hqueue
    rw [hback.downloads, htaken₃, hall, hback.emitted] at hqueued
    have hcommands := congrArg (List.map RelayCell.command) hqueued
    rw [← commandsOf_eq_map, hemitted₃, commandsOf_eq_map, ← hmore, List.map_append,
      List.map_append, List.append_assoc, List.append_cancel_left_eq] at hcommands
    have hmem : .end ∈ (queue.map Circuit.cellOf).map RelayCell.command := by
      rw [hcommands, hsame]
      exact List.mem_append_right _ hend
    rw [List.map_map, List.mem_map] at hmem
    obtain ⟨msg, hmsg, hcommand⟩ := hmem
    exact hnever msg hmsg hcommand

/-! ## Opening a stream -/

/-- Reads on the way to the exit are steps of the tunnel, when the loop writes its replies at
once. -/
theorem Inv.run_forwards [AddrText] (h : t.Inv) (hhand : t.hand = none) {st : StreamNetwork}
    {events : List StreamNetworkEvent} (hrun : StreamNetwork.system.Run t.up events st)
    (hforwards : ∀ event ∈ events, event.Forwards) :
    ∃ es t', orderly.Run t es t' ∧ t'.Inv ∧ t'.hand = none ∧ t'.up = st ∧
      t'.downloads = t.downloads := by
  generalize hup : t.up = start at hrun
  induction hrun with
  | nil => exact ⟨[], t, .nil t, h, hhand, hup, rfl⟩
  | @snoc middle st events event _ last ih =>
      obtain ⟨es, t₁, hrun₁, h₁, hhand₁, rfl, hdownloads⟩ :=
        ih fun event hevent => hforwards event (List.mem_append_left _ hevent)
      have hlast := hforwards event (List.mem_append_right _ (List.mem_singleton_self _))
      cases last with
      | @moves event net hmoves hstep =>
          have hemit : ∀ cell, event ≠ .emit cell := by
            rintro cell rfl
            exact hlast
          have hmove : orderly.step t₁ (.uploads (.moves event))
              { t₁ with up := { t₁.up with net } } :=
            ⟨trivial, .uploads hemit (.moves hmoves hstep)⟩
          exact ⟨_, _, hrun₁.snoc hmove, h₁.step hmove.1 hmove.2, hhand₁, rfl, hdownloads⟩
      | exits hinbox hdelivers htexts hopen =>
          have hhandles : orderly.step t₁ .handles _ :=
            ⟨trivial, .handles hhand₁ hinbox hdelivers htexts hopen⟩
          obtain ⟨es', t₂, hrun₂, h₂, hhand₂, hup₂, hdownloads₂⟩ :=
            (h₁.step hhandles.1 hhandles.2).exists_settled
          have hbefore := h₁.up
          rw [settled_of_hand hhand₁] at hbefore
          rw [settled_handle (hbefore.step (.exits hinbox hdelivers htexts hopen))] at hup₂
          exact ⟨_, t₂, (hrun₁.snoc hhandles).trans hrun₂, h₂, hhand₂, hup₂,
            hdownloads₂.trans hdownloads⟩
      | _ => exact hlast.elim

/-- The exit's loop is at rest, the call of a stream is in its loop, and its task runs. -/
structure Loops (t : Tunnel) (s : StreamId) : Prop where
  hand : t.hand = none
  phase : t.up.phases s = .relaying []
  task : t.up.tasks s = .running

/-- A call that waits for its answer can be told that it is connected, where the exit has not
refused it. -/
theorem Inv.connects [AddrText] (h : t.Inv) (hhand : t.hand = none)
    (hphase : t.up.phases s = .waiting) (hgreeted : t.up.Greeted s) :
    ∃ es t', orderly.Run t es t' ∧ t'.Inv ∧ t'.Loops s ∧
      (t'.downloads s).task = (t.downloads s).task ∧
      (t'.downloads s).read = (t.downloads s).read := by
  have hbefore := h.up
  rw [settled_of_hand hhand] at hbefore
  obtain ⟨events, st, hforth, hevents, hst, honly, hidle⟩ := hbefore.drains
  have hsent : commandsOf s t.up.net.sent = [.begin] := by
    have hsaid := (hbefore.client s).said
    rw [hphase] at hsaid
    exact hsaid
  -- its BEGIN has come to the exit, which has answered it
  obtain ⟨hconnected, hrunning⟩ :
      commandsOf s st.net.emitted = [.connected] ∧ st.tasks s = .running := by
    obtain ⟨origin, hsound⟩ := hst.net
    have hall := hsound.recovered_eq_sent hidle
    rcases honly.greeted s hsent hgreeted with ⟨hnone, -⟩ | ⟨-, hanswered⟩
    · rw [hall, honly.sent, hsent] at hnone
      cases hnone
    · exact hanswered
  obtain ⟨es₁, t₁, hrun₁, h₁, hhand₁, rfl, hdownloads₁⟩ := h.run_forwards hhand hforth hevents
  obtain ⟨es₂, t₂, hrun₂, h₂, hback⟩ := h₁.drains
  have hphase₂ : t₂.up.phases s = .waiting := by rw [hback.phases, honly.phases, hphase]
  -- and the answer is the one message in the channel
  obtain ⟨queue, hqueue⟩ := Option.ne_none_iff_exists'.mp
    ((h₂.call s).registered (by simp [hphase₂]) (by simp [hphase₂]))
  have hcommands : queue.map Message.command = [.connected] := by
    obtain ⟨origin, hsound⟩ := h₂.up.net
    rw [settled_of_hand hback.hand] at hsound
    have hqueued := (h₂.call s).queued queue hqueue
    rw [((h₂.call s).waits (Or.inr hphase₂)).1, List.nil_append,
      hsound.received_eq_emitted hback.idle, hback.emitted] at hqueued
    have hanswer := congrArg (List.map RelayCell.command) hqueued
    rw [← commandsOf_eq_map, hconnected, List.map_map] at hanswer
    exact hanswer
  obtain ⟨msg, rfl, hcommand⟩ : ∃ msg, queue = [msg] ∧ msg.command = .connected :=
    List.map_eq_singleton_iff.mp hcommands
  have hstep : orderly.step t₂ (.connects s true) _ :=
    ⟨trivial, Step.connects true hphase₂ hqueue hcommand⟩
  refine ⟨_, _, (hrun₁.trans hrun₂).snoc hstep, h₂.step hstep.1 hstep.2,
    ⟨hback.hand, Function.update_self .., ?_⟩, ?_, ?_⟩
  · show t₂.up.tasks s = _
    rw [hback.tasks, hrunning]
  · show (Function.update t₂.downloads s _ s).task = _
    rw [Function.update_self, hback.downloads, hdownloads₁]
  · show (Function.update t₂.downloads s _ s).read = _
    rw [Function.update_self, hback.downloads, hdownloads₁]

/-- A call that has not been opened can register its channel. -/
theorem Inv.exists_registered [AddrText] (h : t.Inv) (hphase : t.up.phases s = .idle) :
    ∃ t', orderly.step t (.registers s) t' ∧ t'.Inv ∧ t'.hand = t.hand ∧
      t'.up.phases s = .idle ∧ t'.channel? s = some [] ∧ t'.downloads = t.downloads :=
  ⟨_, ⟨trivial, .registers hphase⟩, h.registers hphase, rfl, hphase,
    (HashMap.lookup_insert_eq ..).trans (if_pos rfl), rfl⟩

/-- Wherever a run stands, a stream that has not been opened can be opened and connected. -/
theorem Inv.exists_opened [AddrText] (h : t.Inv) (hphase : t.up.phases s = .idle)
    (destination : String) (hfits : (beginPayload destination).length ≤ maxPayloadSize) :
    ∃ es t', orderly.Run t es t' ∧ t'.Inv ∧ t'.Loops s ∧
      (t'.downloads s).task = (t.downloads s).task ∧
      (t'.downloads s).read = (t.downloads s).read := by
  obtain ⟨es₁, t₁, hrun₁, h₁, hhand₁, hup₁, hdownloads₁⟩ := h.exists_settled
  have hphase₁ : t₁.up.phases s = .idle := by rw [hup₁]; exact hphase
  obtain ⟨t₂, hregisters, h₂, hhand₂, hphase₂, hchannel₂, hdownloads₂⟩ :=
    h₁.exists_registered hphase₁
  have hopens : orderly.step t₂ (.opens s destination) _ :=
    ⟨trivial, Step.opens destination hphase₂ (by rw [hchannel₂]; rfl) hfits⟩
  obtain ⟨hrecovered, hemitted, -⟩ :=
    (sameBack_clientSends t₂.up.net ⟨s, .begin, beginPayload destination⟩).toSameLogs
  have hunheard := h₂.unheard hphase₂
  have hsilent := (h₂.exit s).silent hunheard
  obtain ⟨es₃, t₃, hrun₃, h₃, hloops, htask₃, hread₃⟩ :=
    (h₂.step hopens.1 hopens.2).connects (s := s) (hhand₂.trans hhand₁) (Function.update_self ..)
      (Or.inl ⟨by rw [← hunheard]; exact congrArg (commandsOf s) hrecovered, by
        show commandsOf s (t₂.up.net.clientSends _).emitted = []
        rw [hemitted, commandsOf_eq_map, hsilent]
        rfl⟩)
  refine ⟨_, t₃, ((hrun₁.snoc hregisters).snoc hopens).trans hrun₃, h₃, hloops, ?_, ?_⟩
  · rw [htask₃]
    show (t₂.downloads s).task = _
    rw [hdownloads₂, hdownloads₁]
  · rw [hread₃]
    show (t₂.downloads s).read = _
    rw [hdownloads₂, hdownloads₁]

/-- The task of such a stream can read from its destination, when it has nothing to emit. -/
theorem Inv.exists_read [AddrText] (h : t.Inv) (hloops : t.Loops s)
    (htask : (t.downloads s).task = .idle) (out : StreamRead)
    (hfits : ∀ cell ∈ out.cells, cell.2.length ≤ maxPayloadSize) :
    ∃ t', orderly.step t (.downloads s out) t' ∧ t'.Inv ∧ t'.Loops s ∧
      (t'.downloads s).task = .next out.cells out.isLast ∧
      (t'.downloads s).read = (t.downloads s).read ++ out.bytes := by
  refine ⟨_, ⟨trivial, .downloads out hloops.task htask hfits⟩,
    h.downloads out hloops.task htask hfits, ⟨hloops.hand, hloops.phase, hloops.task⟩, ?_, ?_⟩
  · show (Function.update t.downloads s _ s).task = _
    rw [Function.update_self]
  · show (Function.update t.downloads s _ s).read = _
    rw [Function.update_self]

/-! ## The result -/

/-- A stream whose call has read END stays as it is. -/
theorem Inv.step_ended [AddrText] {e : TunnelEvent} {t' : Tunnel} (h : t.Inv)
    (hended : (t.downloads s).ended = true) (hstep : Step t e t') :
    (t'.downloads s).ended = true ∧ (t'.downloads s).read = (t.downloads s).read := by
  have hwhole := h.whole s hended
  have hother : ∀ {u : Tunnel} {d : Download} {other : StreamId}, other ≠ s →
      u.downloads = Function.update t.downloads other d →
        (u.downloads s).ended = true ∧ (u.downloads s).read = (t.downloads s).read := by
    intro u d other hne heq
    rw [heq, Function.update_of_ne (Ne.symm hne)]
    exact ⟨hended, rfl⟩
  have hleft : ∀ {other : StreamId}, t.up.phases other = .waiting ∨
      t.up.phases other = .relaying [] → other ≠ s := by
    rintro other hphase rfl
    cases hended.symm.trans (h.ended_eq_false hphase)
  cases hstep with
  | uploads | handles | replies | works | registers | opens | unregisters => exact ⟨hended, rfl⟩
  | connects _ hphase | refuses hphase => exact hother (hleft (Or.inl hphase)) rfl
  | ignores hphase => exact hother (hleft (Or.inr hphase)) rfl
  | delivers hphase | breaks hphase =>
      exact hother (hleft (Or.inr hphase)) (downloads_write ..)
  | ends hphase => exact hother (hleft (Or.inr hphase)) (downloads_end ..)
  | downloads _ htask =>
      refine hother ?_ rfl
      rintro rfl
      exact hwhole.stopped htask
  | emits hcells =>
      refine hother ?_ rfl
      rintro rfl
      exact hwhole.stopped ((h.exit _).working (by rw [hcells]; simp))

/-- In every run of the streams of an established circuit that gives every id to one stream, and in
which no cell overtakes a reply of the exit's loop, what the SOCKS client of a stream has been given
is a first part of what the task of the stream has read from its destination. While the call is in
its loop, the rest is in its channel, on its way, or held by the task, and it can all be brought to
the SOCKS client. When the call has read END, nothing is missing, and nothing more is ever read.
And wherever the run stands, what is on its way can be brought to the client. -/
theorem written_and_read [AddrText] (hreach : orderly.Reachable t) (s : StreamId) :
    (t.downloads s).written <+: (t.downloads s).read ∧
      (∀ chunks, t.up.phases s = .relaying chunks →
        (t.downloads s).written ++ (t.inChannel s).flatten ++ (t.onTheWayBack s).flatten ++
            (t.downloads s).task.bytes = (t.downloads s).read ∧
          ∃ es t', orderly.Run t es t' ∧ (t'.downloads s).read = (t.downloads s).read ∧
            (t'.downloads s).written = (t.downloads s).read) ∧
      ((t.downloads s).ended = true →
        (t.downloads s).written = (t.downloads s).read ∧ t.up.tasks s ≠ .running ∧
          ∀ es t', orderly.Run t es t' → (t'.downloads s).read = (t.downloads s).read) ∧
      ∃ es t', orderly.Run t es t' ∧ t'.downloads = t.downloads ∧
        t'.up.phases = t.up.phases ∧ t'.onTheWayBack s = [] := by
  have hinv := inv_of_reachable hreach
  obtain ⟨hinitial, hloop⟩ := hinv.written_append s
  refine ⟨hinitial, fun chunks hphase => ⟨hloop chunks hphase, ?_⟩, fun hended =>
    ⟨(hinv.whole s hended).same, (hinv.whole s hended).stopped, fun es t' hrun => ?_⟩, ?_⟩
  · obtain ⟨es, t', hrun, -, hread, hwritten, -⟩ := hinv.catches_up hphase
    exact ⟨es, t', hrun, hread, hwritten⟩
  · have hlater := hrun.invariant (fun now => now.Inv ∧ (now.downloads s).ended = true ∧
      (now.downloads s).read = (t.downloads s).read) ⟨hinv, hended, rfl⟩ ?_
    · exact hlater.2.2
    · rintro now e next ⟨hnow, hstill, hsame⟩ hstep
      obtain ⟨hstill', hsame'⟩ := hnow.step_ended hstill hstep.2
      exact ⟨hnow.step hstep.1 hstep.2, hstill', hsame'.trans hsame⟩
  · obtain ⟨es, t', hrun, hinv', hback⟩ := hinv.drains
    exact ⟨es, t', hrun, hback.downloads, hback.phases,
      hinv'.onTheWayBack_of_idle hback.hand hback.idle s⟩

end

/-! ## A circuit of three hops -/

section

open Reference

/-- The circuit of three hops, with nothing on its way back. -/
def sampleTunnel : Tunnel := ⟨StreamNetwork.sampleStreams, none, fun _ => .start⟩

/-- It is established and has no streams yet. -/
theorem sampleTunnel_ready : sampleTunnel.Ready :=
  ⟨StreamNetwork.sampleStreams_ready, rfl, rfl, fun _ => rfl⟩

/-- A stream of the circuit of three hops is opened, and its destination sends an answer and closes
the connection: in its loop the call can be brought to where its SOCKS client has the answer, and
the circuit comes to where the call has read END and the SOCKS client has the same answer. -/
theorem written_and_read_sampleTunnel :
    ∃ t es t' es' t'', orderly.Reachable t ∧ t.up.phases 1 = .relaying [] ∧
      (t.downloads 1).read = asBytes "200 OK" ∧
      orderly.Run t es t' ∧ (t'.downloads 1).written = asBytes "200 OK" ∧
      orderly.Run t es' t'' ∧ (t''.downloads 1).ended = true ∧
      (t''.downloads 1).written = asBytes "200 OK" := by
  obtain ⟨es₁, t₁, hrun₁, h₁, hloops₁, htask₁, hread₁⟩ :=
    sampleTunnel_ready.inv.exists_opened (s := 1) rfl "example.org:80" (by decide)
  -- the destination sends its answer
  obtain ⟨t₂, hanswers, h₂, hloops₂, htask₂, hread₂⟩ :=
    h₁.exists_read hloops₁ htask₁ (.data (asBytes "200 OK")) (by decide)
  have hrun₂ := hrun₁.snoc hanswers
  have hanswer : (t₂.downloads 1).read = asBytes "200 OK" := by
    rw [hread₂, hread₁]
    rfl
  obtain ⟨-, hloop, -⟩ := written_and_read ⟨_, _, sampleTunnel_ready, hrun₂⟩ 1
  obtain ⟨-, es, t', hrun, -, hwritten⟩ := hloop [] hloops₂.phase
  -- the task emits it, and reads that the connection is closed
  obtain ⟨es₃, t₃, hrun₃, h₃, honly, hidle, htasks⟩ := h₂.exists_emits hloops₂.hand htask₂
  have hloops₃ : t₃.Loops 1 :=
    ⟨honly.hand.trans hloops₂.hand, honly.phases ▸ hloops₂.phase, (htasks rfl).trans hloops₂.task⟩
  obtain ⟨t₄, hcloses, h₄, hloops₄, htask₄, hread₄⟩ :=
    h₃.exists_read hloops₃ hidle .closed (by decide)
  obtain ⟨es₅, t₅, hrun₅, -, hread₅, -, hends⟩ := h₄.catches_up hloops₄.phase
  have hended : (t₅.downloads 1).ended = true := hends (by rw [htask₄]; decide)
  have hafter := (hrun₃.snoc hcloses).trans hrun₅
  obtain ⟨-, -, hlast, -⟩ := written_and_read ⟨_, _, sampleTunnel_ready, hrun₂.trans hafter⟩ 1
  refine ⟨t₂, es, t', _, t₅, ⟨_, _, sampleTunnel_ready, hrun₂⟩, hloops₂.phase, hanswer, hrun,
    hwritten.trans hanswer, hafter, hended, ?_⟩
  rw [(hlast hended).1, hread₅, hread₄, honly.read, hanswer]
  rfl

end

end Tunnel

end NoPanic
