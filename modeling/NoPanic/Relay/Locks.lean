/-
# The locks and the connections of the relays

A relay keeps its circuits under the lock of the registry, an exit keeps the cipher and the
digests of a circuit under a lock of its own, and the write half of every connection has another.
The tasks of a relay take these locks inside one another: the registry's first, the circuit's
next, and that of the connection last. While they hold them they write to connections, and each way
of a connection has room for some cells: a write waits while it is full, until the task that reads
it reads on. What a task takes and writes from one time it holds no lock to the next is written
down here function by function.

A relay that extends a circuit keeps the lock of its registry while it waits for CREATED from
another relay, which may at the same time wait for this one. The other relay answers CREATE before
it asks for its own registry. So what it takes until it has answered belongs to the section of the
relay that waits, and that is no registry. The two messages are the first on their connection and
find room.
-/

import NoPanic.Common.Types
import NoPanic.Math.Channels

namespace NoPanic

open NoPanic.Math

universe u

/-- The locks of all relays. -/
inductive RelayLock (ρ : Type u)
  /-- The `circuit_registry` of a relay. -/
  | registry (r : ρ)
  /-- The `shared_state` of an exit circuit. -/
  | crypto (r : ρ) (k : Nat)
  /-- The write half of a connection that a relay has accepted. -/
  | writer (r : ρ) (c : Nat)
  deriving DecidableEq, Repr

/-- The two ways of a connection that a relay has accepted. -/
inductive RelayWay (ρ : Type u)
  | inbound (r : ρ) (c : Nat)
  | outbound (r : ρ) (c : Nat)
  deriving DecidableEq, Repr

/-- The tasks of all relays. -/
inductive RelayTask (ρ : Type u)
  /-- `handle_connection`. -/
  | connection (r : ρ) (c : Nat)
  /-- The background reader of a circuit that was extended over a connection. -/
  | reader (r : ρ) (c n : Nat)
  /-- One of the streams of an exit circuit. -/
  | stream (r : ρ) (k c n : Nat)
  | heartbeat (r : ρ)
  | tui (r : ρ)
  deriving DecidableEq, Repr

/-- Relays and the connections between them: the next hop of a circuit is a connection that another
relay has accepted, and every connection is the next hop of one circuit at most. -/
structure Relays (ρ : Type u) where
  role : ρ → NodeType
  next : ρ → Nat → Nat → Option (ρ × Nat)
  alone : ∀ {r r' c c' n n' hop}, next r c n = some hop → next r' c' n' = some hop →
    r = r' ∧ c = c' ∧ n = n'

namespace Relays

open ChannelOp RelayLock RelayWay

variable {ρ : Type u}

/-- The order in which a task takes its locks. -/
def rank : RelayLock ρ → Nat
  | .registry _ => 0
  | .crypto _ _ => 1
  | .writer _ _ => 2

/-- What a task does in a section. -/
abbrev Section (ρ : Type u) : Type u := List (ChannelOp (RelayLock ρ) (RelayWay ρ))

/-- A message for the previous hop is written. -/
def answer (r : ρ) (c : Nat) : Section ρ := within (writer r c) [.put (outbound r c)]

/-- `handle_create`, with the answer of `handle_connection`. -/
inductive CreateSection (r : ρ) (c : Nat) : Section ρ → Prop
  | /-- The message is too short. -/
    refuses : CreateSection r c []
  | answers : CreateSection r c (answer r c)

/-- `handle_extend`, at an entry or a middle: whether there is an answer. -/
inductive ExtendSection : Bool → Section ρ → Prop
  | /-- The payload is malformed, the next relay cannot be reached, or it does not answer. -/
    fails : ExtendSection false []
  | /-- CREATE goes to another relay on a new connection, and CREATED comes back. -/
    asks (r : ρ) (c : Nat) (answers : Bool) : ExtendSection answers (within (writer r c) [])

/-- `ExitCircuitHandler::handle_message`, with the writer of the connection. -/
inductive ExitSection (r : ρ) (k c : Nat) : Bool → Section ρ → Prop
  | /-- PADDING, DESTROY, a command that is not expected, or no crypto state. -/
    passes : ExitSection r k c false []
  | /-- BEGIN, DATA or END is decrypted: the digest does not match, BEGIN names no destination, or
    DATA is queued. -/
    decrypts : ExitSection r k c false (within (crypto r k) [])
  | /-- The answer is an END. -/
    ends : ExitSection r k c true (within (crypto r k) [] ++ within (crypto r k) [])
  | /-- CONNECTED is written at once. -/
    connects : ExitSection r k c false
      (within (crypto r k) [] ++ within (crypto r k) (answer r c))

variable (net : Relays ρ)

/-- `CircuitRegistry::handle_message`. -/
inductive HandlerSection (r : ρ) (c : Nat) : Bool → Section ρ → Prop
  | /-- There is no such circuit, or nothing is to be done. -/
    passes : HandlerSection r c false []
  | /-- `handle_extended` returns the message. -/
    extended (hrole : net.role r = .middle) : HandlerSection r c true []
  | /-- `handle_relay` writes to the next hop of the circuit, over whichever connection it came. -/
    forwards {c' n d : Nat} {next : ρ} (hrole : net.role r ≠ .exit)
      (hnext : net.next r c' n = some (next, d)) :
      HandlerSection r c false [.put (inbound next d)]
  | extend {answers : Bool} {ops : Section ρ} (hrole : net.role r ≠ .exit)
      (hextend : ExtendSection answers ops) : HandlerSection r c answers ops
  | exit (k : Nat) {answers : Bool} {ops : Section ρ} (hrole : net.role r = .exit)
      (hexit : ExitSection r k c answers ops) : HandlerSection r c answers ops

/-- The sections of every task, and what they begin with reading. -/
inductive TaskSection : RelayTask ρ → Option (RelayWay ρ) → Section ρ → Prop
  | creates {r : ρ} {c : Nat} {ops : Section ρ} (hcreate : CreateSection r c ops) :
      TaskSection (.connection r c) (some (inbound r c)) ops
  | /-- After CREATED has been written. -/
    adds (r : ρ) (c : Nat) : TaskSection (.connection r c) none (within (registry r) [])
  | /-- Any other message. -/
    handles {r : ρ} {c : Nat} {answers : Bool} {ops : Section ρ}
      (hhandler : net.HandlerSection r c answers ops) :
      TaskSection (.connection r c) (some (inbound r c))
        (within (registry r) (ops ++ if answers then answer r c else []))
  | /-- `handle_backward_message`. -/
    decrypts {r next : ρ} {c n d : Nat} (hnext : net.next r c n = some (next, d)) :
      TaskSection (.reader r c n) (some (outbound next d)) (within (registry r) [])
  | /-- A message for the previous hop, or the DESTROY at the end. -/
    writes (r : ρ) (c n : Nat) : TaskSection (.reader r c n) none (answer r c)
  | /-- A chunk of data, or the END after it. -/
    sends {r : ρ} {k c n : Nat} (hrole : net.role r = .exit) :
      TaskSection (.stream r k c n) none (within (crypto r k) (answer r c))
  | /-- `build_metrics`. -/
    beats (r : ρ) : TaskSection (.heartbeat r) none (within (registry r) [])
  | shows (r : ρ) : TaskSection (.tui r) none (within (registry r) [])

/-- A relay reads what comes over the connections it has accepted, and a background reader what
comes back over the connection to the next hop. -/
inductive Reads : RelayWay ρ → RelayTask ρ → Prop
  | forth (r : ρ) (c : Nat) : Reads (inbound r c) (.connection r c)
  | back {r next : ρ} {c n d : Nat} (hnext : net.next r c n = some (next, d)) :
      Reads (outbound next d) (.reader r c n)

/-- A way is written to from outside when the connection is no relay's. -/
def Outside : RelayWay ρ → Prop
  | .inbound r c => ∀ q d n, net.next q d n ≠ some (r, c)
  | .outbound _ _ => False

/-- All relays, with room for some cells on every way. -/
def channels (room : ℕ∞) : Channels (RelayTask ρ) (RelayLock ρ) (RelayWay ρ) where
  sections := net.TaskSection
  reads := net.Reads
  outside := net.Outside
  room := room
  reads_of_section := by
    intro t c ops hsection
    cases hsection with
    | creates => exact .forth _ _
    | handles => exact .forth _ _
    | decrypts hnext => exact .back hnext
  alone := by
    intro c t u ht hu
    cases ht with
    | forth =>
        cases hu with
        | forth => rfl
    | back hnext =>
        cases hu with
        | back hnext' =>
            obtain ⟨rfl, rfl, rfl⟩ := net.alone hnext hnext'
            rfl

/-! ## Every section is in order -/

section

variable {r : ρ} {k c : Nat} {answers : Bool} {ops : Section ρ} {held : List (RelayLock ρ)}
  [DecidableEq ρ]

/-- The writer of a connection comes after everything else. -/
theorem balanced_writer {ops : Section ρ} (hops : locks ops = [])
    (hheld : ∀ l ∈ held, rank l < 2) :
    LockOp.Balanced rank held (locks (within (writer r c) ops)) := by
  rw [locks_within, hops]
  exact .within hheld .nil

/-- The state of a circuit comes between the registry and the writers. -/
theorem ExitSection.balanced (h : ExitSection r k c answers ops)
    (hheld : ∀ l ∈ held, rank l < 1) : LockOp.Balanced rank held (locks ops) := by
  have hcrypto : LockOp.Balanced rank held (LockOp.within (crypto r k) []) := .within hheld .nil
  cases h with
  | passes => exact .nil
  | decrypts =>
      rw [locks_within]
      exact hcrypto
  | ends =>
      rw [locks_append, locks_within]
      exact hcrypto.append hcrypto
  | connects =>
      rw [locks_append, locks_within, locks_within]
      refine hcrypto.append (.within hheld (balanced_writer rfl ?_))
      intro l hl
      rcases List.mem_cons.mp hl with rfl | hbefore
      · exact Nat.one_lt_two
      · exact (hheld l hbefore).trans Nat.one_lt_two

variable {net}

/-- A message is handled while the registry is held. -/
theorem HandlerSection.balanced (h : net.HandlerSection r c answers ops) :
    LockOp.Balanced rank [registry r] (locks ops) := by
  cases h with
  | passes | extended | forwards => exact .nil
  | extend hrole hextend =>
      cases hextend with
      | fails => exact .nil
      | asks => exact balanced_writer rfl (by simp [rank])
  | exit k hrole hexit => exact hexit.balanced (by simp [rank])

/-- Every section of every task is in order. -/
theorem TaskSection.balanced {t : RelayTask ρ} {source : Option (RelayWay ρ)} {ops : Section ρ}
    (h : net.TaskSection t source ops) : LockOp.Balanced rank [] (locks ops) := by
  have hnone : ∀ {l : RelayLock ρ}, ∀ k ∈ ([] : List (RelayLock ρ)), rank k < rank l :=
    fun k hk => by cases hk
  have hregistry : ∀ r : ρ,
      LockOp.Balanced rank [] (locks (within (registry r) [] : Section ρ)) := by
    intro r
    rw [locks_within]
    exact .within hnone .nil
  have hanswer : ∀ (r : ρ) (c : Nat), LockOp.Balanced rank [] (locks (answer r c)) :=
    fun r c => balanced_writer rfl fun k hk => by cases hk
  cases h with
  | creates hcreate =>
      cases hcreate with
      | refuses => exact .nil
      | answers => exact hanswer _ _
  | adds r => exact hregistry r
  | @handles r c answers ops hhandler =>
      rw [locks_within, locks_append]
      refine .within hnone (hhandler.balanced.append ?_)
      cases answers with
      | false => exact .nil
      | true => exact balanced_writer rfl (by simp [rank])
  | decrypts => exact hregistry _
  | writes r c => exact hanswer r c
  | sends =>
      rw [locks_within]
      exact .within hnone (balanced_writer rfl (by simp [rank]))
  | beats r => exact hregistry r
  | shows r => exact hregistry r

end

/-! ## A circuit of three hops whose connections fill up -/

/-- A circuit over three relays: the connection over which it comes to each of them, and its number
there at the two that have a next hop. -/
structure ThreeHops (ρ : Type u) where
  entry : ρ
  middle : ρ
  exit : ρ
  first : Nat
  second : Nat
  third : Nat
  atEntry : Nat
  atMiddle : Nat

/-- The relays carry the circuit, and its first connection is a client's. -/
structure Carries (p : ThreeHops ρ) : Prop where
  entry : net.role p.entry = .entry
  middle : net.role p.middle = .middle
  exit : net.role p.exit = .exit
  toMiddle : net.next p.entry p.first p.atEntry = some (p.middle, p.second)
  toExit : net.next p.middle p.second p.atMiddle = some (p.exit, p.third)
  client : net.Outside (inbound p.entry p.first)

/-- Where the tasks stand, and how many cells there are on the ways of the circuit: none from the
client, and some to the middle, to the exit and back from it. -/
structure Stage (p : ThreeHops ρ) (todo : RelayTask ρ → Section ρ)
    (held : RelayTask ρ → List (RelayLock ρ)) (m a b : Nat)
    (s : ChannelState (RelayTask ρ) (RelayLock ρ) (RelayWay ρ)) : Prop where
  todo : s.todo = todo
  held : s.held = held
  client : s.load (inbound p.entry p.first) = 0
  middle : s.load (inbound p.middle p.second) = m
  exit : s.load (inbound p.exit p.third) = a
  back : s.load (outbound p.exit p.third) = b

section

variable {net} {p : ThreeHops ρ} {todo : RelayTask ρ → Section ρ}
  {held : RelayTask ρ → List (RelayLock ρ)} {K a b m : Nat} {room : ℕ∞}
  {s : ChannelState (RelayTask ρ) (RelayLock ρ) (RelayWay ρ)}

/-- The relays of a circuit are three. -/
theorem Carries.distinct (h : net.Carries p) :
    p.entry ≠ p.middle ∧ p.middle ≠ p.exit ∧ p.entry ≠ p.exit := by
  refine ⟨?_, ?_, ?_⟩ <;> intro heq
  · have hrole := h.entry
    rw [heq, h.middle] at hrole
    cases hrole
  · have hrole := h.middle
    rw [heq, h.exit] at hrole
    cases hrole
  · have hrole := h.entry
    rw [heq, h.exit] at hrole
    cases hrole

variable [DecidableEq ρ]

/-- The task of a stream sends a cell back. -/
theorem Carries.sends (h : net.Carries p) (hfits : (K : ℕ∞) ≤ room)
    (hs : Stage p todo held m a b s) (hroom : b < K)
    (hidle : todo (.stream p.exit 0 p.third 0) = [])
    (hheld : held (.stream p.exit 0 p.third 0) = [])
    (hfree : ∀ u, crypto p.exit 0 ∉ held u ∧ writer p.exit p.third ∉ held u) :
    ∃ es s', (net.channels room).system.Run s es s' ∧ Stage p todo held m a (b + 1) s' := by
  have hsection : net.TaskSection (.stream p.exit 0 p.third 0) none _ := .sends h.exit
  obtain ⟨rfl, rfl, hclient, rfl, rfl, rfl⟩ := hs
  obtain ⟨es, hrun⟩ := Channels.exists_run_write (M := net.channels room)
    (c := outbound p.exit p.third) hidle hheld hsection (by simp) hsection.balanced (by
      intro l hmem u
      have hlock : l = crypto p.exit 0 ∨ l = writer p.exit p.third := by
        simpa [answer, LockOp.within] using hmem
      rcases hlock with rfl | rfl
      · exact (hfree u).1
      · exact (hfree u).2)
    (by simp [within, answer, puts]) ((Nat.cast_le.mpr hroom).trans hfits)
  refine ⟨es, _, hrun, rfl, rfl, ?_, ?_, ?_, ?_⟩ <;> simp [ChannelState.readFrom, hclient]

/-- A cell comes from the client, and the entry writes it to the middle. -/
theorem Carries.brings (h : net.Carries p) (hfits : (K : ℕ∞) ≤ room)
    (hs : Stage p todo held m a b s) (hroom : m < K)
    (hidle : todo (.connection p.entry p.first) = [])
    (hheld : held (.connection p.entry p.first) = [])
    (hfree : ∀ u, registry p.entry ∉ held u) :
    ∃ es s', (net.channels room).system.Run s es s' ∧ Stage p todo held (m + 1) a b s' := by
  obtain ⟨hem, hme, hee⟩ := h.distinct
  have hhandler : net.HandlerSection p.entry p.first false _ :=
    .forwards (by rw [h.entry]; decide) h.toMiddle
  have hsection : net.TaskSection (.connection p.entry p.first) _ _ := .handles hhandler
  obtain ⟨rfl, rfl, hclient, rfl, rfl, rfl⟩ := hs
  have harrives : (net.channels room).Step s (.arrives (inbound p.entry p.first)) _ :=
    .arrives h.client (by
      rw [hclient]
      exact (Nat.cast_lt.mpr (Nat.zero_lt_of_lt hroom)).trans_le hfits)
  obtain ⟨es, hrun⟩ := Channels.exists_run_write (M := net.channels room)
    (s := { s with
      load := Function.update s.load (inbound p.entry p.first)
        (s.load (inbound p.entry p.first) + 1) })
    (c := inbound p.middle p.second) hidle hheld hsection (by simp) hsection.balanced (by
      intro l hmem u
      have hlock : l = registry p.entry := by simpa [LockOp.within] using hmem
      subst hlock
      exact hfree u)
    (by simp [within, puts]) ((Nat.cast_le.mpr (by
      simpa [ChannelState.readFrom, hem.symm] using hroom)).trans hfits)
  refine ⟨_, _, hrun.cons harrives, rfl, rfl, ?_, ?_, ?_, ?_⟩ <;>
    simp [ChannelState.readFrom, hclient, hem, hem.symm, hme.symm, hee.symm]

/-- A cell comes from the client to the exit. -/
theorem Carries.forwards (h : net.Carries p) (hfits : (K : ℕ∞) ≤ room)
    (hs : Stage p todo held 0 a b s) (hroom : a < K)
    (hidle : todo (.connection p.entry p.first) = [] ∧ todo (.connection p.middle p.second) = [])
    (hheld : held (.connection p.entry p.first) = [] ∧ held (.connection p.middle p.second) = [])
    (hfree : ∀ u, registry p.entry ∉ held u ∧ registry p.middle ∉ held u) :
    ∃ es s', (net.channels room).system.Run s es s' ∧ Stage p todo held 0 (a + 1) b s' := by
  obtain ⟨hem, hme, hee⟩ := h.distinct
  obtain ⟨es, s₁, hrun, rfl, rfl, hclient, hmiddle, rfl, rfl⟩ :=
    h.brings hfits hs (Nat.zero_lt_of_lt hroom) hidle.1 hheld.1 fun u => (hfree u).1
  have hhandler : net.HandlerSection p.middle p.second false _ :=
    .forwards (by rw [h.middle]; decide) h.toExit
  have hsection : net.TaskSection (.connection p.middle p.second) _ _ := .handles hhandler
  obtain ⟨es', hrun'⟩ := Channels.exists_run_write (M := net.channels room)
    (c := inbound p.exit p.third) hidle.2 hheld.2 hsection (by simp [hmiddle])
    hsection.balanced (by
      intro l hmem u
      have hlock : l = registry p.middle := by simpa [LockOp.within] using hmem
      subst hlock
      exact (hfree u).2)
    (by simp [within, puts]) ((Nat.cast_le.mpr (by
      simpa [ChannelState.readFrom, hme.symm] using hroom)).trans hfits)
  refine ⟨_, _, hrun.trans hrun', rfl, rfl, ?_, ?_, ?_, ?_⟩ <;>
    simp [ChannelState.readFrom, hclient, hmiddle, hem, hme, hme.symm, hee]

/-- The task of a stream fills the way back. -/
theorem Carries.fills_back (h : net.Carries p) (hfits : (K : ℕ∞) ≤ room)
    (hidle : todo (.stream p.exit 0 p.third 0) = [])
    (hheld : held (.stream p.exit 0 p.third 0) = [])
    (hfree : ∀ u, crypto p.exit 0 ∉ held u ∧ writer p.exit p.third ∉ held u)
    (hs : Stage p todo held m a b s) (hroom : b ≤ K) :
    ∃ es s', (net.channels room).system.Run s es s' ∧ Stage p todo held m a K s' := by
  induction hleft : K - b generalizing b s with
  | zero =>
      obtain rfl : b = K := by omega
      exact ⟨[], s, .nil s, hs⟩
  | succ left ih =>
      obtain ⟨es, s', hrun, hs'⟩ := h.sends hfits hs (by omega) hidle hheld hfree
      obtain ⟨es', s'', hrun', hs''⟩ := ih hs' (by omega) (by omega)
      exact ⟨_, s'', hrun.trans hrun', hs''⟩

/-- The client fills the way to the exit. -/
theorem Carries.fills_exit (h : net.Carries p) (hfits : (K : ℕ∞) ≤ room)
    (hidle : todo (.connection p.entry p.first) = [] ∧ todo (.connection p.middle p.second) = [])
    (hheld : held (.connection p.entry p.first) = [] ∧ held (.connection p.middle p.second) = [])
    (hfree : ∀ u, registry p.entry ∉ held u ∧ registry p.middle ∉ held u)
    (hs : Stage p todo held 0 a b s) (hroom : a ≤ K) :
    ∃ es s', (net.channels room).system.Run s es s' ∧ Stage p todo held 0 K b s' := by
  induction hleft : K - a generalizing a s with
  | zero =>
      obtain rfl : a = K := by omega
      exact ⟨[], s, .nil s, hs⟩
  | succ left ih =>
      obtain ⟨es, s', hrun, hs'⟩ := h.forwards hfits hs (by omega) hidle hheld hfree
      obtain ⟨es', s'', hrun', hs''⟩ := ih hs' (by omega) (by omega)
      exact ⟨_, s'', hrun.trans hrun', hs''⟩

/-- A task begins a section and takes locks, until it is to do the rest. -/
theorem Stage.enters (hs : Stage p todo held m a b s) (room : ℕ∞) (m' a' b' : Nat) {t : RelayTask ρ}
    {source : Option (RelayWay ρ)} {ops rest : Section ρ}
    (hsection : net.TaskSection t source (ops ++ rest)) (hidle : todo t = []) (hheld : held t = [])
    (hsource : ∀ w, source = some w → 0 < s.load w)
    (hfree : ∀ l, .take l ∈ locks ops → ∀ u, l ∉ held u) (hputs : ∀ w, puts w ops = 0)
    (hclient : ChannelState.readFrom s.load source (inbound p.entry p.first) = 0)
    (hmiddle : ChannelState.readFrom s.load source (inbound p.middle p.second) = m')
    (hexit : ChannelState.readFrom s.load source (inbound p.exit p.third) = a')
    (hback : ChannelState.readFrom s.load source (outbound p.exit p.third) = b') :
    ∃ es s', (net.channels room).system.Run s es s' ∧
      Stage p (Function.update todo t rest)
        (Function.update held t (LockOp.after [] (locks ops))) m' a' b' s' := by
  have hinOrder := hsection.balanced.inOrder
  rw [locks_append, LockOp.inOrder_append] at hinOrder
  obtain ⟨rfl, rfl, -⟩ := hs
  obtain ⟨es, hrun⟩ := Channels.exists_run_enter (M := net.channels room) hidle hheld hsection
    hsource hinOrder.1 hfree fun w hmore => absurd (hputs w) hmore
  refine ⟨es, _, hrun, rfl, rfl, ?_, ?_, ?_, ?_⟩ <;> simpa [hputs]

/-- The reader of the middle is to decrypt a cell. -/
def decrypting (p : ThreeHops ρ) : RelayTask ρ → Section ρ :=
  Function.update (fun _ => []) (.reader p.middle p.second p.atMiddle)
    (within (registry p.middle) [])

/-- The exit's loop is to decrypt one, too, and holds the registry. -/
def queueing (p : ThreeHops ρ) : RelayTask ρ → Section ρ :=
  Function.update (decrypting p) (.connection p.exit p.third)
    (within (crypto p.exit 0) [] ++ [.lock (.give (registry p.exit))])

/-- The lock that the exit's loop holds then. -/
def queueingHeld (p : ThreeHops ρ) : RelayTask ρ → List (RelayLock ρ) :=
  Function.update (fun _ => []) (.connection p.exit p.third) [registry p.exit]

/-- The task of a stream is to write a cell back, and the loop of the middle to write one to the
exit. -/
def waiting (p : ThreeHops ρ) : RelayTask ρ → Section ρ :=
  Function.update (Function.update (queueing p)
    (.stream p.exit 0 p.third 0) (.put (outbound p.exit p.third) ::
      [.lock (.give (writer p.exit p.third)), .lock (.give (crypto p.exit 0))]))
    (.connection p.middle p.second) (.put (inbound p.exit p.third) ::
      [.lock (.give (registry p.middle))])

/-- The locks that the three hold then. -/
def waitingHeld (p : ThreeHops ρ) : RelayTask ρ → List (RelayLock ρ) :=
  Function.update (Function.update (queueingHeld p)
    (.stream p.exit 0 p.third 0) [writer p.exit p.third, crypto p.exit 0])
    (.connection p.middle p.second) [registry p.middle]

/-- The loop of the exit holds no lock of the other two relays. -/
theorem Carries.free_queueingHeld (h : net.Carries p) (u : RelayTask ρ) :
    registry p.entry ∉ queueingHeld p u ∧ registry p.middle ∉ queueingHeld p u := by
  obtain ⟨-, hme, hee⟩ := h.distinct
  rw [queueingHeld, Function.update_apply]
  split <;> simp [hme, hee]

/-- A state is reached in which both ways between the middle and the exit have a number of cells
and the reader of the middle is to decrypt one more. -/
theorem Carries.reaches_full (h : net.Carries p) (hfits : (K : ℕ∞) ≤ room) (hroom : K ≠ 0) :
    ∃ s, (net.channels room).system.Reachable s ∧
      Stage p (decrypting p) (fun _ => []) 0 K K s := by
  have hstart : Stage p (fun _ => []) (fun _ => []) 0 0 0 ChannelState.start :=
    ⟨rfl, rfl, rfl, rfl, rfl, rfl⟩
  -- the way back is full, and the reader of the middle takes one cell and is to decrypt it
  obtain ⟨es₁, s₁, hrun₁, h₁⟩ := h.fills_back hfits rfl rfl (by simp) hstart (Nat.zero_le _)
  have hdecrypts : net.TaskSection (.reader p.middle p.second p.atMiddle) _
      ([] ++ within (registry p.middle) []) := .decrypts h.toExit
  obtain ⟨es₂, s₂, hrun₂, h₂⟩ := h₁.enters room 0 0 (K - 1) hdecrypts rfl rfl
    (by simp [h₁.back]; omega) (by simp) (fun _ => rfl)
    (by simp [ChannelState.readFrom, h₁.client]) (by simp [ChannelState.readFrom, h₁.middle])
    (by simp [ChannelState.readFrom, h₁.exit]) (by simp [ChannelState.readFrom, h₁.back])
  have hnone : Function.update (fun _ : RelayTask ρ => ([] : List (RelayLock ρ)))
      (.reader p.middle p.second p.atMiddle) [] = fun _ => [] := Function.update_eq_self ..
  rw [show LockOp.after [] (locks ([] : Section ρ)) = [] from rfl, hnone] at h₂
  -- it is filled up again, and so is the way to the exit
  obtain ⟨es₃, s₃, hrun₃, h₃⟩ := h.fills_back hfits (by simp) rfl (by simp) h₂ (by omega)
  obtain ⟨es₄, s₄, hrun₄, h₄⟩ :=
    h.fills_exit hfits (by simp) ⟨rfl, rfl⟩ (by simp) h₃ (by omega)
  exact ⟨s₄, ⟨_, _, rfl, ((hrun₁.trans hrun₂).trans hrun₃).trans hrun₄⟩, h₄⟩

/-- A state is reached in which the loop of the exit is to decrypt a cell, too, and another one has
come to the middle. -/
theorem Carries.reaches_queueing (h : net.Carries p) (hfits : (K : ℕ∞) ≤ room) (hroom : K ≠ 0) :
    ∃ s, (net.channels room).system.Reachable s ∧
      Stage p (queueing p) (queueingHeld p) 1 K K s := by
  obtain ⟨-, hme, hee⟩ := h.distinct
  obtain ⟨s₁, ⟨s₀, es₁, hstart, hrun₁⟩, h₁⟩ := h.reaches_full hfits hroom
  have hqueues : net.TaskSection (.connection p.exit p.third) _
      ([.lock (.take (registry p.exit))] ++
        (within (crypto p.exit 0) [] ++ [.lock (.give (registry p.exit))])) :=
    .handles (.exit 0 h.exit .decrypts)
  obtain ⟨es₂, s₂, hrun₂, h₂⟩ := h₁.enters room 0 (K - 1) K hqueues (by simp [decrypting]) rfl
    (by simp [h₁.exit]; omega) (by simp) (fun _ => rfl)
    (by simp [ChannelState.readFrom, h₁.client, hee])
    (by simp [ChannelState.readFrom, h₁.middle, hme])
    (by simp [ChannelState.readFrom, h₁.exit]) (by simp [ChannelState.readFrom, h₁.back])
  -- the way to the exit is filled up again
  obtain ⟨es₃, s₃, hrun₃, h₃⟩ := h.fills_exit hfits (by simp [decrypting, hme, hee])
    (by simp [queueingHeld, hme, hee]) h.free_queueingHeld h₂ (by omega)
  obtain ⟨es₄, s₄, hrun₄, h₄⟩ := h.brings hfits h₃ (by omega) (by simp [decrypting, hee])
    (by simp [queueingHeld, hee]) fun u => (h.free_queueingHeld u).1
  exact ⟨s₄, ⟨s₀, _, hstart, ((hrun₁.trans hrun₂).trans hrun₃).trans hrun₄⟩, h₄⟩

/-- A state is reached in which each of the four tasks is to do what the next one is in the way of,
when the ways are full. -/
theorem Carries.reaches_waiting (h : net.Carries p) (hfits : (K : ℕ∞) ≤ room) (hroom : K ≠ 0) :
    ∃ s, (net.channels room).system.Reachable s ∧
      Stage p (waiting p) (waitingHeld p) 0 K K s := by
  obtain ⟨hem, hme, -⟩ := h.distinct
  obtain ⟨s₁, ⟨s₀, es₁, hstart, hrun₁⟩, h₁⟩ := h.reaches_queueing hfits hroom
  -- the task of the stream takes the crypto state and the writer
  have hsends : net.TaskSection (.stream p.exit 0 p.third 0) _
      ([.lock (.take (crypto p.exit 0)), .lock (.take (writer p.exit p.third))] ++
        (.put (outbound p.exit p.third) ::
          [.lock (.give (writer p.exit p.third)), .lock (.give (crypto p.exit 0))])) :=
    .sends h.exit
  obtain ⟨es₂, s₂, hrun₂, h₂⟩ := h₁.enters room 1 K K hsends (by simp [queueing, decrypting])
    (by simp [queueingHeld]) (by simp)
    (by
      intro l hmem u
      have hlock : l = crypto p.exit 0 ∨ l = writer p.exit p.third := by simpa using hmem
      rw [queueingHeld, Function.update_apply]
      rcases hlock with rfl | rfl <;> split <;> simp)
    (fun _ => rfl) h₁.client h₁.middle h₁.exit h₁.back
  -- the loop of the middle takes the cell and the registry
  have hforwards : net.TaskSection (.connection p.middle p.second) _
      ([.lock (.take (registry p.middle))] ++
        (.put (inbound p.exit p.third) :: [.lock (.give (registry p.middle))])) :=
    .handles (.forwards (by rw [h.middle]; decide) h.toExit)
  obtain ⟨es₃, s₃, hrun₃, h₃⟩ := h₂.enters room 0 K K hforwards
    (by simp [queueing, decrypting, hme]) (by simp [queueingHeld, hme]) (by simp [h₂.middle])
    (by
      intro l hmem u
      have hlock : l = registry p.middle := by simpa using hmem
      subst hlock
      rw [Function.update_apply]
      split
      · simp [LockOp.after, LockOp.apply]
      · exact (h.free_queueingHeld u).2)
    (fun _ => rfl)
    (by simp [ChannelState.readFrom, h₂.client, hem]) (by simp [ChannelState.readFrom, h₂.middle])
    (by simp [ChannelState.readFrom, h₂.exit, hme.symm])
    (by simp [ChannelState.readFrom, h₂.back])
  exact ⟨s₃, ⟨s₀, _, hstart, (hrun₁.trans hrun₂).trans hrun₃⟩, h₃⟩

/-- The four tasks wait for each other in a circle. -/
theorem Carries.circle (h : net.Carries p) (hs : Stage p (waiting p) (waitingHeld p) 0 K K s) :
    Relation.TransGen ((net.channels K).WaitsFor s) (.connection p.middle p.second)
      (.connection p.middle p.second) := by
  obtain ⟨-, hme, -⟩ := h.distinct
  have hloop : (net.channels K).WaitsFor s (.connection p.middle p.second)
      (.connection p.exit p.third) := by
    refine Or.inr ⟨inbound p.exit p.third, [.lock (.give (registry p.middle))], ?_,
      Nat.cast_le.mpr hs.exit.ge, .forth _ _⟩
    rw [hs.todo]
    exact Function.update_self ..
  have hexit : (net.channels K).WaitsFor s (.connection p.exit p.third)
      (.stream p.exit 0 p.third 0) := by
    refine Or.inl ⟨crypto p.exit 0, [.lock (.give (crypto p.exit 0)),
      .lock (.give (registry p.exit))], ?_, ?_⟩
    · simp [hs.todo, waiting, queueing, within, hme.symm]
    · simp [hs.held, waitingHeld]
  have hstream : (net.channels K).WaitsFor s (.stream p.exit 0 p.third 0)
      (.reader p.middle p.second p.atMiddle) := by
    refine Or.inr ⟨outbound p.exit p.third, [.lock (.give (writer p.exit p.third)),
      .lock (.give (crypto p.exit 0))], ?_, Nat.cast_le.mpr hs.back.ge, .back h.toExit⟩
    simp [hs.todo, waiting]
  have hreader : (net.channels K).WaitsFor s (.reader p.middle p.second p.atMiddle)
      (.connection p.middle p.second) := by
    refine Or.inl ⟨registry p.middle, [.lock (.give (registry p.middle))], ?_, ?_⟩
    · simp [hs.todo, waiting, queueing, decrypting, within]
    · simp [hs.held, waitingHeld]
  exact (((Relation.TransGen.single hloop).tail hexit).tail hstream).tail hreader

end

/-! ## The result -/

/-- An entry, a middle and an exit with one circuit. -/
def sampleRelays : Relays NodeType where
  role := id
  next
    | .entry, 0, 0 => some (.middle, 0)
    | .middle, 0, 0 => some (.exit, 0)
    | _, _, _ => none
  alone := by
    intro r r' c c' n n' hop h h'
    split at h <;> split at h' <;> cases h <;> cases h' <;> exact ⟨rfl, rfl, rfl⟩

/-- Its circuit. -/
def sampleHops : ThreeHops NodeType := ⟨.entry, .middle, .exit, 0, 0, 0, 0, 0⟩

theorem sampleRelays_carries : sampleRelays.Carries sampleHops := by
  refine ⟨rfl, rfl, rfl, rfl, rfl, ?_⟩
  intro q d n hnext
  simp only [sampleRelays] at hnext
  split at hnext <;> cases hnext

end Relays

end NoPanic
