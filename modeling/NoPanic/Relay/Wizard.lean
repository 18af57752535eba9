/-
# The setup wizard of a relay

A relay that is started without a type asks for it. The wizard shows the configuration of the
command line as text fields, takes keys, and builds a configuration from the fields when it is
confirmed.

The numbers survive the way through text. What survives besides is what has a field: the
address to listen on has none, and the flag that lifts the exit policy is taken over only
from a configuration that names the exit type, which one that reaches the wizard does not.
-/

import NoPanic.Math.Numeral
import NoPanic.Math.TransitionSystem
import NoPanic.Relay.Config

namespace NoPanic

open NoPanic.Math

/-- How the standard library reads IP addresses. -/
class IpText where
  /-- `str::parse::<IpAddr>`. -/
  parse : String → Option IpAddr

/-- The fields of the wizard. -/
inductive Field
  | nodeType
  | port
  | host
  | directoryUrl
  | bandwidth
  | heartbeat
  | exitAllowAll
  | operatorId
  deriving DecidableEq, Repr

/-- A field that is typed. -/
def Field.isText : Field → Bool
  | .nodeType | .exitAllowAll => false
  | _ => true

/-- The types of a relay, in the order the wizard shows them. -/
def nodeTypes : List NodeType := [.entry, .middle, .exit]

/-- The keys that the wizard reads. Tab and its reverse are down and up, and Escape ends the
program. -/
inductive Key
  | up
  | down
  | left
  | right
  | backspace
  | char (c : Char)
  | enter
  deriving DecidableEq, Repr

/-- The state of the wizard. -/
structure WizardState where
  focused : Nat
  nodeTypeIdx : Nat
  port : String
  host : String
  directoryUrl : String
  bandwidth : String
  heartbeat : String
  exitAllowAll : Bool
  operatorId : String
  error : Option String
  deriving DecidableEq, Repr

namespace WizardState

/-- The wizard at its start. -/
def new (defaults : RelayConfig) : WizardState where
  focused := 0
  nodeTypeIdx :=
    match defaults.nodeType with
    | none => 0
    | some .entry => 0
    | some .middle => 1
    | some .exit => 2
  port := decimal defaults.port.toNat
  host := defaults.host
  directoryUrl := defaults.directoryUrl
  bandwidth := decimal defaults.bandwidth.toNat
  heartbeat := decimal defaults.heartbeatInterval.toNat
  exitAllowAll := defaults.nodeType == some .exit && defaults.exitAllowAll
  operatorId := defaults.operatorId.getD ""
  error := none

/-- The fields that are shown: the exit flag only for an exit. -/
def activeFields (state : WizardState) : List Field :=
  let fields : List Field :=
    [.nodeType, .port, .host, .directoryUrl, .bandwidth, .heartbeat, .operatorId]
  if state.nodeTypeIdx = 2 then fields.insertIdx 6 .exitAllowAll else fields

/-- The field that has the focus. -/
def current (state : WizardState) : Option Field := state.activeFields[state.focused]?

/-- The focus goes up. -/
def up (state : WizardState) : WizardState :=
  if state.focused > 0 then { state with focused := state.focused - 1 } else state

/-- The focus goes down. -/
def down (state : WizardState) : WizardState :=
  if state.focused < state.activeFields.length - 1 then
    { state with focused := state.focused + 1 }
  else state

/-- The value of a choice goes left. -/
def left (state : WizardState) : WizardState :=
  match state.current with
  | some .nodeType =>
      if state.nodeTypeIdx > 0 then { state with nodeTypeIdx := state.nodeTypeIdx - 1 } else state
  | some .exitAllowAll => { state with exitAllowAll := false }
  | _ => state

/-- The value of a choice goes right. -/
def right (state : WizardState) : WizardState :=
  match state.current with
  | some .nodeType =>
      if state.nodeTypeIdx < nodeTypes.length - 1 then
        { state with nodeTypeIdx := state.nodeTypeIdx + 1 }
      else state
  | some .exitAllowAll => { state with exitAllowAll := true }
  | _ => state

/-- Change the text of a field. -/
def modifyText (state : WizardState) (f : String → String) : Field → WizardState
  | .port => { state with port := f state.port }
  | .host => { state with host := f state.host }
  | .directoryUrl => { state with directoryUrl := f state.directoryUrl }
  | .bandwidth => { state with bandwidth := f state.bandwidth }
  | .heartbeat => { state with heartbeat := f state.heartbeat }
  | .operatorId => { state with operatorId := f state.operatorId }
  | .nodeType | .exitAllowAll => state

/-- Change the text of the field that has the focus, and forget the error. -/
def editText (state : WizardState) (f : String → String) : WizardState :=
  match state.current with
  | some field =>
      if field.isText then { state.modifyText f field with error := none } else state
  | none => state

/-- Type a character. -/
def pushChar (state : WizardState) (c : Char) : WizardState := state.editText fun s => s.push c

/-- Delete the last character. -/
def popChar (state : WizardState) : WizardState :=
  state.editText fun s => String.ofList s.toList.dropLast

/-- Show an error. -/
def fail (state : WizardState) (text : String) : WizardState × Option RelayConfig :=
  ({ state with error := some text }, none)

/-- An address of the directory is one of HTTP. -/
def isHttpUrl (url : String) : Bool :=
  "http://".toList.isPrefixOf url.toList || "https://".toList.isPrefixOf url.toList

/-- Build the configuration from the fields, or show what is wrong with them. -/
def validate [IpText] (state : WizardState) : WizardState × Option RelayConfig :=
  match nodeTypes[state.nodeTypeIdx]? with
  | none => state.fail "Node type is required"
  | some nodeType =>
      match (parseDecimal (2 ^ 16) state.port).toOption.filter fun p => p ≥ 1 with
      | none => state.fail "Port must be 1–65535"
      | some port =>
          if (IpText.parse state.host).isNone then state.fail "Host must be a valid IP address"
          else if !isHttpUrl state.directoryUrl then
            state.fail "Directory URL must start with http:// or https://"
          else
            match (parseDecimal (2 ^ 64) state.bandwidth).toOption.filter fun b => b > 0 with
            | none => state.fail "Bandwidth must be > 0"
            | some bandwidth =>
                match (parseDecimal (2 ^ 64) state.heartbeat).toOption.filter fun h => h > 0 with
                | none => state.fail "Heartbeat must be > 0"
                | some heartbeatInterval =>
                    ({ state with error := none },
                      some {
                        nodeType := some nodeType
                        port := UInt16.ofNat port
                        host := state.host
                        directoryUrl := state.directoryUrl
                        bandwidth := UInt64.ofNat bandwidth
                        heartbeatInterval := UInt64.ofNat heartbeatInterval
                        exitAllowAll := state.exitAllowAll
                        tui := true
                        bindHost := "0.0.0.0"
                        operatorId :=
                          if state.operatorId = "" then none else some state.operatorId })

section

variable [IpText]

/-- What a key does: the wizard goes on, or ends with a configuration. -/
def press (state : WizardState) : Key → WizardState × Option RelayConfig
  | .up => (state.up, none)
  | .down => (state.down, none)
  | .left => (state.left, none)
  | .right => (state.right, none)
  | .backspace => (state.popChar, none)
  | .char c => (state.pushChar c, none)
  | .enter => state.validate

/-- The wizard, key after key. -/
def wizard : TransitionSystem WizardState Key where
  init state := ∃ defaults, state = new defaults
  step state key next := next = (state.press key).1

end

/-- A key that takes part in selecting the type: the focus moves, or the choice of the type
does. -/
def Selects (state : WizardState) : Key → Prop
  | .up | .down => True
  | .left | .right => state.current = some .nodeType
  | .backspace | .char _ | .enter => False

/-! ## What is taken over -/

/-- The configuration of the command line, as far as the wizard has fields for it. -/
structure Accepted [IpText] (d : RelayConfig) : Prop where
  port : 1 ≤ d.port.toNat
  host : (IpText.parse d.host).isNone = false
  directoryUrl : isHttpUrl d.directoryUrl = true
  bandwidth : 0 < d.bandwidth.toNat
  heartbeat : 0 < d.heartbeatInterval.toNat

/-- A number in a text field is read back, if it is not too small. -/
theorem filter_parseDecimal {n bound : Nat} (hfits : n < bound) (p : Nat → Bool) :
    (parseDecimal bound (decimal n)).toOption.filter p = if p n then some n else none := by
  rw [parseDecimal_decimal hfits]
  rfl

/-- A key that takes part in selecting the type moves the focus or the choice of the type,
and does not end the wizard. -/
theorem press_of_selects [IpText] {state : WizardState} {key : Key}
    (hselects : state.Selects key) :
    ∃ focused idx, state.press key = ({ state with focused, nodeTypeIdx := idx }, none) := by
  cases key with
  | up =>
      rw [press, up]
      split
      · exact ⟨_, _, rfl⟩
      · exact ⟨_, _, rfl⟩
  | down =>
      rw [press, down]
      split
      · exact ⟨_, _, rfl⟩
      · exact ⟨_, _, rfl⟩
  | left =>
      have hcurrent : state.current = some .nodeType := hselects
      simp only [press, left, hcurrent]
      split
      · exact ⟨_, _, rfl⟩
      · exact ⟨_, _, rfl⟩
  | right =>
      have hcurrent : state.current = some .nodeType := hselects
      simp only [press, right, hcurrent]
      split
      · exact ⟨_, _, rfl⟩
      · exact ⟨_, _, rfl⟩
  | backspace | char | enter => exact hselects.elim

/-- While a type is selected, nothing else changes. -/
theorem selects_keeps [IpText] {d : RelayConfig} {keys : List Key} {t : WizardState}
    (hrun : (wizard.restrict Selects).Run (new d) keys t) :
    t = { new d with focused := t.focused, nodeTypeIdx := t.nodeTypeIdx } := by
  apply hrun.invariant fun t =>
    t = { new d with focused := t.focused, nodeTypeIdx := t.nodeTypeIdx }
  · rfl
  · rintro s key u hs ⟨hselects, hstep⟩
    obtain ⟨focused, idx, hpress⟩ := press_of_selects hselects
    have hnext : u = (s.press key).1 := hstep
    rw [hnext, hpress, hs]

/-- The configuration that the wizard builds when only the type has been selected. -/
theorem validate_of_accepted [IpText] {d : RelayConfig} (haccepted : Accepted d)
    {state : WizardState} {nodeType : NodeType} {focused idx : Nat}
    (hstate : state = { new d with focused, nodeTypeIdx := idx })
    (htype : nodeTypes[idx]? = some nodeType) :
    state.validate.2 = some {
      d with
      nodeType := some nodeType
      exitAllowAll := d.nodeType == some .exit && d.exitAllowAll
      tui := true
      bindHost := "0.0.0.0"
      operatorId := d.operatorId.filter fun id => id ≠ "" } := by
  have hport : (parseDecimal (2 ^ 16) (decimal d.port.toNat)).toOption.filter (fun p => p ≥ 1) =
      some d.port.toNat := by
    rw [filter_parseDecimal d.port.toNat_lt, if_pos (by simpa using haccepted.port)]
  have hbandwidth : (parseDecimal (2 ^ 64) (decimal d.bandwidth.toNat)).toOption.filter
      (fun b => b > 0) = some d.bandwidth.toNat := by
    rw [filter_parseDecimal d.bandwidth.toNat_lt, if_pos (by simpa using haccepted.bandwidth)]
  have hheartbeat : (parseDecimal (2 ^ 64) (decimal d.heartbeatInterval.toNat)).toOption.filter
      (fun h => h > 0) = some d.heartbeatInterval.toNat := by
    rw [filter_parseDecimal d.heartbeatInterval.toNat_lt,
      if_pos (by simpa using haccepted.heartbeat)]
  have hoperator : (if d.operatorId.getD "" = "" then none else some (d.operatorId.getD "")) =
      d.operatorId.filter fun id => id ≠ "" := by
    cases d.operatorId with
    | none => rfl
    | some id => by_cases hempty : id = "" <;> simp [hempty, Option.filter]
  subst hstate
  rw [← hoperator]
  simp only [validate, new, htype, hport, haccepted.host, haccepted.directoryUrl, hbandwidth,
    hheartbeat, Bool.not_true, Bool.false_eq_true, if_false, UInt16.ofNat_toNat,
    UInt64.ofNat_toNat]
  rfl

/-- The wizard starts with a type. -/
theorem exists_nodeType_new (d : RelayConfig) :
    ∃ nodeType, nodeTypes[(new d).nodeTypeIdx]? = some nodeType := by
  rw [new]
  cases d.nodeType with
  | none => exact ⟨_, rfl⟩
  | some nodeType => cases nodeType <;> exact ⟨_, rfl⟩

/-- The wizard takes a configuration that is acceptable. -/
theorem isSome_of_accepted [IpText] {d : RelayConfig} (haccepted : Accepted d) :
    (new d).validate.2.isSome = true := by
  obtain ⟨nodeType, htype⟩ := exists_nodeType_new d
  rw [validate_of_accepted haccepted rfl htype]
  rfl

/-- What holds of the fields when a configuration is built, and what the configuration is. -/
theorem validate_cases [IpText] {state : WizardState} {config : RelayConfig}
    (hbuilt : state.validate.2 = some config) :
    ∃ nodeType port bandwidth heartbeatInterval,
      nodeTypes[state.nodeTypeIdx]? = some nodeType ∧
        (parseDecimal (2 ^ 16) state.port).toOption.filter (fun p => p ≥ 1) = some port ∧
        (IpText.parse state.host).isNone = false ∧
        isHttpUrl state.directoryUrl = true ∧
        (parseDecimal (2 ^ 64) state.bandwidth).toOption.filter (fun b => b > 0) =
          some bandwidth ∧
        (parseDecimal (2 ^ 64) state.heartbeat).toOption.filter (fun h => h > 0) =
          some heartbeatInterval ∧
        config = {
          nodeType := some nodeType
          port := UInt16.ofNat port
          host := state.host
          directoryUrl := state.directoryUrl
          bandwidth := UInt64.ofNat bandwidth
          heartbeatInterval := UInt64.ofNat heartbeatInterval
          exitAllowAll := state.exitAllowAll
          tui := true
          bindHost := "0.0.0.0"
          operatorId := if state.operatorId = "" then none else some state.operatorId } := by
  rw [validate] at hbuilt
  split at hbuilt
  · cases hbuilt
  · next nodeType htype =>
    split at hbuilt
    · cases hbuilt
    · next port hport =>
      split at hbuilt
      · cases hbuilt
      · next hhost =>
        split at hbuilt
        · cases hbuilt
        · next hurl =>
          split at hbuilt
          · cases hbuilt
          · next bandwidth hbandwidth =>
            split at hbuilt
            · cases hbuilt
            · next heartbeatInterval hheartbeat =>
              exact ⟨nodeType, port, bandwidth, heartbeatInterval, htype, hport,
                Bool.eq_false_of_not_eq_true hhost, by simpa using hurl, hbandwidth, hheartbeat,
                (Option.some.inj hbuilt).symm⟩

/-- The wizard takes no other configuration. -/
theorem accepted_of_isSome [IpText] {d : RelayConfig}
    (haccepts : (new d).validate.2.isSome = true) : Accepted d := by
  have hbound : ∀ {n bound m : Nat} {p : Nat → Bool}, n < bound →
      (parseDecimal bound (decimal n)).toOption.filter p = some m → p n = true := by
    intro n bound m p hfits hread
    rw [filter_parseDecimal hfits] at hread
    by_contra hp
    simp [hp] at hread
  obtain ⟨config, hbuilt⟩ := Option.isSome_iff_exists.mp haccepts
  obtain ⟨_, _, _, _, -, hport, hhost, hurl, hbandwidth, hheartbeat, -⟩ := validate_cases hbuilt
  exact {
    port := by simpa using hbound d.port.toNat_lt hport
    host := hhost
    directoryUrl := hurl
    bandwidth := by simpa using hbound d.bandwidth.toNat_lt hbandwidth
    heartbeat := by simpa using hbound d.heartbeatInterval.toNat_lt hheartbeat }

/-- A configuration whose fields the wizard accepts comes back with the selected type and
otherwise unchanged exactly when it listens everywhere, allows everything at an exit that it
names itself at most, and has no empty operator. -/
theorem enter_keeps_iff [IpText] {d : RelayConfig} {keys : List Key} {state : WizardState}
    {nodeType : NodeType} (haccepts : (new d).validate.2.isSome = true)
    (hrun : (wizard.restrict Selects).Run (new d) keys state)
    (htype : nodeTypes[state.nodeTypeIdx]? = some nodeType) :
    (state.press .enter).2 = some { d with nodeType := some nodeType, tui := true } ↔
      d.bindHost = "0.0.0.0" ∧ (d.exitAllowAll = true → d.nodeType = some .exit) ∧
        d.operatorId ≠ some "" := by
  have hbuilt := validate_of_accepted (accepted_of_isSome haccepts) (selects_keeps hrun) htype
  have hexit : (d.nodeType == some NodeType.exit && d.exitAllowAll) = d.exitAllowAll ↔
      (d.exitAllowAll = true → d.nodeType = some .exit) := by
    cases d.exitAllowAll <;> simp
  have hoperator : (d.operatorId.filter fun id => id ≠ "") = d.operatorId ↔
      d.operatorId ≠ some "" := by
    cases d.operatorId with
    | none => simp
    | some id => by_cases hempty : id = "" <;> simp [hempty, Option.filter]
  rw [press, hbuilt]
  simp only [Option.some.injEq, RelayConfig.mk.injEq, true_and, hexit, hoperator]
  constructor
  · rintro ⟨hbind, hflag, hid⟩
    exact ⟨hbind.symm, hflag, hid⟩
  · rintro ⟨hbind, hflag, hid⟩
    exact ⟨hbind.symm, hflag, hid⟩

/-- The flag that lifts the exit policy is not taken over from the command line: the wizard
runs only when that names no type. -/
theorem press_enter_exitAllowAll [IpText] {d c : RelayConfig} {keys : List Key}
    {state : WizardState} (hd : d.nodeType = none)
    (hrun : (wizard.restrict Selects).Run (new d) keys state)
    (hbuilt : (state.press .enter).2 = some c) : c.exitAllowAll = false := by
  have hstate : state.exitAllowAll = false := by
    rw [selects_keeps hrun, new, hd]
    rfl
  have hvalidate : state.validate.2 = some c := hbuilt
  obtain ⟨_, _, _, _, -, -, -, -, -, -, hc⟩ := validate_cases hvalidate
  rw [hc]
  exact hstate

/-! ## Every type can be selected -/

/-- At the start the focus is on the type. -/
theorem current_of_focused {state : WizardState} (hfocused : state.focused = 0) :
    state.current = some .nodeType := by
  rw [current, activeFields, hfocused]
  split <;> rfl

section

variable [IpText]

/-- The choice of the type goes to the first. -/
theorem exists_run_left {state : WizardState} (hfocused : state.focused = 0) {idx : Nat}
    (hidx : state.nodeTypeIdx = idx) :
    ∃ keys, (wizard.restrict Selects).Run state keys { state with nodeTypeIdx := 0 } := by
  induction idx generalizing state with
  | zero => exact ⟨[], by rw [← hidx]; exact .nil state⟩
  | succ idx ih =>
      obtain ⟨keys, hrun⟩ := @ih { state with nodeTypeIdx := idx } hfocused rfl
      have hselects : state.Selects .left := current_of_focused hfocused
      have hleft : (state.press .left).1 = { state with nodeTypeIdx := idx } := by
        simp only [press, left, current_of_focused hfocused, hidx, Nat.add_one_sub_one]
        rfl
      exact ⟨_, .cons ⟨hselects, hleft.symm⟩ hrun⟩

/-- From the first the choice goes to any other. -/
theorem exists_run_right {state : WizardState} (hfocused : state.focused = 0)
    (hidx : state.nodeTypeIdx = 0) {idx : Nat} (hgoal : idx ≤ 2) :
    ∃ keys, (wizard.restrict Selects).Run state keys { state with nodeTypeIdx := idx } := by
  induction idx with
  | zero => exact ⟨[], by rw [← hidx]; exact .nil state⟩
  | succ idx ih =>
      obtain ⟨keys, hrun⟩ := ih (by omega)
      have hcurrent : ({ state with nodeTypeIdx := idx } : WizardState).current =
          some .nodeType := current_of_focused hfocused
      have hselects : ({ state with nodeTypeIdx := idx } : WizardState).Selects .right := hcurrent
      have hright : (({ state with nodeTypeIdx := idx } : WizardState).press .right).1 =
          { state with nodeTypeIdx := idx + 1 } := by
        have hless : idx < nodeTypes.length - 1 := by
          simp only [nodeTypes, List.length_cons, List.length_nil]
          omega
        simp only [press, right, hcurrent, hless, if_true]
      exact ⟨_, hrun.snoc ⟨hselects, hright.symm⟩⟩

/-- Every type can be selected. -/
theorem exists_selects (d : RelayConfig) (nodeType : NodeType) :
    ∃ keys state, (wizard.restrict Selects).Run (new d) keys state ∧
      nodeTypes[state.nodeTypeIdx]? = some nodeType := by
  obtain ⟨idx, hgoal, htype⟩ : ∃ idx ≤ 2, nodeTypes[idx]? = some nodeType := by
    cases nodeType with
    | entry => exact ⟨0, by decide, rfl⟩
    | middle => exact ⟨1, by decide, rfl⟩
    | exit => exact ⟨2, by decide, rfl⟩
  obtain ⟨keys, hfirst⟩ := @exists_run_left _ (new d) rfl _ rfl
  obtain ⟨keys', hsecond⟩ := @exists_run_right _ { new d with nodeTypeIdx := 0 } rfl rfl _ hgoal
  exact ⟨_, _, hfirst.trans hsecond, htype⟩

end

namespace Loopback

/-- A reader of addresses that knows the loopback address. -/
scoped instance ipText : IpText where
  parse s := if s = "127.0.0.1" then some (IpAddr.ofOctets 127 0 0 1) else none

end Loopback

section

open Loopback

/-- The default configuration of the interactive setup. -/
def interactive : RelayConfig := { tui := true }

/-- The fields of the default configuration are accepted. -/
theorem accepted_interactive : Accepted interactive :=
  ⟨by decide, by decide, by decide, by decide, by decide⟩

/-- A configuration with a port, a directory and an operator of its own. -/
def operated : RelayConfig :=
  { interactive with
    port := 4433
    directoryUrl := "https://directory:443"
    heartbeatInterval := 30
    operatorId := some "operator-7" }

/-- The focus goes down and up again, the type goes to the middle, and everything else comes back
as it was. -/
theorem enter_keeps_iff_operated :
    ∃ state, (wizard.restrict Selects).Run (new operated) [.down, .up, .right] state ∧
      (state.press .enter).2 = some { operated with nodeType := some .middle, tui := true } := by
  have haccepted : Accepted operated :=
    ⟨by decide, by decide, by decide, by decide, by decide⟩
  have hdown : (wizard.restrict Selects).step (new operated) .down
      { new operated with focused := 1 } := ⟨trivial, rfl⟩
  have hup : (wizard.restrict Selects).step { new operated with focused := 1 } .up
      (new operated) := ⟨trivial, rfl⟩
  have hright : (wizard.restrict Selects).step (new operated) .right
      { new operated with nodeTypeIdx := 1 } := ⟨rfl, rfl⟩
  have hrun : (wizard.restrict Selects).Run (new operated) [.down, .up, .right] _ :=
    .cons hdown (.cons hup (.cons hright (.nil _)))
  exact ⟨_, hrun, (enter_keeps_iff (isSome_of_accepted haccepted) hrun rfl).mpr
    ⟨rfl, by decide, by decide⟩⟩

/-- A relay that is told to listen on the loopback address listens everywhere. -/
theorem not_enter_keeps_bindHost :
    ¬ ∀ (_ : IpText) (d : RelayConfig) keys state nodeType,
      (new d).validate.2.isSome = true → (wizard.restrict Selects).Run (new d) keys state →
      nodeTypes[state.nodeTypeIdx]? = some nodeType →
      (state.press .enter).2 = some { d with nodeType := some nodeType, tui := true } := by
  intro hclaim
  have hinteractive := accepted_interactive
  have haccepted : Accepted { interactive with bindHost := "127.0.0.1" } :=
    ⟨hinteractive.port, hinteractive.host, hinteractive.directoryUrl, hinteractive.bandwidth,
      hinteractive.heartbeat⟩
  have hkept : (new { interactive with bindHost := "127.0.0.1" }).validate.2 = _ :=
    hclaim ipText _ [] _ .entry (isSome_of_accepted haccepted) (.nil _) rfl
  rw [validate_of_accepted haccepted rfl rfl] at hkept
  simp at hkept

end

end WizardState

end NoPanic
