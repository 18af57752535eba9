/-
# The client's setup

A client takes its configuration from the command line. With `--tui` the wizard shows it as text
fields, takes keys, and builds the configuration from the fields once it is confirmed.

The wizard returns every configuration that is in order, whatever it was started with, and no
other: any text can be typed into any field. The command line and the wizard ask for three to ten
hops and for one attempt at a rebuild at least, so a client that runs asks the directory for a
number of hops that it draws, and is refused a path only where the registry has none.
-/

import NoPanic.Client.Directory
import NoPanic.Relay.Wizard

namespace NoPanic

open NoPanic.Math

/-! ## Configurations -/

/-- The most hops of a circuit. -/
def maxHops : Nat := 10

/-- The configuration of a client. -/
structure TorClientConfig where
  socksAddr : String := "127.0.0.1:1080"
  directoryUrl : String := "http://localhost:8080"
  poolSize : Nat := 3
  hops : Nat := 3
  tui : Bool := false
  maxRebuildAttempts : Nat := 3
  deriving DecidableEq, Repr

/-- The arguments of the command line, as far as they are given. -/
structure TorClientArgs where
  socksAddr : Option String := none
  directoryUrl : Option String := none
  poolSize : Option String := none
  hops : Option String := none
  tui : Bool := false
  maxRebuildAttempts : Option String := none
  deriving DecidableEq, Repr

namespace TorClientConfig

/-- `parse_rebuild_attempts`. -/
def parseRebuildAttempts (s : String) : Except String Nat :=
  match parseDecimal (2 ^ 64) s with
  | .error _ => .error s!"'{s}' is not a valid integer"
  | .ok n => if n < 1 then .error s!"max-rebuild-attempts must be >= 1, got {n}" else .ok n

/-- `parse_hop_count`. -/
def parseHopCount (s : String) : Except String Nat :=
  match parseDecimal (2 ^ 64) s with
  | .error _ => .error s!"'{s}' is not a valid integer"
  | .ok n =>
      if n < 3 then .error s!"hops must be >= 3 (1 entry + N-2 middles + 1 exit), got {n}"
      else if n > maxHops then
        .error s!"hops must be <= {maxHops} (maximum circuit size), got {n}"
      else .ok n

/-- The configuration of a command line. With an argument that is not read the program ends. -/
def parse (args : TorClientArgs) : Option TorClientConfig := do
  let poolSize ← (parseDecimal (2 ^ 64) (args.poolSize.getD "3")).toOption
  let hops ← (parseHopCount (args.hops.getD "3")).toOption
  let maxRebuildAttempts ← (parseRebuildAttempts (args.maxRebuildAttempts.getD "3")).toOption
  return {
    socksAddr := args.socksAddr.getD "127.0.0.1:1080"
    directoryUrl := args.directoryUrl.getD "http://localhost:8080"
    poolSize, hops, tui := args.tui, maxRebuildAttempts }

/-- The hops that are read are three to ten. -/
theorem bounds_of_parseHopCount {s : String} {n : Nat}
    (hread : (parseHopCount s).toOption = some n) : 3 ≤ n ∧ n ≤ maxHops := by
  rw [parseHopCount] at hread
  split at hread
  · cases hread
  · split at hread
    · cases hread
    · next hlow =>
      split at hread
      · cases hread
      · next hhigh =>
        cases hread
        exact ⟨Nat.not_lt.mp hlow, Nat.not_lt.mp hhigh⟩

/-- The attempts that are read are one at least. -/
theorem le_of_parseRebuildAttempts {s : String} {n : Nat}
    (hread : (parseRebuildAttempts s).toOption = some n) : 1 ≤ n := by
  rw [parseRebuildAttempts] at hread
  split at hread
  · cases hread
  · split at hread
    · cases hread
    · next hlow =>
      cases hread
      exact Nat.not_lt.mp hlow

/-- A configuration that is in order. -/
structure Valid [AddrText] (c : TorClientConfig) : Prop where
  socksAddr : (AddrText.parse c.socksAddr).isSome = true
  directoryUrl : WizardState.isHttpUrl c.directoryUrl = true
  poolSize : 0 < c.poolSize ∧ c.poolSize < 2 ^ 64
  hops : 3 ≤ c.hops ∧ c.hops ≤ maxHops
  maxRebuildAttempts : 1 ≤ c.maxRebuildAttempts ∧ c.maxRebuildAttempts < 2 ^ 64

end TorClientConfig

/-! ## The wizard -/

namespace TorClient

/-- The fields of the wizard. -/
inductive Field
  | socksAddr
  | directoryUrl
  | poolSize
  | hops
  | maxRebuildAttempts
  deriving DecidableEq, Repr

/-- The fields in the order in which they are shown. -/
def fields : List Field := [.socksAddr, .directoryUrl, .poolSize, .hops, .maxRebuildAttempts]

/-- The state of the wizard. -/
structure WizardState where
  focused : Nat
  socksAddr : String
  directoryUrl : String
  poolSize : String
  hops : String
  maxRebuildAttempts : String
  error : Option String
  deriving DecidableEq, Repr

namespace WizardState

/-- The wizard at its start. -/
def new (defaults : TorClientConfig) : WizardState where
  focused := 0
  socksAddr := defaults.socksAddr
  directoryUrl := defaults.directoryUrl
  poolSize := decimal defaults.poolSize
  hops := decimal defaults.hops
  maxRebuildAttempts := decimal defaults.maxRebuildAttempts
  error := none

/-- The field that has the focus. -/
def current (state : WizardState) : Option Field := fields[state.focused]?

/-- The focus goes up. -/
def up (state : WizardState) : WizardState :=
  if state.focused > 0 then { state with focused := state.focused - 1 } else state

/-- The focus goes down. -/
def down (state : WizardState) : WizardState :=
  if state.focused < fields.length - 1 then { state with focused := state.focused + 1 } else state

/-- The text of a field. -/
def text (state : WizardState) : Field → String
  | .socksAddr => state.socksAddr
  | .directoryUrl => state.directoryUrl
  | .poolSize => state.poolSize
  | .hops => state.hops
  | .maxRebuildAttempts => state.maxRebuildAttempts

/-- Change the text of a field. -/
def modifyText (state : WizardState) (f : String → String) : Field → WizardState
  | .socksAddr => { state with socksAddr := f state.socksAddr }
  | .directoryUrl => { state with directoryUrl := f state.directoryUrl }
  | .poolSize => { state with poolSize := f state.poolSize }
  | .hops => { state with hops := f state.hops }
  | .maxRebuildAttempts => { state with maxRebuildAttempts := f state.maxRebuildAttempts }

/-- Change the text of the field that has the focus, and forget the error. -/
def editText (state : WizardState) (f : String → String) : WizardState :=
  match state.current with
  | some field => { state.modifyText f field with error := none }
  | none => state

/-- Type a character. -/
def pushChar (state : WizardState) (c : Char) : WizardState := state.editText fun s => s.push c

/-- Delete the last character. -/
def popChar (state : WizardState) : WizardState :=
  state.editText fun s => String.ofList s.toList.dropLast

/-- Show an error. -/
def fail (state : WizardState) (message : String) : WizardState × Option TorClientConfig :=
  ({ state with error := some message }, none)

section

variable [AddrText]

/-- Build the configuration from the fields, or show what is wrong with them. -/
def validate (state : WizardState) : WizardState × Option TorClientConfig :=
  if (AddrText.parse state.socksAddr).isNone then
    state.fail "SOCKS address must be a valid host:port (e.g. 127.0.0.1:1080)"
  else if !NoPanic.WizardState.isHttpUrl state.directoryUrl then
    state.fail "Directory URL must start with http:// or https://"
  else
    match (parseDecimal (2 ^ 64) state.poolSize).toOption.filter fun p => p > 0 with
    | none => state.fail "Pool size must be > 0"
    | some poolSize =>
        match parseDecimal (2 ^ 64) state.hops with
        | .error _ => state.fail "Hops must be 3–10"
        | .ok hops =>
            if hops < 3 then state.fail s!"Hops must be >= 3, got {hops}"
            else if hops > maxHops then state.fail s!"Hops must be <= {maxHops}, got {hops}"
            else
              match (parseDecimal (2 ^ 64) state.maxRebuildAttempts).toOption.filter
                fun a => a ≥ 1 with
              | none => state.fail "Max rebuild attempts must be >= 1"
              | some maxRebuildAttempts =>
                  ({ state with error := none },
                    some {
                      socksAddr := state.socksAddr
                      directoryUrl := state.directoryUrl
                      poolSize, hops, tui := true, maxRebuildAttempts })

/-- What a key does: the wizard goes on, or ends with a configuration. -/
def press (state : WizardState) : Key → WizardState × Option TorClientConfig
  | .up => (state.up, none)
  | .down => (state.down, none)
  | .backspace => (state.popChar, none)
  | .char c => (state.pushChar c, none)
  | .enter => state.validate
  | .left | .right => (state, none)

/-- The wizard, key after key, until it ends. -/
def wizard : TransitionSystem WizardState Key where
  init state := ∃ defaults, state = new defaults
  step state key next := state.press key = (next, none)

/-- The wizard, started on a configuration, returns another. -/
def Returns (d c : TorClientConfig) : Prop :=
  ∃ keys state, wizard.Run (new d) keys state ∧ (state.press .enter).2 = some c

/-! ## What can be typed -/

omit [AddrText] in
/-- A change of one field's text leaves the other fields and the focus as they are. -/
theorem text_modifyText (state : WizardState) (f : String → String) (field other : Field) :
    (state.modifyText f field).text other =
      if other = field then f (state.text other) else state.text other := by
  cases field <;> cases other <;> rfl

omit [AddrText] in
@[simp]
theorem focused_modifyText (state : WizardState) (f : String → String) (field : Field) :
    (state.modifyText f field).focused = state.focused := by
  cases field <;> rfl

omit [AddrText] in
/-- What is typed changes the text of the field that has the focus. -/
theorem text_editText {state : WizardState} {field : Field} (hcurrent : state.current = some field)
    (f : String → String) :
    (state.editText f).focused = state.focused ∧
      (state.editText f).text = Function.update state.text field (f (state.text field)) := by
  have hedit : state.editText f = { state.modifyText f field with error := none } := by
    rw [editText, hcurrent]
  rw [hedit]
  refine ⟨state.focused_modifyText f field, ?_⟩
  funext other
  rw [Function.update_apply]
  refine (state.text_modifyText f field other).trans ?_
  by_cases hother : other = field
  · rw [if_pos hother, if_pos hother, hother]
  · rw [if_neg hother, if_neg hother]

/-- Keys take the wizard to a state with the focus on a field, in which the fields have these
texts. -/
def Shows (state : WizardState) (focused : Nat) (texts : Field → String) : Prop :=
  ∃ keys after, wizard.Run state keys after ∧ after.focused = focused ∧ after.text = texts

variable {state : WizardState} {focused : Nat} {texts : Field → String} {field : Field}

/-- One key more. -/
theorem Shows.press {focused' : Nat} {texts' : Field → String} (h : state.Shows focused texts)
    (key : Key) (hkey : ∀ after : WizardState, after.focused = focused → after.text = texts →
      ∃ next, after.press key = (next, none) ∧ next.focused = focused' ∧ next.text = texts') :
    state.Shows focused' texts' := by
  obtain ⟨keys, after, hrun, hfocused, htexts⟩ := h
  obtain ⟨next, hpress, hfocused', htexts'⟩ := hkey after hfocused htexts
  exact ⟨_, next, hrun.snoc hpress, hfocused', htexts'⟩

/-- The focus goes to any field. -/
theorem Shows.focus (h : state.Shows focused texts) {goal : Nat} (hgoal : goal < fields.length) :
    state.Shows goal texts := by
  have htop : state.Shows 0 texts := by
    induction focused with
    | zero => exact h
    | succ focused ih =>
        apply ih
        refine h.press .up fun after hfocused htexts => ⟨after.up, rfl, ?_, ?_⟩
        · rw [up, if_pos (by omega), hfocused]
          rfl
        · rw [up, if_pos (by omega)]
          exact htexts
  induction goal with
  | zero => exact htop
  | succ goal ih =>
      refine (ih (by omega)).press .down fun after hfocused htexts => ⟨after.down, rfl, ?_, ?_⟩
      · rw [down, if_pos (by omega), hfocused]
      · rw [down, if_pos (by omega)]
        exact htexts

/-- The text of the field that has the focus is deleted. -/
theorem Shows.clear (h : state.Shows focused texts) (hfield : fields[focused]? = some field) :
    state.Shows focused (Function.update texts field "") := by
  have hdeletes : ∀ (chars : List Char) texts, state.Shows focused texts →
      (texts field).toList = chars → state.Shows focused (Function.update texts field "") := by
    intro chars
    induction chars using List.reverseRecOn with
    | nil =>
        intro texts h hchars
        have hempty : texts field = "" := String.toList_inj.mp hchars
        rw [← hempty, Function.update_eq_self]
        exact h
    | append_singleton chars c ih =>
        intro texts h hchars
        let last := String.ofList chars
        have hdeleted : state.Shows focused (Function.update texts field last) := by
          refine h.press .backspace fun after hfocused htexts => ⟨after.popChar, rfl, ?_⟩
          have hcurrent : after.current = some field := by rw [current, hfocused, hfield]
          obtain ⟨hfocused', htexts'⟩ := text_editText hcurrent
            fun s => String.ofList s.toList.dropLast
          refine ⟨hfocused'.trans hfocused, htexts'.trans ?_⟩
          rw [htexts, hchars, List.dropLast_concat]
        have hcleared := ih _ hdeleted (by rw [Function.update_self, String.toList_ofList])
        rwa [Function.update_idem] at hcleared
  exact hdeletes _ texts h rfl

/-- Any text is typed into it. -/
theorem Shows.types (h : state.Shows focused (Function.update texts field ""))
    (hfield : fields[focused]? = some field) (chars : List Char) :
    state.Shows focused (Function.update texts field (String.ofList chars)) := by
  induction chars using List.reverseRecOn with
  | nil => exact h
  | append_singleton chars c ih =>
      refine ih.press (.char c) fun after hfocused htexts => ⟨after.pushChar c, rfl, ?_⟩
      have hcurrent : after.current = some field := by rw [current, hfocused, hfield]
      obtain ⟨hfocused', htexts'⟩ := text_editText hcurrent fun s => s.push c
      refine ⟨hfocused'.trans hfocused, htexts'.trans ?_⟩
      have hpush : (String.ofList chars).push c = String.ofList (chars ++ [c]) := by
        rw [← String.toList_inj, String.toList_push, String.toList_ofList, String.toList_ofList]
      rw [htexts, Function.update_self, Function.update_idem, hpush]

/-- Any text is put into any field. -/
theorem Shows.sets (h : ∃ focused, state.Shows focused texts) (field : Field) (text : String) :
    ∃ focused, state.Shows focused (Function.update texts field text) := by
  obtain ⟨focused, h⟩ := h
  obtain ⟨goal, hgoal, hfield⟩ : ∃ goal < fields.length, fields[goal]? = some field := by
    cases field with
    | socksAddr => exact ⟨0, by decide, rfl⟩
    | directoryUrl => exact ⟨1, by decide, rfl⟩
    | poolSize => exact ⟨2, by decide, rfl⟩
    | hops => exact ⟨3, by decide, rfl⟩
    | maxRebuildAttempts => exact ⟨4, by decide, rfl⟩
  have htyped := ((h.focus hgoal).clear hfield).types hfield text.toList
  rw [String.ofList_toList] at htyped
  exact ⟨goal, htyped⟩

/-- Any texts are put into all fields. -/
theorem exists_shows (state : WizardState) (texts : Field → String) :
    ∃ focused, state.Shows focused texts := by
  have hstart : ∃ focused, state.Shows focused state.text := ⟨_, [], state, .nil state, rfl, rfl⟩
  have hset : ∀ fs : List Field, ∃ focused reached, state.Shows focused reached ∧
      ∀ f ∈ fs, reached f = texts f := by
    intro fs
    induction fs with
    | nil =>
        obtain ⟨focused, h⟩ := hstart
        exact ⟨focused, state.text, h, by simp⟩
    | cons f fs ih =>
        obtain ⟨focused, reached, h, hreached⟩ := ih
        obtain ⟨focused', h'⟩ := Shows.sets ⟨focused, h⟩ f (texts f)
        refine ⟨focused', _, h', fun g hg => ?_⟩
        by_cases hsame : g = f
        · rw [hsame, Function.update_self]
        · rw [Function.update_of_ne hsame]
          exact hreached g ((List.mem_cons.mp hg).resolve_left hsame)
  obtain ⟨focused, reached, h, hreached⟩ := hset fields
  have heq : reached = texts := by
    funext f
    refine hreached f ?_
    cases f <;> decide
  exact ⟨focused, heq ▸ h⟩

/-! ## What the wizard returns -/

/-- What the wizard returns is in order. -/
theorem valid_of_validate {state : WizardState} {c : TorClientConfig}
    (hbuilt : state.validate.2 = some c) : c.Valid ∧ c.tui = true := by
  have hbound : ∀ {s : String} {p : Nat → Bool} {n : Nat},
      (parseDecimal (2 ^ 64) s).toOption.filter p = some n → p n = true ∧ n < 2 ^ 64 := by
    intro s p n hread
    cases hparsed : parseDecimal (2 ^ 64) s with
    | error e =>
        rw [hparsed] at hread
        cases hread
    | ok m =>
        rw [hparsed] at hread
        obtain ⟨hsame, hp⟩ := Option.filter_eq_some_iff.mp hread
        cases hsame
        exact ⟨hp, parseDecimal_lt (by decide) hparsed⟩
  rw [validate] at hbuilt
  split at hbuilt
  · cases hbuilt
  · next haddr =>
    split at hbuilt
    · cases hbuilt
    · next hurl =>
      split at hbuilt
      · cases hbuilt
      · next poolSize hpool =>
        split at hbuilt
        · cases hbuilt
        · next hops hhops =>
          split at hbuilt
          · cases hbuilt
          · next hlow =>
            split at hbuilt
            · cases hbuilt
            · next hhigh =>
              split at hbuilt
              · cases hbuilt
              · next attempts hattempts =>
                cases hbuilt
                have hpool' := hbound hpool
                have hattempts' := hbound hattempts
                refine ⟨⟨?_, by simpa using hurl, ⟨by simpa using hpool'.1, hpool'.2⟩,
                  ⟨Nat.not_lt.mp hlow, Nat.not_lt.mp hhigh⟩,
                  ⟨by simpa using hattempts'.1, hattempts'.2⟩⟩, rfl⟩
                exact Option.isSome_iff_ne_none.mpr fun hnone => haddr (by rw [hnone]; rfl)

/-- What is in order is accepted when it is typed. -/
theorem validate_of_valid {state : WizardState} {c : TorClientConfig} (hvalid : c.Valid)
    (htui : c.tui = true) (htexts : state.text = (new c).text) : state.validate.2 = some c := by
  have hread : ∀ {n : Nat} (p : Nat → Bool), n < 2 ^ 64 → p n = true →
      (parseDecimal (2 ^ 64) (decimal n)).toOption.filter p = some n := by
    intro n p hfits hp
    rw [NoPanic.WizardState.filter_parseDecimal hfits, if_pos hp]
  have haddr : state.socksAddr = c.socksAddr := congrFun htexts .socksAddr
  have hurl : state.directoryUrl = c.directoryUrl := congrFun htexts .directoryUrl
  have hpool : state.poolSize = decimal c.poolSize := congrFun htexts .poolSize
  have hhops : state.hops = decimal c.hops := congrFun htexts .hops
  have hattempts : state.maxRebuildAttempts = decimal c.maxRebuildAttempts :=
    congrFun htexts .maxRebuildAttempts
  have hmax : c.hops ≤ 10 := hvalid.hops.2
  have hpoolRead := hread (fun p => p > 0) hvalid.poolSize.2 (by simpa using hvalid.poolSize.1)
  have hhopsRead : parseDecimal (2 ^ 64) (decimal c.hops) = .ok c.hops :=
    parseDecimal_decimal (by omega)
  have hattemptsRead := hread (fun a => a ≥ 1) hvalid.maxRebuildAttempts.2
    (by simpa using hvalid.maxRebuildAttempts.1)
  have hlow : ¬ c.hops < 3 := Nat.not_lt.mpr hvalid.hops.1
  have hhigh : ¬ c.hops > maxHops := Nat.not_lt.mpr hvalid.hops.2
  have hnone : (AddrText.parse c.socksAddr).isNone = false := by
    rw [← Option.not_isSome, hvalid.socksAddr]
    rfl
  simp only [validate, haddr, hurl, hpool, hhops, hattempts, hnone, hvalid.directoryUrl, hpoolRead,
    hhopsRead, hlow, hhigh, hattemptsRead, if_false, Bool.not_true, Bool.false_eq_true]
  rw [← htui]

/-- Whatever configuration it was started with, the wizard returns those that are in order, and
no others: every text can be typed into every field. -/
theorem returns_iff (d c : TorClientConfig) : Returns d c ↔ c.Valid ∧ c.tui = true := by
  constructor
  · rintro ⟨keys, state, -, hreturned⟩
    exact valid_of_validate hreturned
  · rintro ⟨hvalid, htui⟩
    obtain ⟨focused, keys, state, hrun, -, htexts⟩ := exists_shows (new d) (new c).text
    exact ⟨keys, state, hrun, validate_of_valid hvalid htui htexts⟩

end

end WizardState

end TorClient

/-! ## A client that runs -/

section

variable [AddrText]

/-- The configurations that a client runs with: that of the command line, where the most hops have
to be confirmed, or what the wizard returns. -/
inductive TorClientConfig.Starts : TorClientConfig → Prop
  | plain {args : TorClientArgs} {config : TorClientConfig} (confirmed : Bool)
      (hparse : TorClientConfig.parse args = some config) (htui : config.tui = false)
      (hconfirmed : config.hops = maxHops → confirmed = true) : Starts config
  | wizard {args : TorClientArgs} {defaults config : TorClientConfig}
      (hparse : TorClientConfig.parse args = some defaults) (htui : defaults.tui = true)
      (hreturns : TorClient.WizardState.Returns defaults config) : Starts config

/-- A client runs with three to ten hops, and tries to rebuild a circuit at least once. -/
theorem TorClientConfig.Starts.bounds {c : TorClientConfig} (h : c.Starts) :
    (3 ≤ c.hops ∧ c.hops ≤ maxHops) ∧ 1 ≤ c.maxRebuildAttempts := by
  cases h with
  | wizard hparse htui hreturns =>
      have hvalid := ((TorClient.WizardState.returns_iff _ c).mp hreturns).1
      exact ⟨hvalid.hops, hvalid.maxRebuildAttempts.1⟩
  | plain confirmed hparse =>
      simp only [parse, Option.bind_eq_bind, Option.bind_eq_some_iff] at hparse
      obtain ⟨poolSize, -, hops, hhops, attempts, hattempts, heq⟩ := hparse
      cases heq
      exact ⟨bounds_of_parseHopCount hhops, le_of_parseRebuildAttempts hattempts⟩

variable [EnumText]

/-- Whatever the client was started with, it gets from a directory in use just what the registry
draws for its number of hops, and fails just when the registry refuses. -/
theorem TorClientConfig.Starts.gets_drawn {c : TorClientConfig} (h : c.Starts)
    (hread : AddrText.ReadsBack) {allowSameIp : Bool} {metrics : Option DiscoveryMetrics}
    {s : DiscoveryService} (hreach : (DiscoveryService.system allowSameIp metrics).Reachable s)
    {R : Type} [Rng R] (now : Nat) (rng : R) :
    DirectoryClient.getRandomPath (s.pathCall now rng) c.hops =
      (s.registry.getRandomPath c.hops rng).mapError fun e =>
        .rpc "Failed to get random path from discovery service" e.pathStatus := by
  have hbounds : 3 ≤ c.hops ∧ c.hops ≤ 10 := h.bounds.1
  have hself := DiscoveryService.drawnHops_eq_self_iff.mpr
    ⟨hbounds.1, Nat.lt_of_le_of_lt hbounds.2 (by decide)⟩
  rw [DiscoveryService.getRandomPath_pathCall hread (DiscoveryService.sound_of_reachable hreach),
    hself]
  cases s.registry.getRandomPath c.hops rng with
  | error e => rfl
  | ok path => exact if_neg (not_not.mpr rfl)

end

section

open Reference

/-- A client that is started without arguments gets the path that the directory draws. -/
theorem TorClientConfig.Starts.gets_drawn_sampleDirectory :
    DirectoryClient.getRandomPath
        (DiscoveryService.sampleDirectory.pathCall 3 (⟨[5, 7, 11]⟩ : NodeRegistry.Draws)) 3 =
      .ok DiscoveryService.sampleDrawn := by
  have hparse : TorClientConfig.parse {} = some {} := by decide +kernel
  have hstarts : TorClientConfig.Starts {} := .plain false hparse rfl fun hmost => by cases hmost
  have hdrawn := hstarts.gets_drawn DiscoveryService.readsBack_ipv4
    DiscoveryService.sampleDirectory_reachable 3 (⟨[5, 7, 11]⟩ : NodeRegistry.Draws)
  exact hdrawn.trans (congrArg (Except.mapError _) DiscoveryService.getRandomPath_sampleDirectory)

end

end NoPanic
