/-
# The activity log of the web interface

The web interface polls the directory for its dashboard. It takes from each answer the events
that are newer than the newest it has, puts them at the end of its log and cuts the log to
two hundred entries.

The cut keeps the beginning of the log. As long as no more events have been received, the log
is all of them, in order and without repetition; afterwards it never changes again. An event
at time zero is never taken, since the first threshold is zero.
-/

import Mathlib.Data.List.ReduceOption
import NoPanic.Discovery.Dashboard

namespace NoPanic

open NoPanic.Math

/-- How many entries the log has at most. -/
def activityLogCapacity : Nat := 200

/-- What the polling loop keeps. The panels show the answer as it came. -/
structure App where
  data : Option DashboardResponse
  allEvents : List EventEntry
  latestElapsed : ℚ

namespace App

/-- Before the first poll. -/
def new : App := ⟨none, [], 0⟩

/-- One round of the polling loop; a request that failed changes nothing. -/
def poll (app : App) : Option DashboardResponse → App
  | none => app
  | some d =>
      let threshold := app.latestElapsed
      let fresh := (d.events.filter fun e => decide (threshold < e.elapsedSecs)).mergeSort
        fun a b => decide (a.elapsedSecs ≤ b.elapsedSecs)
      let pushed := fresh.foldl (fun acc evt => (acc.1 ++ [evt], evt.elapsedSecs))
        (app.allEvents, threshold)
      { data := some d
        allEvents := pushed.1.take activityLogCapacity
        latestElapsed := pushed.2 }

/-- All rounds. -/
def pollAll (answers : List (Option DashboardResponse)) : App := answers.foldl poll new

@[simp]
theorem pollAll_snoc (answers : List (Option DashboardResponse))
    (answer : Option DashboardResponse) :
    pollAll (answers ++ [answer]) = (pollAll answers).poll answer := by
  rw [pollAll, List.foldl_append]
  rfl

/-- The loop over the fresh events appends them and remembers the last time. -/
theorem foldl_push (events fresh : List EventEntry) (threshold : ℚ) :
    fresh.foldl (fun acc evt => (acc.1 ++ [evt], evt.elapsedSecs)) (events, threshold) =
      (events ++ fresh, lastKey EventEntry.elapsedSecs threshold fresh) := by
  induction fresh using List.reverseRecOn with
  | nil => rw [List.foldl_nil, List.append_nil, lastKey_nil]
  | append_singleton before last ih =>
      rw [List.foldl_append, ih, List.foldl_cons, List.foldl_nil, lastKey_snoc, List.append_assoc]

/-- What an answer adds, when its new events are known in their order. -/
theorem poll_some {app : App} {d : DashboardResponse} {fresh : List EventEntry}
    (hfresh : Increasing EventEntry.elapsedSecs 0 fresh)
    (hperm : (d.events.filter fun e => decide (app.latestElapsed < e.elapsedSecs)).Perm fresh) :
    (app.poll (some d)).allEvents = (app.allEvents ++ fresh).take activityLogCapacity ∧
      (app.poll (some d)).latestElapsed =
        lastKey EventEntry.elapsedSecs app.latestElapsed fresh := by
  have hsort := hfresh.mergeSort_eq_of_perm hperm
  constructor
  · simp only [poll, hsort, foldl_push]
  · simp only [poll, hsort, foldl_push]

/-- A full log never changes again, whatever is answered. -/
theorem poll_full {app : App} (hfull : app.allEvents.length = activityLogCapacity)
    (answer : Option DashboardResponse) : (app.poll answer).allEvents = app.allEvents := by
  cases answer with
  | none => rfl
  | some d =>
      simp only [poll, foldl_push]
      rw [← hfull, List.take_left]

end App

/-! ## What has been received -/

/-- The events of all answers that arrived. -/
def shown (answers : List (Option DashboardResponse)) : List EventEntry :=
  answers.reduceOption.flatMap DashboardResponse.events

/-- The events that have been received, each once, in the order of their times. -/
def received (answers : List (Option DashboardResponse)) : List EventEntry :=
  (shown answers).dedup.mergeSort fun a b => decide (a.elapsedSecs ≤ b.elapsedSecs)

@[simp]
theorem mem_received {answers : List (Option DashboardResponse)} {e : EventEntry} :
    e ∈ received answers ↔ e ∈ shown answers := by
  rw [received, List.mem_mergeSort, List.mem_dedup]

/-- The log is the newest of what has been received. -/
def LogNewest (answers : List (Option DashboardResponse)) : Prop :=
  (App.pollAll answers).allEvents = (received answers).rtake activityLogCapacity

/-- After every poll the log is the newest of what has been received by then. -/
def AlwaysNewest (answers : List (Option DashboardResponse)) : Prop :=
  ∀ before, before <+: answers → LogNewest before

/-- All that has been received fits into the log, and none of it is at time zero. -/
@[mk_iff]
structure LogFits (answers : List (Option DashboardResponse)) : Prop where
  length_le : (received answers).length ≤ activityLogCapacity
  elapsed_pos : ∀ e ∈ received answers, 0 < e.elapsedSecs

section

variable {answers : List (Option DashboardResponse)}

theorem alwaysNewest_snoc {answer : Option DashboardResponse} :
    AlwaysNewest (answers ++ [answer]) ↔
      AlwaysNewest answers ∧ LogNewest (answers ++ [answer]) := by
  constructor
  · intro h
    exact ⟨fun before hbefore => h before (hbefore.trans (List.prefix_append _ _)),
      h _ (List.prefix_refl _)⟩
  · rintro ⟨hbefore, hlast⟩ before hprefix
    rcases List.prefix_concat_iff.mp hprefix with rfl | hprefix
    · exact hlast
    · exact hbefore before hprefix

/-- An answer that got lost shows nothing. -/
@[simp]
theorem shown_lost : shown (answers ++ [none]) = shown answers := by
  rw [shown, List.reduceOption_append]
  simp [shown]

/-- An answer shows its events. -/
@[simp]
theorem shown_some {d : DashboardResponse} :
    shown (answers ++ [some d]) = shown answers ++ d.events := by
  rw [shown, List.reduceOption_append, List.flatMap_append]
  simp [shown]

@[simp]
theorem received_nil : received [] = [] := by simp [received, shown]

@[simp]
theorem received_lost : received (answers ++ [none]) = received answers := by
  rw [received, received, shown_lost]

@[simp]
theorem pollAll_lost : App.pollAll (answers ++ [none]) = App.pollAll answers :=
  App.pollAll_snoc answers none

end

/-! ## The log follows the directory -/

/-- The directory has noted `history`. The interface last looked at it when its entries were
`seen`, and `unseen` has come since. -/
structure Tracks (metrics : Option DiscoveryMetrics) (answers : List (Option DashboardResponse))
    (history : List (TuiEvent DiscoveryMetrics.EventKind)) (seen unseen : List EventEntry) :
    Prop where
  noted : DiscoveryMetrics.Noted metrics history
  increasing : (history.map TuiEvent.elapsed).Pairwise (· < ·)
  entries_eq : history.map eventToEntry = seen ++ unseen
  follows : Follows EventEntry.elapsedSecs 0 dashboardEvents seen (received answers)
    (App.pollAll answers).latestElapsed
  log_eq : (App.pollAll answers).allEvents =
    ((received answers).filter fun e => decide (0 < e.elapsedSecs)).take activityLogCapacity

namespace Tracks

variable {metrics metrics' : Option DiscoveryMetrics} {answers : List (Option DashboardResponse)}
  {history : List (TuiEvent DiscoveryMetrics.EventKind)} {seen unseen : List EventEntry}

theorem increasing_entries (h : Tracks metrics answers history seen unseen) :
    Increasing EventEntry.elapsedSecs 0 (seen ++ unseen) := by
  rw [← h.entries_eq]
  exact NoPanic.increasing_entries h.increasing

/-- At the start nothing has happened. -/
theorem init (hinit : dashboardSystem.init metrics) : Tracks metrics [] [] [] [] where
  noted := by
    rcases hinit with rfl | ⟨bufferNow, now, rfl⟩
    · exact DiscoveryMetrics.Noted.without
    · exact DiscoveryMetrics.noted_new bufferNow now
  increasing := List.Pairwise.nil
  entries_eq := rfl
  follows := by
    rw [received_nil]
    exact Follows.nil
  log_eq := by
    rw [received_nil]
    rfl

/-- After a step of the directory there is more to see. -/
theorem more (h : Tracks metrics answers history seen unseen)
    {more : List (TuiEvent DiscoveryMetrics.EventKind)}
    (hnoted : DiscoveryMetrics.Noted metrics' (history ++ more))
    (hincreasing : ((history ++ more).map TuiEvent.elapsed).Pairwise (· < ·)) :
    Tracks metrics' answers (history ++ more) seen (unseen ++ more.map eventToEntry) where
  noted := hnoted
  increasing := hincreasing
  entries_eq := by rw [List.map_append, h.entries_eq, List.append_assoc]
  follows := h.follows
  log_eq := h.log_eq

/-- What has been received after an answer: the newest of what has come since is new. -/
theorem received_some (h : Tracks metrics answers history seen unseen) {d : DashboardResponse}
    (hevents : d.events = ((history.map eventToEntry).rtake dashboardEvents).reverse) :
    received (answers ++ [some d]) = received answers ++ unseen.rtake dashboardEvents := by
  have hsub : (received answers ++ unseen.rtake dashboardEvents).Sublist (seen ++ unseen) :=
    h.follows.sublist.append (rtake_suffix _ _).sublist
  have hinc := h.increasing_entries.sublist hsub
  apply hinc.mergeSort_eq_of_perm
  apply (List.perm_ext_iff_of_nodup (List.nodup_dedup _) hinc.nodup).mpr
  intro e
  rw [List.mem_dedup, shown_some, List.mem_append, hevents, List.mem_reverse, h.entries_eq,
    h.follows.mem_next_iff, mem_received]

/-- An answer brings the interface up to date. -/
theorem answered (h : Tracks metrics answers history seen unseen) {d : DashboardResponse}
    (hevents : d.events = ((history.map eventToEntry).rtake dashboardEvents).reverse) :
    Tracks metrics (answers ++ [some d]) history (seen ++ unseen) [] := by
  have hinc := h.increasing_entries
  have hnext := h.follows.next hinc (by decide)
  let fresh := (unseen.rtake dashboardEvents).filter fun e => decide (0 < e.elapsedSecs)
  have hfresh : Increasing EventEntry.elapsedSecs 0 fresh :=
    hinc.sublist ((List.filter_sublist.trans (rtake_suffix _ _).sublist).trans
      (List.sublist_append_right seen unseen))
  have hperm : (d.events.filter fun e =>
      decide ((App.pollAll answers).latestElapsed < e.elapsedSecs)).Perm fresh := by
    rw [hevents, List.filter_reverse, h.entries_eq, h.follows.filter_rtake hinc]
    exact List.reverse_perm _
  obtain ⟨hlog, hlatest⟩ := App.poll_some hfresh hperm
  have hreceived := h.received_some hevents
  exact
    { noted := h.noted
      increasing := h.increasing
      entries_eq := by rw [List.append_nil, h.entries_eq]
      follows := by
        rw [hreceived, App.pollAll_snoc, hlatest]
        exact hnext
      log_eq := by
        rw [hreceived, App.pollAll_snoc, hlog, h.log_eq, take_append_take, List.filter_append] }

/-- An answer that got lost changes nothing. -/
theorem lost (h : Tracks metrics answers history seen unseen) :
    Tracks metrics (answers ++ [none]) history seen unseen where
  noted := h.noted
  increasing := h.increasing
  entries_eq := h.entries_eq
  follows := by
    rw [received_lost, pollAll_lost]
    exact h.follows
  log_eq := by rw [received_lost, pollAll_lost, h.log_eq]

/-- One step, whatever it is. -/
theorem step (h : Tracks metrics answers history seen unseen) {e : DashboardEvent}
    (hstep : DashboardStep metrics e metrics') :
    ∃ history' seen' unseen',
      Tracks metrics' (answers ++ answersOf [e]) history' seen' unseen' := by
  obtain ⟨more, hnoted, hincreasing⟩ := hstep.noted h.noted h.increasing
  cases hstep with
  | pushEvent =>
      rw [answersOf_pushEvent, List.append_nil]
      exact ⟨_, _, _, h.more hnoted hincreasing⟩
  | count =>
      rw [answersOf_count, List.append_nil]
      exact ⟨_, _, _, h.more hnoted hincreasing⟩
  | answered => exact ⟨_, _, _, h.answered (h.noted.events_dashboardHandler _ _ _ _ _)⟩
  | lost => exact ⟨_, _, _, h.lost⟩

/-- Where all fitted before an answer, the log is right after it exactly where all still
fits. -/
theorem logNewest_some (h : Tracks metrics answers history seen unseen) {d : DashboardResponse}
    (hevents : d.events = ((history.map eventToEntry).rtake dashboardEvents).reverse)
    (hfits : LogFits answers) :
    LogNewest (answers ++ [some d]) ↔ LogFits (answers ++ [some d]) := by
  have hafter := h.answered hevents
  have hinc : Increasing EventEntry.elapsedSecs 0
      (received answers ++ unseen.rtake dashboardEvents) := by
    rw [← h.received_some hevents]
    exact hafter.increasing_entries.sublist
      (hafter.follows.sublist.trans (List.sublist_append_left _ _))
  have hwindow : (unseen.rtake dashboardEvents).length ≤ activityLogCapacity := by
    rw [length_rtake]
    exact (Nat.min_le_left _ _).trans (by decide)
  have hiff := hinc.take_filter_eq_rtake_iff hfits.elapsed_pos hwindow (by decide)
  rw [LogNewest, hafter.log_eq, logFits_iff, h.received_some hevents]
  exact hiff

/-- What fits after an answer did so before it. -/
theorem logFits_of_some (h : Tracks metrics answers history seen unseen) {d : DashboardResponse}
    (hevents : d.events = ((history.map eventToEntry).rtake dashboardEvents).reverse)
    (hfits : LogFits (answers ++ [some d])) : LogFits answers := by
  rw [logFits_iff, h.received_some hevents, List.length_append] at hfits
  obtain ⟨hlength, hpos⟩ := hfits
  exact ⟨by omega, fun e he => hpos e (List.mem_append_left _ he)⟩

/-- One step keeps the log right exactly where it keeps all within bounds. -/
theorem alwaysNewest_step (h : Tracks metrics answers history seen unseen) {e : DashboardEvent}
    (hstep : DashboardStep metrics e metrics') (ih : AlwaysNewest answers ↔ LogFits answers) :
    AlwaysNewest (answers ++ answersOf [e]) ↔ LogFits (answers ++ answersOf [e]) := by
  cases hstep with
  | pushEvent =>
      rw [answersOf_pushEvent, List.append_nil]
      exact ih
  | count =>
      rw [answersOf_count, List.append_nil]
      exact ih
  | answered _ atEntries atStats atReady statsNow now =>
      have hevents := h.noted.events_dashboardHandler atEntries atStats atReady statsNow now
      rw [answersOf_poll, alwaysNewest_snoc, ih]
      constructor
      · rintro ⟨hfits, hlast⟩
        exact (h.logNewest_some hevents hfits).mp hlast
      · intro hfits
        have hbefore := h.logFits_of_some hevents hfits
        exact ⟨hbefore, (h.logNewest_some hevents hbefore).mpr hfits⟩
  | lost =>
      rw [answersOf_poll, alwaysNewest_snoc, LogNewest, logFits_iff, received_lost, pollAll_lost,
        ← logFits_iff, ← ih]
      exact and_iff_left_of_imp fun halways => halways answers (List.prefix_refl _)

end Tracks

/-! ## Every run -/

section

variable {metrics metrics' : Option DiscoveryMetrics} {es : List DashboardEvent}

/-- The interface follows the directory through every run. -/
theorem tracks_of_run (hinit : dashboardSystem.init metrics)
    (hrun : dashboardSystem.Run metrics es metrics') :
    ∃ history seen unseen, Tracks metrics' (answersOf es) history seen unseen := by
  refine hrun.invariant_history
    (fun s fs => ∃ history seen unseen, Tracks s (answersOf fs) history seen unseen)
    ⟨[], [], [], Tracks.init hinit⟩ ?_
  rintro s fs e t - ⟨history, seen, unseen, h⟩ hstep
  rw [answersOf_snoc]
  exact h.step hstep

/-- In every run, the log is right after every poll exactly where all that has been received
fits. -/
theorem alwaysNewest_iff_logFits (hinit : dashboardSystem.init metrics)
    (hrun : dashboardSystem.Run metrics es metrics') :
    AlwaysNewest (answersOf es) ↔ LogFits (answersOf es) := by
  refine hrun.invariant_history (fun _ fs => AlwaysNewest (answersOf fs) ↔ LogFits (answersOf fs))
    ?_ ?_
  · rw [answersOf, List.filterMap_nil, logFits_iff, received_nil]
    refine iff_of_true ?_ ⟨Nat.zero_le _, ?_⟩
    · intro before hprefix
      rw [List.prefix_nil.mp hprefix, LogNewest, received_nil]
      rfl
    · intro e he
      cases he
  · intro s fs e t hbefore ih hstep
    obtain ⟨history, seen, unseen, h⟩ := tracks_of_run hinit hbefore
    rw [answersOf_snoc]
    exact h.alwaysNewest_step hstep ih

/-- What has been received is in increasing order and without repetition. -/
theorem increasing_received (hinit : dashboardSystem.init metrics)
    (hrun : dashboardSystem.Run metrics es metrics') :
    Increasing EventEntry.elapsedSecs 0 (received (answersOf es)) := by
  obtain ⟨history, seen, unseen, h⟩ := tracks_of_run hinit hrun
  exact h.increasing_entries.sublist
    (h.follows.sublist.trans (List.sublist_append_left seen unseen))

/-- In every run, the log is the oldest of what has been received after time zero. -/
theorem allEvents_oldest (hinit : dashboardSystem.init metrics)
    (hrun : dashboardSystem.Run metrics es metrics') :
    (App.pollAll (answersOf es)).allEvents =
      ((received (answersOf es)).filter fun e => decide (0 < e.elapsedSecs)).take
        activityLogCapacity := by
  obtain ⟨history, seen, unseen, h⟩ := tracks_of_run hinit hrun
  exact h.log_eq

/-- What has been received always has increasing times, and the log is the newest two hundred
of it after every poll exactly where it is no more than two hundred events, none of them at
time zero. -/
theorem activityLog_newest_iff (hinit : dashboardSystem.init metrics)
    (hrun : dashboardSystem.Run metrics es metrics') :
    (received (answersOf es)).Pairwise (fun e e' => e.elapsedSecs < e'.elapsedSecs) ∧
      (AlwaysNewest (answersOf es) ↔
        (received (answersOf es)).length ≤ 200 ∧
          ∀ e ∈ received (answersOf es), 0 < e.elapsedSecs) := by
  refine ⟨(increasing_received hinit hrun).lt, ?_⟩
  rw [alwaysNewest_iff_logFits hinit hrun, logFits_iff]
  rfl

end

/-! ## A directory that is polled after every event -/

/-- The metrics after so many path requests, one a nanosecond. -/
def busyMetrics : Nat → DiscoveryMetrics
  | 0 => .new 0 0
  | n + 1 => (busyMetrics n).pushEvent .pathRequested (n + 1)

/-- What is answered then. -/
def busyAnswer (n : Nat) : DashboardResponse :=
  dashboardHandler (.new false) (.new false) (.new false) (some (busyMetrics n)) n n

/-- The run: a path request and a poll in turn. -/
def busy : Nat → List DashboardEvent
  | 0 => []
  | n + 1 =>
      busy n ++ [.pushEvent .pathRequested (n + 1)] ++ [.poll (some (busyAnswer (n + 1)))]

/-- Its events. -/
def busyHistory (n : Nat) : List (TuiEvent DiscoveryMetrics.EventKind) :=
  (List.range n).map fun i => ⟨i + 1, .pathRequested⟩

theorem busyHistory_succ (n : Nat) :
    busyHistory (n + 1) = busyHistory n ++ [⟨n + 1, .pathRequested⟩] := by
  rw [busyHistory, List.range_succ, List.map_append]
  rfl

theorem increasing_busyHistory (n : Nat) :
    ((busyHistory n).map TuiEvent.elapsed).Pairwise (· < ·) := by
  rw [busyHistory, List.map_map, List.pairwise_map]
  exact List.pairwise_lt_range.imp fun hlt => Nat.succ_lt_succ hlt

theorem busyMetrics_events (n : Nat) : (busyMetrics n).events =
    EventBuffer.holding DiscoveryMetrics.eventBufferCapacity 0 (busyHistory n) := by
  induction n with
  | zero => exact EventBuffer.new_eq_holding
  | succ n ih =>
      rw [busyMetrics, DiscoveryMetrics.pushEvent, ih, EventBuffer.push_holding (by decide),
        busyHistory_succ]
      rfl

theorem busy_run (n : Nat) : dashboardSystem.Run (some (.new 0 0)) (busy n)
    (some (busyMetrics n)) := by
  induction n with
  | zero => exact TransitionSystem.Run.nil _
  | succ n ih =>
      refine (ih.snoc (DashboardStep.pushEvent ?_)).snoc (DashboardStep.answered _ _ _ _ _ _)
      have hevents := busyMetrics_events (n + 1)
      rw [busyMetrics] at hevents
      rw [hevents, EventBuffer.snapshot_holding]
      exact (increasing_busyHistory (n + 1)).sublist ((rtake_suffix _ _).sublist.map _)

/-- Every request is shown. -/
theorem busy_shown {i n : Nat} (hi : i < n) :
    eventToEntry ⟨i + 1, .pathRequested⟩ ∈ shown (answersOf (busy n)) := by
  induction n with
  | zero => exact absurd hi (Nat.not_lt_zero i)
  | succ n ih =>
      rw [busy, answersOf_snoc, answersOf_snoc, answersOf_pushEvent, answersOf_poll,
        List.append_nil, shown_some, List.mem_append]
      rcases Nat.lt_succ_iff_lt_or_eq.mp hi with hlt | rfl
      · exact Or.inl (ih hlt)
      · right
        have hnoted := DiscoveryMetrics.Noted.noted (busyMetrics_events (i + 1))
        rw [busyAnswer, hnoted.events_dashboardHandler, List.mem_reverse, busyHistory_succ,
          List.map_append, rtake_append]
        have hlast : ([⟨i + 1, .pathRequested⟩].map eventToEntry).rtake dashboardEvents =
            [eventToEntry ⟨i + 1, .pathRequested⟩] := rfl
        rw [hlast]
        exact List.mem_append_right _ (List.mem_singleton_self _)

/-- Nothing else is shown. -/
theorem mem_of_busy_shown {n : Nat} {e : EventEntry} (he : e ∈ shown (answersOf (busy n))) :
    e ∈ (busyHistory n).map eventToEntry := by
  induction n with
  | zero => exact absurd he (by simp [busy, shown, answersOf])
  | succ n ih =>
      rw [busy, answersOf_snoc, answersOf_snoc, answersOf_pushEvent, answersOf_poll,
        List.append_nil, shown_some, List.mem_append] at he
      rcases he with hbefore | hlast
      · rw [busyHistory_succ, List.map_append]
        exact List.mem_append_left _ (ih hbefore)
      · have hnoted := DiscoveryMetrics.Noted.noted (busyMetrics_events (n + 1))
        rw [busyAnswer, hnoted.events_dashboardHandler, List.mem_reverse] at hlast
        exact (rtake_suffix _ _).subset hlast

/-- And so they are received, each once, although the answers overlap. -/
theorem received_busy (n : Nat) :
    received (answersOf (busy n)) = (busyHistory n).map eventToEntry := by
  have hinc := increasing_entries (increasing_busyHistory n)
  apply hinc.mergeSort_eq_of_perm
  apply (List.perm_ext_iff_of_nodup (List.nodup_dedup _) hinc.nodup).mpr
  intro e
  rw [List.mem_dedup]
  refine ⟨mem_of_busy_shown, fun he => ?_⟩
  rw [busyHistory, List.map_map] at he
  obtain ⟨i, hi, rfl⟩ := List.mem_map.mp he
  exact busy_shown (List.mem_range.mp hi)

/-- They are as many as the requests. -/
theorem length_received_busy (n : Nat) : (received (answersOf (busy n))).length = n := by
  rw [received_busy, List.length_map, busyHistory, List.length_map, List.length_range]

/-- With two hundred and one events the log is not the newest two hundred. -/
theorem not_alwaysNewest_busy :
    ¬ ∀ (metrics metrics' : Option DiscoveryMetrics) (es : List DashboardEvent),
      dashboardSystem.init metrics → dashboardSystem.Run metrics es metrics' →
        AlwaysNewest (answersOf es) := by
  intro hclaim
  have hinit : dashboardSystem.init (some (.new 0 0)) := Or.inr ⟨0, 0, rfl⟩
  have hrun := busy_run 201
  have hfits := (alwaysNewest_iff_logFits hinit hrun).mp (hclaim _ _ _ hinit hrun)
  have hreceived := hfits.length_le
  rw [length_received_busy] at hreceived
  exact absurd hreceived (by decide)

/-- With two hundred events it is: every answer but the first repeats what the one before has
shown. -/
theorem activityLog_newest_iff_busy :
    AlwaysNewest (answersOf (busy 200)) ∧
      received (answersOf (busy 200)) = (busyHistory 200).map eventToEntry := by
  have hreceived := received_busy 200
  refine ⟨(activityLog_newest_iff (Or.inr ⟨0, 0, rfl⟩) (busy_run 200)).2.mpr ⟨?_, ?_⟩, hreceived⟩
  · rw [length_received_busy]
  · rw [hreceived, busyHistory, List.map_map]
    intro e he
    obtain ⟨i, -, rfl⟩ := List.mem_map.mp he
    show (0 : ℚ) < ((i + 1 : Nat) : ℚ) / _
    rw [nanosPerSec]
    positivity

end NoPanic
