import SourceosBoot.AbUpdate.ReplayReports
import SourceosBoot.Shared.Compaction

set_option autoImplicit false

namespace SourceosBoot.AbUpdate

open Python Transition

def accepts : Except Raised TransitionResult → Bool
  | .ok result => result.allowed
  | .error _ => false

theorem sound_inert (fallback : SlotLabel) : device.Inert accepts (Sound fallback) where
  stays := fun _ event sound => run_sound sound [event]
  declined := by
    intro machine event sound declined
    rcases sound.answers event with
      ⟨_, step, _⟩ | ⟨_, _, step⟩ | ⟨_, _, _, _, _, step⟩
    · rw [step]
    · rw [step]
    · simp [step, accepts, AbUpdate.accepted] at declined

def loggedAllowed (entry : Json) : Bool := hasMember entry "allowed" (.bool true)

def keptEvents (events log : List Json) : List Json :=
  ((events.zip log).filter fun logged => loggedAllowed logged.2).map Prod.fst

def entryOf (entry : Event × Except Raised TransitionResult) : Json :=
  match entry.2 with
  | .ok result => result.logEntry
  | .error _ => .null

theorem loggedAllowed_entryOf (entry : Event × Except Raised TransitionResult) :
    loggedAllowed (entryOf entry) = accepts entry.2 := by
  obtain ⟨event, answer⟩ := entry
  cases answer with
  | error raised => rfl
  | ok result =>
    cases allowed : result.allowed <;>
      simp [loggedAllowed, entryOf, accepts, hasMember, TransitionResult.logEntry, Json.get?,
        Json.lookup, allowed, Json.jsonEq, Json.same]

theorem filter_entries (trace : List (Event × Except Raised TransitionResult)) :
    (trace.filter fun entry => accepts entry.2).map entryOf =
      (trace.map entryOf).filter loggedAllowed := by
  rw [List.filter_map]
  exact congrArg (List.map entryOf)
    (List.filter_congr fun entry _ => (loggedAllowed_entryOf entry).symm)

section Events

variable {beyond : Call → Effect Machine TransitionResult} {events : List Json}
  {typed : List Event} (reads : List.Forall₂ Reads events typed)
include reads

theorem Sound.loop_trace {fallback : SlotLabel} {machine : Machine} (sound : Sound fallback machine)
    (known : ∀ event ∈ typed, event.Known) (index : Nat) (log : List Json) :
    (eventLoop abUpdateEvents (methods beyond) index events log).run machine =
      .ok (log ++ (device.trace machine typed).map entryOf) (device.run machine typed) := by
  induction reads generalizing machine index log with
  | nil => simp [eventLoop, System.trace, EStateM.run_pure]
  | @cons event typed events rest read _ ih =>
    obtain ⟨result, after, ran, stepped, later, _⟩ :=
      sound.reports typed (known typed (by simp))
    have answered : (device.step machine typed).1 = .ok result := by
      simp [device, object, ran]
    have looped := ih later (fun event listed => known event (List.mem_cons_of_mem _ listed))
      (index + 1) (log ++ [result.logEntry])
    have handled : (handle abUpdateEvents (methods beyond) index event).run machine =
        .ok result after := (read.handle index machine).trans ran
    rw [eventLoop, run_then handled, looped, System.run_cons, System.trace, answered, stepped]
    simp [entryOf]

omit beyond in
theorem reads_kept (machine : Machine) :
    List.Forall₂ Reads (keptEvents events ((device.trace machine typed).map entryOf))
      (device.accepted accepts machine typed) := by
  induction reads generalizing machine with
  | nil => exact .nil
  | @cons event typed events rest read _ ih =>
    have later := ih (device.step machine typed).2
    cases taken : accepts (device.step machine typed).1 with
    | true =>
      have logged := (loggedAllowed_entryOf (typed, (device.step machine typed).1)).trans taken
      rw [System.accepted_taken rest taken]
      simpa [keptEvents, System.trace, logged] using List.Forall₂.cons read later
    | false =>
      have logged := (loggedAllowed_entryOf (typed, (device.step machine typed).1)).trans taken
      rw [System.accepted_declined rest taken]
      simpa [keptEvents, System.trace, logged] using later

end Events

theorem accepted_listed {machine : Machine} {events : List Event} {event : Event}
    (listed : event ∈ device.accepted accepts machine events) : event ∈ events := by
  obtain ⟨entry, traced, rfl⟩ := List.mem_map.mp listed
  obtain ⟨front, back, split, _⟩ :=
    device.mem_trace machine events entry (List.mem_of_mem_filter traced)
  simp [split]

def ReplayArguments.withEvents (args : ReplayArguments) (events : List Json) : ReplayArguments :=
  { args with events := { args.events with content := .arr events } }

/--
A replay that reports `log` reports `log` without its refusals, and all else the
same, when it is given only the events that `log` shows as accepted.
-/
theorem accepted_events_replay (outside : Outside)
    (beyond : Call → Effect Machine TransitionResult) (args : ReplayArguments)
    (left right : Json) (pair : ContractPair left right)
    (slots : args.slots.content = .arr [left, right]) (events : List Json)
    (listed : args.events.content = .arr events) (wellFormed : ∀ event ∈ events, WellFormed event)
    (printed shown : List Json)
    (ran : (abUpdateReplay outside beyond args).run printed = .ok (some 0) shown) :
    ∃ later log transaction, log.length = events.length ∧
      shown = printed ++ [replayOutput outside later log transaction] ∧
      (abUpdateReplay outside beyond (args.withEvents (keptEvents events log))).run printed =
        .ok (some 0) (printed ++
          [replayOutput outside later (log.filter loggedAllowed) transaction]) := by
  have loads : ∃ answer, loadAbUpdateMachine outside args = .ok answer := by
    simp only [abUpdateReplay, ask_then_ok] at ran
    obtain ⟨answer, loaded, _⟩ := ran
    exact ⟨answer, loaded⟩
  obtain ⟨machine, healthProbe, fallback, loaded, contracted⟩ := accepted_contracted pair slots loads
  obtain ⟨typed, reads⟩ := well_formed_reads wellFormed
  have sound := contracted.sound
  have inert := sound_inert fallback
  obtain ⟨log, later, transaction, looped, rendered, shows⟩ :=
    (abUpdateReplay_ok loaded listed printed shown).mp ran
  rw [replayed_ok] at looped
  have known := loop_known reads looped
  have traced := @Sound.loop_trace beyond events typed reads fallback machine sound known 0 []
  cases looped.symm.trans traced
  -- The events that are left are read as the calls that were accepted.
  have again := @Sound.loop_trace beyond _ _ (reads_kept reads machine) fallback machine sound
    (fun event taken => known event (accepted_listed taken)) 0 []
  rw [inert.run_accepted sound, inert.trace_accepted sound, filter_entries] at again
  refine ⟨_, _, _, ?_, shows, ?_⟩
  · simp [device.length_trace, reads.length_eq]
  · have reloaded : loadAbUpdateMachine outside (args.withEvents (keptEvents events
        ([] ++ (device.trace machine typed).map entryOf))) = _ := loaded
    exact (abUpdateReplay_ok reloaded rfl printed _).mpr
      ⟨_, _, transaction, replayed_ok.mpr again, rendered, rfl⟩

theorem refusedFirst_wellFormed : ∀ event ∈ [armEvent, beginEvent], WellFormed event := by
  intro event listed
  rcases List.mem_pair.mp listed with rfl | rfl
  · exact armEvent_wellFormed
  · exact ⟨.begin, rfl, ⟨badDigest, rfl⟩, by rintro _ ⟨⟩, by rintro _ ⟨⟩⟩

theorem refusedFirst_known : ∀ event ∈ [armEvent, beginEvent], KnownExpiry event := by
  intro event listed named
  rcases List.mem_pair.mp listed with rfl | rfl <;>
    simp [armEvent, beginEvent, Json.get?, Json.lookup, EventName.name] at named

theorem accepted_events_replay_drill :
    ∃ shown, (abUpdateReplay exampleOutside unannotated (drill [armEvent, beginEvent])).run [] =
        .ok (some 0) shown ∧
      ∃ later log transaction, log.length = 2 ∧
        shown = [] ++ [replayOutput exampleOutside later log transaction] ∧
        (abUpdateReplay exampleOutside unannotated ((drill [armEvent, beginEvent]).withEvents
            (keptEvents [armEvent, beginEvent] log))).run [] =
          .ok (some 0) ([] ++
            [replayOutput exampleOutside later (log.filter loggedAllowed) transaction]) := by
  have ⟨_, _, _, loaded, contracted⟩ := accepted_contracted exampleMachine_built.pair rfl
    (drill_accepted [armEvent, beginEvent])
  have ⟨_, reads⟩ := well_formed_reads refusedFirst_wellFormed
  have ⟨_, ran, _⟩ := @reports_of_begin exampleOutside unannotated _ _ _ _ _ _ loaded rfl contracted
    reads ⟨beginEvent, by simp, rfl⟩ refusedFirst_known []
  exact ⟨_, ran, accepted_events_replay exampleOutside unannotated (drill [armEvent, beginEvent])
    exampleActive exampleCandidate exampleMachine_built.pair rfl [armEvent, beginEvent] rfl
    refusedFirst_wellFormed [] _ ran⟩

end SourceosBoot.AbUpdate
