import SourceosBoot.Shared.Compaction

set_option autoImplicit false

-- Where an accepted answer tells enough of its event to do the step again, the accepted answers of
-- a run are a journal.

namespace Transition

namespace System

variable {σ ε ρ : Type} (system : System σ ε ρ) (accepts : ρ → Bool)

def journal (state : σ) (events : List ε) : List ρ :=
  ((system.trace state events).filter fun entry => accepts entry.2).map Prod.snd

/-- Every answer is asked for again, and has to come out as it was written down. -/
def audit [DecidableEq ρ] (rebuild : ρ → ε) : σ → List ρ → Option σ
  | state, [] => some state
  | state, answer :: rest =>
    if accepts answer = true ∧ (system.step state (rebuild answer)).1 = answer then
      audit rebuild (system.step state (rebuild answer)).2 rest
    else none

def Retold (rebuild : ρ → ε) : Prop :=
  ∀ state event, accepts (system.step state event).1 = true →
    system.step state (rebuild (system.step state event).1) = system.step state event

variable {system accepts} {state : σ}

theorem journal_taken {event : ε} (rest : List ε)
    (taken : accepts (system.step state event).1 = true) :
    system.journal accepts state (event :: rest) = (system.step state event).1 ::
      system.journal accepts (system.step state event).2 rest := by
  simp [journal, trace, taken]

theorem journal_declined {event : ε} (rest : List ε)
    (declined : accepts (system.step state event).1 = false) :
    system.journal accepts state (event :: rest) =
      system.journal accepts (system.step state event).2 rest := by
  simp [journal, trace, declined]

variable [DecidableEq ρ] {rebuild : ρ → ε}

theorem audit_found {log : List ρ} {final : σ}
    (passed : system.audit accepts rebuild state log = some final) :
    log = system.journal accepts state (log.map rebuild) ∧
      final = system.run state (log.map rebuild) := by
  induction log generalizing state with
  | nil => exact ⟨rfl, (Option.some.inj passed).symm⟩
  | cons answer rest ih =>
    rw [audit] at passed
    split at passed
    next again =>
      obtain ⟨accepted, same⟩ := again
      obtain ⟨journaled, ran⟩ := ih passed
      have taken : accepts (system.step state (rebuild answer)).1 = true := by rw [same, accepted]
      constructor
      · rw [List.map_cons, journal_taken _ taken, ← journaled, same]
      · rw [List.map_cons, run_cons, ← ran]
    next => cases passed

theorem audit_journal {Holds : σ → Prop} (inert : system.Inert accepts Holds)
    (retold : system.Retold accepts rebuild) (holds : Holds state) (events : List ε) :
    system.audit accepts rebuild state (system.journal accepts state events) =
      some (system.run state events) := by
  induction events generalizing state with
  | nil => rfl
  | cons event rest ih =>
    have later := ih (inert.stays state event holds)
    cases taken : accepts (system.step state event).1 with
    | true =>
      have again := retold state event taken
      rw [journal_taken rest taken, audit, again, if_pos ⟨taken, rfl⟩, later, run_cons]
    | false =>
      rw [inert.declined state event holds taken] at later
      rw [journal_declined rest taken, run_cons, inert.declined state event holds taken, later]

theorem audit_iff {Holds : σ → Prop} (inert : system.Inert accepts Holds)
    (retold : system.Retold accepts rebuild) (holds : Holds state) (log : List ρ) (final : σ) :
    system.audit accepts rebuild state log = some final ↔
      ∃ events, log = system.journal accepts state events ∧ final = system.run state events := by
  constructor
  · exact fun passed => ⟨log.map rebuild, audit_found passed⟩
  · rintro ⟨events, rfl, rfl⟩
    exact audit_journal inert retold holds events

end System

end Transition
