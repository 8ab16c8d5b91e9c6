import Mathlib.Data.List.Forall2
import SourceosBoot.Shared.Unicode

set_option autoImplicit false

-- A method reads and writes its object and may raise. What it wrote before the raise stays written,
-- which is what `EStateM` describes.

namespace Python

inductive ExceptionClass
  | valueError
  | keyError
  | typeError
  | attributeError
  | nameError
  | stopIteration
  | osError
  | user (name : String)
  deriving DecidableEq, Repr

structure Raised where
  cls : ExceptionClass
  message : String
  deriving DecidableEq, Repr

def hex (width code : Nat) : List Char :=
  let digits := Nat.toDigits 16 code
  List.replicate (width - digits.length) '0' ++ digits

def reprChar (quote char : Char) : List Char :=
  if char = quote ∨ char = '\\' then ['\\', char]
  else if char = '\n' then ['\\', 'n']
  else if char = '\r' then ['\\', 'r']
  else if char = '\t' then ['\\', 't']
  else if (0x20 ≤ char.toNat ∧ char.toNat < 0x7f) ∨ isprintable char then [char]
  else if char.toNat < 0x100 then ['\\', 'x'] ++ hex 2 char.toNat
  else if char.toNat < 0x10000 then ['\\', 'u'] ++ hex 4 char.toNat
  else ['\\', 'U'] ++ hex 8 char.toNat

def repr (text : String) : String :=
  -- `repr` of a string: double quotes only when it holds a single quote and no double one.
  let quote := if '\'' ∈ text.toList ∧ '"' ∉ text.toList then '"' else '\''
  String.ofList ([quote] ++ text.toList.flatMap (reprChar quote) ++ [quote])

def raise {α : Type} (cls : ExceptionClass) (message : String) : Except Raised α :=
  .error ⟨cls, message⟩

def raiseWhen (bad : Prop) [Decidable bad] (cls : ExceptionClass) (message : String) :
    Except Raised Unit :=
  if bad then raise cls message else .ok ()

@[simp] theorem raiseWhen_ok (bad : Prop) [Decidable bad] (cls : ExceptionClass)
    (message : String) : raiseWhen bad cls message = .ok () ↔ ¬ bad := by
  by_cases holds : bad <;> simp [raiseWhen, raise, holds]

section Except

variable {ε α β : Type}

theorem bind_ok (computation : Except ε α) (next : α → Except ε β) (value : β) :
    (computation >>= next) = .ok value ↔
      ∃ middle, computation = .ok middle ∧ next middle = .ok value := by
  cases computation <;> simp [bind, Except.bind]

theorem then_ok (first : Except ε Unit) (second : Except ε β) (value : β) :
    (first >>= fun _ => second) = .ok value ↔ first = .ok () ∧ second = .ok value := by
  rw [bind_ok]
  exact ⟨fun ⟨(), done, next⟩ => ⟨done, next⟩, fun ⟨done, next⟩ => ⟨(), done, next⟩⟩

theorem bind_error (computation : Except ε α) (next : α → Except ε β) (raised : ε) :
    (computation >>= next) = .error raised ↔ computation = .error raised ∨
      ∃ middle, computation = .ok middle ∧ next middle = .error raised := by
  cases computation <;> simp [bind, Except.bind]

theorem forM_ok (items : List α) (check : α → Except ε Unit) :
    items.forM check = .ok () ↔ ∀ item ∈ items, check item = .ok () := by
  induction items with
  | nil => simp [pure, Except.pure]
  | cons item rest ih =>
    change (check item >>= fun _ => rest.forM check) = .ok () ↔ _
    rw [then_ok, ih, List.forall_mem_cons]

theorem mapM_ok (items : List α) (step : α → Except ε β) (results : List β) :
    items.mapM step = .ok results ↔
      List.Forall₂ (fun item result => step item = .ok result) items results := by
  induction items generalizing results with
  | nil => cases results <;> simp [pure, Except.pure]
  | cons item rest ih =>
    simp only [List.mapM_cons, bind_ok, List.forall₂_cons_left_iff, ih]
    constructor
    · rintro ⟨first, done, later, each, ⟨⟩⟩
      exact ⟨first, later, done, each, rfl⟩
    · rintro ⟨first, later, done, each, rfl⟩
      exact ⟨first, done, later, each, rfl⟩

end Except

def RaisesOnly {α : Type} (cls : ExceptionClass) (check : Except Raised α) : Prop :=
  ∀ raised, check = .error raised → raised.cls = cls

section RaisesOnly

variable {α β : Type} {cls : ExceptionClass}

theorem RaisesOnly.ok (value : α) : RaisesOnly cls (.ok value) := by
  rintro raised ⟨⟩

theorem RaisesOnly.raiseWhen (bad : Prop) [Decidable bad] (message : String) :
    RaisesOnly cls (raiseWhen bad cls message) := by
  intro raised
  by_cases holds : bad
  · simp only [Python.raiseWhen, holds, if_true, raise, Except.error.injEq]
    rintro rfl
    rfl
  · simp [Python.raiseWhen, holds]

theorem RaisesOnly.bind {check : Except Raised α} {next : α → Except Raised β}
    (first : RaisesOnly cls check) (rest : ∀ value, check = .ok value → RaisesOnly cls (next value)) :
    RaisesOnly cls (check >>= next) := by
  cases known : check with
  | ok value => exact rest value known
  | error raised =>
    rintro _ ⟨⟩
    exact first raised known

theorem RaisesOnly.forM {items : List α} {check : α → Except Raised Unit}
    (each : ∀ item, RaisesOnly cls (check item)) : RaisesOnly cls (items.forM check) := by
  induction items with
  | nil => exact .ok ()
  | cons item rest ih => exact .bind (each item) fun _ _ => ih

theorem RaisesOnly.mapM {items : List α} {step : α → Except Raised β}
    (each : ∀ item, RaisesOnly cls (step item)) : RaisesOnly cls (items.mapM step) := by
  induction items with
  | nil => exact .ok []
  | cons item rest ih =>
    rw [List.mapM_cons]
    exact .bind (each item) fun _ _ => .bind ih fun _ _ => .ok _

end RaisesOnly

abbrev Effect (σ α : Type) := EStateM Raised σ α

/-- Put a question to the current object; the answer may be an exception. -/
def ask {σ α : Type} (question : σ → Except Raised α) : Effect σ α := do
  match question (← get) with
  | .ok value => return value
  | .error raised => throw raised

section Effect

variable {σ α β : Type}

theorem ask_run (question : σ → Except Raised α) (state : σ) :
    (ask question).run state =
      match question state with
      | .ok value => .ok value state
      | .error raised => .error raised state := by
  simp only [ask, EStateM.run_bind, EStateM.run_get]
  cases question state <;> rfl

theorem run_then {step : Effect σ α} {state later : σ} {value : α}
    (ran : step.run state = .ok value later) (next : α → Effect σ β) :
    (step >>= next).run state = (next value).run later := by
  rw [EStateM.run_bind, ran]

theorem run_raised {step : Effect σ α} {state later : σ} {raised : Raised}
    (ran : step.run state = .error raised later) (next : α → Effect σ β) :
    (step >>= next).run state = .error raised later := by
  rw [EStateM.run_bind, ran]

theorem ask_then (question : σ → Except Raised α) (state : σ) (value : α)
    (answered : question state = .ok value) (next : α → Effect σ β) :
    (ask question >>= next).run state = (next value).run state :=
  run_then (by rw [ask_run, answered]) next

theorem ask_raised (question : σ → Except Raised α) (state : σ) (raised : Raised)
    (failed : question state = .error raised) (next : α → Effect σ β) :
    (ask question >>= next).run state = .error raised state :=
  run_raised (by rw [ask_run, failed]) next

theorem ask_then_ok (question : σ → Except Raised α) (next : α → Effect σ β) (state later : σ)
    (value : β) :
    (ask question >>= next).run state = .ok value later ↔
      ∃ answer, question state = .ok answer ∧ (next answer).run state = .ok value later := by
  rw [EStateM.run_bind, ask_run]
  cases question state <;> simp

theorem get_then (state : σ) (next : σ → Effect σ β) :
    (get >>= next).run state = (next state).run state := rfl

theorem modify_then (change : σ → σ) (state : σ) (next : PUnit → Effect σ β) :
    (modify change >>= next).run state = (next ⟨⟩).run (change state) := rfl

def left (outcome : EStateM.Result Raised σ α) : σ :=
  match outcome with
  | .ok _ state | .error _ state => state

def answer (outcome : EStateM.Result Raised σ α) : Except Raised α :=
  match outcome with
  | .ok value _ => .ok value
  | .error raised _ => .error raised

@[simp] theorem left_ok (answer : α) (state : σ) :
    left (.ok answer state) = state := rfl

@[simp] theorem left_error (raised : Raised) (state : σ) :
    left (.error raised state : EStateM.Result Raised σ α) = state := rfl

@[simp] theorem answer_ok (value : α) (state : σ) :
    answer (.ok value state : EStateM.Result Raised σ α) = .ok value := rfl

@[simp] theorem answer_error (raised : Raised) (state : σ) :
    answer (.error raised state : EStateM.Result Raised σ α) = .error raised := rfl

-- An action is atomic if it leaves the object as it was wherever it raises. It is steady if,
-- besides, what it comes to is the same whatever the object is.
def Atomic (action : Effect σ α) : Prop :=
  ∀ state raised later, action.run state = .error raised later → later = state

def ended (outcome : Except Raised (α × (σ → σ))) (state : σ) : EStateM.Result Raised σ α :=
  match outcome with
  | .ok (value, change) => .ok value (change state)
  | .error raised => .error raised state

def Steady (action : Effect σ α) : Prop := ∃ outcome, ∀ state, action.run state = ended outcome state

theorem Steady.atomic {action : Effect σ α} (steady : Steady action) : Atomic action := by
  obtain ⟨outcome, ends⟩ := steady
  intro state raised later failed
  rw [ends] at failed
  cases outcome <;> cases failed
  rfl

theorem Steady.ok {action : Effect σ α} (value : α) (change : σ → σ)
    (returns : ∀ state, action.run state = .ok value (change state)) : Steady action :=
  ⟨.ok (value, change), returns⟩

theorem Steady.error {action : Effect σ α} (raised : Raised)
    (fails : ∀ state, action.run state = .error raised state) : Steady action :=
  ⟨.error raised, fails⟩

theorem Steady.ask_then {question : Except Raised α} {next : α → Effect σ β}
    (each : ∀ value, question = .ok value → Steady (next value)) :
    Steady (ask (fun _ => question) >>= next) := by
  cases answered : question with
  | error raised => exact .error raised fun _ => rfl
  | ok value => exact each value answered

end Effect

section Zoom

variable {σ τ α : Type}

def zoom (read : τ → σ) (write : σ → τ → τ) (action : Effect σ α) : Effect τ α := fun whole =>
  match action.run (read whole) with
  | .ok value part => .ok value (write part whole)
  | .error raised part => .error raised (write part whole)

theorem zoom_ok (read : τ → σ) (write : σ → τ → τ) (action : Effect σ α) (whole later : τ)
    (value : α) : (zoom read write action).run whole = .ok value later ↔
      ∃ part, action.run (read whole) = .ok value part ∧ later = write part whole := by
  change zoom read write action whole = _ ↔ _
  unfold zoom
  cases action.run (read whole) <;> simp [eq_comm]

theorem Steady.zoom {read : τ → σ} {write : σ → τ → τ} {action : Effect σ α}
    (unchanged : ∀ whole, write (read whole) whole = whole) (steady : Steady action) :
    Steady (zoom read write action) := by
  obtain ⟨outcome, ends⟩ := steady
  have ran (whole : τ) : (Python.zoom read write action).run whole =
      match ended outcome (read whole) with
      | .ok value part => .ok value (write part whole)
      | .error raised part => .error raised (write part whole) := by
    rw [← ends]
    rfl
  cases outcome with
  | error raised =>
    refine .error raised fun whole => (ran whole).trans ?_
    simp only [ended, unchanged]
  | ok pair => exact .ok pair.1 (fun whole => write (pair.2 (read whole)) whole) ran

end Zoom

end Python
