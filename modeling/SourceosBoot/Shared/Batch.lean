import SourceosBoot.Shared.Python

set_option autoImplicit false

namespace Batch

open Python

structure Report where
  failed : Bool := false
  stdout : List String := []
  stderr : List String := []

def Report.exitCode (report : Report) : Int := if report.failed then 1 else 0

section Run

variable (check : String → Except Raised Unit)

-- One round of the loop; an exception of the check does not leave it.
def visit (report : Report) (path : String) : Report :=
  match check path with
  | .ok () => { report with stdout := report.stdout ++ [s!"PASS {path}"] }
  | .error raised =>
    { report with
      failed := true
      stderr := report.stderr ++ [s!"FAIL {path}: {raised.message}"] }

def run (paths : List String) : Report := paths.foldl (visit check) {}

def passLine (path : String) : Option String :=
  match check path with
  | .ok () => some s!"PASS {path}"
  | .error _ => none

def failLine (path : String) : Option String :=
  match check path with
  | .ok () => none
  | .error raised => some s!"FAIL {path}: {raised.message}"

theorem visits (paths : List String) (report : Report) :
    paths.foldl (visit check) report = {
      failed := report.failed || paths.any fun path => (failLine check path).isSome
      stdout := report.stdout ++ paths.filterMap (passLine check)
      stderr := report.stderr ++ paths.filterMap (failLine check) } := by
  induction paths generalizing report with
  | nil => simp
  | cons path rest ih =>
    rw [List.foldl_cons, ih]
    cases checked : check path <;> simp [visit, passLine, failLine, checked]

theorem run_stdout (paths : List String) :
    (run check paths).stdout = paths.filterMap (passLine check) := by
  rw [run, visits]
  rfl

theorem run_stderr (paths : List String) :
    (run check paths).stderr = paths.filterMap (failLine check) := by
  rw [run, visits]
  rfl

theorem exitCode_zero_iff (paths : List String) :
    (run check paths).exitCode = 0 ↔ ∀ path ∈ paths, check path = .ok () := by
  have passed (path : String) : (failLine check path).isSome = false ↔ check path = .ok () := by
    cases checked : check path <;> simp [failLine, checked]
  have none : (paths.any fun path => (failLine check path).isSome) = false ↔
      ∀ path ∈ paths, check path = .ok () := by
    simp only [List.any_eq_false, ← passed, Bool.not_eq_true]
  rw [run, visits, Report.exitCode, Bool.false_or, ← none]
  cases paths.any fun path => (failLine check path).isSome <;> simp

theorem reported_once (paths : List String) :
    (run check paths).stdout.length + (run check paths).stderr.length = paths.length := by
  rw [run_stdout, run_stderr]
  induction paths with
  | nil => rfl
  | cons path rest ih =>
    cases checked : check path <;>
      simp only [List.filterMap_cons, passLine, failLine, checked, List.length_cons] at ih ⊢ <;>
      omega

end Run

end Batch
