import NameCarry.Report

/-!
# Attempts

An attempt works on a state in place, notes what happens, and may break off with a fault at any
point. The state stays as it is then: what was done to it before the fault is not taken back.

Inputs are read by attempts. The reading of a line that fails goes to the report, and the reading of
the next line starts from the state that it left.
-/

namespace NameCarry

/-- A computation on a state of type `σ` that may end with a fault. -/
abbrev Attempt (σ : Type) :=
  ExceptT Fault (StateT σ Noted)

namespace Attempt

variable {σ α : Type}

/-- Carries an attempt out on a state. Gives the result, and the state that is left. -/
def on (attempt : Attempt σ α) (state : σ) : Noted (Except Fault α × σ) :=
  attempt.run.run state

/-- Reads one more line. -/
def step (attempt : String → Attempt σ Unit) (pass : Pass σ) (line : Nat × String) :
    Noted (Pass σ) := do
  let (result, state) ← (attempt line.2).on pass.state
  match result with
  | .ok () => return { pass with state, accepted := pass.accepted + 1 }
  | .error fault =>
    let report ← pass.report.record { number := line.1, raw := line.2, fault }
    return { pass with state, report }

/-- Reads all lines of a text that carry content, and adds those that fail to the report. -/
def readText (attempt : String → Attempt σ Unit) (start : σ) (report : Report) (text : String) :
    Noted (Pass σ) :=
  Noted.foldl (step attempt) { state := start, report } (Text.contentLines text)

end Attempt

end NameCarry
