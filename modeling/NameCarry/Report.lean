import NameCarry.Journal.Noted
import NameCarry.Text.Lines

/-!
# Reading line by line

Every input is read one line after the other. A line that cannot be used is left out: it goes to the
report of its input, and the reading goes on behind it.

A `LineReader` refuses a line without a new state, so that the line leaves nothing behind. Inputs
are read by attempts, which work on the state in place and could leave something
(`Attempt.readText`). Line readers say what these attempts come to.
-/

namespace NameCarry

/-- A line that was left out. -/
structure SkippedLine where
  /-- The number of the line in its input. -/
  number : Nat
  /-- The line as it stands in the input. -/
  raw : String
  /-- Why it was left out. -/
  fault : Fault
  deriving DecidableEq, Repr

/-- The lines of an input that were left out. -/
structure Report where
  /-- What the input holds. -/
  source : String
  /-- The lines that were left out, in the order in which they were met. -/
  skipped : Array SkippedLine := #[]
  deriving DecidableEq, Repr

namespace Report

/-- Adds a line to the report, and says so at once. The full account of the fault is for the debug
level. -/
def record (report : Report) (line : SkippedLine) : Noted Report :=
  { value := { report with skipped := report.skipped.push line }
    events := #[.lineSkipped report.source line.number line.raw, .skippedFor line.fault,
      .faultDetail line.fault] }

/-- The number of lines left out. -/
def count (report : Report) : Nat :=
  report.skipped.size

/-- The number of lines left out with a fault of the given kind. -/
def countKind (report : Report) (kind : FaultKind) : Nat :=
  (report.skipped.filter (·.fault.kind == kind)).size

end Report

/-- Reads a line in a state: it moves on to a new state, or refuses the line and stays. -/
abbrev LineReader (σ : Type) :=
  σ → String → Except Fault (Noted σ)

/-- How far the reading of an input has come. -/
structure Pass (σ : Type) where
  /-- What the lines so far have led to. -/
  state : σ
  /-- The number of lines that were used. -/
  accepted : Nat := 0
  /-- The lines that were left out. -/
  report : Report

namespace Pass

variable {σ : Type}

/-- Reads one more line. -/
def step (reader : LineReader σ) (pass : Pass σ) (line : Nat × String) : Noted (Pass σ) :=
  let ⟨state, accepted, report⟩ := pass
  match reader state line.2 with
  | .ok moved => do
    let state ← moved
    return { state, accepted := accepted + 1, report }
  | .error fault => do
    let report ← report.record { number := line.1, raw := line.2, fault }
    return { state, accepted, report }

end Pass

/-- Reads all lines of a text that carry content, and adds those left out to the report. -/
def LineReader.readText {σ : Type} (reader : LineReader σ) (start : σ) (report : Report)
    (text : String) : Noted (Pass σ) :=
  Noted.foldl (Pass.step reader) { state := start, report } (Text.contentLines text)

end NameCarry
