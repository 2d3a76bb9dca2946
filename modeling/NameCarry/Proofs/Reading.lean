import NameCarry.Report

/-!
# What reading a text leads to

A text is read line by line. Each line is used or refused in the state that the lines before it lead
to. `LineReader.run` is the state that all lines lead to, `LineReader.used` the lines that were used
and `LineReader.refused` the report on the others; `LineReader.value_readText` says that a reading
comes to these three. Two readers that use and refuse the same lines in related states stay related
(`LineReader.Matches.run`).
-/

namespace NameCarry

namespace LineReader

variable {σ τ : Type} {reader : LineReader σ} {other : LineReader τ}

/-- The state that a line leads to. A line that is refused leaves the state as it was. -/
def next (reader : LineReader σ) (state : σ) (line : String) : σ :=
  match reader state line with
  | .ok moved => moved.value
  | .error _ => state

/-- The state that a row of lines leads to. -/
def run (reader : LineReader σ) (state : σ) (lines : List (Nat × String)) : σ :=
  lines.foldl (fun state line => reader.next state line.2) state

/-- Whether a line, given with its number, is used in a state. -/
def accepts (reader : LineReader σ) (state : σ) (line : Nat × String) : Bool :=
  (reader state line.2).isOk

/-- Why a line is refused in a state, if it is. -/
def refusal? (reader : LineReader σ) (state : σ) (line : String) : Option Fault :=
  match reader state line with
  | .ok _ => none
  | .error fault => some fault

/-- The lines that are used, each in the state that the lines before it lead to. -/
def used (reader : LineReader σ) (state : σ) : List (Nat × String) → List (Nat × String)
  | [] => []
  | line :: lines =>
    match reader state line.2 with
    | .ok moved => line :: reader.used moved.value lines
    | .error _ => reader.used state lines

/-- The lines that are refused, each in the state that the lines before it lead to. -/
def refused (reader : LineReader σ) (state : σ) : List (Nat × String) → List SkippedLine
  | [] => []
  | line :: lines =>
    match reader state line.2 with
    | .ok moved => reader.refused moved.value lines
    | .error fault => { number := line.1, raw := line.2, fault } :: reader.refused state lines

/-! ## Step by step -/

theorem next_of_ok {state : σ} {line : String} {moved : Noted σ}
    (h : reader state line = .ok moved) : reader.next state line = moved.value := by
  rw [next, h]

theorem next_of_error {state : σ} {line : String} {fault : Fault}
    (h : reader state line = .error fault) : reader.next state line = state := by
  rw [next, h]

@[simp]
theorem run_nil (reader : LineReader σ) (state : σ) : reader.run state [] = state :=
  rfl

@[simp]
theorem run_cons (reader : LineReader σ) (state : σ) (line : Nat × String)
    (lines : List (Nat × String)) :
    reader.run state (line :: lines) = reader.run (reader.next state line.2) lines :=
  rfl

theorem run_append (reader : LineReader σ) (state : σ) (before behind : List (Nat × String)) :
    reader.run state (before ++ behind) = reader.run (reader.run state before) behind :=
  List.foldl_append

/-- What every line that is used keeps, a row of lines keeps. -/
theorem run_induction {motive : σ → Prop} {state : σ} (hstart : motive state)
    (hstep : ∀ state line moved, motive state → reader state line = .ok moved →
      motive moved.value) (lines : List (Nat × String)) : motive (reader.run state lines) := by
  induction lines generalizing state with
  | nil => exact hstart
  | cons line lines ih =>
    rw [run_cons]
    apply ih
    cases hread : reader state line.2 with
    | ok moved =>
      rw [next_of_ok hread]
      exact hstep state line.2 moved hstart hread
    | error fault =>
      rw [next_of_error hread]
      exact hstart

theorem value_step (pass : Pass σ) (line : Nat × String) :
    (pass.step reader line).value =
      { state := reader.next pass.state line.2
        accepted := pass.accepted + (reader.used pass.state [line]).length
        report := { pass.report with
          skipped := pass.report.skipped ++ (reader.refused pass.state [line]).toArray } } := by
  obtain ⟨state, accepted, report⟩ := pass
  cases hread : reader state line.2 with
  | ok moved => simp [Pass.step, next, used, refused, hread]
  | error fault => simp [Pass.step, next, used, refused, hread, Report.record]

theorem used_cons (reader : LineReader σ) (state : σ) (line : Nat × String)
    (lines : List (Nat × String)) :
    reader.used state (line :: lines) =
      reader.used state [line] ++ reader.used (reader.next state line.2) lines := by
  cases hread : reader state line.2 <;> simp [used, next, hread]

theorem refused_cons (reader : LineReader σ) (state : σ) (line : Nat × String)
    (lines : List (Nat × String)) :
    reader.refused state (line :: lines) =
      reader.refused state [line] ++ reader.refused (reader.next state line.2) lines := by
  cases hread : reader state line.2 <;> simp [refused, next, hread]

theorem refused_append (reader : LineReader σ) (state : σ) (before behind : List (Nat × String)) :
    reader.refused state (before ++ behind) =
      reader.refused state before ++ reader.refused (reader.run state before) behind := by
  induction before generalizing state with
  | nil => rfl
  | cons line before ih =>
    rw [List.cons_append, refused_cons, ih, refused_cons reader state line before, run_cons,
      List.append_assoc]

theorem length_used_add_length_refused (reader : LineReader σ) (state : σ)
    (lines : List (Nat × String)) :
    (reader.used state lines).length + (reader.refused state lines).length = lines.length := by
  induction lines generalizing state with
  | nil => rfl
  | cons line lines ih =>
    cases hread : reader state line.2 with
    | ok moved =>
      have hrest := ih moved.value
      simp only [used, refused, hread, List.length_cons]
      omega
    | error fault =>
      have hrest := ih state
      simp only [used, refused, hread, List.length_cons]
      omega

theorem value_foldl_step (reader : LineReader σ) (pass : Pass σ) (lines : List (Nat × String)) :
    lines.foldl (fun pass line => (Pass.step reader pass line).value) pass =
      { state := reader.run pass.state lines
        accepted := pass.accepted + (reader.used pass.state lines).length
        report := { pass.report with
          skipped := pass.report.skipped ++ (reader.refused pass.state lines).toArray } } := by
  induction lines generalizing pass with
  | nil => simp [used, refused]
  | cons line lines ih =>
    rw [List.foldl_cons, ih, value_step, used_cons reader pass.state line lines,
      refused_cons reader pass.state line lines, List.length_append, run_cons]
    simp only [Nat.add_assoc, Array.append_assoc, List.append_toArray]

/-- A reading comes to the state that the content lines of the text lead to, counts the lines that
were used, and reports the others. -/
theorem value_readText (reader : LineReader σ) (start : σ) (report : Report) (text : String) :
    (reader.readText start report text).value =
      { state := reader.run start (Text.contentLines text)
        accepted := (reader.used start (Text.contentLines text)).length
        report := { report with
          skipped :=
            report.skipped ++ (reader.refused start (Text.contentLines text)).toArray } } := by
  unfold readText
  rw [Noted.value_foldl, value_foldl_step]
  simp

/-! ## Readers that judge every line alone -/

/-- Wherever the reading of a text has come, each line is judged as in the state `start`. The
states that can be come to satisfy `Inv`. -/
structure Steady (reader : LineReader σ) (start : σ) (Inv : σ → Prop) : Prop where
  /-- The reading begins in a state of the kind. -/
  inv_start : Inv start
  /-- A line that is used would be used in the state `start`, and leads to a state of the kind. -/
  of_ok : ∀ {state line moved}, Inv state → reader state line = .ok moved →
    Inv moved.value ∧ ∃ alone, reader start line = .ok alone
  /-- A line that is refused would be refused in the state `start` for the same reason. -/
  of_error : ∀ {state line fault}, Inv state → reader state line = .error fault →
    reader start line = .error fault

variable {start : σ} {Inv : σ → Prop}

/-- A steady reader uses the lines that it would use alone. -/
theorem Steady.used_eq_filter (h : reader.Steady start Inv) (lines : List (Nat × String)) :
    reader.used start lines = lines.filter (reader.accepts start) := by
  -- The state moves on from line to line, so the claim is made for every state of the kind.
  suffices ∀ state, Inv state →
      reader.used state lines = lines.filter (reader.accepts start) from
    this start h.inv_start
  induction lines with
  | nil => intro state _; rfl
  | cons line lines ih =>
    intro state hstate
    cases hread : reader state line.2 with
    | ok moved =>
      obtain ⟨hmoved, alone, halone⟩ := h.of_ok hstate hread
      have haccepts : reader.accepts start line := by rw [accepts, halone]; rfl
      rw [List.filter_cons_of_pos haccepts, ← ih moved.value hmoved]
      simp only [used, hread]
    | error fault =>
      have haccepts : ¬ reader.accepts start line := by
        rw [accepts, h.of_error hstate hread]
        exact Bool.false_ne_true
      rw [List.filter_cons_of_neg haccepts, ← ih state hstate]
      simp only [used, hread]

/-- In every state of the kind, a line is refused as it would be refused alone. -/
theorem Steady.refusal?_eq (h : reader.Steady start Inv) {state : σ} (hstate : Inv state)
    (line : String) : reader.refusal? state line = reader.refusal? start line := by
  unfold refusal?
  cases hread : reader state line with
  | ok moved =>
    obtain ⟨-, alone, halone⟩ := h.of_ok hstate hread
    rw [halone]
  | error fault => rw [h.of_error hstate hread]

/-- The reading stays in states of the kind. -/
theorem Steady.inv_run (h : reader.Steady start Inv) (lines : List (Nat × String)) :
    Inv (reader.run start lines) :=
  run_induction h.inv_start (fun _ _ _ hstate hread => (h.of_ok hstate hread).1) lines

/-- A steady reader refuses the lines that it would refuse alone, for the same reasons. -/
theorem Steady.refused_eq_filterMap (h : reader.Steady start Inv) (lines : List (Nat × String)) :
    reader.refused start lines = lines.filterMap fun line =>
      (reader.refusal? start line.2).map fun fault =>
        { number := line.1, raw := line.2, fault } := by
  -- As with the lines that are used, the claim is made for every state of the kind.
  suffices ∀ state, Inv state → reader.refused state lines = lines.filterMap fun line =>
      (reader.refusal? start line.2).map fun fault =>
        { number := line.1, raw := line.2, fault } from
    this start h.inv_start
  induction lines with
  | nil => intro state _; rfl
  | cons line lines ih =>
    intro state hstate
    rw [List.filterMap_cons, ← h.refusal?_eq hstate line.2]
    cases hread : reader state line.2 with
    | ok moved =>
      simp only [refused, refusal?, hread, Option.map_none]
      exact ih moved.value (h.of_ok hstate hread).1
    | error fault =>
      simp only [refused, refusal?, hread, Option.map_some]
      rw [ih state hstate]
      rfl

/-- If every line would be used alone, all lines are used, and none is reported. -/
theorem Steady.value_readText (h : reader.Steady start Inv) {text : String}
    (hall : ∀ line ∈ Text.contentLines text, reader.accepts start line) (report : Report) :
    (reader.readText start report text).value =
      { state := reader.run start (Text.contentLines text)
        accepted := (Text.contentLines text).length
        report } := by
  have hused : reader.used start (Text.contentLines text) = Text.contentLines text := by
    rw [h.used_eq_filter, List.filter_eq_self]
    exact hall
  have hrefused : reader.refused start (Text.contentLines text) = [] := by
    have hlength := reader.length_used_add_length_refused start (Text.contentLines text)
    rw [hused] at hlength
    exact List.eq_nil_of_length_eq_zero (by omega)
  rw [LineReader.value_readText, hused, hrefused]
  simp

/-! ## Two readers -/

/-- Two results of reading a line match: both lines are used, and lead to related states, or both
are refused for the same reason. -/
inductive Matches (R : σ → τ → Prop) : Except Fault (Noted σ) → Except Fault (Noted τ) → Prop where
  /-- Both lines are used. -/
  | ok {a : Noted σ} {b : Noted τ} (h : R a.value b.value) : Matches R (.ok a) (.ok b)
  /-- Both lines are refused. -/
  | error (fault : Fault) : Matches R (.error fault) (.error fault)

/-- Readers whose results match in related states come to related states, use the same lines and
report the same faults. -/
theorem Matches.run {R : σ → τ → Prop}
    (hstep : ∀ a b line, R a b → Matches R (reader a line) (other b line))
    (lines : List (Nat × String)) {a : σ} {b : τ} (h : R a b) :
    R (reader.run a lines) (other.run b lines) ∧
      reader.used a lines = other.used b lines ∧
      reader.refused a lines = other.refused b lines := by
  induction lines generalizing a b with
  | nil => exact ⟨h, rfl, rfl⟩
  | cons line lines ih =>
    -- Both readers judge the line alike, and go on together from related states.
    have hline := hstep a b line.2 h
    generalize hread : reader a line.2 = result at hline
    generalize hother : other b line.2 = result' at hline
    cases hline with
    | ok hmoved =>
      obtain ⟨hrun, hused, hrefused⟩ := ih hmoved
      rw [run_cons, run_cons, next_of_ok hread, next_of_ok hother]
      refine ⟨hrun, ?_, ?_⟩
      · simp only [used, hread, hother, hused]
      · simp only [refused, hread, hother, hrefused]
    | error fault =>
      obtain ⟨hrun, hused, hrefused⟩ := ih h
      rw [run_cons, run_cons, next_of_error hread, next_of_error hother]
      refine ⟨hrun, ?_, ?_⟩
      · simp only [used, hread, hother, hused]
      · simp only [refused, hread, hother, hrefused]

end LineReader

end NameCarry
