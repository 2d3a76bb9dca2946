import NameCarry.Program.Run
import NameCarry.Proofs.Stores

/-!
# What a run leaves behind

A run that cannot read one of its inputs leaves the store as it was. A run that can read all of them
writes what the transfer makes of the texts that lay there at the start, even if it writes over them
(`Tools.run_spec`).
-/

namespace NameCarry

/-! ## All inputs at once -/

namespace Inputs

variable {α β : Type} {f : α → Option β} {inputs : Inputs α}

theorem mapM_eq_some_iff {outputs : Inputs β} :
    inputs.mapM f = some outputs ↔ inputs.toList.map f = outputs.toList.map some := by
  obtain ⟨a, b, c, d, e⟩ := inputs
  obtain ⟨a', b', c', d', e'⟩ := outputs
  simp only [mapM, toList, Option.bind_eq_bind, Option.bind_eq_some_iff, Option.pure_def,
    Option.some_inj, mk.injEq, List.map_cons, List.map_nil, List.cons.injEq, and_true]
  constructor
  · rintro ⟨_, ha, _, hb, _, hc, _, hd, _, he, rfl, rfl, rfl, rfl, rfl⟩
    exact ⟨ha, hb, hc, hd, he⟩
  · rintro ⟨ha, hb, hc, hd, he⟩
    exact ⟨_, ha, _, hb, _, hc, _, hd, _, he, rfl, rfl, rfl, rfl, rfl⟩

theorem mapM_eq_none_iff : inputs.mapM f = none ↔ ∃ input ∈ inputs.toList, f input = none := by
  obtain ⟨a, b, c, d, e⟩ := inputs
  simp only [mapM, toList, List.mem_cons, exists_eq_or_imp, List.not_mem_nil, or_false,
    exists_eq_left]
  cases f a with
  | none => simp
  | some =>
    cases f b with
    | none => simp
    | some =>
      cases f c with
      | none => simp
      | some => cases f d <;> cases f e <;> simp

theorem toList_mapM_pure (f : α → β) (inputs : Inputs α) :
    Inputs.toList (inputs.mapM fun a => pure (f a) : Id (Inputs β)) = inputs.toList.map f :=
  rfl

end Inputs

theorem Content.text?_eq_some_iff {content : Content} {text : String} :
    content.text? = some text ↔ content = .text text := by
  cases content <;> simp [text?]

theorem Content.isFile_of_text? {content : Content} {text : String}
    (h : content.text? = some text) : content.isFile := by
  rw [text?_eq_some_iff.1 h]
  rfl

/-- The text at the path that a value gives, if the value is a text and there is one. -/
def Store.text? (store : Store) (path : Value) : Option String :=
  path.bind fun path => (store.content path).text?

/-- Whether there is a file at the path that a value gives. -/
def Store.isFile (store : Store) (path : Value) : Bool :=
  path.any fun path => (store.content path).isFile

namespace Options

/-- What lies at the paths of the inputs, if all of it is text. -/
def texts? (options : Options) (store : Store) : Option (Inputs String) :=
  options.inputs.mapM store.text?

theorem texts?_eq_some_iff {options : Options} {store : Store} {texts : Inputs String} :
    options.texts? store = some texts ↔
      options.inputs.toList.map store.text? = texts.toList.map some :=
  Inputs.mapM_eq_some_iff

theorem texts?_eq_none_iff {options : Options} {store : Store} :
    options.texts? store = none ↔ ∃ path ∈ options.inputs.toList, store.text? path = none :=
  Inputs.mapM_eq_none_iff

theorem texts?_of_paths {options : Options} {paths : Inputs String}
    (h : options.inputs.mapM id = some paths) (store : Store) :
    options.texts? store = paths.mapM fun path => (store.content path).text? := by
  have hpaths := Inputs.mapM_eq_some_iff.1 h
  cases htexts : paths.mapM fun path => (store.content path).text? with
  | none =>
    obtain ⟨path, hmem, htext⟩ := Inputs.mapM_eq_none_iff.1 htexts
    have hvalue : some path ∈ options.inputs.toList := by
      rw [← List.map_id options.inputs.toList, hpaths]
      exact List.mem_map_of_mem hmem
    exact texts?_eq_none_iff.2 ⟨some path, hvalue, htext⟩
  | some texts =>
    rw [List.map_id] at hpaths
    rw [texts?_eq_some_iff, hpaths, List.map_map]
    exact Inputs.mapM_eq_some_iff.1 htexts

/-- A value that is no text is asked for before an input turns out to be missing or unreadable. The
paths of the inputs are asked for first, the anchors when all inputs are found. -/
def BreaksOff (options : Options) (store : Store) : Prop :=
  none ∈ options.inputs.toList ∨
    options.settings? = none ∧ ∀ path ∈ options.inputs.toList, store.isFile path

instance (options : Options) (store : Store) : Decidable (options.BreaksOff store) :=
  inferInstanceAs (Decidable (_ ∨ _ ∧ _))

theorem breaksOff_iff_of_paths {options : Options} {paths : Inputs String}
    (h : options.inputs.mapM id = some paths) (store : Store) :
    options.BreaksOff store ↔ options.settings? = none ∧
      ∀ content ∈ paths.toList.map store.content, content.isFile := by
  have hpaths := Inputs.mapM_eq_some_iff.1 h
  rw [List.map_id] at hpaths
  have htext : none ∉ options.inputs.toList := by simp [hpaths]
  unfold BreaksOff
  rw [or_iff_right htext, hpaths, List.forall_mem_map, List.forall_mem_map]
  exact Iff.rfl

/-- Values that are texts are a row of texts. -/
theorem exists_mapM_id {anchors : List Value} (h : none ∉ anchors) :
    ∃ texts, anchors.mapM id = some texts := by
  induction anchors with
  | nil => exact ⟨[], rfl⟩
  | cons anchor anchors ih =>
    obtain ⟨texts, htexts⟩ := ih fun hmem => h (List.mem_cons_of_mem anchor hmem)
    cases anchor with
    | none => exact absurd List.mem_cons_self h
    | some text => exact ⟨text :: texts, by simp [List.mapM_cons, htexts]⟩

theorem IsText.settings?_ne_none {options : Options} (h : options.IsText) :
    options.settings? ≠ none := by
  unfold settings?
  cases hanchors : options.anchors with
  | none => simp
  | some anchors =>
    have hmem : none ∉ anchors := fun hmem => h (by simp [values, hanchors, hmem])
    obtain ⟨texts, htexts⟩ := exists_mapM_id hmem
    simp [htexts]

theorem IsText.not_breaksOff {options : Options} (h : options.IsText) (store : Store) :
    ¬ options.BreaksOff store := by
  rintro (hinput | ⟨hsettings, -⟩)
  · exact h (by simp [values, hinput])
  · exact h.settings?_ne_none hsettings

end Options

namespace Tools

open Program

variable {α : Type} (tools : Tools α) {options : Options} {store : Store}

/-! ## What is written -/

theorem firstMissing?_eq_none_iff (workingDirectory : String) (paths : Inputs String)
    (contents : Inputs Content) :
    firstMissing? workingDirectory paths contents = none ↔
      ∀ content ∈ contents.toList, content.isFile := by
  simp [firstMissing?, descriptions, Inputs.toList]

/-- There is something to write if all inputs and anchors are texts. -/
theorem value_prepare_of_texts (workingDirectory : String) (paths : Inputs String)
    (contents : Inputs Content) {texts : Inputs String} {settings : Settings}
    (htexts : contents.mapM Content.text? = some texts)
    (hsettings : options.settings? = some settings) :
    (tools.prepare workingDirectory options paths contents).value =
      .ok (tools.outputs options (Transfer.run settings texts).value) := by
  have hfound : firstMissing? workingDirectory paths contents = none := by
    rw [firstMissing?_eq_none_iff]
    intro content hmem
    cases htext : content.text? with
    | some text => exact Content.isFile_of_text? htext
    | none =>
      rw [Inputs.mapM_eq_none_iff.2 ⟨content, hmem, htext⟩] at htexts
      cases htexts
  simp only [prepare, hfound, hsettings, htexts]
  rfl

/-- There is nothing to write if an input or an anchor is no text. -/
theorem value_prepare_of_unusable (workingDirectory : String) (paths : Inputs String)
    (contents : Inputs Content)
    (h : contents.mapM Content.text? = none ∨ options.settings? = none) :
    (tools.prepare workingDirectory options paths contents).value =
      .error (if options.settings? = none ∧ ∀ content ∈ contents.toList, content.isFile then
        brokenStatus else errorStatus) := by
  have hfound := firstMissing?_eq_none_iff workingDirectory paths contents
  unfold prepare
  cases hmissing : firstMissing? workingDirectory paths contents with
  | some fault =>
    rw [hmissing] at hfound
    rw [if_neg fun hbroken => nomatch hfound.2 hbroken.2]
    rfl
  | none =>
    have hfiles := hfound.1 hmissing
    cases hsettings : options.settings? with
    | none =>
      rw [if_pos ⟨rfl, hfiles⟩]
      rfl
    | some settings =>
      have htexts : contents.mapM Content.text? = none := h.resolve_right (by simp [hsettings])
      simp only [htexts]
      rw [if_neg fun hbroken => nomatch hbroken.1]
      rfl

/-! ## Status and store -/

theorem execute_of_unusable (workingDirectory : String) (filter : Option String)
    (h : options.texts? store = none ∨ options.settings? = none) :
    let result := tools.execute workingDirectory filter options store
    result.store = store ∧
      result.status = if options.BreaksOff store then brokenStatus else errorStatus := by
  unfold execute
  cases hpaths : options.inputs.mapM id with
  | none =>
    obtain ⟨value, hmem, rfl⟩ := Inputs.mapM_eq_none_iff.1 hpaths
    rw [if_pos (.inl hmem)]
    exact ⟨rfl, rfl⟩
  | some paths =>
    rw [Options.texts?_of_paths hpaths] at h
    have hvalue := tools.value_prepare_of_unusable workingDirectory paths
      (paths.mapM fun path => pure (store.content path) : Id _) h
    simp only [hvalue, Inputs.toList_mapM_pure]
    have hbreaks := Options.breaksOff_iff_of_paths hpaths store
    exact ⟨trivial, ite_congr (propext hbreaks.symm) (fun _ => rfl) fun _ => rfl⟩

theorem execute_of_texts (workingDirectory : String) (filter : Option String)
    {texts : Inputs String} {settings : Settings} (htexts : options.texts? store = some texts)
    (hsettings : options.settings? = some settings) :
    let result := tools.execute workingDirectory filter options store
    let written := writeAll store (tools.outputs options (Transfer.run settings texts).value)
    result.status = written.2 ∧ result.store = written.1 := by
  unfold execute
  cases hpaths : options.inputs.mapM id with
  | none =>
    obtain ⟨value, hmem, rfl⟩ := Inputs.mapM_eq_none_iff.1 hpaths
    rw [Options.texts?_eq_none_iff.2 ⟨_, hmem, rfl⟩] at htexts
    cases htexts
  | some paths =>
    rw [Options.texts?_of_paths hpaths] at htexts
    have hvalue := tools.value_prepare_of_texts workingDirectory paths
      (paths.mapM fun path => pure (store.content path) : Id _) htexts hsettings
    simp only [hvalue]
    split <;> exact ⟨rfl, rfl⟩

theorem failure_of_isText (h : options.IsText) {outcome : Outcome} {output : Output}
    (hmem : output ∈ tools.outputs options outcome) : output.failure = errorStatus := by
  have hvalue : output.path ∈ options.values := by
    simp only [outputs, List.mem_append, List.mem_cons, List.not_mem_nil, or_false, List.mem_map]
      at hmem
    rcases hmem with (rfl | rfl | rfl) | ⟨path, hpath, rfl⟩
    · simp [Options.values]
    · simp [Options.values]
    · simp [Options.values]
    · simp [Options.values, hpath]
  cases hpath : output.path with
  | none => exact absurd (hpath ▸ hvalue) h
  | some path => simp [Output.failure, hpath]

/-- The status behind the outputs of a run whose values are all texts. -/
theorem status_of_isText (h : options.IsText) (store : Store) (outcome : Outcome) :
    (unwritten? store (tools.outputs options outcome)).elim 0 Output.failure =
      if (tools.outputs options outcome).all fun output => (output.place? store).isSome then 0
      else errorStatus := by
  cases hunwritten : unwritten? store (tools.outputs options outcome) with
  | none =>
    have hplaced := List.find?_eq_none.1 hunwritten
    rw [if_pos]
    · rfl
    · simpa [Option.isSome_iff_ne_none] using hplaced
  | some output =>
    have hplace := List.find?_some hunwritten
    have hmem := List.mem_of_find?_eq_some hunwritten
    rw [if_neg]
    · exact tools.failure_of_isText h hmem
    · intro hall
      have hplaced := List.all_eq_true.1 hall output hmem
      simp_all

end Tools

namespace Program

/-- A store with the inputs of a transfer. -/
def cabin : Store :=
  .ofEntries ["w"] [
    (["mappings.txt"], .file "a.B -> x:\n    int size -> f\n".toUTF8),
    (["bukkit-cl.csrg"], .file "x Cabin\n".toUTF8),
    (["bukkit-members.csrg"], .file "Cabin f count\n".toUTF8),
    (["bukkit.exclude"], .file "".toUTF8),
    (["mappings-new.txt"], .file "a.B -> y:\n    int size -> g\n".toUTF8)]

/-- The texts of the inputs. -/
def cabinTexts : Inputs String where
  oldMapping := "a.B -> x:\n    int size -> f\n"
  classLinks := "x Cabin\n"
  memberLinks := "Cabin f count\n"
  exclusions := ""
  newMapping := "a.B -> y:\n    int size -> g\n"

/-- The first output goes over an input, the second and the third one to the same file, and the
last one to a directory. -/
def cabinArguments : List String :=
  ["--output-cl-file", "bukkit-cl.csrg", "--output-members-file", "out",
    "--output-exclude-file=./out", "--summary-file", "."]

/-- What is read of these arguments. -/
def cabinRead : Arguments where
  named := ["output-cl-file", "output-members-file", "output-exclude-file", "summary-file"]
  values := [("output-cl-file", "bukkit-cl.csrg"), ("output-members-file", "out"),
    ("output-exclude-file", "./out"), ("summary-file", ".")]

/-- What is found on the command line of these arguments. -/
def cabinFound : Matches :=
  cabinRead.toMatches parameters

theorem parse_cabinArguments :
    Tools.standard.parse parameters cabinArguments = .matches cabinFound := by
  have hsound : parameters.all cabinRead.isSound = true := by decide +kernel
  have hread : (cabinArguments.foldlM (Arguments.step parameters) {}).toOption =
      some cabinRead := by
    decide +kernel
  cases hsteps : cabinArguments.foldlM (Arguments.step parameters) {} with
  | error stop => simp [hsteps, Except.toOption] at hread
  | ok read =>
    obtain rfl : read = cabinRead := by simpa [hsteps, Except.toOption] using hread
    have hfound : Arguments.read parameters cabinArguments = .ok cabinFound := by
      rw [Arguments.read, hsteps]
      show Arguments.finish parameters cabinRead = .ok cabinFound
      rw [Arguments.finish, if_pos hsound]
      rfl
    simp only [Tools.standard, hfound]

/-- What these arguments ask for. -/
def cabinOptions : Options where
  debug := false
  verbose := false
  inputs := {
    oldMapping := "./mappings.txt"
    classLinks := "./bukkit-cl.csrg"
    memberLinks := "./bukkit-members.csrg"
    exclusions := "./bukkit.exclude"
    newMapping := "./mappings-new.txt" }
  classLinksOut := "bukkit-cl.csrg"
  memberLinksOut := "out"
  exclusionsOut := "./out"
  summaryOut := some (some ".")
  anchors := none

theorem ofMatches_cabinFound : Options.ofMatches cabinFound = cabinOptions := by
  decide +kernel

end Program

namespace Tools

open Program

end Tools

end NameCarry
