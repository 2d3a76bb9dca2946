import Mathlib.Algebra.GroupWithZero.Nat
import NameCarry.Proofs.Attempts
import NameCarry.Proofs.Lines
import NameCarry.Proofs.Reading

/-!
# Mappings in sections

The lines of a mapping fall into the lines before the first header and a block for each header: the
header and the lines behind it, up to the next one (`Sections.ofText`). Every block is read for
itself. What it declares does not depend on the blocks before it (`Block.declared?`), so what a
mapping declares can be read off its blocks, and the number of lines that are left out as well
(`Sections.value_loadMapping`).
-/

namespace NameCarry

/-! ## Lines with their ends -/

namespace Text

/-- A line that has its end: a line feed, and no other one before it. -/
def IsEnded (raw : List Char) : Prop :=
  ∃ body, '\n' ∉ body ∧ raw = body ++ ['\n']

theorem not_mem_dropLast_cons {c : Char} (hc : c ≠ '\n') {line : List Char}
    (h : '\n' ∉ line.dropLast) : '\n' ∉ (c :: line).dropLast := by
  cases line with
  | nil => exact List.not_mem_nil
  | cons d line =>
    rw [List.dropLast_cons_cons]
    exact List.not_mem_cons_of_ne_of_not_mem (Ne.symm hc) h

theorem not_mem_dropLast_of_mem_linesWithEnds {text : List Char} :
    ∀ raw ∈ linesWithEnds text, '\n' ∉ raw.dropLast := by
  refine linesWithEnds_induction (motive := fun raws => ∀ raw ∈ raws, '\n' ∉ raw.dropLast)
    (List.forall_mem_nil _) ?_ ?_ ?_ text
  · intro raws ih
    exact List.forall_mem_cons.2 ⟨List.not_mem_nil, ih⟩
  · intro c hc
    exact List.forall_mem_singleton.2 List.not_mem_nil
  · intro c line rest hc ih
    obtain ⟨hline, hrest⟩ := List.forall_mem_cons.1 ih
    exact List.forall_mem_cons.2 ⟨not_mem_dropLast_cons hc hline, hrest⟩

/-- A line of a text that ends with a line feed has its end. -/
theorem isEnded_of_mem_linesWithEnds {text raw : List Char} (h : raw ∈ linesWithEnds text)
    (hend : raw.getLast? = some '\n') : IsEnded raw :=
  ⟨raw.dropLast, not_mem_dropLast_of_mem_linesWithEnds raw h,
    (List.dropLast_append_getLast? _ hend).symm⟩

/-- Lines of which all but the last have their ends are the lines of the text that they make up. -/
theorem linesWithEnds_flatten_of_pairwise {raws : List (List Char)}
    (hends : raws.Pairwise fun raw _ => IsEnded raw)
    (hsingle : ∀ raw ∈ raws, linesWithEnds raw = [raw]) : linesWithEnds raws.flatten = raws := by
  induction raws with
  | nil => rfl
  | cons raw raws ih =>
    obtain ⟨hraw, hraws⟩ := List.pairwise_cons.1 hends
    cases raws with
    | nil =>
      rw [List.flatten_singleton]
      exact hsingle raw (List.mem_cons_self ..)
    | cons next rest =>
      obtain ⟨body, hbody, rfl⟩ := hraw next (List.mem_cons_self ..)
      have hrest := ih hraws fun other hother => hsingle other (List.mem_cons_of_mem _ hother)
      rw [List.flatten_cons, List.append_assoc, List.singleton_append,
        linesWithEnds_append_cons hbody, hrest]

theorem linesWithEnds_flatten {raws : List (List Char)} (h : ∀ raw ∈ raws, IsEnded raw) :
    linesWithEnds raws.flatten = raws := by
  refine linesWithEnds_flatten_of_pairwise (List.pairwise_of_forall_mem_list ?_) ?_
  · intro raw hraw _ _
    exact h raw hraw
  · intro raw hraw
    obtain ⟨body, hbody, rfl⟩ := h raw hraw
    exact linesWithEnds_append_cons hbody []

/-- The content of a line that is given with its end, if it carries any. -/
def content? (raw : List Char) : Option String :=
  let line := String.ofList (dropLineEnd raw)
  if isIgnored line then none else some line

theorem map_snd_contentLines (text : String) :
    (contentLines text).map (·.2) = (linesWithEnds text.toList).filterMap content? := by
  have hentry : (fun entry : String × Nat =>
        Option.map (fun line : Nat × String => line.2)
          (if isIgnored entry.1 then none else some (entry.2, entry.1))) =
      (fun line => if isIgnored line then none else some line) ∘ Prod.fst := by
    funext entry
    simp only [Function.comp]
    split <;> rfl
  unfold contentLines linesOf lines
  rw [List.map_filterMap, hentry, ← List.filterMap_map, List.zipIdx_map_fst, List.map_map,
    List.filterMap_map]
  rfl

end Text

/-! ## What single lines declare -/

/-- The names in a line that is read as the header of a class: the human name and the obfuscated
one.
-/
def headerOf? (line : String) : Option (String × String) :=
  match Declaration.read line with
  | .ok (.header human obfuscated) => some (human, obfuscated)
  | _ => none

/-- The field that a line declares. -/
def fieldOf? (line : String) : Option Identifier :=
  match Declaration.read line with
  | .ok (.field type human obfuscated) => some (.ofField obfuscated human type)
  | _ => none

/-- The method that a line declares. -/
def methodOf? (line : String) : Option Identifier :=
  match Declaration.read line with
  | .ok (.method result human params obfuscated) => some (.ofMethod obfuscated human params result)
  | _ => none

/-- Whether a line declares anything. -/
def isReadable (line : String) : Bool :=
  (Declaration.read line).isOk

/-- The names in a line that is given with its end, if it is read as the header of a class. -/
def headerIn? (raw : List Char) : Option (String × String) :=
  (Text.content? raw).bind headerOf?

/-- The human name of the class that a line opens. A header that stands for no class opens none. -/
def openedIn? (raw : List Char) : Option String :=
  (headerIn? raw).bind fun (human, _) =>
    if Loading.isPackageMarker human then none else some human

/-! ## Sections -/

/-- A header and the lines behind it, up to the next header. All lines are given with their ends. -/
structure Block where
  /-- The header. -/
  header : List Char
  /-- The lines behind it. -/
  members : List (List Char)
  isSome_header : (headerIn? header).isSome
  headerIn?_members : ∀ raw ∈ members, headerIn? raw = none

/-- The lines of a block. -/
def Block.lines (block : Block) : List (List Char) :=
  block.header :: block.members

/-- The lines of a mapping, cut before each header. -/
structure Sections where
  /-- The lines before the first header. -/
  opening : List (List Char)
  /-- The blocks. -/
  blocks : List Block
  headerIn?_opening : ∀ raw ∈ opening, headerIn? raw = none

namespace Sections

/-- The lines of all sections. -/
def lines (sections : Sections) : List (List Char) :=
  sections.opening ++ sections.blocks.flatMap Block.lines

/-- The text of all sections. -/
def text (sections : Sections) : String :=
  String.ofList sections.lines.flatten

/-- Puts a line before the others. A header opens a block. -/
def cons (raw : List Char) (sections : Sections) : Sections :=
  if h : (headerIn? raw).isSome then
    { opening := []
      blocks :=
        { header := raw
          members := sections.opening
          isSome_header := h
          headerIn?_members := sections.headerIn?_opening } :: sections.blocks
      headerIn?_opening := by simp }
  else
    { opening := raw :: sections.opening
      blocks := sections.blocks
      headerIn?_opening :=
        List.forall_mem_cons.2 ⟨by simpa using h, sections.headerIn?_opening⟩ }

/-- The sections that some lines fall into. -/
def ofLines (raws : List (List Char)) : Sections :=
  raws.foldr cons { opening := [], blocks := [], headerIn?_opening := by simp }

/-- The sections of a mapping. -/
def ofText (text : String) : Sections :=
  ofLines (Text.linesWithEnds text.toList)

theorem lines_cons (raw : List Char) (sections : Sections) :
    (cons raw sections).lines = raw :: sections.lines := by
  unfold cons
  split <;> simp [lines, Block.lines]

/-- No line is lost when lines are cut into sections. -/
theorem lines_ofLines (raws : List (List Char)) : (ofLines raws).lines = raws := by
  induction raws with
  | nil => rfl
  | cons raw raws ih =>
    rw [ofLines, List.foldr_cons, lines_cons]
    exact congrArg (raw :: ·) ih

@[simp]
theorem text_ofText (text : String) : (ofText text).text = text := by
  rw [Sections.text, ofText, lines_ofLines, Text.flatten_linesWithEnds, String.ofList_toList]

end Sections

/-! ## Reading line by line, without numbers -/

namespace LineReader

variable {σ : Type} (reader : LineReader σ)

/-- The number of lines that are refused, each in the state that the lines before it lead to. -/
def refusals (state : σ) : List String → Nat
  | [] => 0
  | line :: lines =>
    match reader state line with
    | .ok moved => refusals moved.value lines
    | .error _ => refusals state lines + 1

theorem run_eq_foldl (state : σ) (lines : List (Nat × String)) :
    reader.run state lines = (lines.map (·.2)).foldl reader.next state := by
  rw [List.foldl_map]
  rfl

theorem length_refused (state : σ) (lines : List (Nat × String)) :
    (reader.refused state lines).length = reader.refusals state (lines.map (·.2)) := by
  induction lines generalizing state with
  | nil => rfl
  | cons line lines ih =>
    cases hread : reader state line.2 with
    | ok moved => simp [refused, refusals, hread, ih]
    | error fault => simp [refused, refusals, hread, ih]

theorem refusals_singleton (state : σ) (line : String) :
    reader.refusals state [line] = if (reader state line).isOk then 0 else 1 := by
  cases hread : reader state line with
  | ok moved => simp [refusals, hread, Except.isOk, Except.toBool]
  | error fault => simp [refusals, hread, Except.isOk, Except.toBool]

theorem refusals_cons (state : σ) (line : String) (lines : List String) :
    reader.refusals state (line :: lines) =
      reader.refusals state [line] + reader.refusals (reader.next state line) lines := by
  cases hread : reader state line with
  | ok moved => simp [refusals, next, hread]
  | error fault =>
    simp only [refusals, next, hread]
    omega

theorem refusals_append (state : σ) (before behind : List String) :
    reader.refusals state (before ++ behind) =
      reader.refusals state before + reader.refusals (before.foldl reader.next state) behind := by
  induction before generalizing state with
  | nil => simp [refusals]
  | cons line before ih =>
    rw [List.cons_append, refusals_cons, ih, refusals_cons reader state line before,
      List.foldl_cons]
    omega

end LineReader

/-! ## Reading lines that are no headers -/

/-- The open class with the member that a line declares, if it declares one. -/
def OpenClass.addLine (current : OpenClass) (line : String) : OpenClass :=
  { current with
    fields := (fieldOf? line).toList ++ current.fields
    methods := (methodOf? line).toList ++ current.methods }

theorem close_foldl_addLine (current : OpenClass) (lines : List String) :
    (lines.foldl OpenClass.addLine current).close =
      { identity := current.identity
        fields := current.close.fields ++ lines.filterMap fieldOf?
        methods := current.close.methods ++ lines.filterMap methodOf? } := by
  induction lines generalizing current with
  | nil => simp [OpenClass.close]
  | cons line lines ih =>
    rw [List.foldl_cons, ih]
    cases hfield : fieldOf? line <;> cases hmethod : methodOf? line <;>
      simp [OpenClass.close, OpenClass.addLine, hfield, hmethod]

namespace Scope

/-- The scope behind a line that is no header. An open class takes in the member that it declares.
-/
def addLine (scope : Scope) (line : String) : Scope :=
  match scope with
  | .inside current => .inside (current.addLine line)
  | other => other

theorem addLine_ne_outside {scope : Scope} (h : scope ≠ .outside) (line : String) :
    scope.addLine line ≠ .outside := by
  cases scope with
  | outside => exact absurd rfl h
  | dropped => exact Scope.noConfusion
  | inside current => exact Scope.noConfusion

theorem foldl_addLine_dropped (lines : List String) :
    lines.foldl addLine .dropped = .dropped := by
  induction lines with
  | nil => rfl
  | cons line lines ih => exact ih

theorem foldl_addLine_inside (current : OpenClass) (lines : List String) :
    lines.foldl addLine (.inside current) = .inside (lines.foldl OpenClass.addLine current) := by
  induction lines generalizing current with
  | nil => rfl
  | cons line lines ih => exact ih (current.addLine line)

end Scope

/-- The reading of a mapping that gives no names. -/
abbrev plainReader (label : String) : LineReader (Loading Unit) :=
  Loading.reader label Annotator.none

section Rows

variable (label : String) (closed : Array ClassDecl)

/-- A line before the first header is refused. -/
theorem plainReader_outside {line : String} (h : headerOf? line = none) :
    ∃ fault, plainReader label { closed, scope := .outside, state := () } line = .error fault := by
  unfold headerOf? at h
  unfold plainReader Loading.reader
  cases hread : Declaration.read line with
  | error fault => exact ⟨_, rfl⟩
  | ok declaration =>
    cases declaration with
    | header human obfuscated => simp [hread] at h
    | field type human obfuscated => exact ⟨_, rfl⟩
    | method result human params obfuscated => exact ⟨_, rfl⟩

/-- A line behind a header is used if it declares something. -/
theorem plainReader_behind {scope : Scope} (hscope : scope ≠ .outside) {line : String}
    (h : headerOf? line = none) :
    (plainReader label).next { closed, scope, state := () } line =
        { closed, scope := scope.addLine line, state := () } ∧
      (plainReader label { closed, scope, state := () } line).isOk = isReadable line := by
  unfold headerOf? at h
  unfold LineReader.next plainReader Loading.reader isReadable Scope.addLine OpenClass.addLine
    fieldOf? methodOf?
  cases hread : Declaration.read line with
  | error fault => cases scope <;> exact ⟨rfl, rfl⟩
  | ok declaration =>
    cases declaration with
    | header human obfuscated => simp [hread] at h
    | field type human obfuscated =>
      cases scope with
      | outside => exact absurd rfl hscope
      | dropped => exact ⟨rfl, rfl⟩
      | inside current => exact ⟨rfl, rfl⟩
    | method result human params obfuscated =>
      cases scope with
      | outside => exact absurd rfl hscope
      | dropped => exact ⟨rfl, rfl⟩
      | inside current => exact ⟨rfl, rfl⟩

/-- Before the first header all lines are refused. -/
theorem row_outside {lines : List String} (h : ∀ line ∈ lines, headerOf? line = none) :
    lines.foldl (plainReader label).next { closed, scope := .outside, state := () } =
        { closed, scope := .outside, state := () } ∧
      (plainReader label).refusals { closed, scope := .outside, state := () } lines =
        lines.length := by
  induction lines with
  | nil => exact ⟨rfl, rfl⟩
  | cons line lines ih =>
    obtain ⟨hline, hlines⟩ := List.forall_mem_cons.1 h
    obtain ⟨hstate, hcount⟩ := ih hlines
    obtain ⟨fault, hfault⟩ := plainReader_outside label closed hline
    rw [List.foldl_cons, LineReader.next_of_error hfault]
    refine ⟨hstate, ?_⟩
    simp only [LineReader.refusals, hfault, hcount, List.length_cons]

/-- Behind a header the lines that declare nothing are refused. -/
theorem row_behind {scope : Scope} (hscope : scope ≠ .outside) {lines : List String}
    (h : ∀ line ∈ lines, headerOf? line = none) :
    lines.foldl (plainReader label).next { closed, scope, state := () } =
        { closed, scope := lines.foldl Scope.addLine scope, state := () } ∧
      (plainReader label).refusals { closed, scope, state := () } lines =
        lines.countP (!isReadable ·) := by
  induction lines generalizing scope with
  | nil => exact ⟨rfl, rfl⟩
  | cons line lines ih =>
    obtain ⟨hline, hlines⟩ := List.forall_mem_cons.1 h
    obtain ⟨hstate, hcount⟩ := ih (Scope.addLine_ne_outside hscope line) hlines
    obtain ⟨hnext, hused⟩ := plainReader_behind label closed hscope hline
    rw [List.foldl_cons, LineReader.refusals_cons, hnext, LineReader.refusals_singleton, hused,
      hcount, List.countP_cons]
    refine ⟨hstate, ?_⟩
    cases isReadable line <;> simp [Nat.add_comm]

end Rows

/-! ## Reading a block -/

/-- The contents of lines that are given with their ends. -/
def contents (raws : List (List Char)) : List String :=
  raws.filterMap Text.content?

theorem headerOf?_of_mem_contents {raws : List (List Char)}
    (h : ∀ raw ∈ raws, headerIn? raw = none) : ∀ line ∈ contents raws, headerOf? line = none := by
  intro line hline
  obtain ⟨raw, hraw, hcontent⟩ := List.mem_filterMap.1 hline
  have hheader := h raw hraw
  rwa [headerIn?, hcontent] at hheader

namespace Block

/-- The class that a block declares, unless its header stands for no class. -/
def declared? (block : Block) : Option ClassDecl :=
  (headerIn? block.header).bind fun (human, obfuscated) =>
    if Loading.isPackageMarker human then none
    else some {
      identity := .ofClass obfuscated human
      fields := (contents block.members).filterMap fieldOf?
      methods := (contents block.members).filterMap methodOf? }

/-- The number of lines of a block that declare nothing. -/
def refusals (block : Block) : Nat :=
  (contents block.members).countP (!isReadable ·)

/-- Where the members behind a header go. -/
def scopeOf (human obfuscated : String) : Scope :=
  if Loading.isPackageMarker human then .dropped
  else .inside { identity := .ofClass obfuscated human }

theorem scopeOf_ne_outside (human obfuscated : String) : scopeOf human obfuscated ≠ .outside := by
  unfold scopeOf
  split <;> exact Scope.noConfusion

/-- A header is used, and closes the class that is open. -/
theorem plainReader_header (label : String) (loading : Loading Unit)
    {line human obfuscated : String} (h : headerOf? line = some (human, obfuscated)) :
    (plainReader label).next loading line =
        { closed := loading.classes, scope := scopeOf human obfuscated, state := () } ∧
      (plainReader label loading line).isOk := by
  have hread : Declaration.read line = .ok (.header human obfuscated) := by
    unfold headerOf? at h
    split at h
    · next hread =>
      cases h
      exact hread
    · cases h
  unfold LineReader.next plainReader Loading.reader scopeOf
  by_cases hpackage : Loading.isPackageMarker human
  · simp only [hread, Loading.declare, if_pos hpackage]
    exact ⟨rfl, rfl⟩
  · simp only [hread, Loading.declare, if_neg hpackage]
    exact ⟨rfl, rfl⟩

/-- A block adds the class that it declares to those that were read before, whichever they are. -/
theorem read (label : String) (loading : Loading Unit) (block : Block) :
    ((contents block.lines).foldl (plainReader label).next loading).classes.toList =
        loading.classes.toList ++ block.declared?.toList ∧
      (plainReader label).refusals loading (contents block.lines) = block.refusals := by
  obtain ⟨⟨human, obfuscated⟩, hnames⟩ := Option.isSome_iff_exists.1 block.isSome_header
  obtain ⟨line, hline, hheader⟩ := Option.bind_eq_some_iff.1 hnames
  have hcontents : contents block.lines = line :: contents block.members := by
    simp [contents, Block.lines, hline]
  have hmembers := headerOf?_of_mem_contents block.headerIn?_members
  -- The header forgets all that was before it but the classes.
  obtain ⟨hnext, hused⟩ := plainReader_header label loading hheader
  obtain ⟨hstate, hcount⟩ :=
    row_behind label loading.classes (scopeOf_ne_outside human obfuscated) hmembers
  rw [hcontents, List.foldl_cons, LineReader.refusals_cons, hnext, LineReader.refusals_singleton,
    if_pos hused, Nat.zero_add, hstate, declared?, hnames, Option.bind_some, scopeOf]
  refine ⟨?_, hcount⟩
  dsimp only
  split
  · rw [Scope.foldl_addLine_dropped]
    simp [Loading.classes]
  · rw [Scope.foldl_addLine_inside]
    simp only [Loading.classes, close_foldl_addLine, Array.toList_push]
    rfl

end Block

/-! ## Reading all sections -/

namespace Sections

variable (sections : Sections)

/-- The classes that the blocks declare, in the order of the blocks. -/
def declared : List ClassDecl :=
  sections.blocks.filterMap Block.declared?

/-- The number of lines that are left out. -/
def refusals : Nat :=
  (contents sections.opening).length + (sections.blocks.map Block.refusals).sum

theorem read_blocks (label : String) (loading : Loading Unit) (blocks : List Block) :
    ((contents (blocks.flatMap Block.lines)).foldl (plainReader label).next
        loading).classes.toList = loading.classes.toList ++ blocks.filterMap Block.declared? ∧
      (plainReader label).refusals loading (contents (blocks.flatMap Block.lines)) =
        (blocks.map Block.refusals).sum := by
  induction blocks generalizing loading with
  | nil => simp [contents, LineReader.refusals]
  | cons block blocks ih =>
    have hcontents : contents ((block :: blocks).flatMap Block.lines) =
        contents block.lines ++ contents (blocks.flatMap Block.lines) := by
      simp [contents]
    obtain ⟨hblock, hcount⟩ := block.read label loading
    obtain ⟨hblocks, hcounts⟩ :=
      ih ((contents block.lines).foldl (plainReader label).next loading)
    rw [hcontents, List.foldl_append, LineReader.refusals_append, hblocks, hcounts, hblock, hcount]
    refine ⟨?_, by simp⟩
    cases hdeclared : block.declared? <;> simp [hdeclared]

/-- A mapping declares what its blocks declare, and the lines that are left out are those before the
first header and those of the blocks that declare nothing. -/
theorem value_loadMapping (h : ∀ raw ∈ sections.lines, Text.IsEnded raw) (label : String)
    (report : Report) :
    (loadMapping label report sections.text).value.1.toList = sections.declared ∧
      (loadMapping label report sections.text).value.2.count =
        report.count + sections.refusals := by
  have hopening := headerOf?_of_mem_contents sections.headerIn?_opening
  obtain ⟨hstate, hrefused⟩ := row_outside label #[] hopening
  obtain ⟨hblocks, hcounts⟩ :=
    read_blocks label { closed := #[], scope := .outside, state := () } sections.blocks
  have hcontents : (Text.contentLines sections.text).map (·.2) =
      contents sections.opening ++ contents (sections.blocks.flatMap Block.lines) := by
    rw [Text.map_snd_contentLines, text, String.toList_ofList, Text.linesWithEnds_flatten h, lines,
      List.filterMap_append]
    rfl
  simp only [loadMapping_eq_readText, Noted.value_bind, Noted.value_pure,
    LineReader.value_readText, LineReader.run_eq_foldl, Report.count, Array.size_append,
    List.size_toArray, LineReader.length_refused, hcontents, List.foldl_append,
    LineReader.refusals_append]
  rw [hstate, hrefused, hblocks, hcounts]
  exact ⟨rfl, rfl⟩

end Sections

end NameCarry
