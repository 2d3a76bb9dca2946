import NameCarry.Proofs.Accounts
import NameCarry.Proofs.Reordering
import NameCarry.Proofs.Sections

/-!
# Mappings in another order

The blocks of a mapping may be put in another order, and so may the lines behind each header
(`Sections.Rearranged`). The mapping then declares the same build in another order. A transfer to
that build has the same listings and the same summary, unless two classes of the build share a human
name (`Transfer.run_rearranged`): which of them is found by the name depends on their order.
-/

namespace NameCarry

/-! ## Sections in another order -/

/-- Two blocks have the same header and the same lines behind it, up to their order. -/
structure Block.Shuffled (block other : Block) : Prop where
  /-- The header is the same. -/
  header : block.header = other.header
  /-- The lines behind it are the same. -/
  members : block.members.Perm other.members

instance (block other : Block) : Decidable (block.Shuffled other) :=
  decidable_of_iff (block.header = other.header ∧ block.members.Perm other.members)
    ⟨fun h => ⟨h.1, h.2⟩, fun h => ⟨h.header, h.members⟩⟩

namespace Block.Shuffled

variable {block other : Block} (h : block.Shuffled other)

include h

theorem contents_perm : (contents block.members).Perm (contents other.members) :=
  h.members.filterMap _

theorem declared? : Option.Rel ClassDecl.Shuffled block.declared? other.declared? := by
  unfold Block.declared?
  rw [h.header]
  cases headerIn? other.header with
  | none => exact .none
  | some names =>
    obtain ⟨human, obfuscated⟩ := names
    simp only [Option.bind_some]
    split
    · exact .none
    · exact .some ⟨rfl, h.contents_perm.filterMap _, h.contents_perm.filterMap _⟩

theorem refusals : block.refusals = other.refusals :=
  h.contents_perm.countP_eq _

end Block.Shuffled

namespace Sections

/-- The sections of two mappings have the same lines before the first header, and the same blocks,
up to the order of the blocks and of the lines in each of them. -/
structure Rearranged (sections others : Sections) : Prop where
  /-- The lines before the first header are the same. -/
  opening : sections.opening = others.opening
  /-- The blocks are the same. -/
  blocks : Reordered Block.Shuffled sections.blocks others.blocks

namespace Rearranged

variable {sections others : Sections} (h : sections.Rearranged others)

include h

theorem lines_perm : sections.lines.Perm others.lines := by
  rw [Sections.lines, Sections.lines, h.opening]
  apply List.Perm.append_left
  apply h.blocks.flatMap_perm
  intro block other hblock
  rw [Block.lines, Block.lines, hblock.header]
  exact hblock.members.cons _

theorem declared : Reordered ClassDecl.Shuffled sections.declared others.declared :=
  h.blocks.filterMap fun _ _ hblock => hblock.declared?

theorem refusals : sections.refusals = others.refusals := by
  rw [Sections.refusals, Sections.refusals, h.opening,
    h.blocks.sum_eq fun _ _ hblock => hblock.refusals]

end Rearranged

theorem isEnded_ofText {text : String}
    (hends : ∀ raw ∈ Text.linesWithEnds text.toList, raw.getLast? = some '\n') :
    ∀ raw ∈ (ofText text).lines, Text.IsEnded raw := by
  intro raw hraw
  rw [ofText, lines_ofLines] at hraw
  exact Text.isEnded_of_mem_linesWithEnds hraw (hends raw hraw)

/-- The classes that are declared have the human names that the lines open. -/
theorem human_declared (sections : Sections) :
    sections.declared.map (·.identity.human) =
      (sections.lines.filterMap openedIn?).map some := by
  -- No class is opened by a line that is no header.
  have hclosed : ∀ raws : List (List Char), (∀ raw ∈ raws, headerIn? raw = none) →
      raws.filterMap openedIn? = [] := by
    intro raws hraws
    rw [List.filterMap_eq_nil_iff]
    intro raw hraw
    rw [openedIn?, hraws raw hraw, Option.bind_none]
  have hblock : ∀ block : Block,
      (block.declared?.map (·.identity.human)).toList =
        (block.lines.filterMap openedIn?).map some := by
    intro block
    rw [Block.lines, List.filterMap_cons, hclosed _ block.headerIn?_members]
    unfold openedIn? Block.declared?
    cases headerIn? block.header with
    | none => rfl
    | some names =>
      obtain ⟨human, obfuscated⟩ := names
      simp only [Option.bind_some]
      split <;> rfl
  rw [lines, List.filterMap_append, hclosed _ sections.headerIn?_opening, List.nil_append, declared,
    List.map_filterMap, List.filterMap_eq_flatMap_toList, List.filterMap_flatMap,
    List.map_flatMap]
  simp only [hblock]

end Sections

/-! ## A transfer to a build in another order -/

namespace Transfer

variable (settings : Settings) {texts : Inputs String} {sections : Sections}

/-- The inputs with another mapping of the new build. -/
def withNewMapping (texts : Inputs String) (text : String) : Inputs String :=
  { texts with newMapping := text }

@[simp]
theorem newMapping_withNewMapping (text : String) :
    (withNewMapping texts text).newMapping = text :=
  rfl

theorem oldClasses_withNewMapping (text : String) :
    oldClasses (withNewMapping texts text) = oldClasses texts :=
  rfl

theorem linkedOld_withNewMapping (text : String) :
    linkedOld settings (withNewMapping texts text) = linkedOld settings texts := by
  rw [linkedOld, linkedOld, oldClasses_withNewMapping]
  rfl

/-- The old build does not depend on the mapping of the new one. -/
theorem value_run_old_withNewMapping (text : String) :
    (run settings (withNewMapping texts text)).value.old = (run settings texts).value.old := by
  rw [value_run_old, value_run_old, linkedOld_withNewMapping]
  rfl

theorem classStage_withNewMapping (text : String) :
    classStage settings (withNewMapping texts text) = classStage settings texts := by
  rw [classStage, classStage, oldClasses_withNewMapping]
  rfl

theorem memberStage_withNewMapping (text : String) :
    memberStage settings (withNewMapping texts text) = memberStage settings texts := by
  rw [memberStage, memberStage, linkedOld_withNewMapping]
  rfl

/-- The classes of the new build have the human names that the lines of its mapping open. -/
theorem human_newClasses
    (hends : ∀ raw ∈ Text.linesWithEnds texts.newMapping.toList, raw.getLast? = some '\n') :
    (newClasses texts).toList.map (·.identity.human) =
      ((Text.linesWithEnds texts.newMapping.toList).filterMap openedIn?).map some := by
  obtain ⟨hclasses, -⟩ := (Sections.ofText texts.newMapping).value_loadMapping
    (Sections.isEnded_ofText hends) newLabel { source := newSource }
  rw [Sections.text_ofText] at hclasses
  rw [newClasses, hclasses, Sections.human_declared, Sections.ofText, Sections.lines_ofLines]

section Rearranged

variable (hends : ∀ raw ∈ Text.linesWithEnds texts.newMapping.toList, raw.getLast? = some '\n')
  (h : (Sections.ofText texts.newMapping).Rearranged sections)

include hends h

/-- The mapping declares the same build in another order, and as many of its lines are left out. -/
theorem loadMapping_rearranged (label : String) (report : Report) :
    Reordered ClassDecl.Shuffled (loadMapping label report texts.newMapping).value.1.toList
        (loadMapping label report sections.text).value.1.toList ∧
      (loadMapping label report texts.newMapping).value.2.count =
        (loadMapping label report sections.text).value.2.count := by
  have hended := Sections.isEnded_ofText hends
  -- Lines with their ends may be put in any order, and are still the lines of the text.
  have hothers : ∀ raw ∈ sections.lines, Text.IsEnded raw := by
    intro raw hraw
    exact hended raw (h.lines_perm.mem_iff.2 hraw)
  obtain ⟨hclasses, hcount⟩ :=
    (Sections.ofText texts.newMapping).value_loadMapping hended label report
  obtain ⟨hclasses', hcount'⟩ := sections.value_loadMapping hothers label report
  rw [Sections.text_ofText] at hclasses hcount
  rw [hclasses, hclasses', hcount, hcount', h.refusals]
  exact ⟨h.declared, rfl⟩

theorem newClasses_rearranged :
    Reordered ClassDecl.Shuffled (newClasses texts).toList
      (newClasses (withNewMapping texts sections.text)).toList := by
  obtain ⟨hclasses, -⟩ := loadMapping_rearranged hends h newLabel { source := newSource }
  rw [newClasses, newClasses, newMapping_withNewMapping]
  exact hclasses

/-- The new builds are alike if no two classes share a human name. -/
theorem alike_new_rearranged
    (hnames : ((Text.linesWithEnds texts.newMapping.toList).filterMap openedIn?).Nodup) :
    (run settings texts).value.new.Alike
      (run settings (withNewMapping texts sections.text)).value.new := by
  rw [value_run_new, value_run_new, value_run_old_withNewMapping]
  apply Registry.Alike.of_reordered (Registry.indexed_ofClasses _) (Registry.indexed_ofClasses _)
  · rw [Registry.classes_ofClasses, Registry.classes_ofClasses, Array.toList_map, Array.toList_map]
    exact (newClasses_rearranged hends h).map fun _ _ hcls => hcls.carryDecl _
  · -- Carrying leaves the human names as they are.
    have hcarry : ∀ old : Registry, (fun cls : ClassDecl => cls.identity.human) ∘ old.carryDecl =
        fun cls => cls.identity.human := fun _ => rfl
    rw [Registry.classes_ofClasses, Array.toList_map, List.map_map, hcarry,
      human_newClasses hends]
    exact hnames.map fun _ _ => Option.some.inj

/-- As many lines of each input are left out. -/
theorem lineErrors_rearranged :
    (run settings texts).value.summary.lineErrors =
      (run settings (withNewMapping texts sections.text)).value.summary.lineErrors := by
  have hcarry : (carryStage settings texts).2.2.count =
      (carryStage settings (withNewMapping texts sections.text)).2.2.count := by
    obtain ⟨-, hcount⟩ := loadMapping_rearranged hends h newLabel { source := newSource }
    rw [carryStage, carryStage, report_loadCarried _ newLabel newLabel,
      report_loadCarried _ newLabel newLabel, hcount, newMapping_withNewMapping]
  rw [lineErrors_run, lineErrors_run, classStage_withNewMapping, memberStage_withNewMapping, hcarry]
  rfl

theorem tally_rearranged
    (halike : (run settings texts).value.new.Alike
      (run settings (withNewMapping texts sections.text)).value.new) :
    (carryStage settings texts).2.1 =
      (carryStage settings (withNewMapping texts sections.text)).2.1 := by
  have hretyped := (newClasses_rearranged hends h).sum_eq
    fun _ _ hcls => hcls.retypedIn (run settings texts).value.old.classes
  rw [tally_carryStage, tally_carryStage, value_run_old_withNewMapping, hretyped,
    linkedClassCount_eq_of_reordered halike.classes,
    linkedMemberCount_eq_of_reordered halike.classes]

end Rearranged

/-- The order of the classes in the mapping of the new build plays no part for what is listed and
counted, and neither does the order of the lines behind a header, if no two classes share a human
name. -/
theorem run_rearranged
    (hends : ∀ raw ∈ Text.linesWithEnds texts.newMapping.toList, raw.getLast? = some '\n')
    (hnames : ((Text.linesWithEnds texts.newMapping.toList).filterMap openedIn?).Nodup)
    (h : (Sections.ofText texts.newMapping).Rearranged sections) :
    (run settings texts).value.classLinks =
        (run settings (withNewMapping texts sections.text)).value.classLinks ∧
      (run settings texts).value.memberLinks =
        (run settings (withNewMapping texts sections.text)).value.memberLinks ∧
      (run settings texts).value.exclusions =
        (run settings (withNewMapping texts sections.text)).value.exclusions ∧
      (run settings texts).value.summary =
        (run settings (withNewMapping texts sections.text)).value.summary := by
  have halike := alike_new_rearranged settings hends h hnames
  have hexclusions : exclusionStage settings texts =
      exclusionStage settings (withNewMapping texts sections.text) := by
    rw [exclusionStage, exclusionStage, value_run_old_withNewMapping]
    exact halike.ofText _ _
  refine ⟨?_, ?_, ?_, ?_⟩
  · rw [value_run_classLinks, value_run_classLinks, halike.classLinkLines]
  · rw [value_run_memberLinks, value_run_memberLinks, halike.memberLinkLines]
  · rw [value_run_exclusions, value_run_exclusions, hexclusions]
  · have hlines := lineErrors_rearranged settings hends h
    rw [value_run_summary, value_run_summary] at hlines ⊢
    rw [Summary.mk.injEq]
    refine ⟨?_, ?_, ?_, ?_, ?_, ?_, ?_, ?_, ?_, hlines⟩
    · rw [oldClasses_withNewMapping]
    · rw [oldClasses_withNewMapping]
    · rw [classStage_withNewMapping]
    · rw [memberStage_withNewMapping]
    · rw [← classes_run_new, ← classes_run_new, size_eq_of_reordered halike.classes]
    · rw [← classes_run_new, ← classes_run_new, memberCount_eq_of_reordered halike.classes]
    · exact tally_rearranged settings hends h halike
    · rw [hexclusions]
    · rw [hexclusions]

/-- A transfer to a build of two classes. -/
def denTexts : Inputs String where
  oldMapping := "Den -> a:\n int depth -> b\n Fox owner(int) -> c\nFox -> d:\n"
  classLinks := "a Burrow\nd Reynard"
  memberLinks := "Burrow b deep\nBurrow c (I)LReynard; tenant"
  exclusions := "a"
  newMapping := "Den -> x:\n int depth -> y\n Fox owner(int) -> z\nFox -> w:\n"

/-- The other class comes first, and the members of the first one are swapped. -/
def denSections : Sections :=
  .ofText "Fox -> w:\nDen -> x:\n Fox owner(int) -> z\n int depth -> y\n"

theorem run_rearranged_den :
    (∀ raw ∈ Text.linesWithEnds denTexts.newMapping.toList, raw.getLast? = some '\n') ∧
      ((Text.linesWithEnds denTexts.newMapping.toList).filterMap openedIn?).Nodup ∧
      (Sections.ofText denTexts.newMapping).Rearranged denSections ∧
      (run { anchors := [] } denTexts).value.classLinks =
        (run { anchors := [] } (withNewMapping denTexts denSections.text)).value.classLinks ∧
      (run { anchors := [] } denTexts).value.memberLinks =
        (run { anchors := [] } (withNewMapping denTexts denSections.text)).value.memberLinks ∧
      (run { anchors := [] } denTexts).value.exclusions =
        (run { anchors := [] } (withNewMapping denTexts denSections.text)).value.exclusions ∧
      (run { anchors := [] } denTexts).value.summary =
        (run { anchors := [] } (withNewMapping denTexts denSections.text)).value.summary := by
  have hends : ∀ raw ∈ Text.linesWithEnds denTexts.newMapping.toList,
      raw.getLast? = some '\n' := by decide +kernel
  have hnames : ((Text.linesWithEnds denTexts.newMapping.toList).filterMap openedIn?).Nodup := by
    decide +kernel
  have hblocks : List.Forall₂ Block.Shuffled (Sections.ofText denTexts.newMapping).blocks.reverse
      denSections.blocks := by decide +kernel
  have h : (Sections.ofText denTexts.newMapping).Rearranged denSections :=
    { opening := by decide +kernel
      blocks := ⟨_, (List.reverse_perm _).symm, hblocks⟩ }
  exact ⟨hends, hnames, h, run_rearranged { anchors := [] } hends hnames h⟩

end Transfer

end NameCarry
