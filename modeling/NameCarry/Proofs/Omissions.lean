import NameCarry.Proofs.Accounts
import NameCarry.Proofs.Sections

/-!
# Lines that can be taken out

A line that carries no content leaves a reading where it was, and so does a line that is reported.
So both can be taken out of a text: a reading of the lines that are left comes to the same state and
uses the same lines (`LineReader.filter_of_used`). A transfer whose inputs lose such lines has the
same outcome, up to the numbers of lines that were left out, and each of these is less by the number
of reported lines that are gone (`Transfer.run_withoutLines`).
-/

namespace NameCarry

/-! ## Texts without some of their lines -/

namespace Text

/-- The text without the lines whose numbers are dropped. Their ends go with them. -/
def withoutLines (drop : Nat → Bool) (text : String) : String :=
  String.ofList ((((linesWithEnds text.toList).zipIdx 1).filter (!drop ·.2)).map (·.1)).flatten

theorem pairwise_linesWithEnds (text : List Char) :
    (linesWithEnds text).Pairwise fun raw _ => IsEnded raw := by
  refine linesWithEnds_induction (motive := fun raws => raws.Pairwise fun raw _ => IsEnded raw)
    .nil ?_ ?_ ?_ text
  · intro raws ih
    exact List.pairwise_cons.2 ⟨fun _ _ => ⟨[], List.not_mem_nil, rfl⟩, ih⟩
  · intro c hc
    exact List.pairwise_singleton ..
  · intro c line rest hc ih
    obtain ⟨hline, hrest⟩ := List.pairwise_cons.1 ih
    refine List.pairwise_cons.2 ⟨fun other hother => ?_, hrest⟩
    obtain ⟨body, hbody, rfl⟩ := hline other hother
    exact ⟨c :: body, List.not_mem_cons_of_ne_of_not_mem (Ne.symm hc) hbody, rfl⟩

theorem ne_nil_of_mem_linesWithEnds {text : List Char} : ∀ raw ∈ linesWithEnds text, raw ≠ [] := by
  refine linesWithEnds_induction (motive := fun raws => ∀ raw ∈ raws, raw ≠ [])
    (List.forall_mem_nil _) ?_ ?_ ?_ text
  · intro raws ih
    exact List.forall_mem_cons.2 ⟨List.cons_ne_nil _ _, ih⟩
  · intro c hc
    exact List.forall_mem_singleton.2 (List.cons_ne_nil _ _)
  · intro c line rest hc ih
    obtain ⟨-, hrest⟩ := List.forall_mem_cons.1 ih
    exact List.forall_mem_cons.2 ⟨List.cons_ne_nil _ _, hrest⟩

theorem linesWithEnds_of_not_mem {line : List Char} (hne : line ≠ []) (h : '\n' ∉ line) :
    linesWithEnds line = [line] := by
  induction line with
  | nil => exact absurd rfl hne
  | cons c cs ih =>
    obtain ⟨hc, hcs⟩ := not_or.1 (mt List.mem_cons.2 h)
    cases cs with
    | nil => rw [linesWithEnds, List.foldr_cons, List.foldr_nil, consLine, if_neg (Ne.symm hc)]
    | cons d cs =>
      have hrest : List.foldr consLine [] (d :: cs) = [d :: cs] := ih (List.cons_ne_nil _ _) hcs
      rw [linesWithEnds, List.foldr_cons, hrest, consLine, if_neg (Ne.symm hc)]

/-- A row of characters that is not empty is one line if a line feed is at its end only. -/
theorem linesWithEnds_singleton {raw : List Char} (hne : raw ≠ []) (h : '\n' ∉ raw.dropLast) :
    linesWithEnds raw = [raw] := by
  have hraw : raw.dropLast ++ [raw.getLast hne] = raw := List.dropLast_append_getLast hne
  by_cases hend : raw.getLast hne = '\n'
  · rw [hend] at hraw
    rw [← hraw, linesWithEnds_append_cons h]
    rfl
  · refine linesWithEnds_of_not_mem hne fun hfeed => ?_
    rw [← hraw] at hfeed
    rcases List.mem_append.1 hfeed with hbody | hlast
    · exact h hbody
    · exact hend (List.mem_singleton.1 hlast).symm

/-- Some lines of a text, put together, are the lines of the text that they make up. -/
theorem linesWithEnds_flatten_of_sublist {text : List Char} {raws : List (List Char)}
    (h : raws.Sublist (linesWithEnds text)) : linesWithEnds raws.flatten = raws := by
  refine linesWithEnds_flatten_of_pairwise ((pairwise_linesWithEnds text).sublist h) ?_
  intro raw hraw
  exact linesWithEnds_singleton (ne_nil_of_mem_linesWithEnds raw (h.subset hraw))
    (not_mem_dropLast_of_mem_linesWithEnds raw (h.subset hraw))

theorem contentLines_eq_filterMap (text : String) :
    contentLines text = ((linesWithEnds text.toList).zipIdx 1).filterMap fun entry =>
      (content? entry.1).map fun line => (entry.2, line) := by
  unfold contentLines linesOf lines
  rw [List.map_map, List.zipIdx_map, List.filterMap_map]
  apply List.filterMap_congr
  rintro ⟨raw, number⟩ -
  simp only [Function.comp, Prod.map, content?, id]
  split <;> rfl

/-- The content lines that are left are the same ones, in the same order. Their numbers differ. -/
theorem map_snd_contentLines_withoutLines (drop : Nat → Bool) (text : String) :
    (contentLines (withoutLines drop text)).map (·.2) =
      ((contentLines text).filter (!drop ·.1)).map (·.2) := by
  have hsublist : ((((linesWithEnds text.toList).zipIdx 1).filter (!drop ·.2)).map (·.1)).Sublist
      (linesWithEnds text.toList) := by
    have hmap := (List.filter_sublist (l := (linesWithEnds text.toList).zipIdx 1)
      (p := (!drop ·.2))).map (·.1)
    rwa [List.zipIdx_map_fst] at hmap
  rw [map_snd_contentLines, withoutLines, String.toList_ofList,
    linesWithEnds_flatten_of_sublist hsublist, contentLines_eq_filterMap, List.filterMap_map,
    List.filterMap_filter, List.filter_filterMap, List.map_filterMap]
  apply List.filterMap_congr
  rintro ⟨raw, number⟩ -
  cases hcontent : content? raw with
  | none => simp [hcontent]
  | some line => cases hdrop : drop number <;> simp [hcontent, hdrop, Option.filter]

end Text

/-! ## Reading without some of the lines -/

namespace LineReader

variable {σ : Type} {reader : LineReader σ} {state : σ} {lines : List (Nat × String)}

theorem mem_of_mem_used {line : Nat × String} (h : line ∈ reader.used state lines) :
    line ∈ lines := by
  induction lines generalizing state with
  | nil => exact h
  | cons other lines ih =>
    cases hread : reader state other.2 with
    | ok moved =>
      simp only [used, hread] at h
      rcases List.mem_cons.1 h with rfl | hmem
      · exact List.mem_cons_self ..
      · exact List.mem_cons_of_mem _ (ih hmem)
    | error fault =>
      simp only [used, hread] at h
      exact List.mem_cons_of_mem _ (ih h)

theorem mem_of_mem_refused {skipped : SkippedLine} (h : skipped ∈ reader.refused state lines) :
    (skipped.number, skipped.raw) ∈ lines := by
  induction lines generalizing state with
  | nil => cases h
  | cons other lines ih =>
    cases hread : reader state other.2 with
    | ok moved =>
      simp only [refused, hread] at h
      exact List.mem_cons_of_mem _ (ih h)
    | error fault =>
      simp only [refused, hread] at h
      rcases List.mem_cons.1 h with rfl | hmem
      · exact List.mem_cons_self ..
      · exact List.mem_cons_of_mem _ (ih hmem)

/-- No line is used and refused, so the numbers of these lines differ. -/
theorem number_ne_of_mem (hlines : lines.Pairwise fun line other => line.1 < other.1)
    {line : Nat × String} (hused : line ∈ reader.used state lines) {skipped : SkippedLine}
    (hrefused : skipped ∈ reader.refused state lines) : skipped.number ≠ line.1 := by
  induction lines generalizing state with
  | nil => cases hused
  | cons other lines ih =>
    obtain ⟨hother, hrest⟩ := List.pairwise_cons.1 hlines
    cases hread : reader state other.2 with
    | ok moved =>
      simp only [used, refused, hread] at hused hrefused
      rcases List.mem_cons.1 hused with rfl | hmem
      · exact Nat.ne_of_gt (hother _ (mem_of_mem_refused hrefused))
      · exact ih hrest hmem hrefused
    | error fault =>
      simp only [used, refused, hread] at hused hrefused
      rcases List.mem_cons.1 hrefused with rfl | hmem
      · exact Nat.ne_of_lt (hother _ (mem_of_mem_used hused))
      · exact ih hrest hused hmem

/-- Of the lines that are refused, any may be left out. The reading is the same, and the others are
refused as before. -/
theorem filter_of_used {keep : Nat × String → Bool}
    (h : ∀ line ∈ reader.used state lines, keep line) :
    reader.run state (lines.filter keep) = reader.run state lines ∧
      reader.used state (lines.filter keep) = reader.used state lines ∧
      reader.refused state (lines.filter keep) =
        (reader.refused state lines).filter fun skipped => keep (skipped.number, skipped.raw) := by
  induction lines generalizing state with
  | nil => exact ⟨rfl, rfl, rfl⟩
  | cons line lines ih =>
    cases hread : reader state line.2 with
    | ok moved =>
      -- The line is used, so it is kept, and the reading goes on behind it.
      simp only [used, hread] at h
      obtain ⟨hline, hlines⟩ := List.forall_mem_cons.1 h
      obtain ⟨hrun, hused, hrefused⟩ := ih hlines
      rw [List.filter_cons_of_pos hline, run_cons, run_cons, next_of_ok hread]
      simp only [used, refused, hread]
      exact ⟨hrun, congrArg (line :: ·) hused, hrefused⟩
    | error fault =>
      -- The line leaves the state as it is, kept or not.
      simp only [used, hread] at h
      obtain ⟨hrun, hused, hrefused⟩ := ih h
      rw [run_cons, next_of_error hread]
      by_cases hkeep : keep line
      · rw [List.filter_cons_of_pos hkeep, run_cons, next_of_error hread]
        simp only [used, refused, hread]
        refine ⟨hrun, hused, ?_⟩
        rw [hrefused, List.filter_cons, if_pos hkeep]
      · rw [List.filter_cons_of_neg hkeep]
        simp only [used, refused, hread]
        refine ⟨hrun, hused, ?_⟩
        rw [hrefused, List.filter_cons, if_neg hkeep]

end LineReader

/-- Whether the line with the given number, if the text has so many, does not count: it carries no
content, or it was left out. -/
def Removable (text : String) (skipped : List SkippedLine) (number : Nat) : Prop :=
  ∀ line, (line, number) ∈ (Text.linesOf text).zipIdx 1 →
    Text.isIgnored line ∨ ∃ other ∈ skipped, other.number = number

instance (text : String) (skipped : List SkippedLine) (number : Nat) :
    Decidable (Removable text skipped number) :=
  decidable_of_iff (∀ entry ∈ (Text.linesOf text).zipIdx 1, entry.2 = number →
      Text.isIgnored entry.1 ∨ ∃ other ∈ skipped, other.number = number)
    ⟨fun h line hline => h (line, number) hline rfl,
      fun h entry hentry heq => h entry.1 (heq ▸ hentry)⟩

namespace LineReader

variable {σ : Type} {reader : LineReader σ} {start : σ} {text : String} {drop : Nat → Bool}

section Removable

variable (h : ∀ number, drop number →
  Removable text (reader.refused start (Text.contentLines text)) number)

include h

theorem keeps_used : ∀ line ∈ reader.used start (Text.contentLines text), !drop line.1 := by
  intro line hused
  rw [Bool.not_eq_true']
  by_contra hdrop
  rw [Bool.not_eq_false] at hdrop
  have hline := Text.mem_contentLines_iff.1 (mem_of_mem_used hused)
  obtain ⟨hnumber, hget, hcontent⟩ := hline
  have hmem : (line.2, line.1) ∈ (Text.linesOf text).zipIdx 1 :=
    List.mk_mem_zipIdx_iff_le_and_getElem?_sub.2 ⟨hnumber, hget⟩
  rcases h line.1 hdrop line.2 hmem with hignored | ⟨skipped, hskipped, heq⟩
  · rw [hcontent] at hignored
    cases hignored
  · exact number_ne_of_mem (Text.pairwise_contentLines text) hused hskipped heq

theorem run_of_removable :
    reader.run start (Text.contentLines (Text.withoutLines drop text)) =
      reader.run start (Text.contentLines text) := by
  obtain ⟨hrun, -, -⟩ := filter_of_used (keeps_used h)
  rw [run_eq_foldl, Text.map_snd_contentLines_withoutLines, ← run_eq_foldl, hrun]

theorem length_refused_of_removable :
    (reader.refused start (Text.contentLines (Text.withoutLines drop text))).length =
      (reader.refused start (Text.contentLines text)).countP (!drop ·.number) := by
  obtain ⟨-, -, hrefused⟩ := filter_of_used (keeps_used h)
  rw [length_refused, Text.map_snd_contentLines_withoutLines, ← length_refused, hrefused,
    List.countP_eq_length_filter]

theorem length_used_of_removable :
    (reader.used start (Text.contentLines (Text.withoutLines drop text))).length =
      (reader.used start (Text.contentLines text)).length := by
  obtain ⟨-, hused, hrefused⟩ := filter_of_used (keeps_used h)
  -- Both readings have as many lines, and refuse as many of them.
  have hleft := reader.length_used_add_length_refused start
    (Text.contentLines (Text.withoutLines drop text))
  have hkept := reader.length_used_add_length_refused start
    ((Text.contentLines text).filter (!drop ·.1))
  have hlines := congrArg List.length (Text.map_snd_contentLines_withoutLines drop text)
  rw [List.length_map, List.length_map] at hlines
  rw [length_refused_of_removable h, List.countP_eq_length_filter] at hleft
  simp only [hused, hrefused] at hkept
  omega

end Removable

end LineReader

/-! ## A transfer without some of the lines -/

/-- The inputs whose lines are used or left out. -/
inductive LineInput where
  | oldMapping
  | classLinks
  | memberLinks
  | newMapping
  deriving DecidableEq, Repr

def LineInput.all : List LineInput := [oldMapping, classLinks, memberLinks, newMapping]

/-- The value at the place of such an input. -/
def LineInput.of {α : Type} (inputs : Inputs α) : LineInput → α
  | oldMapping => inputs.oldMapping
  | classLinks => inputs.classLinks
  | memberLinks => inputs.memberLinks
  | newMapping => inputs.newMapping

def LineInput.source : LineInput → String
  | oldMapping => Transfer.oldSource
  | classLinks => Transfer.classLinkSource
  | memberLinks => Transfer.memberLinkSource
  | newMapping => Transfer.newSource

theorem LineInput.source_beq_source (input other : LineInput) :
    (input.source == other.source) = decide (input = other) := by
  cases input <;> cases other <;> decide

def Inputs.withoutLines (drop : LineInput → Nat → Bool) (texts : Inputs String) :
    Inputs String where
  oldMapping := Text.withoutLines (drop .oldMapping) texts.oldMapping
  classLinks := Text.withoutLines (drop .classLinks) texts.classLinks
  memberLinks := Text.withoutLines (drop .memberLinks) texts.memberLinks
  exclusions := texts.exclusions
  newMapping := Text.withoutLines (drop .newMapping) texts.newMapping

theorem skipped_loadMapping (label source text : String) :
    (loadMapping label { source } text).value.2.skipped.toList =
      (plainReader label).refused { state := () } (Text.contentLines text) := by
  simp only [loadMapping_eq_readText, Noted.value_bind, Noted.value_pure,
    LineReader.value_readText, Array.empty_append]

theorem loadMapping_withoutLines {label source text : String} {drop : Nat → Bool}
    (h : ∀ number, drop number →
      Removable text (loadMapping label { source } text).value.2.skipped.toList number) :
    (loadMapping label { source } (Text.withoutLines drop text)).value.1 =
        (loadMapping label { source } text).value.1 ∧
      (loadMapping label { source } (Text.withoutLines drop text)).value.2.count =
        (loadMapping label { source } text).value.2.skipped.countP (!drop ·.number) := by
  rw [skipped_loadMapping] at h
  constructor
  · simp only [loadMapping_eq_readText, Noted.value_bind, Noted.value_pure,
      LineReader.value_readText]
    rw [LineReader.run_of_removable h]
  · rw [Report.count, ← Array.length_toList, skipped_loadMapping, ← Array.countP_toList,
      skipped_loadMapping]
    exact LineReader.length_refused_of_removable h

namespace Transfer

/-- The report of a transfer on one of its inputs. -/
def report (settings : Settings) (texts : Inputs String) : LineInput → Report
  | .oldMapping => (loadMapping oldLabel { source := oldSource } texts.oldMapping).value.2
  | .classLinks => (classStage settings texts).2.2
  | .memberLinks => (memberStage settings texts).report
  | .newMapping => (carryStage settings texts).2.2

theorem lineErrors_eq_map (settings : Settings) (texts : Inputs String) :
    (run settings texts).value.summary.lineErrors =
      LineInput.all.map fun input => (input.source, (report settings texts input).count) := by
  rw [lineErrors_run]
  rfl

theorem lookup_lineErrors (settings : Settings) (texts : Inputs String) (input : LineInput) :
    (run settings texts).value.summary.lineErrors.lookup input.source =
      some (report settings texts input).count := by
  rw [lineErrors_eq_map]
  cases input <;> simp [LineInput.all, List.lookup_cons, LineInput.source_beq_source]

theorem linkedOld_eq_value (settings : Settings) (texts : Inputs String) :
    linkedOld settings texts =
      ((Registry.classReader.run (.ofClasses (oldClasses texts))
        (Text.contentLines texts.classLinks)).linkAnchors settings.anchors).value.1 := by
  rw [linkedOld_eq, classLinkList, Registry.linkAll_append, ← Registry.value_linkAnchors,
    ← Registry.run_classReader]

section Removable

variable {settings : Settings} {texts : Inputs String} {drop : LineInput → Nat → Bool}
  (h : ∀ input number, drop input number →
    Removable (input.of texts) (report settings texts input).skipped.toList number)

include h

theorem oldClasses_withoutLines : oldClasses (texts.withoutLines drop) = oldClasses texts := by
  have hold := h .oldMapping
  simp only [report, LineInput.of] at hold
  obtain ⟨hclasses, -⟩ := loadMapping_withoutLines hold
  rw [oldClasses, oldClasses, ← hclasses, Inputs.withoutLines]

theorem newClasses_withoutLines : newClasses (texts.withoutLines drop) = newClasses texts := by
  have hnew := h .newMapping
  simp only [report, LineInput.of, carryStage, report_loadCarried _ newLabel newLabel] at hnew
  obtain ⟨hclasses, -⟩ := loadMapping_withoutLines hnew
  rw [newClasses, newClasses, ← hclasses, Inputs.withoutLines]

/-! ### The old build -/

theorem removable_classLinks (number : Nat) (hdrop : drop .classLinks number) :
    Removable texts.classLinks (Registry.classReader.refused (.ofClasses (oldClasses texts))
      (Text.contentLines texts.classLinks)) number := by
  have hlinks := h .classLinks number hdrop
  rw [report, value_classStage] at hlinks
  exact hlinks

theorem removable_memberLinks (number : Nat) (hdrop : drop .memberLinks number) :
    Removable texts.memberLinks (Registry.memberReader.refused (linkedOld settings texts)
      (Text.contentLines texts.memberLinks)) number := by
  have hlinks := h .memberLinks number hdrop
  rw [report, value_memberStage] at hlinks
  exact hlinks

theorem linkedOld_withoutLines :
    linkedOld settings (texts.withoutLines drop) = linkedOld settings texts := by
  have hrun := LineReader.run_of_removable (removable_classLinks h)
  rw [linkedOld_eq_value, linkedOld_eq_value, oldClasses_withoutLines h, Inputs.withoutLines, hrun]

/-- As many class links are carried out, and those that are not dropped are left out. -/
theorem classStage_withoutLines :
    (classStage settings (texts.withoutLines drop)).2.1 = (classStage settings texts).2.1 ∧
      (classStage settings (texts.withoutLines drop)).2.2.count =
        (report settings texts .classLinks).skipped.countP (!drop .classLinks ·.number) := by
  have hlinks := removable_classLinks h
  have hrun := LineReader.run_of_removable hlinks
  have hused := LineReader.length_used_of_removable hlinks
  have hrefused := LineReader.length_refused_of_removable hlinks
  constructor
  · rw [value_classStage, value_classStage, oldClasses_withoutLines h, Inputs.withoutLines, hrun,
      hused]
  · rw [report, value_classStage, value_classStage, oldClasses_withoutLines h, Inputs.withoutLines,
      Report.count, List.size_toArray, hrefused, ← Array.countP_toList]

theorem value_run_old_withoutLines :
    (run settings (texts.withoutLines drop)).value.old = (run settings texts).value.old := by
  have hrun := LineReader.run_of_removable (removable_memberLinks h)
  rw [value_run_old, value_run_old, ← Registry.run_memberReader, ← Registry.run_memberReader,
    linkedOld_withoutLines h, Inputs.withoutLines, hrun]

/-- As many member links are carried out, and those that are not dropped are left out. -/
theorem memberStage_withoutLines :
    (memberStage settings (texts.withoutLines drop)).accepted =
        (memberStage settings texts).accepted ∧
      (memberStage settings (texts.withoutLines drop)).report.count =
        (report settings texts .memberLinks).skipped.countP (!drop .memberLinks ·.number) := by
  have hlinks := removable_memberLinks h
  have hused := LineReader.length_used_of_removable hlinks
  have hrefused := LineReader.length_refused_of_removable hlinks
  constructor
  · rw [value_memberStage, value_memberStage, usedMemberLinks, usedMemberLinks,
      linkedOld_withoutLines h, Inputs.withoutLines, hused]
  · rw [report, value_memberStage, value_memberStage, linkedOld_withoutLines h,
      Inputs.withoutLines, Report.count, List.size_toArray, hrefused, ← Array.countP_toList]

/-! ### The new build -/

theorem value_run_new_withoutLines :
    (run settings (texts.withoutLines drop)).value.new = (run settings texts).value.new := by
  rw [value_run_new, value_run_new, newClasses_withoutLines h, value_run_old_withoutLines h]

/-- The classes are named alike, and as many of them are counted. -/
theorem carryStage_withoutLines :
    (carryStage settings (texts.withoutLines drop)).1 = (carryStage settings texts).1 ∧
      (carryStage settings (texts.withoutLines drop)).2.1 = (carryStage settings texts).2.1 ∧
      (carryStage settings (texts.withoutLines drop)).2.2.count =
        (report settings texts .newMapping).skipped.countP (!drop .newMapping ·.number) := by
  refine ⟨?_, ?_, ?_⟩
  · rw [← classes_run_new, ← classes_run_new, value_run_new_withoutLines h]
  · rw [tally_carryStage, tally_carryStage, value_run_new_withoutLines h,
      value_run_old_withoutLines h, newClasses_withoutLines h]
  · have hnew := h .newMapping
    simp only [report, LineInput.of, carryStage, report_loadCarried _ newLabel newLabel] at hnew
    obtain ⟨-, hcount⟩ := loadMapping_withoutLines hnew
    rw [report, carryStage, carryStage, report_loadCarried _ newLabel newLabel,
      report_loadCarried _ newLabel newLabel, ← hcount, Inputs.withoutLines]

theorem exclusionStage_withoutLines :
    exclusionStage settings (texts.withoutLines drop) = exclusionStage settings texts := by
  rw [exclusionStage, exclusionStage, value_run_old_withoutLines h, value_run_new_withoutLines h,
    Inputs.withoutLines]

theorem count_report_withoutLines (input : LineInput) :
    (report settings (texts.withoutLines drop) input).count =
      (report settings texts input).skipped.countP (!drop input ·.number) := by
  cases input with
  | oldMapping =>
    have hold := h .oldMapping
    simp only [report, LineInput.of] at hold
    obtain ⟨-, hcount⟩ := loadMapping_withoutLines hold
    rw [report, report, ← hcount, Inputs.withoutLines]
  | classLinks => exact (classStage_withoutLines h).2
  | memberLinks => exact (memberStage_withoutLines h).2
  | newMapping => exact (carryStage_withoutLines h).2.2

theorem summary_withoutLines :
    (run settings (texts.withoutLines drop)).value.summary =
      { (run settings texts).value.summary with
        lineErrors := (run settings (texts.withoutLines drop)).value.summary.lineErrors } := by
  obtain ⟨hclasses, -⟩ := classStage_withoutLines h
  obtain ⟨hmembers, -⟩ := memberStage_withoutLines h
  obtain ⟨hnew, htally, -⟩ := carryStage_withoutLines h
  rw [value_run_summary, value_run_summary, oldClasses_withoutLines h, hclasses, hmembers, hnew,
    htally, exclusionStage_withoutLines h]

end Removable

/-- An outcome of a transfer whose inputs lost the lines whose numbers are dropped. -/
structure Thinned (settings : Settings) (texts : Inputs String) (drop : LineInput → Nat → Bool)
    (outcome : Outcome) : Prop where
  /-- What is listed is the same. -/
  classLinks : outcome.classLinks = (run settings texts).value.classLinks
  memberLinks : outcome.memberLinks = (run settings texts).value.memberLinks
  exclusions : outcome.exclusions = (run settings texts).value.exclusions
  /-- So are the builds. -/
  old : outcome.old = (run settings texts).value.old
  new : outcome.new = (run settings texts).value.new
  /-- The summary differs in the numbers of lines that were left out. -/
  summary : outcome.summary =
    { (run settings texts).value.summary with lineErrors := outcome.summary.lineErrors }
  sources : outcome.summary.lineErrors.map (·.1) =
    (run settings texts).value.summary.lineErrors.map (·.1)
  /-- The number of each input is less by the number of its reported lines that are dropped. -/
  lineErrors : ∀ input : LineInput, ∃ before after,
    (run settings texts).value.summary.lineErrors.lookup input.source = some before ∧
      outcome.summary.lineErrors.lookup input.source = some after ∧
      before = (report settings texts input).count ∧
      after + (report settings texts input).skipped.countP (drop input ·.number) = before
  /-- No line is left out if all reported lines are dropped. -/
  noErrors : (∀ input, ∀ skipped ∈ (report settings texts input).skipped,
      drop input skipped.number) →
    ∀ entry ∈ outcome.summary.lineErrors, entry.2 = 0

/-- Lines that carry no content and lines that were reported can be taken out of the inputs of a
transfer. -/
theorem run_withoutLines {settings : Settings} {texts : Inputs String}
    {drop : LineInput → Nat → Bool}
    (h : ∀ input number, drop input number →
      Removable (input.of texts) (report settings texts input).skipped.toList number) :
    Thinned settings texts drop (run settings (texts.withoutLines drop)).value where
  classLinks := by rw [value_run_classLinks, value_run_classLinks, value_run_new_withoutLines h]
  memberLinks := by rw [value_run_memberLinks, value_run_memberLinks, value_run_new_withoutLines h]
  exclusions := by rw [value_run_exclusions, value_run_exclusions, exclusionStage_withoutLines h]
  old := value_run_old_withoutLines h
  new := value_run_new_withoutLines h
  summary := summary_withoutLines h
  sources := by
    rw [lineErrors_run, lineErrors_run]
    simp only [List.map_cons, List.map_nil]
  lineErrors := by
    intro input
    refine ⟨_, _, lookup_lineErrors settings texts input, lookup_lineErrors settings _ input, rfl,
      ?_⟩
    have hparts := @Array.size_eq_countP_add_countP _ (drop input ·.number)
      (report settings texts input).skipped
    simp only [Bool.not_eq_true, Bool.decide_eq_false] at hparts
    rw [count_report_withoutLines h, Report.count, hparts, Nat.add_comm]
  noErrors := by
    intro hall entry hentry
    rw [lineErrors_eq_map] at hentry
    obtain ⟨input, -, rfl⟩ := List.mem_map.1 hentry
    rw [count_report_withoutLines h, Array.countP_eq_zero]
    intro skipped hskipped
    rw [hall input skipped hskipped]
    exact Bool.false_ne_true

/-- A transfer with a line to be left out in each of its inputs. -/
def pondTexts : Inputs String where
  oldMapping := "int lost -> q\nPond -> a:\n# the pond\n murky\n int depth -> b\n"
  classLinks := "a Lake\nq Nowhere\n"
  memberLinks := "Lake b deep\r\n\nLake q lost\n"
  exclusions := "a"
  newMapping := "Pond -> x:\nmurky\n int depth -> y"

/-- The lines of the inputs that do not count. -/
def pondDropped : LineInput → List Nat
  | .oldMapping => [1, 3, 4]
  | .classLinks => [2]
  | .memberLinks => [2, 3]
  | .newMapping => [2]

theorem run_withoutLines_pond :
    (∀ input number, (pondDropped input).contains number →
        Removable (input.of pondTexts) (report { anchors := [] } pondTexts input).skipped.toList
          number) ∧
      Thinned { anchors := [] } pondTexts (fun input number => (pondDropped input).contains number)
        (run { anchors := [] } (pondTexts.withoutLines fun input number =>
          (pondDropped input).contains number)).value := by
  have hold : ∀ number ∈ pondDropped .oldMapping, Removable pondTexts.oldMapping
      (report { anchors := [] } pondTexts .oldMapping).skipped.toList number := by decide +kernel
  have hclasses : ∀ number ∈ pondDropped .classLinks, Removable pondTexts.classLinks
      (report { anchors := [] } pondTexts .classLinks).skipped.toList number := by decide +kernel
  have hmembers : ∀ number ∈ pondDropped .memberLinks, Removable pondTexts.memberLinks
      (report { anchors := [] } pondTexts .memberLinks).skipped.toList number := by decide +kernel
  have hnew : ∀ number ∈ pondDropped .newMapping, Removable pondTexts.newMapping
      (report { anchors := [] } pondTexts .newMapping).skipped.toList number := by decide +kernel
  have h : ∀ input number, (pondDropped input).contains number →
      Removable (input.of pondTexts) (report { anchors := [] } pondTexts input).skipped.toList
        number := by
    intro input number hdrop
    have hmem := List.contains_iff_mem.1 hdrop
    cases input with
    | oldMapping => exact hold number hmem
    | classLinks => exact hclasses number hmem
    | memberLinks => exact hmembers number hmem
    | newMapping => exact hnew number hmem
  exact ⟨h, run_withoutLines h⟩

end Transfer

end NameCarry
