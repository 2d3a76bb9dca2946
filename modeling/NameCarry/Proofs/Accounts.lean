import NameCarry.Proofs.Listings
import NameCarry.Proofs.Rooted
import NameCarry.Proofs.Transfers

/-!
# The counts of a transfer

The summary of a transfer agrees with what was read and with what is written
(`Transfer.accounted_run`). Every line of the inputs is counted once, as used or as left out; and
every name that was carried over is written on one line. That no name of a member is left out from
the listing, as those of unlinked classes would be, is due to the old build being rooted
(`Transfer.rooted_old`).
-/

namespace NameCarry

/-! ## The lengths of listings -/

theorem length_sortLines (lines : List String) : (sortLines lines).length = lines.length :=
  (sortLines_perm lines).length_eq

namespace Registry

variable {registry : Registry}

theorem length_classLinkLines (registry : Registry) :
    registry.classLinkLines.length = linkedClassCount registry.classes := by
  have hline : ∀ cls : ClassDecl, (classLinkLine? cls).isSome = cls.identity.isLinked := by
    intro cls
    rw [classLinkLine?, Option.isSome_map, Identifier.isLinked]
  rw [classLinkLines, length_sortLines, List.length_filterMap_eq_countP, linkedClassCount,
    ← Array.countP_toList]
  simp only [hline]

/-- A rooted class has a line for each of its linked members. -/
theorem length_memberLinksOf (registry : Registry) {cls : ClassDecl} (h : cls.Rooted) :
    (registry.memberLinksOf cls).length = cls.linkedMembers := by
  unfold memberLinksOf ClassDecl.linkedMembers
  cases hname : cls.identity.community with
  | some owner =>
    simp only [List.length_append, List.length_filterMap_eq_countP, methodLinkLine?,
      fieldLinkLine?, Option.isSome_map]
    exact Nat.add_comm _ _
  | none =>
    -- The class is not linked, so no member of it is.
    have hnone : ∀ id ∈ cls.fields ++ cls.methods, ¬ id.isLinked := by
      intro id hid hlinked
      have hcls := h id hid hlinked
      rw [Identifier.isLinked, hname] at hcls
      cases hcls
    have hfields : cls.fields.countP (·.isLinked) = 0 :=
      List.countP_eq_zero.2 fun id hid => hnone id (List.mem_append_left _ hid)
    have hmethods : cls.methods.countP (·.isLinked) = 0 :=
      List.countP_eq_zero.2 fun id hid => hnone id (List.mem_append_right _ hid)
    rw [hfields, hmethods]
    rfl

theorem length_memberLinkLines (h : registry.Rooted) :
    registry.memberLinkLines.length = linkedMemberCount registry.classes := by
  rw [memberLinkLines, length_sortLines, List.length_flatMap, linkedMemberCount]
  congr 1
  apply List.map_congr_left
  intro cls hcls
  exact registry.length_memberLinksOf (h cls (Array.mem_toList_iff.1 hcls))

/-! ## Anchors that are classes -/

/-- Whether a name is that of a class, by the table of obfuscated names. -/
def hasObfuscated (registry : Registry) (name : String) : Bool :=
  registry.byObfuscated[name]?.isSome

theorem Indexed.hasObfuscated (h : registry.Indexed) (name : String) :
    registry.hasObfuscated name = registry.classes.any (·.identity.obfuscated == name) := by
  rw [Registry.hasObfuscated, h.byObfuscated, Array.findIdx?_isSome]

theorem hasObfuscated_linkAll (registry : Registry) (links : List ClassLink) (name : String) :
    (registry.linkAll links).hasObfuscated name = registry.hasObfuscated name := by
  unfold linkAll
  induction links generalizing registry with
  | nil => rfl
  | cons link links ih =>
    rw [List.foldl_cons, ih]
    refine orStay_induction
      (motive := fun linked => linked.hasObfuscated name = registry.hasObfuscated name)
      rfl fun linked hlink => ?_
    obtain ⟨number, -, rfl⟩ := linkClass_eq_ok_iff.1 hlink
    rfl

theorem hasObfuscated_withMembers (registry : Registry) (names : MemberSite → Option String)
    (name : String) :
    (registry.withMembers names).hasObfuscated name = registry.hasObfuscated name :=
  rfl

/-- An anchor is counted if it is the name of a class, and leaves the obfuscated names as they are.
-/
theorem value_anchor (registry : Registry) (count : Nat) (name : String) :
    ∃ linked, (anchor (registry, count) name).value =
        (linked, count + if registry.hasObfuscated name then 1 else 0) ∧
      linked.byObfuscated = registry.byObfuscated := by
  cases hfind : registry.byObfuscated[name]? with
  | some number =>
    have hlink : registry.linkClass name name = .ok (registry.nameClass number name) :=
      linkClass_eq_ok_iff.2 ⟨number, hfind, rfl⟩
    exact ⟨registry.nameClass number name, by simp [anchor_eq, hlink, hasObfuscated, hfind], rfl⟩
  | none =>
    have hlink : registry.linkClass name name = .error (.unknownClass "obfuscated" name) := by
      rw [linkClass, hfind]
    exact ⟨registry, by simp [anchor_eq, hlink, hasObfuscated, hfind], rfl⟩

/-- The anchors that are counted are the names of classes. -/
theorem value_linkAnchors_snd (registry : Registry) (anchors : List String) :
    (registry.linkAnchors anchors).value.2 = anchors.countP registry.hasObfuscated := by
  -- Links leave the obfuscated names as they are, so the count goes on as it began.
  suffices ∀ (linked : Registry) (count : Nat), linked.byObfuscated = registry.byObfuscated →
      (anchors.foldl (fun linked name => (anchor linked name).value) (linked, count)).2 =
        count + anchors.countP registry.hasObfuscated by
    rw [linkAnchors, Noted.value_foldl, this registry 0 rfl, Nat.zero_add]
  induction anchors with
  | nil => intro linked count _; rfl
  | cons name anchors ih =>
    intro linked count hsame
    obtain ⟨next, hnext, htable⟩ := value_anchor linked count name
    have hname : linked.hasObfuscated name = registry.hasObfuscated name := by
      rw [hasObfuscated, hasObfuscated, hsame]
    rw [List.foldl_cons, hnext, ih next _ (htable.trans hsame), hname, List.countP_cons]
    omega

end Registry

/-! ## Reports keep their source -/

theorem source_loadMapping (label : String) (report : Report) (text : String) :
    (loadMapping label report text).value.2.source = report.source := by
  simp only [loadMapping_eq_readText, Noted.value_bind, Noted.value_pure, LineReader.value_readText]

namespace Transfer

variable (settings : Settings) (texts : Inputs String)

/-! ## The old build -/

/-- The links of a transfer, as operations on the old build. -/
def linkOps : List LinkOp :=
  (Text.contentLines texts.classLinks).map (fun line => .classLine line.2) ++
    .anchors settings.anchors ::
      (Text.contentLines texts.memberLinks).map fun line => .memberLine line.2

theorem run_map_line {reader : LineReader Registry} {op : String → LinkOp}
    (h : ∀ registry line, (op line).apply registry = reader.next registry line)
    (registry : Registry) (lines : List (Nat × String)) :
    LinkOp.run registry (lines.map fun line => op line.2) = reader.run registry lines := by
  rw [LinkOp.run, List.foldl_map, LineReader.run]
  simp only [h]

theorem apply_classLine_eq_next (registry : Registry) (line : String) :
    (LinkOp.classLine line).apply registry = Registry.classReader.next registry line := by
  rw [LinkOp.apply_classLine]
  unfold LineReader.next Registry.classReader
  cases registry.linkClassLine line <;> rfl

theorem apply_memberLine_eq_next (registry : Registry) (line : String) :
    (LinkOp.memberLine line).apply registry = Registry.memberReader.next registry line := by
  rw [LinkOp.apply_memberLine]
  unfold LineReader.next Registry.memberReader
  cases registry.linkMemberLine line <;> rfl

/-- The old build in the end has gone through the links of the transfer. -/
theorem value_run_old_eq_linkRun :
    (run settings texts).value.old =
      LinkOp.run (.ofClasses (oldClasses texts)) (linkOps settings texts) := by
  rw [value_run_old, ← Registry.run_memberReader, linkedOld_eq, classLinkList,
    Registry.linkAll_append, ← Registry.run_classReader, ← Registry.value_linkAnchors,
    ← run_map_line apply_classLine_eq_next, ← run_map_line apply_memberLine_eq_next]
  simp only [LinkOp.run, linkOps, List.foldl_append, List.foldl_cons]
  rfl

theorem indexed_old : (run settings texts).value.old.Indexed := by
  rw [value_run_old_eq_linkRun]
  exact (Registry.indexed_ofClasses _).run _

theorem rooted_old : (run settings texts).value.old.Rooted := by
  rw [value_run_old_eq_linkRun]
  refine Registry.Rooted.run ?_ (Registry.indexed_ofClasses _) _
  intro cls hcls
  exact (declared_of_mem_loadMapping hcls).rooted

theorem hasObfuscated_old (name : String) :
    (Registry.ofClasses (oldClasses texts)).hasObfuscated name =
      (run settings texts).value.old.classes.any (·.identity.obfuscated == name) := by
  rw [← (indexed_old settings texts).hasObfuscated, value_run_old,
    Registry.hasObfuscated_withMembers, linkedOld_eq, Registry.hasObfuscated_linkAll]

/-! ## The new build -/

/-- The new build is rooted, as it is named after a rooted build. -/
theorem rooted_new : (run settings texts).value.new.Rooted := by
  rw [value_run_new]
  intro cls hcls
  obtain ⟨declared, hmem, rfl⟩ := Array.mem_map.1 hcls
  exact (rooted_old settings texts).carryDecl (declared_of_mem_loadMapping hmem)

/-- What was counted as carried is what is named in the new build. -/
theorem tally_carryStage :
    (carryStage settings texts).2.1 =
      { classes := linkedClassCount (run settings texts).value.new.classes
        members := linkedMemberCount (run settings texts).value.new.classes
        retyped := ((newClasses texts).toList.map
          (·.retypedIn (run settings texts).value.old.classes)).sum } := by
  have htally := tally_loadCarried_of_indexed (indexed_old settings texts) newLabel newLabel
    { source := newSource } texts.newMapping
  rw [classes_run_new]
  exact htally

/-! ## Lines that are used and lines that are left out -/

theorem linkedClasses_add_count :
    (classStage settings texts).2.1 + (classStage settings texts).2.2.count =
      (Text.contentLines texts.classLinks).length +
        settings.anchors.countP fun name =>
          (run settings texts).value.old.classes.any (·.identity.obfuscated == name) := by
  have hlength := Registry.classReader.length_used_add_length_refused
    (.ofClasses (oldClasses texts)) (Text.contentLines texts.classLinks)
  have hanchors : (Registry.classReader.run (.ofClasses (oldClasses texts))
        (Text.contentLines texts.classLinks)).hasObfuscated =
      fun name => (run settings texts).value.old.classes.any (·.identity.obfuscated == name) := by
    funext name
    rw [← hasObfuscated_old, Registry.run_classReader, Registry.hasObfuscated_linkAll]
  rw [value_classStage, Registry.value_linkAnchors_snd, hanchors]
  simp only [Report.count, List.size_toArray]
  omega

theorem linkedMembers_add_count :
    (memberStage settings texts).accepted + (memberStage settings texts).report.count =
      (Text.contentLines texts.memberLinks).length := by
  have hlength := Registry.memberReader.length_used_add_length_refused
    (linkedOld settings texts) (Text.contentLines texts.memberLinks)
  rw [value_memberStage]
  simp only [Report.count, List.size_toArray, usedMemberLinks]
  exact hlength

theorem source_carryStage : (carryStage settings texts).2.2.source = newSource := by
  rw [carryStage, report_loadCarried _ newLabel newLabel, source_loadMapping]

/-- The summary has the number of skipped lines of each input under the name of the input. -/
theorem lineErrors_run :
    (run settings texts).value.summary.lineErrors =
      [(oldSource, (loadMapping oldLabel { source := oldSource } texts.oldMapping).value.2.count),
        (classLinkSource, (classStage settings texts).2.2.count),
        (memberLinkSource, (memberStage settings texts).report.count),
        (newSource, (carryStage settings texts).2.2.count)] := by
  have hclasses : (classStage settings texts).2.2.source = classLinkSource := by
    rw [value_classStage]
  have hmembers : (memberStage settings texts).report.source = memberLinkSource := by
    rw [value_memberStage]
  rw [value_run_summary]
  simp only [List.map_cons, List.map_nil, source_loadMapping, hclasses, hmembers,
    source_carryStage]

/-! ## The summary -/

/-- The counts of an outcome agree with the inputs and with what is written. -/
structure Accounted (settings : Settings) (texts : Inputs String) (outcome : Outcome) : Prop where
  /-- Each class that got a name has a line. -/
  classLinks : outcome.classLinks.length = outcome.summary.tally.classes
  classNames : outcome.summary.tally.classes = linkedClassCount outcome.new.classes
  /-- Each member that got a name has a line. -/
  memberLinks : outcome.memberLinks.length = outcome.summary.tally.members
  memberNames : outcome.summary.tally.members = linkedMemberCount outcome.new.classes
  /-- Each member link was carried out or left out. -/
  memberLines : ∃ skipped, outcome.summary.lineErrors.lookup memberLinkSource = some skipped ∧
    outcome.summary.linkedMembers + skipped = (Text.contentLines texts.memberLinks).length
  /-- Each class link was carried out or left out, and each anchor that is a class was linked. -/
  classLines : ∃ skipped, outcome.summary.lineErrors.lookup classLinkSource = some skipped ∧
    outcome.summary.linkedClasses + skipped =
      (Text.contentLines texts.classLinks).length +
        settings.anchors.countP fun name =>
          outcome.old.classes.any (·.identity.obfuscated == name)
  /-- Each line of the exclusion list was rewritten or kept. -/
  exclusions : outcome.summary.rewrittenExclusions + outcome.summary.keptExclusions =
    outcome.exclusions.length
  exclusionLines : outcome.exclusions.length = (Text.linesOf texts.exclusions).length

theorem accounted_run : Accounted settings texts (run settings texts).value := by
  have htally : (run settings texts).value.summary.tally = (carryStage settings texts).2.1 := by
    rw [value_run_summary]
  have hexclusions : (run settings texts).value.exclusions.length =
      (exclusionStage settings texts).length := by
    rw [value_run_exclusions, Exclusion.listing, length_sortLines, List.length_map]
  constructor
  · rw [htally, tally_carryStage, value_run_classLinks, Registry.length_classLinkLines]
  · rw [htally, tally_carryStage]
  · rw [htally, tally_carryStage, value_run_memberLinks,
      Registry.length_memberLinkLines (rooted_new settings texts)]
  · rw [htally, tally_carryStage]
  · refine ⟨(memberStage settings texts).report.count, ?_, ?_⟩
    · have hold : (memberLinkSource == oldSource) = false := by decide
      have hclass : (memberLinkSource == classLinkSource) = false := by decide
      rw [lineErrors_run, List.lookup_cons, hold, List.lookup_cons, hclass, List.lookup_cons_self]
    · rw [value_run_summary]
      exact linkedMembers_add_count settings texts
  · refine ⟨(classStage settings texts).2.2.count, ?_, ?_⟩
    · have hold : (classLinkSource == oldSource) = false := by decide
      rw [lineErrors_run, List.lookup_cons, hold, List.lookup_cons_self]
    · rw [value_run_summary]
      exact linkedClasses_add_count settings texts
  · have hparts := List.length_eq_countP_add_countP Exclusion.isRewritten
      (l := exclusionStage settings texts)
    simp only [Bool.not_eq_true, Bool.decide_eq_false] at hparts
    rw [value_run_summary, hexclusions]
    exact hparts.symm
  · rw [hexclusions, exclusionStage, Exclusion.ofText, List.length_map]

end Transfer

end NameCarry
