import NameCarry.Proofs.ClassNames

/-!
# The order of links

A line of links is judged by what the registry holds before all of them: it is carried out, or
refused for the same fault, as if it stood alone (`JudgedAlone`). Only lines that link the same
class, or the same member, get in each other's way, and of these the last one counts. So the lines
of a text may be put in another order as long as such lines keep theirs (`KeepsOrder`), and a text
that is read twice leads to what it leads to when it is read once
(`Registry.linkClasses_independent`, `Registry.linkMembers_independent`).
-/

namespace NameCarry

/-! ## Lists in another order -/

section KeepsOrder

variable {α κ : Type} [DecidableEq κ]

/-- The second list is the first one in another order, and elements with the same key stand in the
same order in both. An element without a key may stand anywhere. -/
structure KeepsOrder (key : α → Option κ) (xs ys : List α) : Prop where
  /-- The elements are the same. -/
  perm : xs.Perm ys
  /-- Those with the same key are in the same order. -/
  order : ∀ k, xs.filter (key · == some k) = ys.filter (key · == some k)

/-- Only keys that occur need be looked at. -/
theorem keepsOrder_iff {key : α → Option κ} {xs ys : List α} :
    KeepsOrder key xs ys ↔ xs.Perm ys ∧
      ∀ x ∈ xs, ∀ k ∈ key x, xs.filter (key · == some k) = ys.filter (key · == some k) := by
  constructor
  · intro h
    exact ⟨h.perm, fun _ _ k _ => h.order k⟩
  · rintro ⟨hperm, horder⟩
    refine ⟨hperm, fun k => ?_⟩
    by_cases hk : ∃ x ∈ xs, key x = some k
    · obtain ⟨x, hx, hkey⟩ := hk
      exact horder x hx k hkey
    · have hnone : ∀ x ∈ xs, ¬ (key x == some k) = true := by
        intro x hx hkey
        exact hk ⟨x, hx, eq_of_beq hkey⟩
      rw [List.filter_eq_nil_iff.2 hnone,
        List.filter_eq_nil_iff.2 fun y hy => hnone y (hperm.mem_iff.2 hy)]

instance [DecidableEq α] (key : α → Option κ) (xs ys : List α) : Decidable (KeepsOrder key xs ys) :=
  decidable_of_iff _ keepsOrder_iff.symm

end KeepsOrder

/-! ## Lines that are judged alone -/

/-- Why a link is refused, if it is. -/
def refusalOf? (result : Except Fault Registry) : Option Fault :=
  match result with
  | .ok _ => none
  | .error fault => some fault

theorem LineReader.refusal?_map_pure (link : Registry → String → Except Fault Registry)
    (registry : Registry) :
    refusal? (fun registry line => (link registry line).map pure) registry =
      fun line => refusalOf? (link registry line) := by
  funext line
  rw [refusal?]
  cases link registry line <;> rfl

/-- The lines of a text that carry content, without their numbers. -/
def Text.rows (text : String) : List String :=
  (contentLines text).map (·.2)

/-- What a text comes to if each of its lines is refused for the fault that `verdict?` has for it,
and carried out if there is none. -/
structure JudgedAlone (verdict? : String → Option Fault) (report : Report) (text : String)
    (pass : Pass Registry) : Prop where
  /-- The lines that are carried out are counted. -/
  accepted : pass.accepted = (Text.rows text).countP fun line => (verdict? line).isNone
  /-- The others are reported. -/
  report : pass.report =
    { report with
      skipped := report.skipped ++ ((Text.contentLines text).filterMap fun (number, raw) =>
        (verdict? raw).map fun fault => { number, raw, fault }).toArray }

/-- Two texts come to the same number of links, and to the same refused lines for the same faults,
up to the order of the lines and their numbers. -/
structure SameVerdicts (pass other : Pass Registry) : Prop where
  /-- As many lines are carried out. -/
  accepted : pass.accepted = other.accepted
  /-- The same lines are refused. -/
  skipped : (pass.report.skipped.toList.map fun line => (line.raw, line.fault)).Perm
    (other.report.skipped.toList.map fun line => (line.raw, line.fault))

theorem JudgedAlone.sameVerdicts {verdict? : String → Option Fault} {report : Report}
    {text other : String} {pass pass' : Pass Registry}
    (h : JudgedAlone verdict? report text pass) (h' : JudgedAlone verdict? report other pass')
    (hperm : (Text.rows text).Perm (Text.rows other)) : SameVerdicts pass pass' where
  accepted := by rw [h.accepted, h'.accepted, hperm.countP_eq]
  skipped := by
    have hrows : ∀ text : String, (((Text.contentLines text).filterMap fun (number, raw) =>
          (verdict? raw).map fun fault => ({ number, raw, fault } : SkippedLine)).map
            fun line => (line.raw, line.fault)) =
        (Text.rows text).filterMap fun raw => (verdict? raw).map (raw, ·) := by
      intro text
      rw [Text.rows, List.filterMap_map, List.map_filterMap]
      apply List.filterMap_congr
      rintro ⟨number, raw⟩ _
      simp only [Function.comp_apply, Option.map_map]
      rfl
    rw [h.report, h'.report]
    simp only [Array.toList_append, List.map_append, hrows]
    exact (hperm.filterMap _).append_left _

/-- What the lines come to and the state that they lead to are all there is to a pass. -/
theorem JudgedAlone.eq {verdict? : String → Option Fault} {report : Report} {text : String}
    {pass pass' : Pass Registry} (h : JudgedAlone verdict? report text pass)
    (h' : JudgedAlone verdict? report text pass') (hstate : pass.state = pass'.state) :
    pass = pass' := by
  obtain ⟨state, accepted, report⟩ := pass
  obtain ⟨state', accepted', report'⟩ := pass'
  obtain rfl : state = state' := hstate
  obtain rfl : accepted = accepted' := h.accepted.trans h'.accepted.symm
  obtain rfl : report = report' := h.report.trans h'.report.symm
  rfl

/-- A steady reader judges each line alone. -/
theorem LineReader.Steady.judgedAlone {reader : LineReader Registry} {start : Registry}
    {Inv : Registry → Prop} (h : reader.Steady start Inv) (report : Report) (text : String) :
    JudgedAlone (reader.refusal? start) report text (reader.readText start report text).value where
  accepted := by
    have haccepts : ∀ line : Nat × String,
        reader.accepts start line = (reader.refusal? start line.2).isNone := by
      intro line
      rw [LineReader.accepts, LineReader.refusal?]
      cases reader start line.2 <;> rfl
    rw [LineReader.value_readText, h.used_eq_filter, ← List.countP_eq_length_filter, Text.rows,
      List.countP_map]
    exact congrArg (List.countP · _) (funext haccepts)
  report := by rw [LineReader.value_readText, h.refused_eq_filterMap]

/-- Read once more, in the state that it leads to, a text comes to what it came to before. -/
theorem LineReader.Steady.judgedAlone_again {reader : LineReader Registry} {start : Registry}
    {Inv Inv' : Registry → Prop} {report : Report} {text : String}
    (h : reader.Steady start Inv)
    (hagain : reader.Steady (reader.readText start report text).value.state Inv') :
    JudgedAlone (reader.refusal? start) report text
      (reader.readText (reader.readText start report text).value.state report text).value := by
  have hsame : reader.refusal? (reader.readText start report text).value.state =
      reader.refusal? start := by
    funext line
    rw [LineReader.value_readText]
    exact h.refusal?_eq (h.inv_run _) line
  rw [← hsame]
  exact hagain.judgedAlone report text

namespace Registry

/-! ## Class links -/

/-- The number of the class that a line links, among the given classes. -/
def linkedNumber? (classes : Array ClassDecl) (line : String) : Option Nat :=
  (ClassLink.read line).toOption.bind fun link =>
    classes.findIdx? (·.identity.obfuscated == link.obfuscated)

theorem refusal?_classReader (registry : Registry) :
    classReader.refusal? registry = fun line => refusalOf? (registry.linkClassLine line) :=
  LineReader.refusal?_map_pure _ registry

end Registry

theorem Identifier.linkTo_linkTo (id : Identifier) (name? : Option String) :
    (id.linkTo name?).linkTo name? = id.linkTo name? := by
  simp only [Identifier.linkTo, ← Option.or_assoc, Option.or_self]

section LinkFirsts

variable {names others : String → Option String} {classes : Array ClassDecl}

/-- Only the names of first bearers count. -/
theorem linkFirsts_congr
    (h : ∀ number obfuscated,
      classes.findIdx? (·.identity.obfuscated == obfuscated) = some number →
        names obfuscated = others obfuscated) :
    linkFirsts names classes = linkFirsts others classes := by
  apply Array.ext (by simp)
  intro number h₁ h₂
  have hnumber : number < classes.size := by simpa using h₁
  rw [getElem_linkFirsts hnumber h₁, getElem_linkFirsts hnumber h₂]
  split
  · next hfirst => rw [h number _ hfirst]
  · rfl

/-- Linking the same names once more changes nothing. -/
theorem linkFirsts_linkFirsts (names : String → Option String) (classes : Array ClassDecl) :
    linkFirsts names (linkFirsts names classes) = linkFirsts names classes := by
  apply Array.ext (by simp)
  intro number h₁ h₂
  have hnumber : number < classes.size := by simpa using h₂
  have hname : (linkFirsts names classes)[number].identity.obfuscated =
      classes[number].identity.obfuscated := by
    rw [getElem_linkFirsts hnumber]
    split <;> rfl
  rw [getElem_linkFirsts h₂, findIdx?_obfuscated_linkFirsts, hname, getElem_linkFirsts hnumber]
  split
  · simp only [ClassDecl.linkTo, Identifier.linkTo_linkTo]
  · rfl

end LinkFirsts

namespace Registry

/-- The last link of a class in a text is the last one of the lines that link the class. -/
theorem lastLinkName?_eq_of_findIdx? {classes : Array ClassDecl} {number : Nat}
    {obfuscated : String}
    (h : classes.findIdx? (·.identity.obfuscated == obfuscated) = some number) (text : String) :
    Transfer.lastLinkName? text obfuscated =
      (((Text.rows text).filter (linkedNumber? classes · == some number)).filterMap
        (Transfer.linkNameIn? obfuscated)).getLast? := by
  rw [Transfer.lastLinkName?, Text.rows, List.filterMap_filter, List.filterMap_map]
  congr 1
  apply List.filterMap_congr
  intro line _
  simp only [Function.comp_apply, Transfer.linkNameIn?_eq_bind, linkedNumber?]
  cases (ClassLink.read line.2).toOption with
  | none => simp
  | some link =>
    by_cases hname : link.obfuscated = obfuscated
    · simp [hname, h]
    · simp [hname]

variable {registry : Registry}

/-- The classes that the class links of a text lead to. -/
theorem classes_linkClasses (h : registry.Indexed) (report : Report) (text : String) :
    (registry.linkClasses report text).value.state.classes =
      linkFirsts (Transfer.lastLinkName? text) registry.classes := by
  have hnames : ClassLink.lastName? (linksOf (Text.contentLines text)) =
      Transfer.lastLinkName? text := by
    funext obfuscated
    exact Transfer.lastName?_linksOf text obfuscated
  rw [linkClasses_eq_readText, LineReader.value_readText, run_classReader, classes_linkAll h,
    hnames]

theorem Indexed.linkClasses (h : registry.Indexed) (report : Report) (text : String) :
    (registry.linkClasses report text).value.state.Indexed := by
  rw [linkClasses_eq_readText, LineReader.value_readText, run_classReader]
  exact h.linkAll _

theorem judgedAlone_linkClasses (registry : Registry) (report : Report) (text : String) :
    JudgedAlone (fun line => refusalOf? (registry.linkClassLine line)) report text
      (registry.linkClasses report text).value := by
  rw [← refusal?_classReader, linkClasses_eq_readText]
  exact (steady_classReader registry).judgedAlone report text

theorem judgedAlone_linkClasses_again (registry : Registry) (report : Report) (text : String) :
    JudgedAlone (fun line => refusalOf? (registry.linkClassLine line)) report text
      ((registry.linkClasses report text).value.state.linkClasses report text).value := by
  simp only [← refusal?_classReader, linkClasses_eq_readText]
  exact (steady_classReader registry).judgedAlone_again (steady_classReader _)

/-- Each class link of a text comes to what it comes to alone, and of the links of a class the last
one counts. So the lines may be put in another order if those that link the same class keep theirs,
and reading the text once more changes nothing. -/
theorem linkClasses_independent (classes : Array ClassDecl) (ops : List LinkOp) (report : Report)
    (text : String) :
    let registry := LinkOp.run (ofClasses classes) ops
    let pass := (registry.linkClasses report text).value
    let again := (pass.state.linkClasses report text).value
    JudgedAlone (fun line => refusalOf? (registry.linkClassLine line)) report text pass ∧
      pass.state.classes = linkFirsts (Transfer.lastLinkName? text) registry.classes ∧
      Agrees again.state pass.state ∧
      again.accepted = pass.accepted ∧
      again.report = pass.report ∧
      ∀ other, KeepsOrder (linkedNumber? registry.classes) (Text.rows text) (Text.rows other) →
        Agrees (registry.linkClasses report other).value.state pass.state ∧
          SameVerdicts (registry.linkClasses report other).value pass := by
  intro registry pass again
  have hindexed : registry.Indexed := (indexed_ofClasses classes).run ops
  have hpass : pass.state.Indexed := hindexed.linkClasses report text
  have hclasses : pass.state.classes =
      linkFirsts (Transfer.lastLinkName? text) registry.classes :=
    classes_linkClasses hindexed report text
  have hjudged := registry.judgedAlone_linkClasses report text
  have hagain : JudgedAlone (fun line => refusalOf? (registry.linkClassLine line)) report text
      again := registry.judgedAlone_linkClasses_again report text
  have hsettled : again.state.classes = pass.state.classes := by
    rw [classes_linkClasses hpass, hclasses, linkFirsts_linkFirsts]
  refine ⟨hjudged, hclasses,
    ⟨hsettled, (hpass.linkClasses report text).sameAnswers hpass hsettled⟩,
    hagain.accepted.trans hjudged.accepted.symm, hagain.report.trans hjudged.report.symm, ?_⟩
  intro other horder
  have hsame : (registry.linkClasses report other).value.state.classes = pass.state.classes := by
    rw [classes_linkClasses hindexed, hclasses]
    apply linkFirsts_congr
    intro number obfuscated hfirst
    rw [lastLinkName?_eq_of_findIdx? hfirst, lastLinkName?_eq_of_findIdx? hfirst,
      horder.order number]
  exact ⟨⟨hsame, (hindexed.linkClasses report other).sameAnswers hpass hsame⟩,
    (registry.judgedAlone_linkClasses report other).sameVerdicts hjudged horder.perm.symm⟩

/-- Two classes, of which the second one has a community name already. -/
def twinDens : Array ClassDecl := #[
  { identity := .ofClass "a" "Den" },
  { identity := { Identifier.ofClass "b" "Twin" with community := some "net/Den" } }]

/-- Class links of which two link the first class, and one links none. -/
def twinDensLinks : String :=
  "a net/Den\nb Lair\na Cave\nc Lost\n"

/-- The same links. Those of the first class are in the same order. -/
def twinDensLinksMoved : String :=
  "c Lost\na net/Den\na Cave\nb Lair"

/-- The first class is called by the last of its links, in both orders. -/
theorem linkClasses_independent_twinDens :
    KeepsOrder (linkedNumber? twinDens) (Text.rows twinDensLinks)
        (Text.rows twinDensLinksMoved) ∧
      Agrees ((ofClasses twinDens).linkClasses { source := "links" } twinDensLinksMoved).value.state
        ((ofClasses twinDens).linkClasses { source := "links" } twinDensLinks).value.state ∧
      ((ofClasses twinDens).linkClasses { source := "links" }
        twinDensLinksMoved).value.state.classes.map (·.identity.community) =
          #[some "Cave", some "Lair"] := by
  have h : KeepsOrder (linkedNumber? twinDens) (Text.rows twinDensLinks)
      (Text.rows twinDensLinksMoved) := by
    decide +kernel
  obtain ⟨-, hclasses, -, -, -, hother⟩ :=
    linkClasses_independent twinDens [] { source := "links" } twinDensLinks
  have hagrees := (hother twinDensLinksMoved h).1
  refine ⟨h, hagrees, ?_⟩
  have hlinked : (linkFirsts (Transfer.lastLinkName? twinDensLinks) twinDens).map
      (·.identity.community) = #[some "Cave", some "Lair"] := by
    decide +kernel
  exact (congrArg (Array.map (·.identity.community)) (hagrees.classes.trans hclasses)).trans hlinked

/-! ## Member links -/

/-- The member that a line means, if the link can be carried out. -/
def meant? (registry : Registry) (line : String) : Option MemberSite :=
  (registry.naming? line).map (·.1)

/-- The last word of the last line that means the given member. -/
def lastMemberName? (registry : Registry) (text : String) (site : MemberSite) : Option String :=
  ((Text.rows text).filter (registry.meant? · == some site)).getLast?.bind fun line =>
    (Text.tokens line).getLast?

/-- The community name that a member link gives is the last word of the line. -/
theorem getLast?_tokens_of_naming? {line name : String} {site : MemberSite}
    (h : registry.naming? line = some (site, name)) : (Text.tokens line).getLast? = some name := by
  obtain ⟨link, hread, -, rfl⟩ := naming?_eq_some_iff.1 h
  unfold MemberLink.read at hread
  split at hread
  · next hwords =>
    cases hread
    rw [hwords]
    rfl
  · next hwords =>
    cases hread
    rw [hwords]
    rfl
  · cases hread

theorem lastName?_namings_eq (registry : Registry) (text : String) :
    lastName? (registry.namings (Text.contentLines text)) = registry.lastMemberName? text := by
  funext site
  suffices ∀ lines : List (Nat × String), lastName? (registry.namings lines) site =
      ((lines.map (·.2)).filter (registry.meant? · == some site)).getLast?.bind fun line =>
        (Text.tokens line).getLast? from this _
  intro lines
  -- The last line wins, so the induction adds lines at the end.
  induction lines using List.reverseRecOn with
  | nil => rfl
  | append_singleton lines line ih =>
    rw [namings_concat, List.map_append, List.filter_append, List.map_singleton]
    cases hline : registry.naming? line.2 with
    | none => simpa [meant?, hline] using ih
    | some naming =>
      obtain ⟨other, name⟩ := naming
      rw [Option.toList_some, lastName?_concat]
      by_cases hsite : other = site
      · simp [meant?, hline, hsite, getLast?_tokens_of_naming? hline]
      · simpa [meant?, hline, hsite] using ih

theorem state_linkMembers (registry : Registry) (report : Report) (text : String) :
    (registry.linkMembers report text).value.state =
      registry.withMembers (registry.lastMemberName? text) := by
  rw [linkMembers_eq_readText, LineReader.value_readText, run_memberReader, lastName?_namings_eq]

theorem refusal?_memberReader (registry : Registry) :
    memberReader.refusal? registry = fun line => refusalOf? (registry.linkMemberLine line) :=
  LineReader.refusal?_map_pure _ registry

theorem judgedAlone_linkMembers (registry : Registry) (report : Report) (text : String) :
    JudgedAlone (fun line => refusalOf? (registry.linkMemberLine line)) report text
      (registry.linkMembers report text).value := by
  rw [← refusal?_memberReader, linkMembers_eq_readText]
  exact registry.steady_memberReader.judgedAlone report text

theorem judgedAlone_linkMembers_again (registry : Registry) (report : Report) (text : String) :
    JudgedAlone (fun line => refusalOf? (registry.linkMemberLine line)) report text
      ((registry.linkMembers report text).value.state.linkMembers report text).value := by
  simp only [← refusal?_memberReader, linkMembers_eq_readText]
  exact registry.steady_memberReader.judgedAlone_again (steady_memberReader _)

/-- Naming the members once more changes nothing. -/
theorem withMembers_withMembers (registry : Registry) (names : MemberSite → Option String) :
    (registry.withMembers names).withMembers names = registry.withMembers names := by
  have hcls : ∀ (number : Nat) (cls : ClassDecl),
      (cls.nameMembers names number).nameMembers names number = cls.nameMembers names number := by
    intro number cls
    simp only [ClassDecl.nameMembers, List.mapIdx_mapIdx, Function.comp_def,
      Identifier.linkTo_linkTo]
  unfold withMembers
  simp only [Array.mapIdx_mapIdx, Function.comp_def, hcls]

/-- Under other names of members, a line still means the member that it meant. -/
theorem lastMemberName?_withMembers (registry : Registry) (names : MemberSite → Option String)
    (text : String) :
    (registry.withMembers names).lastMemberName? text = registry.lastMemberName? text := by
  have hmeant : (registry.withMembers names).meant? = registry.meant? := by
    funext line
    simp only [meant?, naming?, resolve_withMembers]
  funext site
  rw [lastMemberName?, lastMemberName?, hmeant]

/-- Each member link of a text comes to what it comes to alone, and of the links of a member the
last one counts; nothing but community names of members changes. So the lines may be put in another
order if those that mean the same member keep theirs, and reading the text once more changes
nothing. -/
theorem linkMembers_independent (registry : Registry) (report : Report) (text : String) :
    let pass := (registry.linkMembers report text).value
    JudgedAlone (fun line => refusalOf? (registry.linkMemberLine line)) report text pass ∧
      pass.state = registry.withMembers (registry.lastMemberName? text) ∧
      (pass.state.linkMembers report text).value = pass ∧
      ∀ other, KeepsOrder registry.meant? (Text.rows text) (Text.rows other) →
        (registry.linkMembers report other).value.state = pass.state ∧
          SameVerdicts (registry.linkMembers report other).value pass := by
  intro pass
  have hjudged : JudgedAlone (fun line => refusalOf? (registry.linkMemberLine line)) report text
      pass := registry.judgedAlone_linkMembers report text
  have hstate : pass.state = registry.withMembers (registry.lastMemberName? text) :=
    registry.state_linkMembers report text
  have hagain : JudgedAlone (fun line => refusalOf? (registry.linkMemberLine line)) report text
      (pass.state.linkMembers report text).value :=
    registry.judgedAlone_linkMembers_again report text
  have hsettled : (pass.state.linkMembers report text).value.state = pass.state := by
    rw [state_linkMembers, hstate, lastMemberName?_withMembers, withMembers_withMembers]
  refine ⟨hjudged, hstate, hagain.eq hjudged hsettled, ?_⟩
  intro other horder
  refine ⟨?_, (registry.judgedAlone_linkMembers report other).sameVerdicts hjudged
    horder.perm.symm⟩
  have hlast : registry.lastMemberName? other = registry.lastMemberName? text := by
    funext site
    rw [lastMemberName?, lastMemberName?, horder.order site]
  rw [state_linkMembers, hstate, hlast]

/-- A class with a community name, a field and two methods of one obfuscated name. -/
def crowdedDen : Array ClassDecl := #[
  { identity := { Identifier.ofClass "a" "Den" with community := some "Den" }
    fields := [.ofField "f" "size" "int"]
    methods := [.ofMethod "g" "get" [] "int", .ofMethod "g" "put" ["int"] "void"] }]

/-- Links of the field and of one of the methods, and a link with the wrong result type. -/
def crowdedDenLinks : String :=
  "Den f one\nDen g ()I read\nDen g ()V lost\nDen f two\n"

/-- The same links. Those of the field are in the same order. -/
def crowdedDenLinksMoved : String :=
  "Den g ()V lost\nDen f one\nDen f two\nDen g ()I read"

/-- The field is called by the last of its links, in both orders, and of the two methods only the
one with the signature of the link is named. -/
theorem linkMembers_independent_crowdedDen :
    KeepsOrder (ofClasses crowdedDen).meant? (Text.rows crowdedDenLinks)
        (Text.rows crowdedDenLinksMoved) ∧
      ((ofClasses crowdedDen).linkMembers { source := "links" } crowdedDenLinksMoved).value.state =
        ((ofClasses crowdedDen).linkMembers { source := "links" } crowdedDenLinks).value.state ∧
      ((ofClasses crowdedDen).linkMembers { source := "links" }
        crowdedDenLinksMoved).value.state.classes.map
          (fun cls => (cls.fields.map (·.community), cls.methods.map (·.community))) =
        #[([some "two"], [some "read", none])] := by
  have h : KeepsOrder (ofClasses crowdedDen).meant? (Text.rows crowdedDenLinks)
      (Text.rows crowdedDenLinksMoved) := by
    decide +kernel
  obtain ⟨-, hstate, -, hother⟩ := linkMembers_independent (ofClasses crowdedDen)
    { source := "links" } crowdedDenLinks
  have hmoved := (hother crowdedDenLinksMoved h).1
  refine ⟨h, hmoved, ?_⟩
  rw [hmoved, hstate]
  decide +kernel

end Registry

end NameCarry
