import Mathlib.Data.List.Nodup
import NameCarry.Proofs.ClassLinks
import NameCarry.Proofs.Listings
import NameCarry.Proofs.Recoverable

/-!
# Listings are link files

The listings of a recoverable build, written as texts, are link files of the build
(`Recoverable.readBack`): carried out on the build without its community names, they lead back to
the build, and no line of them is refused.

Both halves go from the lines of a listing to what each of them does alone. A class link of the
listing links the class that it was written for (`Recoverable.lastName?_linksOf`), and a member link
means the member that it was written for (`Recoverable.naming?_of_writtenAt`).
-/

namespace NameCarry

/-- The community name of the member at a site. -/
def communityAt (classes : Array ClassDecl) : MemberSite → Option String
  | .field owner number =>
    classes[owner]?.bind fun cls => cls.fields[number]?.bind (·.community)
  | .method owner number =>
    classes[owner]?.bind fun cls => cls.methods[number]?.bind (·.community)

namespace Recoverable

section Halves

variable {classes : Array ClassDecl} (h : Recoverable classes)

/-! ## Class links -/

include h in
theorem isWord_classLink {cls : ClassDecl} (hcls : cls ∈ classes) {name : String}
    (hname : cls.identity.community = some name) :
    ∀ word ∈ [cls.identity.obfuscated, name], Text.IsWord word := by
  have hnames := h.each cls hcls
  simp only [List.forall_mem_cons]
  exact ⟨hnames.obfuscated.isWord, (hnames.community name hname).isWord, by simp⟩

include h in
theorem isRow_classLink {line : String}
    (hline : line ∈ (Registry.ofClasses classes).classLinkLines) : Text.IsRow line := by
  obtain ⟨cls, hcls, name, hname, rfl⟩ := Registry.mem_classLinkLines_iff.1 hline
  exact ⟨_, _, rfl, h.isWord_classLink hcls hname,
    (h.each cls hcls).obfuscated.not_mem (by decide)⟩

include h in
theorem read_classLink {cls : ClassDecl} (hcls : cls ∈ classes) {name : String}
    (hname : cls.identity.community = some name) :
    ClassLink.read (" ".intercalate [cls.identity.obfuscated, name]) =
      .ok { obfuscated := cls.identity.obfuscated, community := name } := by
  rw [ClassLink.read, Text.tokens_intercalate (h.isWord_classLink hcls hname)]
  simp only [Text.dotted_eq_self (h.each cls hcls).slash]

include h in
/-- The links that are listed are the links of the linked classes. -/
theorem mem_linksOf_iff {link : ClassLink} :
    link ∈ Registry.linksOf
        (Text.contentLines (joinLines (Registry.ofClasses classes).classLinkLines)) ↔
      ∃ cls ∈ classes, cls.identity.obfuscated = link.obfuscated ∧
        cls.identity.community = some link.community := by
  have hlines : Registry.linksOf
      (Text.contentLines (joinLines (Registry.ofClasses classes).classLinkLines)) =
      (Registry.ofClasses classes).classLinkLines.filterMap fun line =>
        (ClassLink.read line).toOption := by
    conv_rhs => rw [← Text.contentLines_joinLines fun line hline => h.isRow_classLink hline]
    rw [List.filterMap_map]
    rfl
  rw [hlines, List.mem_filterMap]
  constructor
  · rintro ⟨line, hline, hread⟩
    obtain ⟨cls, hcls, name, hname, rfl⟩ := Registry.mem_classLinkLines_iff.1 hline
    rw [h.read_classLink hcls hname] at hread
    cases hread
    exact ⟨cls, hcls, rfl, hname⟩
  · rintro ⟨cls, hcls, hobfuscated, hname⟩
    refine ⟨_, Registry.mem_classLinkLines_iff.2 ⟨cls, hcls, _, hname, rfl⟩, ?_⟩
    rw [h.read_classLink hcls hname, hobfuscated]
    rfl

include h in
/-- The last link of a class in the listing gives it its own community name. -/
theorem lastName?_linksOf {cls : ClassDecl} (hcls : cls ∈ classes) :
    ClassLink.lastName? (Registry.linksOf
        (Text.contentLines (joinLines (Registry.ofClasses classes).classLinkLines)))
      cls.identity.obfuscated = cls.identity.community := by
  apply NameCarry.lastName?_eq_of_forall
  intro name
  rw [List.mem_map]
  constructor
  · -- A link of this name is the link of this class, as no other class bears the name.
    rintro ⟨link, hlink, hentry⟩
    obtain ⟨hkey, rfl⟩ := Prod.mk.inj hentry
    obtain ⟨other, hother, hobfuscated, hname⟩ := h.mem_linksOf_iff.1 hlink
    have hsame : other = cls := List.inj_on_of_nodup_map h.obfuscated
      (Array.mem_toList_iff.2 hother) (Array.mem_toList_iff.2 hcls) (hobfuscated.trans hkey)
    rw [← hsame]
    exact hname
  · intro hname
    exact ⟨{ obfuscated := cls.identity.obfuscated, community := name },
      h.mem_linksOf_iff.2 ⟨cls, hcls, rfl, hname⟩, rfl⟩

include h in
theorem findIdx?_obfuscated {number : Nat} {cls : ClassDecl} (hcls : classes[number]? = some cls) :
    (classes.map ClassDecl.bare).findIdx? (·.identity.obfuscated == cls.identity.obfuscated) =
      some number := by
  have hnodup :
      (classes.toList.filterMap fun cls => some cls.identity.obfuscated).Nodup := by
    rw [List.filterMap_eq_map']
    exact h.obfuscated
  rw [Array.findIdx?_map]
  exact findIdx?_eq_some_of_nodup_filterMap hnodup hcls rfl

include h in
/-- Under their own community names, the bare classes are the classes with bare members. -/
theorem linkFirsts_bare {names : String → Option String}
    (hnames : ∀ cls ∈ classes, names cls.identity.obfuscated = cls.identity.community) :
    linkFirsts names (classes.map ClassDecl.bare) = classes.map ClassDecl.bareMembers := by
  apply Array.ext (by simp)
  intro number h₁ h₂
  have hnumber : number < classes.size := by simpa using h₂
  rw [getElem_linkFirsts (by simpa using hnumber), Array.getElem_map, Array.getElem_map]
  have hfirst := h.findIdx?_obfuscated (Array.getElem?_eq_getElem hnumber)
  have hname := hnames classes[number] (Array.getElem_mem hnumber)
  show (if (classes.map ClassDecl.bare).findIdx?
    (·.identity.obfuscated == classes[number].identity.obfuscated) = some number then _ else _) = _
  rw [if_pos hfirst]
  show (classes[number].bare).linkTo (names classes[number].identity.obfuscated) = _
  rw [hname]
  simp [ClassDecl.linkTo, ClassDecl.bare, ClassDecl.bareMembers, Identifier.linkTo,
    Identifier.bare]

include h in
theorem value_linkClasses (report : Report) :
    ∃ linked, ClassesLinked classes linked ∧
      ((Registry.ofClasses (classes.map ClassDecl.bare)).linkClasses report
          (joinLines (Registry.ofClasses classes).classLinkLines)).value =
        { state := linked
          accepted := (Registry.ofClasses classes).classLinkLines.length
          report } := by
  have hbare := Registry.indexed_ofClasses (classes.map ClassDecl.bare)
  have hrows := Text.contentLines_joinLines fun line hline => h.isRow_classLink hline
  have haccepts : ∀ line ∈ Text.contentLines (joinLines (Registry.ofClasses classes).classLinkLines),
      Registry.classReader.accepts (Registry.ofClasses (classes.map ClassDecl.bare)) line := by
    rintro ⟨number, line⟩ hline
    have hlisted : line ∈ (Registry.ofClasses classes).classLinkLines := by
      rw [← hrows]
      exact List.mem_map.2 ⟨_, hline, rfl⟩
    obtain ⟨cls, hcls, name, hname, rfl⟩ := Registry.mem_classLinkLines_iff.1 hlisted
    obtain ⟨place, hplace⟩ := Array.mem_iff_getElem?.1 hcls
    have hfind := h.findIdx?_obfuscated hplace
    have hlink := Registry.linkClassLine_eq_ok_iff.2 ⟨_, h.read_classLink hcls hname,
      Registry.linkClass_eq_ok_iff.2 ⟨place, (hbare.byObfuscated _).trans hfind, rfl⟩⟩
    rw [LineReader.accepts, Registry.classReader, hlink]
    rfl
  refine ⟨_, ⟨hbare.linkAll (Registry.linksOf
    (Text.contentLines (joinLines (Registry.ofClasses classes).classLinkLines))), ?_⟩, ?_⟩
  · rw [Registry.classes_linkAll hbare, Registry.classes_ofClasses]
    exact h.linkFirsts_bare fun cls hcls => h.lastName?_linksOf hcls
  · have hlength := congrArg List.length hrows
    rw [List.length_map] at hlength
    rw [Registry.linkClasses_eq_readText,
      (Registry.steady_classReader _).value_readText haccepts, Registry.run_classReader, hlength]

/-! ## Member links -/

variable {linked : Registry} (hlinked : ClassesLinked classes linked)

include h in
theorem types_of_isLinked {cls : ClassDecl} (hcls : cls ∈ classes) {id : Identifier}
    (hid : id ∈ cls.methods) (hisLinked : id.isLinked) :
    (∀ type ∈ id.params, RecoverableType classes type) ∧
      ∃ result, id.type = some result ∧ RecoverableType classes result := by
  have hnames := h.each cls hcls
  have htypes := hnames.types id hid hisLinked
  obtain ⟨result, hresult⟩ := Option.isSome_iff_exists.1 (hnames.result id hid hisLinked)
  refine ⟨fun type htype => htypes type (List.mem_append_left _ htype), result, hresult, ?_⟩
  apply htypes result
  rw [hresult]
  exact List.mem_append_right _ (List.mem_cons_self ..)

include h in
theorem isWord_fieldLink {cls : ClassDecl} (hcls : cls ∈ classes) {key : String}
    (hkey : cls.identity.community = some key) {id : Identifier} (hid : id ∈ cls.fields)
    {name : String} (hname : id.community = some name) :
    ∀ word ∈ [key, id.obfuscated, name], Text.IsWord word := by
  have hnames := h.each cls hcls
  have hmem : id ∈ cls.fields ++ cls.methods := List.mem_append_left _ hid
  simp only [List.forall_mem_cons]
  exact ⟨(hnames.community key hkey).isWord, (hnames.memberObfuscated id hmem).isWord,
    (hnames.memberCommunity id hmem name hname).isWord, by simp⟩

include h in
theorem isWord_methodLink {cls : ClassDecl} (hcls : cls ∈ classes) {key : String}
    (hkey : cls.identity.community = some key) {id : Identifier} (hid : id ∈ cls.methods)
    {name : String} (hname : id.community = some name) :
    ∀ word ∈ [key, id.obfuscated, ((Registry.ofClasses classes).toWrittenSignature
      { params := id.params, result := id.type.getD "" }).descriptor, name],
      Text.IsWord word := by
  have hnames := h.each cls hcls
  have hmem : id ∈ cls.fields ++ cls.methods := List.mem_append_right _ hid
  obtain ⟨hparams, result, hresult, htype⟩ :=
    h.types_of_isLinked hcls hid (Option.isSome_of_eq_some hname)
  have hdescriptor : Text.IsWord ((Registry.ofClasses classes).toWrittenSignature
      { params := id.params, result := id.type.getD "" }).descriptor := by
    apply Signature.isWord_descriptor
    · intro written hwritten
      obtain ⟨type, hmem, rfl⟩ := List.mem_map.1 hwritten
      exact h.isTypeName_toWrittenType (hparams type hmem)
    · rw [hresult]
      exact h.isTypeName_toWrittenType htype
  simp only [List.forall_mem_cons]
  exact ⟨(hnames.community key hkey).isWord, (hnames.memberObfuscated id hmem).isWord,
    hdescriptor, (hnames.memberCommunity id hmem name hname).isWord, by simp⟩

include h in
theorem isRow_of_writtenAt {site : MemberSite} {name line : String}
    (hline : (Registry.ofClasses classes).WrittenAt site name line) : Text.IsRow line := by
  cases hline with
  | @field owner number cls key id _ howner hkey hid hname =>
    have hcls := Array.mem_of_getElem? howner
    exact ⟨_, _, rfl, h.isWord_fieldLink hcls hkey (List.mem_of_getElem? hid) hname,
      ((h.each cls hcls).community key hkey).not_mem (by decide)⟩
  | @method owner number cls key id _ howner hkey hid hname =>
    have hcls := Array.mem_of_getElem? howner
    exact ⟨_, _, rfl, h.isWord_methodLink hcls hkey (List.mem_of_getElem? hid) hname,
      ((h.each cls hcls).community key hkey).not_mem (by decide)⟩

include h hlinked in
/-- The descriptor in a member link of the listing is read as the types of the method. -/
theorem read_descriptor {cls : ClassDecl} (hcls : cls ∈ classes) {id : Identifier}
    (hid : id ∈ cls.methods) (hisLinked : id.isLinked) :
    ∃ signature, Signature.read ((Registry.ofClasses classes).toWrittenSignature
        { params := id.params, result := id.type.getD "" }).descriptor = .ok signature ∧
      (linked.toHumanSignature signature).params = id.params ∧
      id.type = some (linked.toHumanSignature signature).result := by
  obtain ⟨hparams, result, hresult, htype⟩ := h.types_of_isLinked hcls hid hisLinked
  refine ⟨_, Signature.read_descriptor ?_ ?_, ?_, ?_⟩
  · intro written hwritten
    obtain ⟨type, hmem, rfl⟩ := List.mem_map.1 hwritten
    exact (h.isTypeName_toWrittenType (hparams type hmem)).describable
  · rw [hresult]
    exact (h.isTypeName_toWrittenType htype).describable
  · show ((id.params.map (Registry.ofClasses classes).toWrittenType).map Text.dotted).map
      linked.toHumanType = id.params
    rw [List.map_map, List.map_map]
    refine (List.map_congr_left fun type hmem => ?_).trans (List.map_id _)
    exact h.toHumanType_dotted_toWrittenType hlinked (hparams type hmem)
  · rw [hresult]
    exact congrArg some (h.toHumanType_dotted_toWrittenType hlinked htype).symm

include h in
theorem resolveField {cls : ClassDecl} (hcls : cls ∈ classes) (hisLinked : cls.identity.isLinked)
    {number : Nat} {id : Identifier} (hid : cls.fields[number]? = some id) (owner name : String) :
    Registry.resolveField cls owner id.obfuscated name = .ok number := by
  rw [Registry.resolveField_eq_ok_iff]
  apply findIdx?_eq_some_of_nodup_map ((h.each cls hcls).fields hisLinked) hid
  intro field
  exact beq_iff_eq

include h in
theorem resolveMethod {cls : ClassDecl} (hcls : cls ∈ classes) (hisLinked : cls.identity.isLinked)
    {number : Nat} {id : Identifier} (hid : cls.methods[number]? = some id) (owner name : String)
    {signature : Signature} (hparams : signature.params = id.params)
    (hresult : id.type = some signature.result) :
    Registry.resolveMethod cls owner id.obfuscated name signature = .ok number := by
  rw [Registry.resolveMethod_eq_ok_iff, hid, Option.bind_some]
  refine ⟨?_, hresult⟩
  apply findIdx?_eq_some_of_nodup_map ((h.each cls hcls).methods hisLinked) hid
  intro method
  rw [hparams, Bool.and_eq_true, beq_iff_eq, beq_iff_eq, Prod.mk.injEq]

include h hlinked in
/-- A member link of the listing means the member that it was written for. -/
theorem naming?_of_writtenAt {site : MemberSite} {name line : String}
    (hline : (Registry.ofClasses classes).WrittenAt site name line) :
    linked.naming? line = some (site, name) := by
  cases hline with
  | @field owner number cls key id _ howner hkey hid hname =>
    have hcls := Array.mem_of_getElem? howner
    have hwords := h.isWord_fieldLink hcls hkey (List.mem_of_getElem? hid) hname
    have hread := MemberLink.read_eq_ok_field_iff.2 ⟨key, Text.tokens_intercalate hwords, rfl⟩
    have hfield := h.resolveField hcls (Option.isSome_of_eq_some hkey) hid (Text.dotted key) name
    rw [← Registry.resolveField_bareMembers] at hfield
    exact Registry.naming?_eq_some_iff.2 ⟨_, hread, Registry.resolve_field_eq_ok_iff.2
      ⟨owner, _, number, h.ownerOf hlinked howner hkey, hfield, rfl⟩, rfl⟩
  | @method owner number cls key id _ howner hkey hid hname =>
    have hcls := Array.mem_of_getElem? howner
    have hwords := h.isWord_methodLink hcls hkey (List.mem_of_getElem? hid) hname
    have hread := MemberLink.read_eq_ok_method_iff.2 ⟨key, Text.tokens_intercalate hwords, rfl⟩
    obtain ⟨signature, hsignature, hparams, hresult⟩ :=
      h.read_descriptor hlinked hcls (List.mem_of_getElem? hid) (Option.isSome_of_eq_some hname)
    have hmethod := h.resolveMethod hcls (Option.isSome_of_eq_some hkey) hid (Text.dotted key) name
      hparams hresult
    rw [← Registry.resolveMethod_bareMembers] at hmethod
    exact Registry.naming?_eq_some_iff.2 ⟨_, hread, Registry.resolve_method_eq_ok_iff.2
      ⟨signature, owner, _, number, hsignature, h.ownerOf hlinked howner hkey, hmethod, rfl⟩, rfl⟩

/-! ## The members in the end -/

include h in
theorem exists_key {cls : ClassDecl} (hcls : cls ∈ classes) {id : Identifier}
    (hid : id ∈ cls.fields ++ cls.methods) {name : String} (hname : id.community = some name) :
    ∃ key, cls.identity.community = some key :=
  Option.isSome_iff_exists.1 ((h.each cls hcls).linked id hid (Option.isSome_of_eq_some hname))

include h in
/-- A name of a member stands in a member link of the listing, and only there. -/
theorem exists_writtenAt_iff {site : MemberSite} {name : String} :
    (∃ line, (Registry.ofClasses classes).WrittenAt site name line) ↔
      communityAt classes site = some name := by
  constructor
  · rintro ⟨line, hline⟩
    cases hline with
    | field howner hkey hid hname =>
      rw [communityAt, Option.bind_eq_some_iff]
      exact ⟨_, howner, Option.bind_eq_some_iff.2 ⟨_, hid, hname⟩⟩
    | method howner hkey hid hname =>
      rw [communityAt, Option.bind_eq_some_iff]
      exact ⟨_, howner, Option.bind_eq_some_iff.2 ⟨_, hid, hname⟩⟩
  · intro hsite
    cases site with
    | field owner number =>
      obtain ⟨cls, howner, hmember⟩ := Option.bind_eq_some_iff.1 hsite
      obtain ⟨id, hid, hname⟩ := Option.bind_eq_some_iff.1 hmember
      obtain ⟨key, hkey⟩ := h.exists_key (Array.mem_of_getElem? howner)
        (List.mem_append_left _ (List.mem_of_getElem? hid)) hname
      exact ⟨_, .field howner hkey hid hname⟩
    | method owner number =>
      obtain ⟨cls, howner, hmember⟩ := Option.bind_eq_some_iff.1 hsite
      obtain ⟨id, hid, hname⟩ := Option.bind_eq_some_iff.1 hmember
      obtain ⟨key, hkey⟩ := h.exists_key (Array.mem_of_getElem? howner)
        (List.mem_append_right _ (List.mem_of_getElem? hid)) hname
      exact ⟨_, .method howner hkey hid hname⟩

include h in
theorem contentLines_memberLinkLines :
    (Text.contentLines (joinLines (Registry.ofClasses classes).memberLinkLines)).map (·.2) =
      (Registry.ofClasses classes).memberLinkLines := by
  apply Text.contentLines_joinLines
  intro line hline
  obtain ⟨site, name, hwritten⟩ := Registry.mem_memberLinkLines_iff.1 hline
  exact h.isRow_of_writtenAt hwritten

include h hlinked in
/-- The members that the listing names are those with a community name, each by its own. -/
theorem lastName?_namings :
    lastName? (linked.namings
        (Text.contentLines (joinLines (Registry.ofClasses classes).memberLinkLines))) =
      communityAt classes := by
  have hlines : linked.namings
      (Text.contentLines (joinLines (Registry.ofClasses classes).memberLinkLines)) =
      (Registry.ofClasses classes).memberLinkLines.filterMap linked.naming? := by
    conv_rhs => rw [← h.contentLines_memberLinkLines]
    rw [List.filterMap_map]
    rfl
  funext site
  apply lastName?_eq_of_forall
  intro name
  rw [hlines, List.mem_filterMap, ← h.exists_writtenAt_iff]
  constructor
  · rintro ⟨line, hline, hnaming⟩
    obtain ⟨site', name', hwritten⟩ := Registry.mem_memberLinkLines_iff.1 hline
    rw [h.naming?_of_writtenAt hlinked hwritten] at hnaming
    cases hnaming
    exact ⟨line, hwritten⟩
  · rintro ⟨line, hwritten⟩
    exact ⟨line, Registry.mem_memberLinkLines_iff.2 ⟨site, name, hwritten⟩,
      h.naming?_of_writtenAt hlinked hwritten⟩

include hlinked in
/-- With their members under their own names, the classes with bare members are the classes. -/
theorem classes_withMembers :
    (linked.withMembers (communityAt classes)).classes = classes := by
  -- Fields and methods alike: a name that was taken away is put back.
  have hids : ∀ (ids : List Identifier) (names : Nat → Option String),
      (∀ number id, ids[number]? = some id → names number = id.community) →
      (ids.map Identifier.bare).mapIdx (fun number id => id.linkTo (names number)) = ids := by
    intro ids names hnames
    apply List.ext_getElem (by simp)
    intro number h₁ h₂
    have hname := hnames number ids[number] (List.getElem?_eq_getElem h₂)
    simp [Identifier.linkTo, Identifier.bare, hname]
  have hsize : (linked.withMembers (communityAt classes)).classes.size = classes.size := by
    simp [Registry.withMembers, hlinked.classes]
  apply Array.ext hsize
  intro owner h₁ h₂
  have hclass : (linked.withMembers (communityAt classes)).classes[owner]? =
      some (classes[owner].bareMembers.nameMembers (communityAt classes) owner) := by
    rw [Registry.getElem?_classes_withMembers, hlinked.classes, Array.getElem?_map,
      Array.getElem?_eq_getElem h₂, Option.map_some, Option.map_some]
  rw [Array.getElem?_eq_getElem h₁] at hclass
  rw [Option.some.inj hclass]
  have hfields := hids classes[owner].fields (fun number => communityAt classes (.field owner number))
    fun number id hid => by simp [communityAt, Array.getElem?_eq_getElem h₂, hid]
  have hmethods := hids classes[owner].methods
    (fun number => communityAt classes (.method owner number))
    fun number id hid => by simp [communityAt, Array.getElem?_eq_getElem h₂, hid]
  rw [ClassDecl.nameMembers, ClassDecl.bareMembers]
  simp only [hfields, hmethods]

include h hlinked in
/-- Every member link of the listing is carried out, and the build is then what it was. -/
theorem value_linkMembers (report : Report) :
    ∃ named : Registry, named.Indexed ∧ named.classes = classes ∧
      (linked.linkMembers report (joinLines (Registry.ofClasses classes).memberLinkLines)).value =
        { state := named
          accepted := (Registry.ofClasses classes).memberLinkLines.length
          report } := by
  have haccepts : ∀ line ∈
      Text.contentLines (joinLines (Registry.ofClasses classes).memberLinkLines),
      Registry.memberReader.accepts linked line := by
    intro line hline
    have hlisted : line.2 ∈ (Registry.ofClasses classes).memberLinkLines := by
      rw [← h.contentLines_memberLinkLines]
      exact List.mem_map.2 ⟨line, hline, rfl⟩
    obtain ⟨site, name, hwritten⟩ := Registry.mem_memberLinkLines_iff.1 hlisted
    rw [Registry.accepts_memberReader, h.naming?_of_writtenAt hlinked hwritten]
    rfl
  have hlength := congrArg List.length h.contentLines_memberLinkLines
  rw [List.length_map] at hlength
  refine ⟨linked.withMembers (communityAt classes), hlinked.indexed.withMembers _,
    classes_withMembers hlinked, ?_⟩
  rw [Registry.linkMembers_eq_readText, linked.steady_memberReader.value_readText haccepts,
    Registry.run_memberReader, h.lastName?_namings hlinked, hlength]

end Halves

/-! ## Reading back -/

/-- The listings of a build, written as texts and carried out on the build without its community
names, lead back to the build. No line is refused, and the listings of the build that is read back
are the same. -/
theorem readBack {classes : Array ClassDecl} (h : Recoverable classes)
    (classReport memberReport : Report) :
    ∃ linked named : Registry,
      ((Registry.ofClasses (classes.map ClassDecl.bare)).linkClasses classReport
          (joinLines (Registry.ofClasses classes).classLinkLines)).value =
        { state := linked
          accepted := (Registry.ofClasses classes).classLinkLines.length
          report := classReport } ∧
      (linked.linkMembers memberReport
          (joinLines (Registry.ofClasses classes).memberLinkLines)).value =
        { state := named
          accepted := (Registry.ofClasses classes).memberLinkLines.length
          report := memberReport } ∧
      named.classes = classes ∧
      named.classLinkLines = (Registry.ofClasses classes).classLinkLines ∧
      named.memberLinkLines = (Registry.ofClasses classes).memberLinkLines := by
  obtain ⟨linked, hlinked, hclassPass⟩ := h.value_linkClasses classReport
  obtain ⟨named, hnamed, hclasses, hmemberPass⟩ := h.value_linkMembers hlinked memberReport
  refine ⟨linked, named, hclassPass, hmemberPass, hclasses, ?_, ?_⟩
  · rw [Registry.classLinkLines, hclasses]
    rfl
  · exact hnamed.memberLinkLines_eq (Registry.indexed_ofClasses classes) hclasses

/-- A build with a linked class, two of whose methods share an obfuscated name, and a class that is
not linked. -/
def kennel : Array ClassDecl := #[
  { identity := { Identifier.ofClass "a" "net.Pet" with community := some "org/Animal" }
    fields := [{ Identifier.ofField "c" "mother" "net.Pet" with community := some "parent" }]
    methods := [
      { Identifier.ofMethod "d" "meet" ["net.Pet[]", "int"] "void" with
        community := some "greet" },
      { Identifier.ofMethod "d" "meet" ["java.lang.String"] "net.Pet" with
        community := some "call" },
      Identifier.ofMethod "e" "enter" ["net.Den"] "void"] },
  { identity := Identifier.ofClass "b" "net.Den"
    fields := [Identifier.ofField "c" "owner" "net.Pet"] }]

theorem readBack_kennel :
    Recoverable kennel ∧
      ∃ linked named : Registry,
        ((Registry.ofClasses (kennel.map ClassDecl.bare)).linkClasses { source := "classes" }
            (joinLines (Registry.ofClasses kennel).classLinkLines)).value =
          { state := linked
            accepted := (Registry.ofClasses kennel).classLinkLines.length
            report := { source := "classes" } } ∧
        (linked.linkMembers { source := "members" }
            (joinLines (Registry.ofClasses kennel).memberLinkLines)).value =
          { state := named
            accepted := (Registry.ofClasses kennel).memberLinkLines.length
            report := { source := "members" } } ∧
        named.classes = kennel := by
  have hkennel : Recoverable kennel := by decide +kernel
  obtain ⟨linked, named, hclasses, hmembers, hnamed, -, -⟩ :=
    readBack hkennel { source := "classes" } { source := "members" }
  exact ⟨hkennel, linked, named, hclasses, hmembers, hnamed⟩

end Recoverable

end NameCarry
