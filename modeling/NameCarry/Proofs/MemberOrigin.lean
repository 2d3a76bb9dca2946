import NameCarry.Proofs.Transfers

/-!
# Where the names of members come from

No member of the new build has a name that was made up, or that is meant for another member
(`Transfer.memberNames_run`). Behind each name stands a member link that was carried out. It names
the first old class with the human name of the class of the member, a member of that class with the
same human name, and, read in the linked old build, exactly the types of the new member.
-/

namespace NameCarry

namespace Registry

variable {registry : Registry}

/-- A name that a member has from the lines stands in a line that was used. -/
theorem exists_used_of_lastName? {lines : List (Nat × String)} {site : MemberSite} {name : String}
    (h : lastName? (registry.namings lines) site = some name) :
    ∃ line ∈ lines, line ∈ memberReader.used registry lines ∧
      registry.naming? line.2 = some (site, name) := by
  obtain ⟨line, hline, hnaming⟩ := List.mem_filterMap.1 (mem_of_lastName?_eq_some h)
  refine ⟨line, hline, ?_, hnaming⟩
  rw [registry.steady_memberReader.used_eq_filter, List.mem_filter, accepts_memberReader, hnaming]
  exact ⟨hline, rfl⟩

/-! ## The member that a line means -/

/-- The name `key` leads to the class `owner`, which is the first one with the given human name. -/
def LeadsToFirst (registry : Registry) (key human : String) (owner : ClassDecl) : Prop :=
  ∃ number, registry.communityNumber? key = some number ∧
    registry.classes.findIdx? (·.identity.human == some human) = some number ∧
    registry.classes[number]? = some owner

/-- The line gives `name` to a method that has the human name and the types of `method`, in the
first class with the human name `human`. -/
def MethodOrigin (registry : Registry) (human : String) (method : Identifier)
    (name line : String) : Prop :=
  ∃ key obfuscated descriptor owner signature,
    Text.tokens line = [key, obfuscated, descriptor, name] ∧
    registry.LeadsToFirst key human owner ∧
    (∃ source ∈ owner.methods, source.obfuscated = obfuscated ∧ source.human = method.human) ∧
    Signature.read descriptor = .ok signature ∧
    signature.params.map registry.toHumanType = method.params ∧
    some (registry.toHumanType signature.result) = method.type

/-- The line gives `name` to a field that has the human name and the type of `field`, in the first
class with the human name `human`. -/
def FieldOrigin (registry : Registry) (human : String) (field : Identifier)
    (name line : String) : Prop :=
  ∃ key obfuscated owner,
    Text.tokens line = [key, obfuscated, name] ∧
    registry.LeadsToFirst key human owner ∧
    ∃ source ∈ owner.fields, source.obfuscated = obfuscated ∧ source.human = field.human ∧
      source.type = field.type

/-- A line that means a method says its class, its obfuscated name and its types. -/
theorem methodOrigin_of_naming? {line name human : String} {place number : Nat} {owner : ClassDecl}
    {source method : Identifier} (h : registry.naming? line = some (.method place number, name))
    (hplace : registry.classes.findIdx? (·.identity.human == some human) = some place)
    (howner : registry.classes[place]? = some owner)
    (hsource : owner.methods[number]? = some source) (hsame : source.sameSignature method) :
    registry.MethodOrigin human method name line := by
  obtain ⟨link, hread, hresolve, rfl⟩ := naming?_eq_some_iff.1 h
  simp only [Identifier.sameSignature, Bool.and_eq_true, beq_iff_eq] at hsame
  obtain ⟨⟨hhuman, htype⟩, hparams⟩ := hsame
  cases link with
  | field key obfuscated community =>
    -- A field link never means a method.
    obtain ⟨_, _, _, -, -, hsite⟩ := resolve_field_eq_ok_iff.1 hresolve
    cases hsite
  | method dotted obfuscated descriptor community =>
    obtain ⟨key, hwords, rfl⟩ := MemberLink.read_eq_ok_method_iff.1 hread
    obtain ⟨signature, _, cls, _, hsignature, hfound, hmethod, hsite⟩ :=
      resolve_method_eq_ok_iff.1 hresolve
    cases hsite
    obtain ⟨hkey, hcls⟩ := ownerOf_eq_ok_iff.1 hfound
    -- The class that the link names is the one that the method was found in.
    obtain rfl : owner = cls := Option.some.inj (howner.symm.trans hcls)
    obtain ⟨hfits, hresult⟩ := resolveMethod_eq_ok_iff.1 hmethod
    obtain ⟨hlt, hmatch, -⟩ := List.findIdx?_eq_some_iff_getElem.1 hfits
    obtain ⟨_, rfl⟩ := List.getElem?_eq_some_iff.1 hsource
    simp only [Bool.and_eq_true, beq_iff_eq] at hmatch
    rw [hsource, Option.bind_some] at hresult
    rw [communityNumber?_dotted] at hkey
    refine ⟨key, obfuscated, descriptor, owner, signature, hwords, ⟨place, hkey, hplace, howner⟩,
      ⟨_, List.getElem_mem hlt, hmatch.1, hhuman⟩, hsignature, ?_, ?_⟩
    · exact hmatch.2.symm.trans hparams
    · exact hresult.symm.trans htype

theorem fieldOrigin_of_naming? {line name human : String} {place number : Nat} {owner : ClassDecl}
    {source field : Identifier} (h : registry.naming? line = some (.field place number, name))
    (hplace : registry.classes.findIdx? (·.identity.human == some human) = some place)
    (howner : registry.classes[place]? = some owner)
    (hsource : owner.fields[number]? = some source) (hhuman : source.human = field.human)
    (htype : source.type = field.type) :
    registry.FieldOrigin human field name line := by
  obtain ⟨link, hread, hresolve, rfl⟩ := naming?_eq_some_iff.1 h
  cases link with
  | method key obfuscated descriptor community =>
    obtain ⟨_, _, _, _, -, -, -, hsite⟩ := resolve_method_eq_ok_iff.1 hresolve
    cases hsite
  | field dotted obfuscated community =>
    obtain ⟨key, hwords, rfl⟩ := MemberLink.read_eq_ok_field_iff.1 hread
    obtain ⟨_, cls, _, hfound, hfield, hsite⟩ := resolve_field_eq_ok_iff.1 hresolve
    cases hsite
    obtain ⟨hkey, hcls⟩ := ownerOf_eq_ok_iff.1 hfound
    obtain rfl : owner = cls := Option.some.inj (howner.symm.trans hcls)
    obtain ⟨hlt, hmatch, -⟩ := List.findIdx?_eq_some_iff_getElem.1 (resolveField_eq_ok_iff.1 hfield)
    obtain ⟨_, rfl⟩ := List.getElem?_eq_some_iff.1 hsource
    rw [beq_iff_eq] at hmatch
    rw [communityNumber?_dotted] at hkey
    exact ⟨key, obfuscated, owner, hwords, ⟨place, hkey, hplace, howner⟩, _,
      List.getElem_mem hlt, hmatch, hhuman, htype⟩

end Registry

/-! ## From the old build to the new one -/

namespace Transfer

variable {settings : Settings} {texts : Inputs String}

/-- Before the member links, no member of the old build has a community name. -/
theorem bare_of_getElem?_linkedOld {number : Nat} {owner : ClassDecl}
    (howner : (linkedOld settings texts).classes[number]? = some owner) :
    (∀ field ∈ owner.fields, field.community = none) ∧
      ∀ method ∈ owner.methods, method.community = none := by
  rw [classes_linkedOld, Array.getElem?_eq_some_iff] at howner
  obtain ⟨hlinked, rfl⟩ := howner
  have hnumber : number < (oldClasses texts).size := by simpa using hlinked
  have hdeclared : (oldClasses texts)[number].Declared :=
    declared_of_mem_loadMapping (Array.getElem_mem hnumber)
  rw [fields_getElem_linkFirsts hnumber, methods_getElem_linkFirsts hnumber]
  exact ⟨hdeclared.field, hdeclared.method⟩

/-- The old class that members of the new build take their names from, with its members under the
names that the member links give them. -/
theorem namesake?_old_eq_some {cls : Identifier} {human : String} {named : ClassDecl}
    (hhuman : cls.human = some human)
    (hnamed : (run settings texts).value.old.namesake? cls = some named) :
    ∃ number owner,
      (linkedOld settings texts).classes.findIdx? (·.identity.human == some human) =
        some number ∧
      (linkedOld settings texts).classes[number]? = some owner ∧
      owner.nameMembers (lastName? ((linkedOld settings texts).namings
        (Text.contentLines texts.memberLinks))) number = named := by
  rw [value_run_old, Registry.namesake?, hhuman, Option.bind_some,
    Registry.humanClass?_withMembers, (indexed_linkedOld settings texts).byHuman,
    Option.bind_eq_some_iff] at hnamed
  obtain ⟨number, hnumber, hclass⟩ := hnamed
  obtain ⟨owner, howner, hmembers⟩ := Option.map_eq_some_iff.1 hclass
  exact ⟨number, owner, hnumber, howner, hmembers⟩

/-- A member that had no name of its own and is now under one has it from the member links. -/
theorem mem_mapIdx_linkTo {ids : List Identifier} {names : Nat → Option String}
    {named : Identifier} {name : String} (hbare : ∀ id ∈ ids, id.community = none)
    (hnamed : named ∈ ids.mapIdx fun number id => id.linkTo (names number))
    (hname : named.community = some name) :
    ∃ number source, ids[number]? = some source ∧ source.linkTo (names number) = named ∧
      names number = some name := by
  obtain ⟨number, hnumber, rfl⟩ := List.mem_mapIdx.1 hnamed
  have hsource : ids[number].community = none := hbare _ (List.getElem_mem hnumber)
  rw [Identifier.community_linkTo_of_none hsource] at hname
  exact ⟨number, ids[number], List.getElem?_eq_getElem hnumber, rfl, hname⟩

/-- The name that a method takes from the old build stands in a member link of the method. -/
theorem carriedMethodName?_old {cls method : Identifier} {human name : String}
    (hhuman : cls.human = some human)
    (hname : (run settings texts).value.old.carriedMethodName? cls method = some name) :
    ∃ line ∈ Text.contentLines texts.memberLinks, line ∈ usedMemberLinks settings texts ∧
      (linkedOld settings texts).MethodOrigin human method name line.2 := by
  obtain ⟨found, hfound, hcommunity⟩ := Option.bind_eq_some_iff.1 hname
  obtain ⟨named, hnamed, hfind⟩ := Option.bind_eq_some_iff.1 hfound
  obtain ⟨place, owner, hplace, howner, rfl⟩ := namesake?_old_eq_some hhuman hnamed
  obtain ⟨number, source, hsource, rfl, hlast⟩ :=
    mem_mapIdx_linkTo (bare_of_getElem?_linkedOld howner).2 (List.mem_of_find?_eq_some hfind)
      hcommunity
  obtain ⟨line, hline, hused, hnaming⟩ := Registry.exists_used_of_lastName? hlast
  have hsame := List.find?_some hfind
  exact ⟨line, hline, hused, Registry.methodOrigin_of_naming? hnaming hplace howner hsource hsame⟩

theorem carriedFieldName?_old {cls field : Identifier} {human name : String}
    (hhuman : cls.human = some human)
    (hname : (run settings texts).value.old.carriedFieldName? cls field = some name) :
    ∃ line ∈ Text.contentLines texts.memberLinks, line ∈ usedMemberLinks settings texts ∧
      (linkedOld settings texts).FieldOrigin human field name line.2 := by
  obtain ⟨found, hfind, hcommunity⟩ := Option.bind_eq_some_iff.1 hname
  have haccepted := List.find?_some hfind
  simp only [Registry.accepts, Bool.and_eq_true, beq_iff_eq] at haccepted
  have hmem := List.mem_of_find?_eq_some hfind
  unfold Registry.fieldNamesakes at hmem
  cases hnamed : (run settings texts).value.old.namesake? cls with
  | none => simp [hnamed] at hmem
  | some named =>
    simp only [hnamed, List.mem_filter, beq_iff_eq] at hmem
    obtain ⟨place, owner, hplace, howner, rfl⟩ := namesake?_old_eq_some hhuman hnamed
    obtain ⟨number, source, hsource, rfl, hlast⟩ :=
      mem_mapIdx_linkTo (bare_of_getElem?_linkedOld howner).1 hmem.1 hcommunity
    obtain ⟨line, hline, hused, hnaming⟩ := Registry.exists_used_of_lastName? hlast
    exact ⟨line, hline, hused, Registry.fieldOrigin_of_naming? hnaming hplace howner hsource
      hmem.2 haccepted.1⟩

/-- A class of the new build has a human name, and each community name of its members has a member
link behind it that was carried out. -/
theorem memberNames_run (settings : Settings) (texts : Inputs String) {cls : ClassDecl}
    (hcls : cls ∈ (run settings texts).value.new.classes) :
    ∃ human, cls.identity.human = some human ∧
      (∀ method ∈ cls.methods, ∀ name, method.community = some name →
        ∃ line ∈ Text.contentLines texts.memberLinks, line ∈ usedMemberLinks settings texts ∧
          (linkedOld settings texts).MethodOrigin human method name line.2) ∧
      ∀ field ∈ cls.fields, ∀ name, field.community = some name →
        ∃ line ∈ Text.contentLines texts.memberLinks, line ∈ usedMemberLinks settings texts ∧
          (linkedOld settings texts).FieldOrigin human field name line.2 := by
  rw [value_run_new, Registry.classes_ofClasses] at hcls
  obtain ⟨declared, hmem, rfl⟩ := Array.mem_map.1 hcls
  have hdeclared : declared.Declared := declared_of_mem_loadMapping hmem
  obtain ⟨human, hhuman⟩ := hdeclared.human
  refine ⟨human, hhuman, ?_, ?_⟩
  · intro method hmethod name hname
    obtain ⟨bare, hbare, rfl⟩ := List.mem_map.1 hmethod
    have hcarried := hname
    rw [Identifier.linkTo, hdeclared.method bare hbare, Option.or_none] at hcarried
    exact carriedMethodName?_old hhuman hcarried
  · intro field hfield name hname
    obtain ⟨bare, hbare, rfl⟩ := List.mem_map.1 hfield
    have hcarried := hname
    rw [Identifier.linkTo, hdeclared.field bare hbare, Option.or_none] at hcarried
    exact carriedFieldName?_old hhuman hcarried

/-- Two builds with one class, which has a method and a field, and links of all three. -/
def petTexts : Inputs String where
  oldMapping := "Pet -> a:\n void tick(int) -> b\n int age -> c"
  classLinks := "a Animal"
  memberLinks := "Animal b (I)V onTick\nAnimal c years"
  exclusions := ""
  newMapping := "Pet -> x:\n void tick(int) -> y\n int age -> z"

def pet : ClassDecl where
  identity := { Identifier.ofClass "x" "Pet" with community := some "Animal" }
  fields := [{ Identifier.ofField "z" "age" "int" with community := some "years" }]
  methods := [{ Identifier.ofMethod "y" "tick" ["int"] "void" with community := some "onTick" }]

theorem memberNames_run_pet :
    pet ∈ (run { anchors := [] } petTexts).value.new.classes ∧
      (∀ method ∈ pet.methods, ∃ line ∈ Text.contentLines petTexts.memberLinks,
        line ∈ usedMemberLinks { anchors := [] } petTexts ∧
          (linkedOld { anchors := [] } petTexts).MethodOrigin "Pet" method "onTick" line.2) ∧
      ∀ field ∈ pet.fields, ∃ line ∈ Text.contentLines petTexts.memberLinks,
        line ∈ usedMemberLinks { anchors := [] } petTexts ∧
          (linkedOld { anchors := [] } petTexts).FieldOrigin "Pet" field "years" line.2 := by
  have hpet : pet ∈ (run { anchors := [] } petTexts).value.new.classes := by decide +kernel
  obtain ⟨human, hhuman, hmethods, hfields⟩ := memberNames_run { anchors := [] } petTexts hpet
  obtain rfl : "Pet" = human := Option.some.inj hhuman
  refine ⟨hpet, ?_, ?_⟩
  · intro method hmethod
    refine hmethods method hmethod "onTick" ?_
    rw [List.mem_singleton.1 hmethod]
  · intro field hfield
    refine hfields field hfield "years" ?_
    rw [List.mem_singleton.1 hfield]

end Transfer

end NameCarry
