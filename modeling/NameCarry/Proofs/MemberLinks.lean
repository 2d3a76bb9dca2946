import Mathlib.Data.List.Induction
import NameCarry.Proofs.Lookups
import NameCarry.Proofs.Reading

/-!
# What a list of member links leads to

Member links do not stand in each other's way. Which member a link means depends on names of classes
and on the declarations of members, and not on the community names of members
(`Registry.resolve_withMembers`). So the registry that the member links of a text lead to can be
written down at once (`Registry.run_memberReader`): each member is under the community name of the
last line that means it, and all else is as it was.
-/

namespace NameCarry

/-! ## Members under names -/

/-- The identifier without its community name. -/
def Identifier.bare (id : Identifier) : Identifier :=
  { id with community := none }

/-- The class with its members without their community names. -/
def ClassDecl.bareMembers (cls : ClassDecl) : ClassDecl :=
  { cls with fields := cls.fields.map .bare, methods := cls.methods.map .bare }

/-- The class without any community name. -/
def ClassDecl.bare (cls : ClassDecl) : ClassDecl :=
  { cls.bareMembers with identity := cls.identity.bare }

/-- The class with the given number, its members under the community names that `names` has for
them. -/
def ClassDecl.nameMembers (names : MemberSite → Option String) (owner : Nat) (cls : ClassDecl) :
    ClassDecl :=
  { cls with
    fields := cls.fields.mapIdx fun number field => field.linkTo (names (.field owner number))
    methods := cls.methods.mapIdx fun number method => method.linkTo (names (.method owner number)) }

/-- The registry with its members under the community names that `names` has for them. -/
def Registry.withMembers (registry : Registry) (names : MemberSite → Option String) : Registry :=
  { registry with classes := registry.classes.mapIdx (ClassDecl.nameMembers names) }

theorem bareMembers_nameMembers (names : MemberSite → Option String) (owner : Nat)
    (cls : ClassDecl) : (cls.nameMembers names owner).bareMembers = cls.bareMembers := by
  have hlist : ∀ (ids : List Identifier) (community? : Nat → Option String),
      (ids.mapIdx fun number id => id.linkTo (community? number)).map Identifier.bare =
        ids.map Identifier.bare := by
    intro ids community?
    apply List.ext_getElem (by simp)
    intro number h₁ h₂
    simp [Identifier.bare, Identifier.linkTo]
  simp only [ClassDecl.bareMembers, ClassDecl.nameMembers, hlist]

namespace Registry

/-! ## What a link means does not depend on names of members -/

theorem resolveField_bareMembers (cls : ClassDecl) (owner obfuscated community : String) :
    resolveField cls.bareMembers owner obfuscated community =
      resolveField cls owner obfuscated community := by
  simp only [resolveField, ClassDecl.bareMembers, List.findIdx?_map]
  rfl

theorem resolveMethod_bareMembers (cls : ClassDecl) (owner obfuscated community : String)
    (signature : Signature) :
    resolveMethod cls.bareMembers owner obfuscated community signature =
      resolveMethod cls owner obfuscated community signature := by
  have hname : (fun method : Identifier => method.obfuscated == obfuscated) ∘ Identifier.bare =
      fun method => method.obfuscated == obfuscated := rfl
  have hfits : (fun method : Identifier =>
        method.obfuscated == obfuscated && method.params == signature.params) ∘ Identifier.bare =
      fun method => method.obfuscated == obfuscated && method.params == signature.params := rfl
  simp only [resolveMethod, ClassDecl.bareMembers, List.any_map, List.find?_map, List.findIdx_map,
    hname, hfits]
  cases cls.methods.find? fun method =>
    method.obfuscated == obfuscated && method.params == signature.params <;> rfl

variable (registry : Registry) (names : MemberSite → Option String)

theorem getElem?_classes_withMembers (number : Nat) :
    (registry.withMembers names).classes[number]? =
      registry.classes[number]?.map (ClassDecl.nameMembers names number) := by
  simp [withMembers]

/-- Names of members are no names of classes. -/
theorem changed_withMembers :
    Changed (ClassDecl.nameMembers names) registry (registry.withMembers names) where
  classes := registry.getElem?_classes_withMembers names
  communityNumber? _ := rfl

theorem humanClass?_withMembers (name : String) :
    (registry.withMembers names).humanClass? name =
      registry.byHuman[name]?.bind fun number =>
        registry.classes[number]?.map (ClassDecl.nameMembers names number) := by
  unfold humanClass?
  congr 1
  funext number
  exact registry.getElem?_classes_withMembers names number

/-- The tables hold names of classes only, so they stay right. -/
theorem Indexed.withMembers {registry : Registry} (h : registry.Indexed)
    (names : MemberSite → Option String) : (registry.withMembers names).Indexed where
  obfuscated := h.obfuscated.of_mapIdx (ClassDecl.nameMembers names) fun _ _ => rfl
  human := h.human.of_mapIdx (ClassDecl.nameMembers names) fun _ _ => rfl
  community := h.community.of_mapIdx (ClassDecl.nameMembers names) fun _ _ => rfl

/-- What a link means does not depend on the names that members go by. -/
theorem resolve_withMembers (link : MemberLink) :
    (registry.withMembers names).resolve link = registry.resolve link := by
  have hchanged := registry.changed_withMembers names
  cases link with
  | field owner obfuscated community =>
    simp only [resolve, hchanged.ownerOf]
    cases registry.ownerOf owner with
    | error fault => rfl
    | ok found =>
      obtain ⟨number, cls⟩ := found
      simp only [Except.map, bind, Except.bind]
      rw [← resolveField_bareMembers, bareMembers_nameMembers, resolveField_bareMembers]
  | method owner obfuscated descriptor community =>
    simp only [resolve, hchanged.ownerOf, hchanged.toHumanSignature fun _ _ => rfl]
    cases (Signature.read descriptor).mapError Fault.invalidDescriptor with
    | error fault => rfl
    | ok signature =>
      cases registry.ownerOf owner with
      | error fault => rfl
      | ok found =>
        obtain ⟨number, cls⟩ := found
        simp only [Except.map, bind, Except.bind]
        rw [← resolveMethod_bareMembers, bareMembers_nameMembers, resolveMethod_bareMembers]

/-! ## Naming one more member -/

theorem modify_mapIdx_linkTo (ids : List Identifier) (community? : Nat → Option String)
    (number : Nat) (community : String) :
    (ids.mapIdx fun place id => id.linkTo (community? place)).modify number (·.link community) =
      ids.mapIdx fun place id =>
        id.linkTo (if number = place then some community else community? place) := by
  apply List.ext_getElem (by simp)
  intro place h₁ h₂
  rw [List.getElem_modify, List.getElem_mapIdx, List.getElem_mapIdx]
  split
  · rfl
  · rfl

theorem nameIn_nameMembers (site : MemberSite) (community : String) (cls : ClassDecl) :
    site.nameIn community (cls.nameMembers names site.owner) =
      cls.nameMembers (fun other => if site = other then some community else names other)
        site.owner := by
  cases site with
  | field owner number =>
    simp [MemberSite.nameIn, ClassDecl.nameMembers, MemberSite.owner, modify_mapIdx_linkTo]
  | method owner number =>
    simp [MemberSite.nameIn, ClassDecl.nameMembers, MemberSite.owner, modify_mapIdx_linkTo]

/-- Naming a member of one class does not show in another. -/
theorem nameMembers_of_owner_ne {site : MemberSite} {owner : Nat} (howner : site.owner ≠ owner)
    (community : String) (cls : ClassDecl) :
    cls.nameMembers (fun other => if site = other then some community else names other) owner =
      cls.nameMembers names owner := by
  have hfield : ∀ number, site ≠ .field owner number := by
    rintro number rfl
    exact howner rfl
  have hmethod : ∀ number, site ≠ .method owner number := by
    rintro number rfl
    exact howner rfl
  simp [ClassDecl.nameMembers, hfield, hmethod]

theorem nameMember_withMembers (site : MemberSite) (community : String) :
    (registry.withMembers names).nameMember site community =
      registry.withMembers fun other => if site = other then some community else names other := by
  rw [nameMember_eq_modify]
  unfold withMembers
  congr 1
  apply Array.ext (by simp)
  intro place h₁ h₂
  rw [Array.getElem_modify, Array.getElem_mapIdx, Array.getElem_mapIdx]
  split
  · next howner =>
    subst howner
    exact nameIn_nameMembers names site community _
  · next howner => exact (nameMembers_of_owner_ne names howner community _).symm

theorem withMembers_none : registry.withMembers (fun _ => none) = registry := by
  have hlist : ∀ ids : List Identifier,
      (ids.mapIdx fun _ id => id.linkTo none) = ids := by
    intro ids
    apply List.ext_getElem (by simp)
    intro number h₁ h₂
    simp [Identifier.linkTo]
  have hcls : ∀ number (cls : ClassDecl), cls.nameMembers (fun _ => none) number = cls := by
    intro number cls
    simp only [ClassDecl.nameMembers, hlist]
  unfold withMembers
  have hclasses : registry.classes.mapIdx (ClassDecl.nameMembers fun _ => none) =
      registry.classes := by
    apply Array.ext (by simp)
    intro number h₁ h₂
    rw [Array.getElem_mapIdx, hcls]
  rw [hclasses]

/-! ## The member links of a text -/

/-- The member that a line means, and the community name that it gives. -/
def naming? (line : String) : Option (MemberSite × String) :=
  (MemberLink.read line).toOption.bind fun link =>
    (registry.resolve link).toOption.map fun site => (site, link.community)

theorem naming?_eq_some_iff {registry : Registry} {line name : String} {site : MemberSite} :
    registry.naming? line = some (site, name) ↔
      ∃ link, MemberLink.read line = .ok link ∧ registry.resolve link = .ok site ∧
        link.community = name := by
  unfold naming?
  cases MemberLink.read line with
  | error fault => simp [Except.toOption]
  | ok link => cases hsite : registry.resolve link <;> simp [Except.toOption, hsite]

/-- The members that a row of lines means, with the names that they are given. -/
def namings (lines : List (Nat × String)) : List (MemberSite × String) :=
  lines.filterMap fun line => registry.naming? line.2

theorem namings_concat (lines : List (Nat × String)) (line : Nat × String) :
    registry.namings (lines ++ [line]) =
      registry.namings lines ++ (registry.naming? line.2).toList := by
  unfold namings
  rw [List.filterMap_append]
  cases hline : registry.naming? line.2 <;> simp [hline]

theorem memberReader_withMembers (line : String) :
    memberReader (registry.withMembers names) line =
      ((MemberLink.read line).mapError LineFault.toFault).bind fun link =>
        (registry.resolve link).map fun site =>
          pure (registry.withMembers fun other =>
            if site = other then some link.community else names other) := by
  unfold memberReader linkMemberLine
  cases (MemberLink.read line).mapError LineFault.toFault with
  | error fault => rfl
  | ok link =>
    simp only [linkMember, bind, Except.bind, resolve_withMembers]
    cases registry.resolve link with
    | error fault => rfl
    | ok site =>
      simp only [pure, Except.pure, Except.map, nameMember_withMembers]

/-- A line names the member that it means, if it means one. -/
theorem next_memberReader (line : String) :
    memberReader.next (registry.withMembers names) line =
      match registry.naming? line with
      | some (site, community) =>
        registry.withMembers fun other => if site = other then some community else names other
      | none => registry.withMembers names := by
  unfold LineReader.next naming?
  rw [memberReader_withMembers]
  cases MemberLink.read line with
  | error fault => rfl
  | ok link =>
    simp only [mapError_ok, Except.bind, Except.toOption, Option.bind_some]
    cases registry.resolve link with
    | error fault => rfl
    | ok site => rfl

/-- Each member is under the community name of the last line that means it, and all else is as it
was. -/
theorem run_memberReader (lines : List (Nat × String)) :
    memberReader.run registry lines =
      registry.withMembers (lastName? (registry.namings lines)) := by
  -- The last line wins, so the induction adds lines at the end.
  induction lines using List.reverseRecOn with
  | nil =>
    have hnone : lastName? (registry.namings []) = fun _ => none := rfl
    rw [hnone, withMembers_none]
    rfl
  | append_singleton lines line ih =>
    rw [LineReader.run_append, ih, LineReader.run_cons, LineReader.run_nil, next_memberReader]
    rw [namings_concat]
    cases registry.naming? line.2 with
    | none => simp
    | some naming =>
      have hlast : lastName? (registry.namings lines ++ [naming]) = fun other =>
          if naming.1 = other then some naming.2
          else lastName? (registry.namings lines) other := by
        funext other
        exact lastName?_concat _ _ other
      rw [Option.toList_some, hlast]

/-- Whether a line is used does not depend on the names that members were given before. -/
theorem steady_memberReader (start : Registry) :
    memberReader.Steady start fun registry => ∃ names, registry = start.withMembers names where
  inv_start := ⟨fun _ => none, start.withMembers_none.symm⟩
  -- Every state is `start` under some names, and no name has a say in what a line means.
  of_ok := by
    rintro registry line moved ⟨names, rfl⟩ hread
    have halone := start.memberReader_withMembers (fun _ => none) line
    rw [withMembers_none] at halone
    rw [memberReader_withMembers] at hread
    obtain ⟨link, hlink, hsite⟩ := bind_eq_ok_iff.1 hread
    obtain ⟨site, hresolve, rfl⟩ := map_eq_ok_iff.1 hsite
    rw [hlink] at halone
    simp only [Except.bind, hresolve, Except.map] at halone
    exact ⟨⟨_, rfl⟩, _, halone⟩
  of_error := by
    rintro registry line fault ⟨names, rfl⟩ hread
    have halone := start.memberReader_withMembers (fun _ => none) line
    rw [withMembers_none] at halone
    rw [memberReader_withMembers] at hread
    cases hlink : (MemberLink.read line).mapError LineFault.toFault with
    | error cause =>
      rw [hlink] at hread halone
      simp only [Except.bind] at hread halone
      rw [halone, hread]
    | ok link =>
      rw [hlink] at hread halone
      simp only [Except.bind] at hread halone
      cases hresolve : start.resolve link with
      | error cause =>
        rw [hresolve] at hread halone
        simp only [Except.map] at hread halone
        rw [halone, hread]
      | ok site =>
        rw [hresolve] at hread
        cases hread

theorem accepts_memberReader (line : Nat × String) :
    memberReader.accepts registry line = (registry.naming? line.2).isSome := by
  have halone := registry.memberReader_withMembers (fun _ => none) line.2
  rw [withMembers_none] at halone
  unfold LineReader.accepts naming?
  rw [halone]
  cases MemberLink.read line.2 with
  | error fault => rfl
  | ok link =>
    simp only [mapError_ok, Except.bind, Except.toOption, Option.bind_some]
    cases registry.resolve link <;> rfl

end Registry

end NameCarry
