import NameCarry.Proofs.Annotation

/-!
# Linked members are in linked classes

A class is rooted if it is linked or none of its members is. Whatever links are carried out on a
build that is rooted, it stays rooted (`Registry.Rooted.run`): a member link names its class by a
community name, and a class that has one keeps one. A new build that is named after a rooted build
is rooted as well (`Registry.Rooted.carryDecl`), since a class and its members have the same
namesake.
-/

namespace NameCarry

/-- A linked member is in a linked class. -/
def ClassDecl.Rooted (cls : ClassDecl) : Prop :=
  ∀ id ∈ cls.fields ++ cls.methods, id.isLinked → cls.identity.isLinked

theorem ClassDecl.Rooted.of_isLinked {cls : ClassDecl} (h : cls.identity.isLinked) : cls.Rooted :=
  fun _ _ _ => h

theorem ClassDecl.Declared.rooted {cls : ClassDecl} (h : cls.Declared) : cls.Rooted := by
  intro id hid hlinked
  have hnone : id.community = none := by
    rcases List.mem_append.1 hid with hfield | hmethod
    · exact h.field id hfield
    · exact h.method id hmethod
  rw [Identifier.isLinked, hnone] at hlinked
  cases hlinked

theorem forall_mem_modify {α : Type} {p : α → Prop} {xs : Array α} {n : Nat} {f : α → α}
    (h : ∀ x ∈ xs, p x) (hf : ∀ x, xs[n]? = some x → p x → p (f x)) : ∀ x ∈ xs.modify n f, p x := by
  intro x hx
  obtain ⟨i, hi, rfl⟩ := Array.getElem_of_mem hx
  have hi : i < xs.size := by simpa using hi
  have hp : p xs[i] := h _ (Array.getElem_mem hi)
  rw [Array.getElem_modify]
  split
  · next hni =>
    subst hni
    exact hf _ (Array.getElem?_eq_getElem hi) hp
  · exact hp

namespace Registry

variable {registry linked : Registry}

/-- Every class is rooted. -/
def Rooted (registry : Registry) : Prop :=
  ∀ cls ∈ registry.classes, cls.Rooted

/-! ## Links keep a build rooted -/

theorem Rooted.nameClass (h : registry.Rooted) (number : Nat) (community : String) :
    (registry.nameClass number community).Rooted := by
  unfold Rooted
  rw [classes_nameClass]
  apply forall_mem_modify h
  intro cls _ _
  exact .of_isLinked rfl

theorem Rooted.linkClass (h : registry.Rooted) {obfuscated community : String}
    (hlink : registry.linkClass obfuscated community = .ok linked) : linked.Rooted := by
  obtain ⟨number, -, rfl⟩ := linkClass_eq_ok_iff.1 hlink
  exact h.nameClass number community

/-- A class that is found by a community name is linked. -/
theorem Indexed.isLinked_of_ownerOf (hindexed : registry.Indexed) {owner : String} {number : Nat}
    {cls : ClassDecl} (h : registry.ownerOf owner = .ok (number, cls)) :
    registry.classes[number]? = some cls ∧ cls.identity.isLinked := by
  obtain ⟨hnumber, hcls⟩ := ownerOf_eq_ok_iff.1 h
  refine ⟨hcls, ?_⟩
  rw [hindexed.communityNumber?] at hnumber
  obtain ⟨hlt, hkey, -⟩ := Array.findIdx?_eq_some_iff_getElem.1 hnumber
  rw [Array.getElem?_eq_getElem hlt] at hcls
  obtain rfl := Option.some.inj hcls
  obtain ⟨name, hname, -⟩ := Option.map_eq_some_iff.1 (eq_of_beq hkey)
  rw [Identifier.isLinked, hname]
  rfl

/-- A member link means a member of a linked class. -/
theorem Indexed.isLinked_of_resolve (hindexed : registry.Indexed) {link : MemberLink}
    {site : MemberSite} (h : registry.resolve link = .ok site) {cls : ClassDecl}
    (hcls : registry.classes[site.owner]? = some cls) : cls.identity.isLinked := by
  have howner : ∃ owner found, registry.ownerOf owner = .ok (site.owner, found) := by
    cases link with
    | field owner obfuscated community =>
      obtain ⟨place, found, _, howner, -, rfl⟩ := resolve_field_eq_ok_iff.1 h
      exact ⟨owner, found, howner⟩
    | method owner obfuscated descriptor community =>
      obtain ⟨_, place, found, _, -, howner, -, rfl⟩ := resolve_method_eq_ok_iff.1 h
      exact ⟨owner, found, howner⟩
  obtain ⟨owner, found, howner⟩ := howner
  obtain ⟨hfound, hlinked⟩ := hindexed.isLinked_of_ownerOf howner
  obtain rfl : found = cls := Option.some.inj (hfound.symm.trans hcls)
  exact hlinked

theorem Rooted.linkMember (h : registry.Rooted) (hindexed : registry.Indexed) {link : MemberLink}
    (hlink : registry.linkMember link = .ok linked) : linked.Rooted := by
  obtain ⟨site, hresolve, rfl⟩ := linkMember_eq_ok_iff.1 hlink
  unfold Rooted
  rw [nameMember_eq_modify]
  apply forall_mem_modify h
  intro cls hcls _
  apply ClassDecl.Rooted.of_isLinked
  rw [MemberSite.identity_nameIn]
  exact hindexed.isLinked_of_resolve hresolve hcls

/-- Whatever links are carried out, linked members are in linked classes. -/
theorem Rooted.run (h : registry.Rooted) (hindexed : registry.Indexed) (ops : List LinkOp) :
    (LinkOp.run registry ops).Rooted := by
  -- That a member link keeps a build rooted takes tables that are right.
  have hrun : (LinkOp.run registry ops).Rooted ∧ (LinkOp.run registry ops).Indexed := by
    apply LinkOp.run_induction (motive := fun registry => registry.Rooted ∧ registry.Indexed)
    · rintro registry linked ⟨h, hindexed⟩ obfuscated community hlink
      exact ⟨h.linkClass hlink, hindexed.linkClass hlink⟩
    · rintro registry linked ⟨h, hindexed⟩ link hlink
      exact ⟨h.linkMember hindexed hlink, hindexed.linkMember hlink⟩
    · exact ⟨h, hindexed⟩
  exact hrun.1

/-! ## Carrying keeps a build rooted -/

theorem mem_of_namesake? {id : Identifier} {cls : ClassDecl} (h : registry.namesake? id = some cls) :
    cls ∈ registry.classes := by
  obtain ⟨human, -, hclass⟩ := Option.bind_eq_some_iff.1 h
  obtain ⟨number, -, hnumber⟩ := Option.bind_eq_some_iff.1 hclass
  exact Array.mem_of_getElem? hnumber

/-- If a member takes a name from its old class, that class is linked. -/
theorem Rooted.isLinked_of_mem (h : registry.Rooted) {owner : Identifier} {former : ClassDecl}
    (hformer : registry.namesake? owner = some former) {id : Identifier}
    (hid : id ∈ former.fields ++ former.methods) (hlinked : id.isLinked) :
    (registry.carriedClassName? owner).isSome := by
  rw [carriedClassName?, hformer, Option.bind_some]
  exact h former (mem_of_namesake? hformer) id hid hlinked

theorem Rooted.carriedFieldName? (h : registry.Rooted) {owner field : Identifier}
    (hname : (registry.carriedFieldName? owner field).isSome) :
    (registry.carriedClassName? owner).isSome := by
  obtain ⟨name, hname⟩ := Option.isSome_iff_exists.1 hname
  obtain ⟨source, hsource, hcommunity⟩ := Option.bind_eq_some_iff.1 hname
  have hmem := List.mem_of_find?_eq_some hsource
  unfold fieldNamesakes at hmem
  cases hformer : registry.namesake? owner with
  | none => simp [hformer] at hmem
  | some former =>
    rw [hformer] at hmem
    have hlinked : source.isLinked := by rw [Identifier.isLinked, hcommunity]; rfl
    exact h.isLinked_of_mem hformer (List.mem_append_left _ (List.mem_filter.1 hmem).1) hlinked

theorem Rooted.carriedMethodName? (h : registry.Rooted) {owner method : Identifier}
    (hname : (registry.carriedMethodName? owner method).isSome) :
    (registry.carriedClassName? owner).isSome := by
  obtain ⟨name, hname⟩ := Option.isSome_iff_exists.1 hname
  obtain ⟨source, hsource, hcommunity⟩ := Option.bind_eq_some_iff.1 hname
  obtain ⟨former, hformer, hfind⟩ := Option.bind_eq_some_iff.1 hsource
  have hlinked : source.isLinked := by rw [Identifier.isLinked, hcommunity]; rfl
  exact h.isLinked_of_mem hformer (List.mem_append_right _ (List.mem_of_find?_eq_some hfind))
    hlinked

/-- A class that is named after a rooted build is rooted. -/
theorem Rooted.carryDecl (h : registry.Rooted) {cls : ClassDecl} (hcls : cls.Declared) :
    (registry.carryDecl cls).Rooted := by
  intro id hid hlinked
  have hname : (registry.carriedClassName? cls.identity).isSome := by
    rcases List.mem_append.1 hid with hfield | hmethod
    · obtain ⟨field, hmem, rfl⟩ := List.mem_map.1 hfield
      rw [isLinked_linkTo (hcls.field field hmem)] at hlinked
      exact h.carriedFieldName? hlinked
    · obtain ⟨method, hmem, rfl⟩ := List.mem_map.1 hmethod
      rw [isLinked_linkTo (hcls.method method hmem)] at hlinked
      exact h.carriedMethodName? hlinked
  rw [Registry.carryDecl, isLinked_linkTo hcls.community]
  exact hname

end Registry

end NameCarry
