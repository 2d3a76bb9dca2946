import NameCarry.Proofs.Attempts

/-!
# What a single link does

A link is carried out or refused. Carried out, it changes one class by giving it, or one member of
it, a community name; the lemmas here say which one, for each way in which a link is given. A
refused link leaves the registry as it was (`Registry.orStay`).
-/

namespace NameCarry

/-! ## The last of several names -/

section LastName

variable {κ : Type} [DecidableEq κ]

/-- The name in the last entry for a key. -/
def lastName? (entries : List (κ × String)) (key : κ) : Option String :=
  (entries.filter (·.1 == key)).getLast?.map (·.2)

/-- An entry at the end decides on its own key, and on no other. -/
theorem lastName?_concat (entries : List (κ × String)) (entry : κ × String) (key : κ) :
    lastName? (entries ++ [entry]) key =
      if entry.1 = key then some entry.2 else lastName? entries key := by
  unfold lastName?
  rw [List.filter_append]
  by_cases hkey : entry.1 = key
  · have hlast : [entry].filter (·.1 == key) = [entry] := by simp [hkey]
    rw [hlast, List.getLast?_concat, if_pos hkey]
    rfl
  · have hlast : [entry].filter (·.1 == key) = [] := by simp [hkey]
    rw [hlast, List.append_nil, if_neg hkey]

theorem mem_of_lastName?_eq_some {entries : List (κ × String)} {key : κ} {name : String}
    (h : lastName? entries key = some name) : (key, name) ∈ entries := by
  obtain ⟨entry, hlast, rfl⟩ := Option.map_eq_some_iff.1 h
  obtain ⟨hentry, hkey⟩ := List.mem_filter.1 (List.mem_of_getLast? hlast)
  rw [← eq_of_beq hkey]
  exact hentry

/-- If all entries for a key have one name, it is the last name. -/
theorem lastName?_eq_of_forall {entries : List (κ × String)} {key : κ} {name? : Option String}
    (h : ∀ name, (key, name) ∈ entries ↔ name? = some name) : lastName? entries key = name? := by
  cases hlast : lastName? entries key with
  | some name => exact ((h name).1 (mem_of_lastName?_eq_some hlast)).symm
  | none =>
    have hempty : entries.filter (·.1 == key) = [] :=
      List.getLast?_eq_none_iff.1 (Option.map_eq_none_iff.1 hlast)
    cases name? with
    | none => rfl
    | some name =>
      have hmem : (key, name) ∈ entries.filter (·.1 == key) :=
        List.mem_filter.2 ⟨(h name).2 rfl, beq_self_eq_true key⟩
      rw [hempty] at hmem
      cases hmem

end LastName

/-! ## What a line of a member link says -/

/-- A line links a method if it has four words. -/
theorem MemberLink.read_eq_ok_method_iff {line owner obfuscated descriptor community : String} :
    read line = .ok (.method owner obfuscated descriptor community) ↔
      ∃ key, Text.tokens line = [key, obfuscated, descriptor, community] ∧
        Text.dotted key = owner := by
  unfold read
  constructor
  · intro hread
    split at hread
    · cases hread
    · next key _ _ _ hwords =>
      cases hread
      exact ⟨key, hwords, rfl⟩
    · cases hread
  · rintro ⟨key, hwords, rfl⟩
    rw [hwords]

/-- A line links a field if it has three words. -/
theorem MemberLink.read_eq_ok_field_iff {line owner obfuscated community : String} :
    read line = .ok (.field owner obfuscated community) ↔
      ∃ key, Text.tokens line = [key, obfuscated, community] ∧ Text.dotted key = owner := by
  unfold read
  constructor
  · intro hread
    split at hread
    · next key _ _ hwords =>
      cases hread
      exact ⟨key, hwords, rfl⟩
    · cases hread
    · cases hread
  · rintro ⟨key, hwords, rfl⟩
    rw [hwords]

/-! ## Changes of one class -/

/-- The class under the given community name. -/
def ClassDecl.link (cls : ClassDecl) (community : String) : ClassDecl :=
  { cls with identity := cls.identity.link community }

/-- The number of the class that a site is in. -/
def MemberSite.owner : MemberSite → Nat
  | field owner _ => owner
  | method owner _ => owner

/-- What naming the member at a site does to the class that it is in. -/
def MemberSite.nameIn (community : String) : MemberSite → ClassDecl → ClassDecl
  | field _ number, cls =>
    { cls with fields := cls.fields.modify number (·.link community) }
  | method _ number, cls =>
    { cls with methods := cls.methods.modify number (·.link community) }

@[simp]
theorem MemberSite.identity_nameIn (community : String) (site : MemberSite) (cls : ClassDecl) :
    (site.nameIn community cls).identity = cls.identity := by
  cases site <;> rfl

namespace Registry

variable {registry linked : Registry}

/-- Naming a member changes its class, and no table. -/
theorem nameMember_eq_modify (registry : Registry) (site : MemberSite) (community : String) :
    registry.nameMember site community =
      { registry with classes := registry.classes.modify site.owner (site.nameIn community) } := by
  cases site <;> rfl

/-! ## What a member link means -/

/-- A class is looked up by the dotted form of its name, so it does not matter whether the name is
dotted already. -/
theorem communityNumber?_dotted (registry : Registry) (name : String) :
    registry.communityNumber? (Text.dotted name) = registry.communityNumber? name := by
  rw [communityNumber?, communityNumber?, Text.dotted_dotted]

theorem mem_of_communityClass? {name : String} {cls : ClassDecl}
    (h : registry.communityClass? name = some cls) : cls ∈ registry.classes := by
  obtain ⟨number, -, hcls⟩ := Option.bind_eq_some_iff.1 h
  exact Array.mem_of_getElem? hcls

theorem mem_of_humanClass? {name : String} {cls : ClassDecl}
    (h : registry.humanClass? name = some cls) : cls ∈ registry.classes := by
  obtain ⟨number, -, hcls⟩ := Option.bind_eq_some_iff.1 h
  exact Array.mem_of_getElem? hcls

theorem ownerOf_eq_ok_iff {owner : String} {number : Nat} {cls : ClassDecl} :
    registry.ownerOf owner = .ok (number, cls) ↔
      registry.communityNumber? owner = some number ∧ registry.classes[number]? = some cls := by
  unfold ownerOf communityClass?
  cases registry.communityNumber? owner with
  | none => simp
  | some found =>
    cases hcls : registry.classes[found]? with
    | none =>
      simp only [Option.bind_some, hcls, reduceCtorEq, Option.some.injEq, false_iff, not_and]
      rintro rfl
      simp [hcls]
    | some owning =>
      simp only [Option.bind_some, hcls, Except.ok.injEq, Prod.mk.injEq, Option.some.injEq]
      constructor
      · rintro ⟨rfl, rfl⟩
        exact ⟨rfl, hcls⟩
      · rintro ⟨rfl, hnumber⟩
        exact ⟨rfl, by simpa [hcls] using hnumber⟩

/-- A field link means the first field with its obfuscated name. -/
theorem resolveField_eq_ok_iff {cls : ClassDecl} {owner obfuscated community : String}
    {number : Nat} :
    resolveField cls owner obfuscated community = .ok number ↔
      cls.fields.findIdx? (·.obfuscated == obfuscated) = some number := by
  unfold resolveField
  cases cls.fields.findIdx? (·.obfuscated == obfuscated) <;> simp

/-- A method link means the first method with its obfuscated name and its parameters, if the result
type is right as well. -/
theorem resolveMethod_eq_ok_iff {cls : ClassDecl} {owner obfuscated community : String}
    {signature : Signature} {number : Nat} :
    resolveMethod cls owner obfuscated community signature = .ok number ↔
      cls.methods.findIdx? (fun method =>
          method.obfuscated == obfuscated && method.params == signature.params) = some number ∧
        cls.methods[number]?.bind (·.type) = some signature.result := by
  unfold resolveMethod
  simp only [List.find?_eq_bind_findIdx?_getElem?]
  cases hfind : cls.methods.findIdx? fun method =>
      method.obfuscated == obfuscated && method.params == signature.params with
  | none => split <;> simp
  | some found =>
    obtain ⟨hlt, hplace⟩ := List.findIdx?_eq_some_iff_findIdx_eq.1 hfind
    obtain ⟨_, hfits, _⟩ := List.findIdx?_eq_some_iff_getElem.1 hfind
    simp only [Bool.and_eq_true, beq_iff_eq] at hfits
    have hany : cls.methods.any (·.obfuscated == obfuscated) = true :=
      List.any_eq_true.2 ⟨_, List.getElem_mem hlt, by simp [hfits.1]⟩
    simp only [hany, hplace, Option.bind_some, List.getElem?_eq_getElem hlt, Option.some.injEq]
    by_cases htype : cls.methods[found].type = some signature.result
    · simp only [htype, Bool.not_true, Bool.false_eq_true, if_false, BEq.rfl, if_true,
        Except.ok.injEq]
      constructor
      · rintro rfl
        exact ⟨rfl, by rw [List.getElem?_eq_getElem hlt, Option.bind_some, htype]⟩
      · rintro ⟨rfl, -⟩
        rfl
    · have hbeq : (cls.methods[found].type == some signature.result) = false := by simp [htype]
      simp only [hbeq, Bool.not_true, Bool.false_eq_true, if_false, reduceCtorEq, false_iff]
      rintro ⟨rfl, hright⟩
      rw [List.getElem?_eq_getElem hlt, Option.bind_some] at hright
      exact htype hright

theorem resolve_field_eq_ok_iff {owner obfuscated community : String} {site : MemberSite} :
    registry.resolve (.field owner obfuscated community) = .ok site ↔
      ∃ place cls number, registry.ownerOf owner = .ok (place, cls) ∧
        resolveField cls owner obfuscated community = .ok number ∧
        MemberSite.field place number = site := by
  simp only [resolve, bind_eq_ok_iff, Prod.exists, pure, Except.pure, Except.ok.injEq]
  constructor
  · rintro ⟨place, cls, howner, number, hfield, hsite⟩
    exact ⟨place, cls, number, howner, hfield, hsite⟩
  · rintro ⟨place, cls, number, howner, hfield, hsite⟩
    exact ⟨place, cls, howner, number, hfield, hsite⟩

theorem resolve_method_eq_ok_iff {owner obfuscated descriptor community : String}
    {site : MemberSite} :
    registry.resolve (.method owner obfuscated descriptor community) = .ok site ↔
      ∃ signature place cls number, Signature.read descriptor = .ok signature ∧
        registry.ownerOf owner = .ok (place, cls) ∧
        resolveMethod cls owner obfuscated community (registry.toHumanSignature signature) =
          .ok number ∧
        MemberSite.method place number = site := by
  simp only [resolve, bind_eq_ok_iff, mapError_eq_ok_iff, Prod.exists, pure, Except.pure,
    Except.ok.injEq]
  constructor
  · rintro ⟨signature, hread, place, cls, howner, number, hmethod, hsite⟩
    exact ⟨signature, place, cls, number, hread, howner, hmethod, hsite⟩
  · rintro ⟨signature, place, cls, number, hread, howner, hmethod, hsite⟩
    exact ⟨signature, hread, place, cls, howner, number, hmethod, hsite⟩

/-! ## Links that are carried out -/

theorem linkClass_eq_ok_iff {obfuscated community : String} :
    registry.linkClass obfuscated community = .ok linked ↔
      ∃ number, registry.byObfuscated[obfuscated]? = some number ∧
        registry.nameClass number community = linked := by
  unfold linkClass
  cases registry.byObfuscated[obfuscated]? <;> simp

theorem linkClassLine_eq_ok_iff {line : String} :
    registry.linkClassLine line = .ok linked ↔
      ∃ link, ClassLink.read line = .ok link ∧
        registry.linkClass link.obfuscated link.community = .ok linked := by
  unfold linkClassLine
  simp only [bind_eq_ok_iff, mapError_eq_ok_iff]

theorem linkMember_eq_ok_iff {link : MemberLink} :
    registry.linkMember link = .ok linked ↔
      ∃ site, registry.resolve link = .ok site ∧
        registry.nameMember site link.community = linked := by
  unfold linkMember
  simp only [bind_eq_ok_iff, pure, Except.pure, Except.ok.injEq]

theorem linkMemberLine_eq_ok_iff {line : String} :
    registry.linkMemberLine line = .ok linked ↔
      ∃ link, MemberLink.read line = .ok link ∧ registry.linkMember link = .ok linked := by
  unfold linkMemberLine
  simp only [bind_eq_ok_iff, mapError_eq_ok_iff]

/-! ## Links that are refused -/

/-- The registry that a link leads to. A refused link leaves it as it was. -/
def orStay (registry : Registry) (result : Except Fault Registry) : Registry :=
  match result with
  | .ok linked => linked
  | .error _ => registry

/-- What holds of a registry holds after a link if it holds after a link that is carried out. -/
theorem orStay_induction {motive : Registry → Prop} {result : Except Fault Registry}
    (hstay : motive registry) (hok : ∀ linked, result = .ok linked → motive linked) :
    motive (registry.orStay result) := by
  cases result with
  | ok linked => exact hok linked rfl
  | error fault => exact hstay

theorem value_settle (registry : Registry) (result : Except Fault Registry) :
    (Attempt.settle (result.map pure) registry).value =
      (result.map fun _ => (), registry.orStay result) := by
  cases result <;> rfl

/-- An attempt at a class leaves what its link leads to. -/
theorem value_on_linkClass (registry : Registry) (obfuscated community : String) :
    ((Attempt.linkClass obfuscated community).on registry).value =
      ((registry.linkClass obfuscated community).map fun _ => (),
        registry.orStay (registry.linkClass obfuscated community)) := by
  rw [Attempt.on_linkClass, value_settle]

/-- An attempt at a line of class links leaves what the line leads to. -/
theorem value_on_linkClassLine (registry : Registry) (line : String) :
    ((Attempt.linkClassLine line).on registry).value =
      ((registry.linkClassLine line).map fun _ => (),
        registry.orStay (registry.linkClassLine line)) := by
  rw [Attempt.on_linkClassLine, value_settle]

/-- An attempt at a line of member links leaves what the line leads to. -/
theorem value_on_linkMemberLine (registry : Registry) (line : String) :
    ((Attempt.linkMemberLine line).on registry).value =
      ((registry.linkMemberLine line).map fun _ => (),
        registry.orStay (registry.linkMemberLine line)) := by
  rw [Attempt.on_linkMemberLine, value_settle]

theorem value_anchor_fst (linked : Registry × Nat) (name : String) :
    (anchor linked name).value.1 = linked.1.orStay (linked.1.linkClass name name) := by
  rw [anchor_eq]
  unfold orStay
  cases linked.1.linkClass name name <;> rfl

theorem value_linkAnchors_fst (registry : Registry) (anchors : List String) :
    (registry.linkAnchors anchors).value.1 =
      anchors.foldl (fun registry name => registry.orStay (registry.linkClass name name))
        registry := by
  unfold linkAnchors
  rw [Noted.value_foldl]
  exact (List.foldl_hom Prod.fst (fun linked name => (value_anchor_fst linked name).symm)).symm

end Registry

end NameCarry
