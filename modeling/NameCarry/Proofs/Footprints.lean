import NameCarry.Proofs.ClassLinks
import NameCarry.Proofs.MemberLinks
import NameCarry.Proofs.Overloads

/-!
# What a line of links touches

A line of links is carried out as a whole or not at all (`Registry.allOrNothing_step`). A class line
gives a new community name to the class that it means (`ClassLineMeans`), and a member line to the
member that it means (`MemberLineMeans`). All other names of all classes and members stay, and after
a member line each lookup leads to a class with the same number as before. A line that means nothing
is refused, and then the reading goes on with the classes and the answers that there were.
-/

namespace NameCarry

/-! ## Lists that differ at one place -/

section DifferAt

variable {α : Type} {change : α → α → Prop} {place : Nat} {xs ys : List α}

/-- Two lists have the same elements but for one place, where the element went through a change. -/
structure DifferAt (change : α → α → Prop) (place : Nat) (xs ys : List α) : Prop where
  /-- The place is in both lists, and what is there was changed. -/
  here : ∃ x y, xs[place]? = some x ∧ ys[place]? = some y ∧ change x y
  /-- The other places hold what they held. -/
  elsewhere : ∀ other, other ≠ place → ys[other]? = xs[other]?

theorem differAt_modify {x : α} (hx : xs[place]? = some x) {f : α → α} (hchange : change x (f x)) :
    DifferAt change place xs (xs.modify place f) where
  here := ⟨x, f x, hx, by simp [hx], hchange⟩
  elsewhere := by
    intro other hother
    rw [List.getElem?_modify_ne _ _ (Ne.symm hother)]

end DifferAt

/-- Of the members of some classes, the one at a site has another community name, and that is all
there is between the classes before and after. -/
def NamedAt (name : String) : MemberSite → Array ClassDecl → Array ClassDecl → Prop
  | .field owner number, before, after =>
    DifferAt (fun a b => b.identity = a.identity ∧ b.methods = a.methods ∧
      DifferAt (fun field named => named = field.link name) number a.fields b.fields)
      owner before.toList after.toList
  | .method owner number, before, after =>
    DifferAt (fun a b => b.identity = a.identity ∧ b.fields = a.fields ∧
      DifferAt (fun method named => named = method.link name) number a.methods b.methods)
      owner before.toList after.toList

/-! ## What a line means -/

/-- A class line means the first class whose obfuscated name is the first word in its dotted form,
and gives it the second word for a name. -/
def ClassLineMeans (classes : Array ClassDecl) (line : String) (number : Nat) (name : String) :
    Prop :=
  ∃ key rest, Text.tokens line = key :: name :: rest ∧
    classes.findIdx? (·.identity.obfuscated == Text.dotted key) = some number

/-- A member line means a member of the first class whose community name has the dotted form of the
first word. -/
inductive MemberLineMeans (registry : Registry) (line : String) : MemberSite → String → Prop where
  /-- Three words mean the first field with the given obfuscated name. -/
  | field {key obfuscated name : String} {owner number : Nat} {cls : ClassDecl}
      (words : Text.tokens line = [key, obfuscated, name])
      (first : registry.classes.findIdx? (·.communityKey == some (Text.dotted key)) = some owner)
      (owning : registry.classes[owner]? = some cls)
      (member : cls.fields.findIdx? (·.obfuscated == obfuscated) = some number) :
      MemberLineMeans registry line (.field owner number) name
  /-- Four words mean the first method with the given obfuscated name and the parameter types that
  the descriptor stands for. It must have the result type, too. -/
  | method {key obfuscated descriptor name : String} {signature : Signature} {owner number : Nat}
      {cls : ClassDecl} {method : Identifier}
      (words : Text.tokens line = [key, obfuscated, descriptor, name])
      (read : Signature.read descriptor = .ok signature)
      (first : registry.classes.findIdx? (·.communityKey == some (Text.dotted key)) = some owner)
      (owning : registry.classes[owner]? = some cls)
      (member : cls.overload? obfuscated (signature.params.map registry.toHumanType) = some number)
      (found : cls.methods[number]? = some method)
      (result : method.type = some (registry.toHumanType signature.result)) :
      MemberLineMeans registry line (.method owner number) name

/-- A line links a class if it has two words or more. -/
theorem ClassLink.read_eq_ok_iff_words {line : String} {link : ClassLink} :
    read line = .ok link ↔
      ∃ key rest, Text.tokens line = key :: link.community :: rest ∧
        Text.dotted key = link.obfuscated := by
  unfold read
  constructor
  · intro hread
    split at hread
    · next key name rest hwords =>
      cases hread
      exact ⟨key, rest, hwords, rfl⟩
    · cases hread
  · rintro ⟨key, rest, hwords, hkey⟩
    simp [hwords, hkey]

namespace Registry

variable {registry linked : Registry} {line : String}

/-- A class line is carried out if it means a class, and then it names that class. -/
theorem Indexed.linkClassLine_eq_ok_iff_means (h : registry.Indexed) :
    registry.linkClassLine line = .ok linked ↔
      ∃ number name, ClassLineMeans registry.classes line number name ∧
        registry.nameClass number name = linked := by
  simp only [linkClassLine_eq_ok_iff, ClassLink.read_eq_ok_iff_words, linkClass_eq_ok_iff,
    h.byObfuscated, ClassLineMeans]
  constructor
  · rintro ⟨link, ⟨key, rest, hwords, hkey⟩, number, hnumber, rfl⟩
    rw [← hkey] at hnumber
    exact ⟨number, link.community, ⟨key, rest, hwords, hnumber⟩, rfl⟩
  · rintro ⟨number, name, ⟨key, rest, hwords, hnumber⟩, rfl⟩
    exact ⟨⟨Text.dotted key, name⟩, ⟨key, rest, hwords, rfl⟩, number, hnumber, rfl⟩

/-- A member link that was read means the member that its line means. -/
theorem Indexed.resolve_eq_ok_iff_means (h : registry.Indexed) {site : MemberSite} {name : String} :
    (∃ link, MemberLink.read line = .ok link ∧ registry.resolve link = .ok site ∧
      link.community = name) ↔ MemberLineMeans registry line site name := by
  constructor
  · rintro ⟨link, hread, hsite, rfl⟩
    cases link with
    | field owner obfuscated community =>
      obtain ⟨key, hwords, rfl⟩ := MemberLink.read_eq_ok_field_iff.1 hread
      obtain ⟨place, cls, number, howner, hfield, rfl⟩ := resolve_field_eq_ok_iff.1 hsite
      obtain ⟨hplace, hcls⟩ := ownerOf_eq_ok_iff.1 howner
      rw [communityNumber?_dotted, h.communityNumber?] at hplace
      exact .field hwords hplace hcls (resolveField_eq_ok_iff.1 hfield)
    | method owner obfuscated descriptor community =>
      obtain ⟨key, hwords, rfl⟩ := MemberLink.read_eq_ok_method_iff.1 hread
      obtain ⟨signature, place, cls, number, hdescriptor, howner, hmethod, rfl⟩ :=
        resolve_method_eq_ok_iff.1 hsite
      obtain ⟨hplace, hcls⟩ := ownerOf_eq_ok_iff.1 howner
      rw [communityNumber?_dotted, h.communityNumber?] at hplace
      obtain ⟨hmember, hresult⟩ := resolveMethod_eq_ok_iff.1 hmethod
      obtain ⟨method, hfound, htype⟩ := Option.bind_eq_some_iff.1 hresult
      exact .method hwords hdescriptor hplace hcls hmember hfound htype
  · intro hmeans
    cases hmeans with
    | @field key obfuscated _ owner number cls words first owning member =>
      have howner : registry.ownerOf (Text.dotted key) = .ok (owner, cls) := by
        rw [ownerOf_eq_ok_iff, communityNumber?_dotted, h.communityNumber?]
        exact ⟨first, owning⟩
      exact ⟨.field (Text.dotted key) obfuscated name,
        MemberLink.read_eq_ok_field_iff.2 ⟨key, words, rfl⟩,
        resolve_field_eq_ok_iff.2
          ⟨owner, cls, number, howner, resolveField_eq_ok_iff.2 member, rfl⟩, rfl⟩
    | @method key obfuscated descriptor _ signature owner number cls method words read first owning
        member found result =>
      have howner : registry.ownerOf (Text.dotted key) = .ok (owner, cls) := by
        rw [ownerOf_eq_ok_iff, communityNumber?_dotted, h.communityNumber?]
        exact ⟨first, owning⟩
      have hresult : cls.methods[number]?.bind (·.type) =
          some (registry.toHumanSignature signature).result := by
        rw [found, Option.bind_some, result]
        rfl
      exact ⟨.method (Text.dotted key) obfuscated descriptor name,
        MemberLink.read_eq_ok_method_iff.2 ⟨key, words, rfl⟩,
        resolve_method_eq_ok_iff.2 ⟨signature, owner, cls, number, read, howner,
          resolveMethod_eq_ok_iff.2 ⟨member, hresult⟩, rfl⟩, rfl⟩

/-- A member line is carried out if it means a member, and then it names that member. -/
theorem Indexed.linkMemberLine_eq_ok_iff_means (h : registry.Indexed) :
    registry.linkMemberLine line = .ok linked ↔
      ∃ site name, MemberLineMeans registry line site name ∧
        registry.nameMember site name = linked := by
  simp only [linkMemberLine_eq_ok_iff, linkMember_eq_ok_iff, ← h.resolve_eq_ok_iff_means]
  constructor
  · rintro ⟨link, hread, site, hsite, rfl⟩
    exact ⟨site, link.community, ⟨link, hread, hsite, rfl⟩, rfl⟩
  · rintro ⟨site, name, ⟨link, hread, hsite, rfl⟩, rfl⟩
    exact ⟨link, hread, site, hsite, rfl⟩

/-! ## What naming touches -/

theorem differAt_nameClass {number : Nat} {cls : ClassDecl}
    (hcls : registry.classes[number]? = some cls) (name : String) :
    DifferAt (fun a b => b = a.link name) number registry.classes.toList
      (registry.nameClass number name).classes.toList := by
  rw [classes_nameClass, Array.toList_modify]
  have hlist : registry.classes.toList[number]? = some cls := by rw [Array.getElem?_toList, hcls]
  exact differAt_modify hlist rfl

/-- A member is named in its class, and other classes are left alone. -/
theorem namedAt_nameMember {site : MemberSite} {name : String}
    (hmeans : MemberLineMeans registry line site name) :
    NamedAt name site registry.classes (registry.nameMember site name).classes := by
  rw [nameMember_eq_modify]
  cases hmeans with
  | field words first owning member =>
    obtain ⟨hlt, -, -⟩ := List.findIdx?_eq_some_iff_getElem.1 member
    simp only [NamedAt, MemberSite.owner, Array.toList_modify]
    refine differAt_modify (by rw [Array.getElem?_toList, owning]) ⟨rfl, rfl, ?_⟩
    exact differAt_modify (List.getElem?_eq_getElem hlt) rfl
  | method words read first owning member found result =>
    simp only [NamedAt, MemberSite.owner, Array.toList_modify]
    refine differAt_modify (by rw [Array.getElem?_toList, owning]) ⟨rfl, rfl, ?_⟩
    exact differAt_modify found rfl

/-- The lookups of two registries lead to classes with the same numbers. -/
structure SamePlaces (a b : Registry) : Prop where
  /-- By obfuscated name. -/
  obfuscated : ∀ name : String, a.byObfuscated[name]? = b.byObfuscated[name]?
  /-- By human name. -/
  human : ∀ name : String, a.byHuman[name]? = b.byHuman[name]?
  /-- By community name. -/
  community : ∀ name, a.communityNumber? name = b.communityNumber? name

theorem samePlaces_nameMember (registry : Registry) (site : MemberSite) (name : String) :
    SamePlaces registry (registry.nameMember site name) := by
  rw [nameMember_eq_modify]
  exact ⟨fun _ => rfl, fun _ => rfl, fun _ => rfl⟩

/-! ## All or nothing -/

/-- What an attempt at a line leaves, its outcome, beside what the line leads to: the line means
something, which is touched, and is carried out; or it means nothing, is refused, and leaves no
trace. -/
structure AllOrNothing {ι : Type} (means : ι → String → Prop)
    (touches : ι → String → Registry → Prop) (before : Registry)
    (outcome : Except Fault Unit × Registry) (result : Except Fault Registry) : Prop where
  /-- A line that is carried out touches what it means. -/
  carried : ∀ linked, result = .ok linked →
    outcome = (.ok (), linked) ∧ ∃ place name, means place name ∧ touches place name linked
  /-- A line that is refused means nothing, and all classes and answers stay. -/
  refused : ∀ fault, result = .error fault →
    outcome.1 = .error fault ∧ (∀ place name, ¬ means place name) ∧ Agrees before outcome.2

theorem Agrees.refl (registry : Registry) : Agrees registry registry where
  classes := rfl
  answers := ⟨fun _ => rfl, fun _ => rfl, fun _ => rfl, fun _ => rfl, fun _ => rfl, fun _ => rfl⟩

/-- A reading goes on with the registry that the attempt at a line leaves. -/
theorem state_step (attempt : String → Attempt Registry Unit) (pass : Pass Registry)
    (line : Nat × String) :
    (Attempt.step attempt pass line).value.state = ((attempt line.2).on pass.state).value.2 := by
  rw [Attempt.step, Noted.value_bind]
  dsimp only
  split <;> rfl

theorem allOrNothing_of_iff {ι : Type} {means : ι → String → Prop}
    {touches : ι → String → Registry → Prop} {named : ι → String → Registry}
    {outcome : Except Fault Unit × Registry} {result : Except Fault Registry}
    (houtcome : outcome = (result.map fun _ => (), registry.orStay result))
    (hok : ∀ linked, result = .ok linked ↔
      ∃ place name, means place name ∧ named place name = linked)
    (htouches : ∀ place name, means place name → touches place name (named place name)) :
    AllOrNothing means touches registry outcome result where
  carried := by
    rintro linked rfl
    obtain ⟨place, name, hmeans, rfl⟩ := (hok linked).1 rfl
    exact ⟨houtcome, place, name, hmeans, htouches place name hmeans⟩
  refused := by
    rintro fault rfl
    rw [houtcome]
    refine ⟨rfl, ?_, Agrees.refl registry⟩
    intro place name hmeans
    cases (hok _).2 ⟨place, name, hmeans, rfl⟩

/-- Whatever links were carried out before, a line of class links or of member links is carried out
as a whole or not at all, and touches one name at most. What the attempt at it leaves is what the
reading goes on with. -/
theorem allOrNothing_step (classes : Array ClassDecl) (ops : List LinkOp) (report : Report)
    (line : Nat × String) :
    let registry := LinkOp.run (ofClasses classes) ops
    let pass : Pass Registry := { state := registry, report }
    let classOutcome := ((Attempt.linkClassLine line.2).on registry).value
    let memberOutcome := ((Attempt.linkMemberLine line.2).on registry).value
    AllOrNothing (ClassLineMeans registry.classes line.2)
        (fun number name after => DifferAt (fun a b => b = a.link name) number
          registry.classes.toList after.classes.toList)
        registry classOutcome (registry.linkClassLine line.2) ∧
      AllOrNothing (MemberLineMeans registry line.2)
        (fun site name after => NamedAt name site registry.classes after.classes ∧
          SamePlaces registry after)
        registry memberOutcome (registry.linkMemberLine line.2) ∧
      (Attempt.step Attempt.linkClassLine pass line).value.state = classOutcome.2 ∧
      (Attempt.step Attempt.linkMemberLine pass line).value.state = memberOutcome.2 := by
  intro registry pass classOutcome memberOutcome
  have h : registry.Indexed := (indexed_ofClasses classes).run ops
  refine ⟨?_, ?_, state_step _ pass line, state_step _ pass line⟩
  · apply allOrNothing_of_iff (registry.value_on_linkClassLine line.2)
      fun linked => h.linkClassLine_eq_ok_iff_means
    rintro number name ⟨key, rest, -, hnumber⟩
    obtain ⟨hlt, -, -⟩ := Array.findIdx?_eq_some_iff_getElem.1 hnumber
    exact differAt_nameClass (Array.getElem?_eq_getElem hlt) name
  · apply allOrNothing_of_iff (registry.value_on_linkMemberLine line.2)
      fun linked => h.linkMemberLine_eq_ok_iff_means
    intro site name hmeans
    exact ⟨namedAt_nameMember hmeans, registry.samePlaces_nameMember site name⟩

end Registry

end NameCarry
