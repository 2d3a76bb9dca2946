import NameCarry.Proofs.Lookups
import NameCarry.Proofs.TypeTokens

/-!
# Links of overloads

Methods of a class may share their obfuscated name. A method link looks at one of them only: the
first one with the obfuscated name and the parameter types that the link gives. If its result type
is not the one of the link, the link is refused, whatever methods stand behind
(`Registry.linkMemberLine_overload`). So each method of a class can be linked if methods with the
same obfuscated name and parameter types have the same result type, too (`ClassDecl.ToldApart`).
-/

namespace NameCarry

/-- The number of the first method with the given obfuscated name and parameter types. -/
def ClassDecl.overload? (cls : ClassDecl) (obfuscated : String) (params : List String) :
    Option Nat :=
  cls.methods.findIdx? fun method => method.obfuscated == obfuscated && method.params == params

/-- A method has the given obfuscated name and the types of the given signature. -/
structure Identifier.IsOverload (method : Identifier) (obfuscated : String)
    (signature : Signature) : Prop where
  /-- The obfuscated name is the given one. -/
  obfuscated : method.obfuscated = obfuscated
  /-- The parameter types are those of the signature. -/
  params : method.params = signature.params
  /-- The result type is that of the signature. -/
  result : method.type = some signature.result

/-- Methods of the class with the same obfuscated name and parameter types have the same result
type. -/
def ClassDecl.ToldApart (cls : ClassDecl) : Prop :=
  ∀ a ∈ cls.methods, ∀ b ∈ cls.methods,
    a.obfuscated = b.obfuscated → a.params = b.params → a.type = b.type

namespace Registry

section Resolve

variable {cls : ClassDecl} {owner obfuscated community : String} {signature : Signature}
  {number : Nat} {first : Identifier}

theorem mem_of_overload? (hfirst : cls.overload? obfuscated signature.params = some number)
    (hmethod : cls.methods[number]? = some first) :
    first ∈ cls.methods ∧ first.obfuscated = obfuscated ∧ first.params = signature.params := by
  obtain ⟨hlt, hfits, -⟩ := List.findIdx?_eq_some_iff_getElem.1 hfirst
  obtain ⟨_, rfl⟩ := List.getElem?_eq_some_iff.1 hmethod
  simp only [Bool.and_eq_true, beq_iff_eq] at hfits
  exact ⟨List.getElem_mem hlt, hfits⟩

/-- A method with the name and the parameters is the first one of them, or stands behind it. -/
theorem exists_overload?_of_mem {method : Identifier} (hmem : method ∈ cls.methods)
    (hname : method.obfuscated = obfuscated) (hparams : method.params = signature.params) :
    ∃ number first, cls.overload? obfuscated signature.params = some number ∧
      cls.methods[number]? = some first := by
  cases hfirst : cls.overload? obfuscated signature.params with
  | none =>
    have hmiss := List.findIdx?_eq_none_iff.1 hfirst method hmem
    simp [hname, hparams] at hmiss
  | some number =>
    obtain ⟨hlt, -, -⟩ := List.findIdx?_eq_some_iff_getElem.1 hfirst
    exact ⟨number, cls.methods[number], rfl, List.getElem?_eq_getElem hlt⟩

/-- If the first method has another result type, the link is refused, and the methods behind it are
not looked at. -/
theorem resolveMethod_of_result_ne
    (hfirst : cls.overload? obfuscated signature.params = some number)
    (hmethod : cls.methods[number]? = some first) (hresult : first.type ≠ some signature.result) :
    resolveMethod cls owner obfuscated community signature =
      .error (.resultMismatch owner obfuscated community first.displayType signature.result) := by
  obtain ⟨hmem, hname, -⟩ := mem_of_overload? hfirst hmethod
  have hany : cls.methods.any (·.obfuscated == obfuscated) = true :=
    List.any_eq_true.2 ⟨first, hmem, beq_iff_eq.2 hname⟩
  have hfind : cls.methods.find? (fun method =>
      method.obfuscated == obfuscated && method.params == signature.params) = some first := by
    rw [List.find?_eq_bind_findIdx?_getElem?, show cls.methods.findIdx? _ = some number from hfirst,
      Option.bind_some, hmethod]
  have htype : (first.type == some signature.result) = false := beq_false_of_ne hresult
  simp only [resolveMethod, hany, hfind, htype, Bool.not_true, Bool.false_eq_true, if_false]

end Resolve

variable {registry : Registry} {line key obfuscated descriptor community : String}
  {signature : Signature} {place : Nat} {cls : ClassDecl}

/-- A method link whose descriptor can be read and whose class is known comes down to the methods of
the class. -/
theorem linkMemberLine_method
    (hwords : Text.tokens line = [key, obfuscated, descriptor, community])
    (hsignature : Signature.read descriptor = .ok signature)
    (hplace : registry.communityNumber? key = some place)
    (hcls : registry.classes[place]? = some cls) :
    registry.linkMemberLine line =
      (resolveMethod cls (Text.dotted key) obfuscated community
        (registry.toHumanSignature signature)).map fun number =>
          registry.nameMember (.method place number) community := by
  have hread : MemberLink.read line =
      .ok (.method (Text.dotted key) obfuscated descriptor community) :=
    MemberLink.read_eq_ok_method_iff.2 ⟨key, hwords, rfl⟩
  have howner : registry.ownerOf (Text.dotted key) = .ok (place, cls) := by
    rw [ownerOf_eq_ok_iff, communityNumber?_dotted]
    exact ⟨hplace, hcls⟩
  simp only [linkMemberLine, linkMember, resolve, hread, hsignature, howner, mapError_ok, bind,
    Except.bind, pure, Except.pure]
  cases resolveMethod cls (Text.dotted key) obfuscated community
    (registry.toHumanSignature signature) <;> rfl

/-- Of the methods with the obfuscated name and the parameter types of a link, the first one
decides: it gets the community name if it has the result type of the link, and if not, the link is
refused. If methods are told apart by obfuscated name and parameter types, the link is carried out
just when there is a method with the name and all the types. -/
theorem linkMemberLine_overload
    (hwords : Text.tokens line = [key, obfuscated, descriptor, community])
    (hsignature : Signature.read descriptor = .ok signature)
    (hplace : registry.communityNumber? key = some place)
    (hcls : registry.classes[place]? = some cls) :
    let sought := registry.toHumanSignature signature
    (∀ linked, registry.linkMemberLine line = .ok linked ↔
      ∃ number, cls.overload? obfuscated sought.params = some number ∧
        cls.methods[number]?.bind (·.type) = some sought.result ∧
        registry.nameMember (.method place number) community = linked) ∧
    (∀ number first, cls.overload? obfuscated sought.params = some number →
      cls.methods[number]? = some first → first.type ≠ some sought.result →
      registry.linkMemberLine line =
        .error (.resultMismatch (Text.dotted key) obfuscated community first.displayType
          sought.result)) ∧
    (cls.ToldApart →
      ((∃ linked, registry.linkMemberLine line = .ok linked) ↔
        ∃ method ∈ cls.methods, method.IsOverload obfuscated sought)) := by
  intro sought
  have hline := linkMemberLine_method hwords hsignature hplace hcls
  have hok : ∀ linked, registry.linkMemberLine line = .ok linked ↔
      ∃ number, cls.overload? obfuscated sought.params = some number ∧
        cls.methods[number]?.bind (·.type) = some sought.result ∧
        registry.nameMember (.method place number) community = linked := by
    intro linked
    rw [hline, map_eq_ok_iff]
    simp only [resolveMethod_eq_ok_iff, and_assoc]
    rfl
  refine ⟨hok, ?_, ?_⟩
  · intro number first hfirst hmethod hresult
    rw [hline, resolveMethod_of_result_ne hfirst hmethod hresult]
    rfl
  · intro hapart
    constructor
    · rintro ⟨linked, hlinked⟩
      obtain ⟨number, hfirst, hresult, -⟩ := (hok linked).1 hlinked
      obtain ⟨first, hmethod, htype⟩ := Option.bind_eq_some_iff.1 hresult
      obtain ⟨hmem, hname, hparams⟩ := mem_of_overload? hfirst hmethod
      exact ⟨first, hmem, hname, hparams, htype⟩
    · rintro ⟨method, hmem, hname, hparams, htype⟩
      obtain ⟨number, first, hfirst, hmethod⟩ := exists_overload?_of_mem hmem hname hparams
      obtain ⟨hmem', hname', hparams'⟩ := mem_of_overload? hfirst hmethod
      -- The first method may be another one, but then it has the same types.
      have hsame : first.type = method.type :=
        hapart first hmem' method hmem (hname'.trans hname.symm) (hparams'.trans hparams.symm)
      refine ⟨_, (hok _).2 ⟨number, hfirst, ?_, rfl⟩⟩
      rw [hmethod, Option.bind_some, hsame, htype]

/-- A class with two methods that differ in the result type only. -/
def bridgedDen : ClassDecl where
  identity := .ofClass "x" "Den"
  methods := [.ofMethod "g" "get" [] "void", .ofMethod "g" "get" [] "int"]

/-- The class with a community name. -/
def linkedBridgedDen : Registry :=
  LinkOp.run (ofClasses #[bridgedDen]) [.classLine "x Lair"]

/-- A class with two methods of one obfuscated name that differ in their parameters. -/
def overloadedDen : ClassDecl where
  identity := .ofClass "x" "Den"
  methods := [.ofMethod "g" "get" [] "int", .ofMethod "g" "put" ["int"] "void"]

/-- The class with a community name. -/
def linkedOverloadedDen : Registry :=
  LinkOp.run (ofClasses #[overloadedDen]) [.classLine "x Lair"]

/-- The first of two methods that differ in the result type is linked. Of two that differ in their
parameters, the second one can be linked, too. -/
theorem linkMemberLine_overload_bridgedDen :
    Text.tokens "Lair g ()V get" = ["Lair", "g", "()V", "get"] ∧
      Signature.read "()V" = .ok { params := [], result := "void" } ∧
      linkedBridgedDen.communityNumber? "Lair" = some 0 ∧
      linkedBridgedDen.classes[0]? = some (bridgedDen.link "Lair") ∧
      linkedBridgedDen.linkMemberLine "Lair g ()V get" =
        .ok (linkedBridgedDen.nameMember (.method 0 0) "get") ∧
      Text.tokens "Lair g (I)V put" = ["Lair", "g", "(I)V", "put"] ∧
      Signature.read "(I)V" = .ok { params := ["int"], result := "void" } ∧
      linkedOverloadedDen.communityNumber? "Lair" = some 0 ∧
      linkedOverloadedDen.classes[0]? = some (overloadedDen.link "Lair") ∧
      (overloadedDen.link "Lair").ToldApart ∧
      ∃ linked, linkedOverloadedDen.linkMemberLine "Lair g (I)V put" = .ok linked := by
  have hwords : Text.tokens "Lair g ()V get" = ["Lair", "g", "()V", "get"] := by decide +kernel
  have hsignature : Signature.read "()V" = .ok { params := [], result := "void" } := by
    decide +kernel
  have hplace : linkedBridgedDen.communityNumber? "Lair" = some 0 := by decide +kernel
  have hcls : linkedBridgedDen.classes[0]? = some (bridgedDen.link "Lair") := by decide +kernel
  obtain ⟨hok, -, -⟩ := linkMemberLine_overload hwords hsignature hplace hcls
  have hwords' : Text.tokens "Lair g (I)V put" = ["Lair", "g", "(I)V", "put"] := by decide +kernel
  have hsignature' : Signature.read "(I)V" = .ok { params := ["int"], result := "void" } := by
    decide +kernel
  have hplace' : linkedOverloadedDen.communityNumber? "Lair" = some 0 := by decide +kernel
  have hcls' : linkedOverloadedDen.classes[0]? = some (overloadedDen.link "Lair") := by
    decide +kernel
  have hsought : linkedOverloadedDen.toHumanSignature { params := ["int"], result := "void" } =
      { params := ["int"], result := "void" } := by
    decide +kernel
  have hapart : (overloadedDen.link "Lair").ToldApart := by
    unfold ClassDecl.ToldApart
    decide +kernel
  obtain ⟨-, -, hiff⟩ := linkMemberLine_overload hwords' hsignature' hplace' hcls'
  rw [hsought] at hiff
  exact ⟨hwords, hsignature, hplace, hcls,
    (hok _).2 ⟨0, by decide +kernel, by decide +kernel, rfl⟩,
    hwords', hsignature', hplace', hcls', hapart,
    (hiff hapart).2 ⟨.ofMethod "g" "put" ["int"] "void",
      List.mem_cons_of_mem _ List.mem_cons_self, rfl, rfl, rfl⟩⟩

/-- A link of the second method is refused, though there is a method with its name and types. -/
theorem linkMemberLine_bridgedDen_behind :
    Text.tokens "Lair g ()I get" = ["Lair", "g", "()I", "get"] ∧
      Signature.read "()I" = .ok { params := [], result := "int" } ∧
      linkedBridgedDen.communityNumber? "Lair" = some 0 ∧
      linkedBridgedDen.classes[0]? = some (bridgedDen.link "Lair") ∧
      ¬ ((∃ linked, linkedBridgedDen.linkMemberLine "Lair g ()I get" = .ok linked) ↔
        ∃ method ∈ (bridgedDen.link "Lair").methods, method.IsOverload "g"
          (linkedBridgedDen.toHumanSignature { params := [], result := "int" })) := by
  refine ⟨by decide +kernel, by decide +kernel, by decide +kernel, by decide +kernel, ?_⟩
  have hrefused : (linkedBridgedDen.linkMemberLine "Lair g ()I get").isOk = false := by
    decide +kernel
  have hsought : linkedBridgedDen.toHumanSignature { params := [], result := "int" } =
      { params := [], result := "int" } := by
    decide +kernel
  rw [hsought]
  intro hiff
  obtain ⟨linked, hlinked⟩ := hiff.2 ⟨.ofMethod "g" "get" [] "int",
    List.mem_cons_of_mem _ List.mem_cons_self, rfl, rfl, rfl⟩
  rw [hlinked] at hrefused
  cases hrefused

end Registry

end NameCarry
