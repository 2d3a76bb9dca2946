import NameCarry.Proofs.Annotation

/-!
# Carrying through a build in between

Names can be carried from an old build onto a middle one, and from there onto a new one. Nothing is
made up and nothing gets mixed up on the way: the new build has the names that it would have
straight from the old one, except those of the classes and members that the middle build does not
declare (`classes_loadCarried_through`). Names may occur more than once in any of the three builds.
-/

namespace NameCarry

/-! ## What the middle build lets through -/

namespace ClassDecl

/-- Whether a class has a field of the human name and the type of another field. -/
def declaresField (cls : ClassDecl) (field : Identifier) : Bool :=
  cls.fields.any fun own => own.human == field.human && own.type == field.type

/-- Whether a class has a method of the human name, the result type and the parameters of another
method. -/
def declaresMethod (cls : ClassDecl) (method : Identifier) : Bool :=
  cls.methods.any fun own =>
    own.human == method.human && own.type == method.type && own.params == method.params

/-- A class without the community names that a build in between does not pass on: its own name if no
class of that build has its human name, and the name of a member if the first such class does not
have the member. -/
def keptThrough (middle : Array ClassDecl) (cls : ClassDecl) : ClassDecl where
  identity :=
    { cls.identity with
      community :=
        if (namesakeIn? middle cls.identity).isSome then cls.identity.community else none }
  fields := cls.fields.map fun field =>
    { field with
      community :=
        if (namesakeIn? middle cls.identity).any (·.declaresField field) then field.community
        else none }
  methods := cls.methods.map fun method =>
    { method with
      community :=
        if (namesakeIn? middle cls.identity).any (·.declaresMethod method) then method.community
        else none }

end ClassDecl

/-! ## Names depend on what identifiers are called and on their types -/

section Congruence

variable {old : Registry} {owner other a b : Identifier}

theorem namesake?_congr (howner : owner.human = other.human) :
    old.namesake? owner = old.namesake? other := by
  rw [Registry.namesake?, Registry.namesake?, howner]

theorem carriedClassName?_congr (howner : owner.human = other.human) :
    old.carriedClassName? owner = old.carriedClassName? other := by
  rw [Registry.carriedClassName?, Registry.carriedClassName?, namesake?_congr howner]

theorem carriedFieldName?_congr (howner : owner.human = other.human) (hhuman : a.human = b.human)
    (htype : a.type = b.type) : old.carriedFieldName? owner a = old.carriedFieldName? other b := by
  have haccepts : Registry.accepts a = Registry.accepts b := by
    funext candidate
    rw [Registry.accepts, Registry.accepts, htype]
  unfold Registry.carriedFieldName? Registry.fieldNamesakes
  rw [namesake?_congr howner, hhuman, haccepts]

theorem carriedMethodName?_congr (howner : owner.human = other.human) (hhuman : a.human = b.human)
    (htype : a.type = b.type) (hparams : a.params = b.params) :
    old.carriedMethodName? owner a = old.carriedMethodName? other b := by
  have hsame : ∀ candidate : Identifier, candidate.sameSignature a = candidate.sameSignature b := by
    intro candidate
    rw [Identifier.sameSignature, Identifier.sameSignature, hhuman, htype, hparams]
  unfold Registry.carriedMethodName?
  rw [namesake?_congr howner]
  simp only [hsame]

end Congruence

/-! ## One class -/

/-- A search for the first of some elements that have the same value, or none. It may pass over
elements without a value. -/
theorem find?_bind_of_same {α β : Type} {xs : List α} {found same : α → Bool}
    {value : α → Option β} {value? : Option β}
    (hfound : ∀ x ∈ xs, found x = true → same x = true)
    (hsame : ∀ x ∈ xs, same x = true → value x = value?)
    (hpassed : ∀ x ∈ xs, same x = true → found x = false → value? = none) :
    (xs.find? found).bind value = if xs.any same then value? else none := by
  cases hfind : xs.find? found with
  | some x =>
    have hx : x ∈ xs := List.mem_of_find?_eq_some hfind
    have hsamex : same x = true := hfound x hx (List.find?_some hfind)
    have hany : xs.any same = true := List.any_eq_true.2 ⟨x, hx, hsamex⟩
    rw [hany, if_pos rfl, Option.bind_some, hsame x hx hsamex]
  | none =>
    rw [Option.bind_none]
    split
    · next hany =>
      obtain ⟨x, hx, hsamex⟩ := List.any_eq_true.1 hany
      have hnot : found x = false := by simpa using List.find?_eq_none.1 hfind x hx
      exact (hpassed x hx hsamex hnot).symm
    · rfl

section OneClass

variable {old : Registry} {cls middle : ClassDecl} (hmiddle : middle.Declared)
  (hhuman : middle.identity.human = cls.identity.human)

include hmiddle hhuman

/-- A field takes from its namesake in the middle what it would take from the old build. -/
theorem fieldSource?_carryDecl (field : Identifier) :
    ((old.carryDecl middle).fieldSource? field).bind (·.community) =
      if middle.declaresField field then old.carriedFieldName? cls.identity field else none := by
  have hnamed : ∀ own ∈ middle.fields,
      (own.linkTo (old.carriedFieldName? middle.identity own)).community =
        old.carriedFieldName? middle.identity own := by
    intro own hown
    rw [Identifier.linkTo, hmiddle.field own hown, Option.or_none]
  have hsame : ∀ own : Identifier, (own.human == field.human && own.type == field.type) = true →
      old.carriedFieldName? middle.identity own = old.carriedFieldName? cls.identity field := by
    intro own hown
    simp only [Bool.and_eq_true, beq_iff_eq] at hown
    exact carriedFieldName?_congr hhuman hown.1 hown.2
  rw [ClassDecl.fieldSource?, Registry.carryDecl, List.find?_map, Option.bind_map]
  apply find?_bind_of_same
  · intro own _ hfound
    simp only [Function.comp, ClassDecl.givesTo, Bool.and_eq_true] at hfound
    simpa [Identifier.linkTo] using hfound.1
  · intro own hown hagrees
    rw [← hsame own hagrees]
    exact hnamed own hown
  · -- A field that agrees and is passed over is not linked, so the old build has no name for it.
    intro own hown hagrees hpassed
    rw [← hsame own hagrees, ← hnamed own hown]
    have hunlinked : (own.linkTo (old.carriedFieldName? middle.identity own)).isLinked = false := by
      simp only [Function.comp, ClassDecl.givesTo, Identifier.linkTo] at hpassed hagrees
      rw [hagrees, Bool.true_and] at hpassed
      exact hpassed
    exact Option.isNone_iff_eq_none.1 (by simpa [Identifier.isLinked] using hunlinked)

theorem methodSource?_carryDecl (method : Identifier) :
    ((old.carryDecl middle).methodSource? method).bind (·.community) =
      if middle.declaresMethod method then old.carriedMethodName? cls.identity method
      else none := by
  rw [ClassDecl.methodSource?, Registry.carryDecl, List.find?_map, Option.bind_map]
  apply find?_bind_of_same
  · intro own _ hfound
    exact hfound
  · intro own hown hagrees
    simp only [Bool.and_eq_true, beq_iff_eq] at hagrees
    have hname : old.carriedMethodName? middle.identity own =
        old.carriedMethodName? cls.identity method :=
      carriedMethodName?_congr hhuman hagrees.1.1 hagrees.1.2 hagrees.2
    rw [← hname]
    simp only [Function.comp, Identifier.linkTo, hmiddle.method own hown, Option.or_none]
  · -- No method that agrees is passed over.
    intro own _ hagrees hpassed
    exact absurd (hagrees.symm.trans hpassed) Bool.true_eq_false.mp

end OneClass

/-! ## Whole builds -/

/-- Classes are found among named ones as they were found before. -/
theorem namesakeIn?_map_carryDecl (old : Registry) (classes : Array ClassDecl) (id : Identifier) :
    namesakeIn? (classes.map old.carryDecl) id = (namesakeIn? classes id).map old.carryDecl := by
  unfold namesakeIn?
  cases id.human with
  | none => rfl
  | some human =>
    rw [Option.bind_some, Option.bind_some, Array.find?_map]
    rfl

/-- A class that is named after the middle build has what the middle build lets through of the names
that it would have straight from the old build. -/
theorem annotated_map_carryDecl (old : Registry) {middle : Array ClassDecl}
    (hmiddle : ∀ cls ∈ middle, cls.Declared) {cls : ClassDecl} (hcls : cls.Declared) :
    cls.annotated (middle.map old.carryDecl) = (old.carryDecl cls).keptThrough middle := by
  have hkey : namesakeIn? middle (old.carryDecl cls).identity = namesakeIn? middle cls.identity :=
    rfl
  unfold ClassDecl.annotated ClassDecl.keptThrough
  rw [namesakeIn?_map_carryDecl, hkey]
  cases hfound : namesakeIn? middle cls.identity with
  | none => simp [Registry.carryDecl, Identifier.linkTo]
  | some namesake =>
    obtain ⟨hmem, hhuman⟩ := mem_of_namesakeIn? hfound
    have hdeclared : namesake.Declared := hmiddle namesake hmem
    have hname : (old.carryDecl namesake).identity.community =
        (old.carryDecl cls).identity.community := by
      show (old.carriedClassName? namesake.identity).or _ = (old.carriedClassName? cls.identity).or _
      rw [hdeclared.community, hcls.community, carriedClassName?_congr hhuman]
    simp only [Option.map_some, Option.bind_some, Option.isSome_some, if_true, Option.any_some]
    rw [hname]
    have hfields : (old.carryDecl cls).fields = cls.fields.map fun field =>
        field.linkTo (old.carriedFieldName? cls.identity field) := rfl
    have hmethods : (old.carryDecl cls).methods = cls.methods.map fun method =>
        method.linkTo (old.carriedMethodName? cls.identity method) := rfl
    congr 1
    · rw [hfields, List.map_map]
      apply List.map_congr_left
      intro field hfield
      rw [fieldSource?_carryDecl hdeclared hhuman field]
      simp only [Function.comp, Identifier.linkTo, hcls.field field hfield, Option.or_none]
      rfl
    · rw [hmethods, List.map_map]
      apply List.map_congr_left
      intro method hmethod
      rw [methodSource?_carryDecl hdeclared hhuman method]
      simp only [Function.comp, Identifier.linkTo, hcls.method method hmethod, Option.or_none]
      rfl

/-- Carrying names onto a middle build and from there onto a new one leaves of the names of the
direct way those that the middle build lets through. -/
theorem classes_loadCarried_through (old : Registry) (label label' : String)
    (report report' : Report) (middleText newText : String) :
    (loadCarried (.ofClasses (loadCarried old label report middleText).value.1) label' report'
        newText).value.1 =
      (loadCarried old label' report' newText).value.1.map
        (·.keptThrough (loadMapping label report middleText).value.1) := by
  rw [classes_loadCarried _ label' label' report' report',
    classes_loadCarried old label' label' report' report',
    classes_loadCarried old label label report report, Array.map_map]
  apply Array.map_congr_left
  intro cls hcls
  have hcls : cls.Declared := declared_of_mem_loadMapping hcls
  rw [(Registry.indexed_ofClasses _).carryDecl hcls, Registry.classes_ofClasses]
  exact annotated_map_carryDecl old (fun middle hmem => declared_of_mem_loadMapping hmem) hcls

end NameCarry
