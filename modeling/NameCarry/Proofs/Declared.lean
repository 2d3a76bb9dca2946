import NameCarry.Loading
import NameCarry.Proofs.Links
import NameCarry.Proofs.Reading

/-!
# What a mapping declares

A class that is read from a mapping has a human name, and neither it nor any of its members has a
community name (`declared_of_mem_loadMapping`): a mapping knows none.
-/

namespace NameCarry

theorem Identifier.community_linkTo_of_none {id : Identifier} (h : id.community = none)
    (community? : Option String) : (id.linkTo community?).community = community? := by
  rw [Identifier.linkTo, h, Option.or_none]

/-- A class as a mapping declares it. -/
structure ClassDecl.Declared (cls : ClassDecl) : Prop where
  /-- The class has a human name. -/
  human : ∃ human, cls.identity.human = some human
  /-- The class has no community name. -/
  community : cls.identity.community = none
  /-- No field has a community name. -/
  field : ∀ field ∈ cls.fields, field.community = none
  /-- No method has a community name. -/
  method : ∀ method ∈ cls.methods, method.community = none

namespace Loading

variable {loading : Loading Unit}

/-- All classes that were read are as a mapping declares them. -/
def AllDeclared (loading : Loading Unit) : Prop :=
  ∀ cls ∈ loading.classes, cls.Declared

theorem AllDeclared.dropMembers (h : loading.AllDeclared) : loading.dropMembers.AllDeclared :=
  h

theorem AllDeclared.openClass (h : loading.AllDeclared) (label human obfuscated : String) :
    (loading.openClass label Annotator.none human obfuscated).value.AllDeclared := by
  intro cls hcls
  rcases Array.mem_push.1 hcls with hclosed | rfl
  · exact h cls hclosed
  · exact ⟨⟨human, rfl⟩, rfl, by simp [OpenClass.close], by simp [OpenClass.close]⟩

/-- Adding a member keeps the classes as declared, if it does so within the open class. -/
theorem AllDeclared.addMember (h : loading.AllDeclared) {shape : LineShape}
    {add : OpenClass → Unit → Noted (OpenClass × Unit)}
    (hadd : ∀ current, current.close.Declared → (add current ()).value.1.close.Declared)
    {moved : Noted (Loading Unit)} (hmoved : loading.addMember shape add = .ok moved) :
    moved.value.AllDeclared := by
  obtain ⟨closed, scope, state⟩ := loading
  cases scope with
  | outside => cases hmoved
  | dropped =>
    cases hmoved
    exact h
  | inside current =>
    cases hmoved
    intro cls hcls
    rcases Array.mem_push.1 hcls with hclosed | rfl
    · exact h cls (Array.mem_push.2 (.inl hclosed))
    · exact hadd current (h _ (Array.mem_push.2 (.inr rfl)))

theorem declared_addField {field : Identifier} (hfield : field.community = none)
    {current : OpenClass} (h : current.close.Declared) :
    (addField Annotator.none field current ()).value.1.close.Declared where
  human := h.human
  community := h.community
  field := by
    intro added hadded
    simp only [addField, Annotator.none, Noted.value_bind, Noted.value_pure, OpenClass.close,
      List.reverse_cons, List.mem_append, List.mem_singleton] at hadded
    rcases hadded with hbefore | rfl
    · exact h.field added hbefore
    · exact hfield
  method := h.method

theorem declared_addMethod {method : Identifier} (hmethod : method.community = none)
    {current : OpenClass} (h : current.close.Declared) :
    (addMethod Annotator.none method current ()).value.1.close.Declared where
  human := h.human
  community := h.community
  field := h.field
  method := by
    intro added hadded
    simp only [addMethod, Annotator.none, Noted.value_bind, Noted.value_pure, OpenClass.close,
      List.reverse_cons, List.mem_append, List.mem_singleton] at hadded
    rcases hadded with hbefore | rfl
    · exact h.method added hbefore
    · exact hmethod

theorem AllDeclared.reader (h : loading.AllDeclared) {label line : String}
    {moved : Noted (Loading Unit)}
    (hmoved : Loading.reader label Annotator.none loading line = .ok moved) :
    moved.value.AllDeclared := by
  unfold Loading.reader at hmoved
  cases hread : Declaration.read line with
  | error fault => simp [hread] at hmoved
  | ok declaration =>
    simp only [hread] at hmoved
    cases declaration with
    | header human obfuscated =>
      simp only [declare] at hmoved
      split at hmoved <;> cases hmoved
      · exact h.dropMembers
      · exact h.openClass label human obfuscated
    | field type human obfuscated =>
      exact h.addMember (fun _ hcurrent => declared_addField rfl hcurrent) hmoved
    | method result human params obfuscated =>
      exact h.addMember (fun _ hcurrent => declared_addMethod rfl hcurrent) hmoved

end Loading

/-- Every class that is read from a mapping is as a mapping declares it. -/
theorem declared_of_mem_loadMapping {label text : String} {report : Report} {cls : ClassDecl}
    (hcls : cls ∈ (loadMapping label report text).value.1) : cls.Declared := by
  simp only [loadMapping_eq_readText, Noted.value_bind, Noted.value_pure,
    LineReader.value_readText] at hcls
  -- It holds before the first line, and every line that is used keeps it.
  have hstart : Loading.AllDeclared { state := () } := by
    intro cls hcls
    simp [Loading.classes] at hcls
  exact LineReader.run_induction hstart (fun _ _ _ h hread => h.reader hread) _ cls hcls

end NameCarry
