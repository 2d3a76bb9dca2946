import Mathlib.Data.List.Induction
import NameCarry.Proofs.Lookups
import NameCarry.Proofs.Reading

/-!
# What a list of class links leads to

A class link names the first class with its obfuscated name, and no other. Of several links of one
name the last one counts, wherever the others stand. So the classes that a list of links leads to
can be written down at once (`Registry.classes_linkAll`): the first bearer of each obfuscated name
is under the community name of the last link of that name, and all else is as it was.

The class links of a text are such a list (`Registry.run_classReader`), and so are anchors
(`Registry.value_linkAnchors`); behind the links of a text, anchors keep their own names
(`Registry.lastName?_append_anchorLinks`).
-/

namespace NameCarry

/-- The class under the given community name, or as it is if there is none. -/
def ClassDecl.linkTo (cls : ClassDecl) (community? : Option String) : ClassDecl :=
  { cls with identity := cls.identity.linkTo community? }

/-- The community name of the last link of an obfuscated name. -/
def ClassLink.lastName? (links : List ClassLink) (obfuscated : String) : Option String :=
  NameCarry.lastName? (links.map fun link => (link.obfuscated, link.community)) obfuscated

theorem ClassLink.lastName?_concat (links : List ClassLink) (link : ClassLink)
    (obfuscated : String) :
    lastName? (links ++ [link]) obfuscated =
      if link.obfuscated = obfuscated then some link.community
      else lastName? links obfuscated := by
  unfold lastName?
  rw [List.map_append, List.map_singleton, NameCarry.lastName?_concat]

/-- The classes in which the first bearer of each obfuscated name is under the community name that
`names` has for it. -/
def linkFirsts (names : String → Option String) (classes : Array ClassDecl) : Array ClassDecl :=
  classes.mapIdx fun number cls =>
    if classes.findIdx? (·.identity.obfuscated == cls.identity.obfuscated) = some number then
      cls.linkTo (names cls.identity.obfuscated)
    else cls

section LinkFirsts

variable {names : String → Option String} {classes : Array ClassDecl}

@[simp]
theorem size_linkFirsts (names : String → Option String) (classes : Array ClassDecl) :
    (linkFirsts names classes).size = classes.size := by
  simp [linkFirsts]

theorem getElem_linkFirsts {number : Nat} (h : number < classes.size)
    (hlinked : number < (linkFirsts names classes).size) :
    (linkFirsts names classes)[number] =
      if classes.findIdx? (·.identity.obfuscated == classes[number].identity.obfuscated) =
          some number then
        classes[number].linkTo (names classes[number].identity.obfuscated)
      else classes[number] := by
  simp [linkFirsts]

theorem fields_getElem_linkFirsts {number : Nat} (h : number < classes.size)
    (hlinked : number < (linkFirsts names classes).size) :
    (linkFirsts names classes)[number].fields = classes[number].fields := by
  rw [getElem_linkFirsts h]
  split <;> rfl

theorem methods_getElem_linkFirsts {number : Nat} (h : number < classes.size)
    (hlinked : number < (linkFirsts names classes).size) :
    (linkFirsts names classes)[number].methods = classes[number].methods := by
  rw [getElem_linkFirsts h]
  split <;> rfl

theorem findIdx?_obfuscated_linkFirsts (names : String → Option String)
    (classes : Array ClassDecl) (obfuscated : String) :
    (linkFirsts names classes).findIdx? (·.identity.obfuscated == obfuscated) =
      classes.findIdx? (·.identity.obfuscated == obfuscated) := by
  apply findIdx?_congr_getElem (by simp)
  intro number _ h
  rw [getElem_linkFirsts h]
  split <;> rfl

theorem linkFirsts_none (classes : Array ClassDecl) :
    linkFirsts (fun _ => none) classes = classes := by
  apply Array.ext (by simp)
  intro number _ h
  rw [getElem_linkFirsts h]
  split <;> simp [ClassDecl.linkTo, Identifier.linkTo]

/-- Linking one more name changes its first bearer. -/
theorem linkFirsts_modify {obfuscated : String} {number : Nat}
    (hfind : classes.findIdx? (·.identity.obfuscated == obfuscated) = some number)
    (community : String) :
    (linkFirsts names classes).modify number (·.link community) =
      linkFirsts (fun name => if obfuscated = name then some community else names name)
        classes := by
  obtain ⟨hnumber, hname, hbefore⟩ := Array.findIdx?_eq_some_iff_getElem.1 hfind
  simp only [beq_iff_eq] at hname
  apply Array.ext (by simp)
  intro place h₁ h₂
  have h : place < classes.size := by simpa using h₂
  rw [Array.getElem_modify, getElem_linkFirsts h h₂]
  by_cases hplace : number = place
  · subst hplace
    rw [if_pos rfl, getElem_linkFirsts hnumber, hname, if_pos hfind, if_pos hfind, if_pos rfl]
    rfl
  · rw [if_neg hplace, getElem_linkFirsts h]
    split
    · -- Another class that is first under its name bears another name.
      next hfirst =>
      have hother : obfuscated ≠ classes[place].identity.obfuscated := by
        intro hsame
        rw [← hsame, hfind] at hfirst
        exact hplace (Option.some.inj hfirst)
      rw [if_neg hother]
    · rfl

theorem linkFirsts_absent {obfuscated : String}
    (hfind : classes.findIdx? (·.identity.obfuscated == obfuscated) = none) (community : String) :
    linkFirsts (fun name => if obfuscated = name then some community else names name) classes =
      linkFirsts names classes := by
  rw [Array.findIdx?_eq_none_iff] at hfind
  apply Array.ext (by simp)
  intro place h₁ h₂
  have hplace : place < classes.size := by simpa using h₁
  have hother : obfuscated ≠ classes[place].identity.obfuscated := by
    intro hsame
    have habsent := hfind classes[place] (Array.getElem_mem hplace)
    simp [hsame] at habsent
  rw [getElem_linkFirsts hplace h₁, getElem_linkFirsts hplace h₂, if_neg hother]

end LinkFirsts

namespace Registry

variable {registry : Registry}

/-- The registry that a list of class links leads to, one after the other. -/
def linkAll (registry : Registry) (links : List ClassLink) : Registry :=
  links.foldl (fun registry link => registry.orStay (registry.linkClass link.obfuscated
    link.community)) registry

theorem linkAll_append (registry : Registry) (links more : List ClassLink) :
    registry.linkAll (links ++ more) = (registry.linkAll links).linkAll more :=
  List.foldl_append

theorem linkAll_concat (registry : Registry) (links : List ClassLink) (link : ClassLink) :
    registry.linkAll (links ++ [link]) =
      (registry.linkAll links).orStay
        ((registry.linkAll links).linkClass link.obfuscated link.community) := by
  rw [linkAll_append]
  rfl

theorem Indexed.linkAll (h : registry.Indexed) (links : List ClassLink) :
    (registry.linkAll links).Indexed := by
  unfold Registry.linkAll
  induction links generalizing registry with
  | nil => exact h
  | cons link links ih => exact ih (orStay_induction h fun _ hlink => h.linkClass hlink)

/-- The first bearer of each obfuscated name is under the community name of the last link of that
name, and all else is as it was. -/
theorem classes_linkAll (h : registry.Indexed) (links : List ClassLink) :
    (registry.linkAll links).classes =
      linkFirsts (ClassLink.lastName? links) registry.classes := by
  -- A link that is added at the end wins, so the induction adds links there.
  induction links using List.reverseRecOn with
  | nil =>
    have hnone : ClassLink.lastName? [] = fun _ => none := rfl
    rw [hnone, linkFirsts_none]
    rfl
  | append_singleton links link ih =>
    have hnames : ClassLink.lastName? (links ++ [link]) = fun name =>
        if link.obfuscated = name then some link.community
        else ClassLink.lastName? links name := by
      funext name
      exact ClassLink.lastName?_concat links link name
    have hfind := (h.linkAll links).byObfuscated link.obfuscated
    rw [ih, findIdx?_obfuscated_linkFirsts] at hfind
    rw [linkAll_concat, hnames]
    unfold linkClass
    cases hnumber : (registry.linkAll links).byObfuscated[link.obfuscated]? with
    | none =>
      rw [hnumber] at hfind
      rw [linkFirsts_absent hfind.symm, ← ih]
      rfl
    | some number =>
      rw [hnumber] at hfind
      rw [← linkFirsts_modify hfind.symm, ← ih]
      rfl

/-! ## The class links of a text -/

/-- A line of the reader carries out its link, if it has one. -/
theorem next_classReader (registry : Registry) (line : String) :
    classReader.next registry line =
      registry.linkAll (ClassLink.read line).toOption.toList := by
  unfold LineReader.next classReader linkClassLine linkAll orStay
  cases ClassLink.read line with
  | error fault => rfl
  | ok link =>
    simp only [Except.toOption, mapError_ok, Option.toList_some, List.foldl_cons, List.foldl_nil,
      bind, Except.bind]
    cases registry.linkClass link.obfuscated link.community <;> rfl

/-- The links of a row of lines, without the lines that are no links. -/
def linksOf (lines : List (Nat × String)) : List ClassLink :=
  lines.filterMap fun line => (ClassLink.read line.2).toOption

theorem run_classReader (registry : Registry) (lines : List (Nat × String)) :
    classReader.run registry lines = registry.linkAll (linksOf lines) := by
  induction lines generalizing registry with
  | nil => rfl
  | cons line lines ih =>
    have hlinks : linksOf (line :: lines) =
        (ClassLink.read line.2).toOption.toList ++ linksOf lines := by
      unfold linksOf
      rw [List.filterMap_cons]
      cases (ClassLink.read line.2).toOption <;> rfl
    rw [LineReader.run_cons, ih, next_classReader, hlinks, linkAll_append]

/-- Class links do not stand in each other's way: whether a line is used depends on the obfuscated
names alone, which no link changes. -/
theorem steady_classReader (start : Registry) :
    classReader.Steady start fun registry => registry.byObfuscated = start.byObfuscated where
  inv_start := rfl
  of_ok := by
    intro registry line moved hsame hread
    obtain ⟨linked, hline, rfl⟩ := map_eq_ok_iff.1 hread
    obtain ⟨link, hlink, hclass⟩ := linkClassLine_eq_ok_iff.1 hline
    obtain ⟨number, hnumber, rfl⟩ := linkClass_eq_ok_iff.1 hclass
    refine ⟨hsame, pure (start.nameClass number link.community), ?_⟩
    rw [hsame] at hnumber
    exact map_eq_ok_iff.2 ⟨_, linkClassLine_eq_ok_iff.2
      ⟨link, hlink, linkClass_eq_ok_iff.2 ⟨number, hnumber, rfl⟩⟩, rfl⟩
  of_error := by
    intro registry line fault hsame hread
    unfold classReader linkClassLine linkClass at hread ⊢
    rw [hsame] at hread
    cases hlink : ClassLink.read line with
    | error cause =>
      rw [hlink] at hread
      exact hread
    | ok link =>
      rw [hlink] at hread
      revert hread
      simp only [mapError_ok, bind, Except.bind]
      cases start.byObfuscated[link.obfuscated]? with
      | none => exact id
      | some number => intro hread; cases hread

/-! ## Anchors -/

/-- The links of a list of anchors: each to its own name. -/
def anchorLinks (anchors : List String) : List ClassLink :=
  anchors.map fun name => { obfuscated := name, community := name }

theorem value_linkAnchors (registry : Registry) (anchors : List String) :
    (registry.linkAnchors anchors).value.1 = registry.linkAll (anchorLinks anchors) := by
  rw [value_linkAnchors_fst, linkAll, anchorLinks, List.foldl_map]

/-- Behind other links, an anchor keeps its own name, and any other class that of the other links.
-/
theorem lastName?_append_anchorLinks (links : List ClassLink) (anchors : List String)
    (obfuscated : String) :
    ClassLink.lastName? (links ++ anchorLinks anchors) obfuscated =
      if obfuscated ∈ anchors then some obfuscated else ClassLink.lastName? links obfuscated := by
  induction anchors using List.reverseRecOn with
  | nil => simp [anchorLinks]
  | append_singleton anchors name ih =>
    have hlinks : links ++ anchorLinks (anchors ++ [name]) =
        links ++ anchorLinks anchors ++ [{ obfuscated := name, community := name }] := by
      simp [anchorLinks]
    rw [hlinks, ClassLink.lastName?_concat, ih]
    by_cases hname : name = obfuscated
    · subst hname
      simp
    · have hne : obfuscated ≠ name := fun h => hname h.symm
      simp [hname, hne]

end Registry

end NameCarry
