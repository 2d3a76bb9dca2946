import NameCarry.Registry.Basic

/-!
# Name tables answer like a scan

A name table is right for an array of classes if it answers every name with the number that a scan
of the classes finds (`NameTable.Right`). The table that is filled from the classes is right
(`NameTable.right_ofClasses`). When one class changes its name, releasing the old name and claiming
the new one makes the table right for the changed classes (`NameTable.Right.rename`).
-/

namespace NameCarry

/-! ## Scanning an array in which one element changes -/

section Scan

variable {α : Type} {p q : α → Bool} {xs ys : Array α} {n : Nat} {f : α → α}

/-- A scan sees its test on each element and nothing else. -/
theorem findIdx?_congr_getElem (hsize : xs.size = ys.size)
    (h : ∀ i (hx : i < xs.size) (hy : i < ys.size), p xs[i] = q ys[i]) :
    xs.findIdx? p = ys.findIdx? q := by
  have hmap : xs.map p = ys.map q := by
    apply Array.ext
    · simpa using hsize
    · intro i hx hy
      simpa using h i (by simpa using hx) (by simpa using hy)
  have hscan : ∀ (zs : Array α) (r : α → Bool), zs.findIdx? r = (zs.map r).findIdx? id := by
    intro zs r
    rw [Array.findIdx?_map]
    rfl
  rw [hscan xs p, hscan ys q, hmap]

theorem findIdx?_modify_of_eq (h : ∀ x, p (f x) = p x) :
    (xs.modify n f).findIdx? p = xs.findIdx? p := by
  apply findIdx?_congr_getElem (by simp)
  intro i hx hy
  rw [Array.getElem_modify]
  split
  · exact h _
  · rfl

/-- The changed element passes the test: it is found unless an earlier one is. -/
theorem findIdx?_modify_of_pos (hn : n < xs.size) (h : p (f xs[n]) = true) :
    (xs.modify n f).findIdx? p = some (((xs.findIdx? p).map (min · n)).getD n) := by
  rw [Array.findIdx?_eq_some_iff_getElem]
  cases hfind : xs.findIdx? p with
  | none =>
    rw [Array.findIdx?_eq_none_iff] at hfind
    refine ⟨by simpa using hn, by simp [Array.getElem_modify, h], fun j hj => ?_⟩
    have hjn : n ≠ j := Nat.ne_of_gt (by simpa using hj)
    simp [Array.getElem_modify, hjn, hfind]
  | some i =>
    obtain ⟨hi, hpi, hbefore⟩ := Array.findIdx?_eq_some_iff_getElem.1 hfind
    simp only [Option.map_some, Option.getD_some]
    refine ⟨by simp; omega, ?_, fun j hj => ?_⟩
    · by_cases hin : i < n
      · have hmin : min i n = i := by omega
        have hne : n ≠ i := by omega
        simp [Array.getElem_modify, hmin, hne, hpi]
      · have hmin : min i n = n := by omega
        simp [Array.getElem_modify, hmin, h]
    · have hjn : n ≠ j := by omega
      have hji : j < i := by omega
      simpa [Array.getElem_modify, hjn] using hbefore j hji

/-- The changed element fails the test, and was not the one that was found. -/
theorem findIdx?_modify_of_neg (hn : n < xs.size) (h : p (f xs[n]) = false)
    (hne : xs.findIdx? p ≠ some n) : (xs.modify n f).findIdx? p = xs.findIdx? p := by
  cases hfind : xs.findIdx? p with
  | none =>
    rw [Array.findIdx?_eq_none_iff] at hfind ⊢
    intro x hx
    obtain ⟨j, hj, rfl⟩ := Array.getElem_of_mem hx
    rw [Array.getElem_modify]
    split
    · next hnj =>
      subst hnj
      exact h
    · exact hfind _ (Array.getElem_mem _)
  | some i =>
    obtain ⟨hi, hpi, hbefore⟩ := Array.findIdx?_eq_some_iff_getElem.1 hfind
    have hin : n ≠ i := fun hni => hne (by rw [hfind, hni])
    rw [Array.findIdx?_eq_some_iff_getElem]
    refine ⟨by simpa using hi, by simpa [Array.getElem_modify, hin] using hpi, fun j hj => ?_⟩
    rw [Array.getElem_modify]
    split
    · next hnj =>
      subst hnj
      simp [h]
    · exact hbefore j hj

end Scan

namespace NameTable

variable {key : ClassDecl → Option String} {classes : Array ClassDecl} {table : NameTable}

/-- The table answers every name with the number of the first class that bears it. -/
def Right (table : NameTable) (key : ClassDecl → Option String) (classes : Array ClassDecl) :
    Prop :=
  ∀ name, table[name]? = classes.findIdx? (fun cls => key cls == some name)

theorem getElem?_claim (table : NameTable) (key : ClassDecl → Option String)
    (classes : Array ClassDecl) (name : String) (number : Nat) (sought : String) :
    (table.claim key classes name number)[sought]? =
      if name = sought then
        some ((table[name]?.filter fun holder =>
          holder < number && classes[holder]?.bind key == some name).getD number)
      else table[sought]? := by
  unfold claim
  cases hholder : table[name]? with
  | none => simp [Std.TreeMap.getElem?_insert]
  | some holder =>
    by_cases hname : name = sought
    · subst hname
      cases hkept : holder < number && classes[holder]?.bind key == some name <;>
        simp [Option.filter_some, hkept, hholder]
    · rw [if_neg hname]
      dsimp only
      split
      · rfl
      · simp [Std.TreeMap.getElem?_insert, hname]

theorem getElem?_release (table : NameTable) (key : ClassDecl → Option String)
    (classes : Array ClassDecl) (name : String) (number : Nat) (sought : String) :
    (table.release key classes name number)[sought]? =
      if name = sought ∧ table[name]? = some number then
        classes.findIdx? (fun cls => key cls == some name)
      else table[sought]? := by
  unfold release
  by_cases hheld : table[name]? = some number
  · simp only [hheld, BEq.rfl, if_true, and_true]
    by_cases hname : name = sought
    · subst hname
      cases classes.findIdx? (fun cls => key cls == some name) <;> simp
    · cases classes.findIdx? (fun cls => key cls == some name) <;>
        simp [Std.TreeMap.getElem?_insert, Std.TreeMap.getElem?_erase, hname]
  · simp [hheld]

/-- Enters a class into a table while the table is filled. -/
def enter (key : ClassDecl → Option String) (table : NameTable) (entry : ClassDecl × Nat) :
    NameTable :=
  match key entry.1 with
  | some name => table.insertIfNew name entry.2
  | none => table

theorem ofClasses_eq_foldl (key : ClassDecl → Option String) (classes : Array ClassDecl) :
    ofClasses key classes = classes.toList.zipIdx.foldl (enter key) ∅ :=
  rfl

theorem getElem?_enter (key : ClassDecl → Option String) (table : NameTable) (cls : ClassDecl)
    (number : Nat) (sought : String) :
    (enter key table (cls, number))[sought]? =
      table[sought]?.or (if key cls == some sought then some number else none) := by
  unfold enter
  cases key cls with
  | none => simp
  | some name =>
    simp only [Std.TreeMap.getElem?_insertIfNew, Std.TreeMap.mem_iff_isSome_getElem?,
      Std.LawfulEqCmp.compare_eq_iff_eq, Option.some_beq_some, beq_iff_eq]
    by_cases hname : name = sought
    · subst hname
      cases table[name]? <;> simp
    · simp [hname]

/-- Filling a table on, with classes that are counted from `start`, keeps the names that it knows
and answers the others like a scan. -/
theorem getElem?_foldl_enter (key : ClassDecl → Option String) (classes : List ClassDecl)
    (start : Nat) (table : NameTable) (sought : String) :
    ((classes.zipIdx start).foldl (enter key) table)[sought]? =
      table[sought]?.or
        ((classes.findIdx? (fun cls => key cls == some sought)).map (· + start)) := by
  -- The head is entered into the table, and the numbers go on behind it.
  induction classes generalizing start table with
  | nil => simp
  | cons cls classes ih =>
    rw [List.zipIdx_cons, List.foldl_cons, ih, getElem?_enter, List.findIdx?_cons, Option.or_assoc]
    congr 1
    split
    · simp
    · simp only [Option.none_or, Option.map_map]
      congr 1
      funext i
      simp only [Function.comp_apply]
      omega

/-- A table that was filled from the classes is right for them. -/
theorem right_ofClasses (key : ClassDecl → Option String) (classes : Array ClassDecl) :
    (ofClasses key classes).Right key classes := by
  intro name
  rw [ofClasses_eq_foldl, getElem?_foldl_enter, ← List.findIdx?_toArray]
  simp

/-- A table stays right when all classes change without their names. -/
theorem Right.of_mapIdx (hright : table.Right key classes) (change : Nat → ClassDecl → ClassDecl)
    (hkey : ∀ number cls, key (change number cls) = key cls) :
    table.Right key (classes.mapIdx change) := by
  intro name
  rw [hright name]
  apply findIdx?_congr_getElem (by simp)
  intro number h₁ h₂
  rw [Array.getElem_mapIdx, hkey]

/-- A table stays right when one class changes without its names. -/
theorem Right.of_modify (hright : table.Right key classes) (number : Nat)
    (change : ClassDecl → ClassDecl) (hkey : ∀ cls, key (change cls) = key cls) :
    table.Right key (classes.modify number change) := by
  intro name
  rw [hright name, findIdx?_modify_of_eq]
  intro cls
  rw [hkey]

/-- Takes a class off the name that it bore, if it bore one. -/
def releaseFormer (table : NameTable) (key : ClassDecl → Option String)
    (classes : Array ClassDecl) (former : Option String) (number : Nat) : NameTable :=
  match former with
  | some name => table.release key classes name number
  | none => table

theorem getElem?_releaseFormer (table : NameTable) (key : ClassDecl → Option String)
    (classes : Array ClassDecl) (former : Option String) (number : Nat) (sought : String) :
    (table.releaseFormer key classes former number)[sought]? =
      if former = some sought ∧ table[sought]? = some number then
        classes.findIdx? (fun cls => key cls == some sought)
      else table[sought]? := by
  unfold releaseFormer
  cases former with
  | none => simp
  | some name =>
    simp only [getElem?_release, Option.some.injEq]
    by_cases hname : name = sought
    · subst hname
      rfl
    · simp [hname]

/-- The holder of a name in a right table bears it, also when another class has changed. -/
theorem Right.bears_modify (hright : table.Right key classes) {name : String} {holder number : Nat}
    (hheld : table[name]? = some holder) (hne : number ≠ holder)
    (change : ClassDecl → ClassDecl) :
    (classes.modify number change)[holder]?.bind key = some name := by
  rw [hright name] at hheld
  obtain ⟨hholder, hbears, -⟩ := Array.findIdx?_eq_some_iff_getElem.1 hheld
  rw [Array.getElem?_modify, if_neg hne, Array.getElem?_eq_getElem hholder]
  exact eq_of_beq hbears

/-- When a class gives up its name and takes another, the table is right again once the old name is
released and the new one claimed. -/
theorem Right.rename (hright : table.Right key classes) {number : Nat}
    (hnumber : number < classes.size) (change : ClassDecl → ClassDecl) {name : String}
    (hname : key (change classes[number]) = some name) :
    NameTable.Right
      ((table.releaseFormer key (classes.modify number change) (key classes[number])
        number).claim key (classes.modify number change) name number) key
      (classes.modify number change) := by
  intro sought
  rw [getElem?_claim, getElem?_releaseFormer, getElem?_releaseFormer]
  by_cases hsought : name = sought
  · -- The new name: an earlier holder keeps it, and so does a scan.
    subst hsought
    have hfind := findIdx?_modify_of_pos (p := fun cls => key cls == some name)
      (f := change) hnumber (by simp [hname])
    rw [if_pos rfl, hfind, ← hright name]
    split
    · next hheld => simp [hheld.2, Option.filter_some]
    · cases hholder : table[name]? with
      | none => rfl
      | some holder =>
        by_cases hearlier : holder < number
        · have hbears := hright.bears_modify hholder (Nat.ne_of_gt hearlier) change
          simp [Option.filter_some, hearlier, hbears, Nat.min_eq_left (Nat.le_of_lt hearlier)]
        · simp [Option.filter_some, hearlier, Nat.min_eq_right (Nat.le_of_not_lt hearlier)]
  · rw [if_neg hsought]
    split
    · rfl
    · -- A name that was not released is not borne by the class, before or after.
      next hheld =>
      rw [findIdx?_modify_of_neg hnumber (by simp [hname, hsought]), hright sought]
      intro hfind
      obtain ⟨_, hbears, _⟩ := Array.findIdx?_eq_some_iff_getElem.1 hfind
      exact hheld ⟨by simpa using hbears, by rw [hright sought, hfind]⟩

end NameTable

end NameCarry
