import Mathlib.Data.List.Induction
import NameCarry.Proofs.Sections

/-!
# What becomes of each line of a mapping

Each line of a mapping that carries content has one fate (`Fate`), which is told from the line
itself and from the nearest header before it (`Fate.of`). What was read before that header plays no
part, and neither do lines that are refused. A mapping is read as the fates of its lines say
(`readByFates_loadMapping`): the classes are those that the lines open, each with the members that
are added to it, and the report holds the lines that are refused.

While a mapping is read, the nearest header is not looked for. The place where the next member goes
is kept instead, and `Follows` says how the two belong together.
-/

namespace NameCarry

/-! ## Fates -/

/-- What becomes of a line of a mapping. -/
inductive Fate where
  /-- The line is reported. -/
  | refused (fault : Fault)
  /-- The line opens a class. -/
  | opened (human obfuscated : String)
  /-- The line is a header that stands for no class. -/
  | marked
  /-- The line declares a member behind such a header. -/
  | dropped
  /-- The line declares a member of the class that the line with the number `owner` opens. -/
  | added (owner : Nat)
  deriving DecidableEq, Repr

def Fate.isAdded : Fate → Bool
  | added _ => true
  | _ => false

/-- The number and the human name of the last header in a row of lines. -/
def nearestHeader? (lines : List (Nat × String)) : Option (Nat × String) :=
  (lines.filterMap fun line => (headerOf? line.2).map fun names => (line.1, names.1)).getLast?

namespace Fate

/-- The fate of a member behind the given header. -/
def ofMember (shape : LineShape) : Option (Nat × String) → Fate
  | none => refused (.unmatchedLine shape.name LineCause.outsideClass.message)
  | some (number, human) => if Loading.isPackageMarker human then dropped else added number

/-- The fate of a line behind the lines `before`. -/
def of (before : List (Nat × String)) (line : String) : Fate :=
  match Declaration.read line with
  | .error fault => refused fault.toFault
  | .ok (.header human obfuscated) =>
    if Loading.isPackageMarker human then marked else opened human obfuscated
  | .ok (.field ..) => ofMember .fieldEntry (nearestHeader? before)
  | .ok (.method ..) => ofMember .methodEntry (nearestHeader? before)

end Fate

/-- A line of a mapping with its fate. -/
structure FatedLine where
  number : Nat
  line : String
  fate : Fate
  deriving DecidableEq, Repr

/-- The lines of a mapping with their fates. -/
def fates (lines : List (Nat × String)) : List FatedLine :=
  lines.mapIdx fun place line =>
    { number := line.1, line := line.2, fate := .of (lines.take place) line.2 }

/-- A line that opens a class, with the names of the class. -/
structure Opening where
  number : Nat
  human : String
  obfuscated : String
  deriving DecidableEq, Repr

def FatedLine.opening? (entry : FatedLine) : Option Opening :=
  match entry.fate with
  | .opened human obfuscated => some { number := entry.number, human, obfuscated }
  | _ => none

def FatedLine.skipped? (entry : FatedLine) : Option SkippedLine :=
  match entry.fate with
  | .refused fault => some { number := entry.number, raw := entry.line, fault }
  | _ => none

namespace Fates

/-- The lines that open a class. -/
def openings (entries : List FatedLine) : List Opening :=
  entries.filterMap FatedLine.opening?

def skipped (entries : List FatedLine) : List SkippedLine :=
  entries.filterMap FatedLine.skipped?

/-- The lines that declare a member of the class that is opened on the given line. -/
def membersOf (entries : List FatedLine) (owner : Nat) : List String :=
  (entries.filter (·.fate = .added owner)).map (·.line)

/-- The class that a line opens, with the members that are added to it. -/
def classAt (entries : List FatedLine) (opening : Opening) : ClassDecl where
  identity := .ofClass opening.obfuscated opening.human
  fields := (membersOf entries opening.number).filterMap fieldOf?
  methods := (membersOf entries opening.number).filterMap methodOf?

def declared (entries : List FatedLine) : List ClassDecl :=
  (openings entries).map (classAt entries)

end Fates

/-! ## One more line -/

theorem nearestHeader?_concat (lines : List (Nat × String)) (line : Nat × String) :
    nearestHeader? (lines ++ [line]) =
      ((headerOf? line.2).map fun names => (line.1, names.1)).or (nearestHeader? lines) := by
  unfold nearestHeader?
  rw [List.filterMap_append]
  cases hheader : headerOf? line.2 <;> simp [hheader]

/-- The fate of a line does not depend on the lines behind it. -/
theorem fates_concat (lines : List (Nat × String)) (line : Nat × String) :
    fates (lines ++ [line]) =
      fates lines ++ [{ number := line.1, line := line.2, fate := .of lines line.2 }] := by
  unfold fates
  rw [List.mapIdx_concat, List.take_left']
  · congr 1
    apply List.mapIdx_eq_mapIdx_iff.2
    intro place hplace
    rw [List.take_append_of_le_length (Nat.le_of_lt hplace)]
  · rfl

theorem map_line_fates (lines : List (Nat × String)) :
    (fates lines).map (fun entry => (entry.number, entry.line)) = lines := by
  induction lines using List.reverseRecOn with
  | nil => rfl
  | append_singleton lines line ih => simp [fates_concat, ih]

theorem map_number_fates (lines : List (Nat × String)) :
    (fates lines).map (·.number) = lines.map (·.1) := by
  conv_rhs => rw [← map_line_fates lines, List.map_map]
  rfl

namespace Fates

variable (entries : List FatedLine) (entry : FatedLine)

theorem openings_concat :
    openings (entries ++ [entry]) = openings entries ++ entry.opening?.toList := by
  cases h : entry.opening? <;> simp [openings, h]

theorem skipped_concat :
    skipped (entries ++ [entry]) = skipped entries ++ entry.skipped?.toList := by
  cases h : entry.skipped? <;> simp [skipped, h]

theorem membersOf_concat (owner : Nat) :
    membersOf (entries ++ [entry]) owner =
      membersOf entries owner ++ if entry.fate = .added owner then [entry.line] else [] := by
  unfold membersOf
  split <;> simp [*]

theorem classAt_concat_of_ne {opening : Opening} (h : entry.fate ≠ .added opening.number) :
    classAt (entries ++ [entry]) opening = classAt entries opening := by
  simp only [classAt, membersOf_concat, if_neg h, List.append_nil]

theorem openings_concat_of_none (h : entry.opening? = none) :
    openings (entries ++ [entry]) = openings entries := by
  rw [openings_concat, h]
  exact List.append_nil _

theorem classAt_concat_of_isAdded_eq_false (h : entry.fate.isAdded = false) :
    classAt (entries ++ [entry]) = classAt entries := by
  funext opening
  apply classAt_concat_of_ne
  intro hadded
  rw [hadded] at h
  cases h

/-- What is picked from the lines is in the order of the lines. -/
theorem map_number_filterMap_sublist {α : Type} {pick : FatedLine → Option α} {number : α → Nat}
    (h : ∀ entry a, pick entry = some a → number a = entry.number) :
    ((entries.filterMap pick).map number).Sublist (entries.map (·.number)) := by
  induction entries with
  | nil => exact .refl _
  | cons entry entries ih =>
    cases hpick : pick entry with
    | none =>
      rw [List.filterMap_cons_none hpick]
      exact ih.cons _
    | some a =>
      rw [List.filterMap_cons_some hpick, List.map_cons, h entry a hpick]
      exact ih.cons_cons _

theorem map_number_openings_sublist :
    ((openings entries).map (·.number)).Sublist (entries.map (·.number)) := by
  apply map_number_filterMap_sublist
  intro entry opening h
  unfold FatedLine.opening? at h
  split at h <;> cases h
  rfl

theorem map_number_skipped_sublist :
    ((skipped entries).map (·.number)).Sublist (entries.map (·.number)) := by
  apply map_number_filterMap_sublist
  intro entry line h
  unfold FatedLine.skipped? at h
  split at h <;> cases h
  rfl

end Fates

/-! ## The numbers of headers -/

theorem mem_of_nearestHeader? {lines : List (Nat × String)} {number : Nat} {human : String}
    (h : nearestHeader? lines = some (number, human)) : number ∈ lines.map (·.1) := by
  obtain ⟨line, hline, hnames⟩ := List.mem_filterMap.1 (List.mem_of_getLast? h)
  obtain ⟨names, -, hnumber⟩ := Option.map_eq_some_iff.1 hnames
  cases hnumber
  exact List.mem_map_of_mem hline

/-! ## The place where the next member goes -/

/-- A mapping has been read as the fates of its lines say. If a class is open, it is the one that
the nearest header opens, and the last one so far. -/
inductive Follows (lines : List (Nat × String)) : Loading Unit → Prop where
  | outside (hnearest : nearestHeader? lines = none) (hopen : Fates.openings (fates lines) = []) :
      Follows lines { closed := #[], scope := .outside, state := () }
  | dropped {number : Nat} {human : String} {closed : Array ClassDecl}
      (hnearest : nearestHeader? lines = some (number, human))
      (hmarker : Loading.isPackageMarker human)
      (hclosed : closed.toList = Fates.declared (fates lines)) :
      Follows lines { closed, scope := .dropped, state := () }
  | inside {opening : Opening} {before : List Opening} {closed : Array ClassDecl}
      {current : OpenClass}
      (hnearest : nearestHeader? lines = some (opening.number, opening.human))
      (hmarker : ¬ Loading.isPackageMarker opening.human)
      (hopen : Fates.openings (fates lines) = before ++ [opening])
      (hclosed : closed.toList = before.map (Fates.classAt (fates lines)))
      (hcurrent : current.close = Fates.classAt (fates lines) opening) :
      Follows lines { closed, scope := .inside current, state := () }

/-- What a line is read as, with what that means for its fate and for the reader. -/
inductive ReadAs (line : String) : Prop where
  /-- The line cannot be read. It is refused wherever it stands. -/
  | nothing {fault : Fault} (hheader : headerOf? line = none)
      (hfate : ∀ before, Fate.of before line = .refused fault)
      (hreader : ∀ label loading, plainReader label loading line = .error fault)
  | header {human obfuscated : String} (hheader : headerOf? line = some (human, obfuscated))
      (hfate : ∀ before, Fate.of before line =
        if Loading.isPackageMarker human then .marked else .opened human obfuscated)
  /-- The line declares a field or a method, and not both. Before the first header it is refused. -/
  | member {shape : LineShape} (hheader : headerOf? line = none)
      (hfate : ∀ before, Fate.of before line = .ofMember shape (nearestHeader? before))
      (hreadable : isReadable line)
      (hreader : ∀ label closed, plainReader label { closed, scope := .outside, state := () } line =
        .error (LineFault.toFault { shape, cause := .outsideClass }))
      (hone : (fieldOf? line).toList.length + (methodOf? line).toList.length = 1)

theorem readAs (line : String) : ReadAs line := by
  cases hread : Declaration.read line with
  | error fault =>
    exact @ReadAs.nothing line fault.toFault (by rw [headerOf?, hread])
      (fun _ => by rw [Fate.of, hread]) (fun _ _ => by rw [plainReader, Loading.reader, hread])
  | ok declaration =>
    have hreadable : isReadable line := by rw [isReadable, hread]; rfl
    cases declaration with
    | header human obfuscated =>
      exact .header (by rw [headerOf?, hread]) (fun _ => by rw [Fate.of, hread])
    | field type human obfuscated =>
      exact @ReadAs.member line .fieldEntry (by rw [headerOf?, hread])
        (fun _ => by rw [Fate.of, hread]) hreadable
        (fun _ _ => by rw [plainReader, Loading.reader, hread]; rfl)
        (by rw [fieldOf?, methodOf?, hread]; rfl)
    | method result human params obfuscated =>
      exact @ReadAs.member line .methodEntry (by rw [headerOf?, hread])
        (fun _ => by rw [Fate.of, hread]) hreadable
        (fun _ _ => by rw [plainReader, Loading.reader, hread]; rfl)
        (by rw [fieldOf?, methodOf?, hread]; rfl)

namespace LineReader

variable {σ : Type} {reader : LineReader σ} {state : σ} {line : Nat × String}

theorem refused_of_error {fault : Fault} (h : reader state line.2 = .error fault) :
    reader.refused state [line] = [{ number := line.1, raw := line.2, fault }] := by
  simp only [refused, h]

theorem refused_of_isOk (h : (reader state line.2).isOk) : reader.refused state [line] = [] := by
  cases hread : reader state line.2 with
  | ok moved => simp only [refused, hread]
  | error fault => simp [hread, Except.isOk, Except.toBool] at h

end LineReader

/-- A member is added to a class that was opened before. -/
theorem mem_of_fate_eq_added {lines : List (Nat × String)} {entry : FatedLine}
    (hentry : entry ∈ fates lines) {owner : Nat} (hfate : entry.fate = .added owner) :
    owner ∈ lines.map (·.1) := by
  obtain ⟨place, hplace, rfl⟩ := List.mem_mapIdx.1 hentry
  cases readAs lines[place].2 with
  | nothing _ hrefused _ =>
    rw [hrefused] at hfate
    cases hfate
  | header _ hheader =>
    rw [hheader] at hfate
    split at hfate <;> cases hfate
  | member _ hmember _ _ _ =>
    rw [hmember] at hfate
    unfold Fate.ofMember at hfate
    split at hfate
    · cases hfate
    · next hnearest =>
      split at hfate <;> cases hfate
      have hbefore := mem_of_nearestHeader? hnearest
      rw [List.map_take] at hbefore
      exact List.mem_of_mem_take hbefore

theorem membersOf_fates_eq_nil {lines : List (Nat × String)} {owner : Nat}
    (h : owner ∉ lines.map (·.1)) : Fates.membersOf (fates lines) owner = [] := by
  rw [Fates.membersOf, List.map_eq_nil_iff, List.filter_eq_nil_iff]
  intro entry hentry hfate
  exact h (mem_of_fate_eq_added hentry (of_decide_eq_true hfate))

theorem memberCount_push (classes : Array ClassDecl) (cls : ClassDecl) :
    memberCount (classes.push cls) = memberCount classes + cls.memberCount := by
  simp [memberCount]

theorem memberCount_close_addLine {line : String}
    (hone : (fieldOf? line).toList.length + (methodOf? line).toList.length = 1)
    (current : OpenClass) :
    (current.addLine line).close.memberCount = current.close.memberCount + 1 := by
  simp only [ClassDecl.memberCount, OpenClass.close, OpenClass.addLine, List.length_reverse,
    List.length_append]
  omega

section Steps

variable {lines : List (Nat × String)} {loading : Loading Unit} {line : Nat × String}

theorem follows_nil : Follows [] { state := () } :=
  .outside rfl rfl

theorem Follows.classes (h : Follows lines loading) :
    loading.classes.toList = Fates.declared (fates lines) := by
  cases h with
  | outside _ hopen => simp [Loading.classes, Fates.declared, hopen]
  | dropped _ _ hclosed => exact hclosed
  | inside _ _ hopen hclosed hcurrent =>
    simp [Loading.classes, Fates.declared, hopen, hclosed, hcurrent]

/-- What one more line leads to, what is reported of it, and how many members it adds. -/
structure Advances (lines : List (Nat × String)) (line : Nat × String) (loading next : Loading Unit)
    (refused : List SkippedLine) : Prop where
  follows : Follows (lines ++ [line]) next
  refused : refused = (FatedLine.skipped?
    { number := line.1, line := line.2, fate := .of lines line.2 }).toList
  memberCount : memberCount next.classes =
    memberCount loading.classes + if (Fate.of lines line.2).isAdded then 1 else 0

/-- A line that is no header, opens no class and adds no member leaves all as it is. -/
theorem Follows.concat_of_idle (h : Follows lines loading) (hheader : headerOf? line.2 = none)
    (hopening : FatedLine.opening?
      { number := line.1, line := line.2, fate := .of lines line.2 } = none)
    (hadded : (Fate.of lines line.2).isAdded = false) :
    Follows (lines ++ [line]) loading := by
  have hnearest : nearestHeader? (lines ++ [line]) = nearestHeader? lines := by
    rw [nearestHeader?_concat, hheader]
    rfl
  have hopenings : Fates.openings (fates (lines ++ [line])) = Fates.openings (fates lines) := by
    rw [fates_concat, Fates.openings_concat_of_none _ _ hopening]
  have hclassAt : Fates.classAt (fates (lines ++ [line])) = Fates.classAt (fates lines) := by
    rw [fates_concat, Fates.classAt_concat_of_isAdded_eq_false _ _ hadded]
  cases h with
  | outside hnone hopen => exact .outside (hnearest.trans hnone) (hopenings.trans hopen)
  | dropped hsome hmarker hclosed =>
    rw [Fates.declared, ← hopenings, ← hclassAt] at hclosed
    exact .dropped (hnearest.trans hsome) hmarker hclosed
  | inside hsome hmarker hopen hclosed hcurrent =>
    rw [← hclassAt] at hclosed hcurrent
    exact .inside (hnearest.trans hsome) hmarker (hopenings.trans hopen) hclosed hcurrent

theorem Follows.advance_header (h : Follows lines loading) (hnew : line.1 ∉ lines.map (·.1))
    (label : String) {human obfuscated : String}
    (hheader : headerOf? line.2 = some (human, obfuscated))
    (hfate : Fate.of lines line.2 =
      if Loading.isPackageMarker human then .marked else .opened human obfuscated) :
    Advances lines line loading ((plainReader label).next loading line.2)
      ((plainReader label).refused loading [line]) := by
  obtain ⟨hnext, hused⟩ := Block.plainReader_header label loading hheader
  have hrefused := LineReader.refused_of_isOk hused
  have hnearest : nearestHeader? (lines ++ [line]) = some (line.1, human) := by
    rw [nearestHeader?_concat, hheader]
    rfl
  rw [hnext, hrefused]
  by_cases hmarker : Loading.isPackageMarker human
  · rw [if_pos hmarker] at hfate
    rw [Block.scopeOf, if_pos hmarker]
    refine ⟨.dropped hnearest hmarker ?_, by rw [hfate]; rfl, by rw [hfate]; rfl⟩
    rw [h.classes, fates_concat, hfate, Fates.declared, Fates.declared,
      Fates.openings_concat_of_none _ _ rfl, Fates.classAt_concat_of_isAdded_eq_false _ _ rfl]
  · rw [if_neg hmarker] at hfate
    rw [Block.scopeOf, if_neg hmarker]
    have hclassAt : Fates.classAt (fates (lines ++ [line])) = Fates.classAt (fates lines) := by
      rw [fates_concat, hfate, Fates.classAt_concat_of_isAdded_eq_false _ _ rfl]
    refine ⟨@Follows.inside _ { number := line.1, human, obfuscated } (Fates.openings (fates lines))
      _ _ hnearest hmarker ?_ ?_ ?_, by rw [hfate]; rfl, ?_⟩
    · rw [fates_concat, Fates.openings_concat, hfate]
      rfl
    · rw [h.classes, hclassAt]
      rfl
    · rw [hclassAt, Fates.classAt, membersOf_fates_eq_nil hnew]
      rfl
    · rw [hfate]
      simp [Loading.classes, memberCount, OpenClass.close, ClassDecl.memberCount, Fate.isAdded]

theorem Follows.advance_member (h : Follows lines loading) (hnodup : (lines.map (·.1)).Nodup)
    (label : String) {shape : LineShape} (hheader : headerOf? line.2 = none)
    (hfate : Fate.of lines line.2 = .ofMember shape (nearestHeader? lines))
    (hreadable : isReadable line.2)
    (hreader : ∀ closed, plainReader label { closed, scope := .outside, state := () } line.2 =
      .error (LineFault.toFault { shape, cause := .outsideClass }))
    (hone : (fieldOf? line.2).toList.length + (methodOf? line.2).toList.length = 1) :
    Advances lines line loading ((plainReader label).next loading line.2)
      ((plainReader label).refused loading [line]) := by
  cases h with
  | outside hnearest hopen =>
    have hfate : Fate.of lines line.2 =
        .refused (LineFault.toFault { shape, cause := .outsideClass }) := by
      rw [hfate, hnearest]
      rfl
    rw [LineReader.next_of_error (hreader _), LineReader.refused_of_error (hreader _)]
    refine ⟨(Follows.outside hnearest hopen).concat_of_idle hheader ?_ ?_, ?_, ?_⟩
    all_goals simp [hfate, FatedLine.opening?, FatedLine.skipped?, Fate.isAdded]
  | @dropped number human closed hnearest hmarker hclosed =>
    have hfate : Fate.of lines line.2 = .dropped := by
      rw [hfate, hnearest, Fate.ofMember, if_pos hmarker]
    have hscope : Scope.dropped ≠ .outside := Scope.noConfusion
    obtain ⟨hnext, hused⟩ := plainReader_behind label closed hscope hheader
    rw [hreadable] at hused
    rw [hnext, LineReader.refused_of_isOk hused]
    show Advances lines line _ { closed, scope := .dropped, state := () } _
    refine ⟨(Follows.dropped hnearest hmarker hclosed).concat_of_idle hheader ?_ ?_, ?_, ?_⟩
    all_goals simp [hfate, FatedLine.opening?, FatedLine.skipped?, Fate.isAdded, Loading.classes]
  | @inside opening before closed current hnearest hmarker hopen hclosed hcurrent =>
    have hfate : Fate.of lines line.2 = .added opening.number := by
      rw [hfate, hnearest, Fate.ofMember, if_neg hmarker]
    have hscope : Scope.inside current ≠ .outside := Scope.noConfusion
    obtain ⟨hnext, hused⟩ := plainReader_behind label closed hscope hheader
    rw [hreadable] at hused
    have hclose : (current.addLine line.2).close =
        { identity := current.close.identity
          fields := current.close.fields ++ [line.2].filterMap fieldOf?
          methods := current.close.methods ++ [line.2].filterMap methodOf? } :=
      close_foldl_addLine current [line.2]
    have hopening : Fates.openings (fates (lines ++ [line])) = before ++ [opening] := by
      rw [fates_concat, hfate, Fates.openings_concat_of_none _ _ rfl, hopen]
    rw [hnext, LineReader.refused_of_isOk hused]
    refine ⟨@Follows.inside _ opening before _ _ ?_ hmarker hopening ?_ ?_, ?_, ?_⟩
    · rw [nearestHeader?_concat, hheader]
      exact hnearest
    · -- The classes before are opened on other lines.
      rw [hclosed]
      apply List.map_congr_left
      intro other hother
      rw [fates_concat, Fates.classAt_concat_of_ne]
      intro hadded
      rw [hfate] at hadded
      have hnumbers := (Fates.map_number_openings_sublist (fates lines)).nodup
        (map_number_fates lines ▸ hnodup)
      rw [hopen, List.map_append, List.nodup_append] at hnumbers
      refine hnumbers.2.2 other.number (List.mem_map_of_mem hother) opening.number ?_
        (Fate.added.inj hadded).symm
      exact List.mem_singleton.2 rfl
    · rw [hclose, hcurrent, fates_concat]
      simp only [Fates.classAt, Fates.membersOf_concat, hfate, if_true, List.filterMap_append]
    · rw [hfate]
      rfl
    · have hmembers := memberCount_push closed (current.addLine line.2).close
      rw [memberCount_close_addLine hone, ← Nat.add_assoc, ← memberCount_push] at hmembers
      rw [hfate]
      exact hmembers

theorem Follows.advance (h : Follows lines loading) (hnodup : (lines.map (·.1)).Nodup)
    (hnew : line.1 ∉ lines.map (·.1)) (label : String) :
    Advances lines line loading ((plainReader label).next loading line.2)
      ((plainReader label).refused loading [line]) := by
  cases readAs line.2 with
  | header hheader hfate => exact h.advance_header hnew label hheader (hfate lines)
  | member hheader hfate hreadable hreader hone =>
    exact h.advance_member hnodup label hheader (hfate lines) hreadable (hreader label) hone
  | nothing hheader hfate hreader =>
    rw [LineReader.next_of_error (hreader label loading),
      LineReader.refused_of_error (hreader label loading)]
    refine ⟨h.concat_of_idle hheader ?_ ?_, ?_, ?_⟩
    all_goals simp [hfate, FatedLine.opening?, FatedLine.skipped?, Fate.isAdded]

end Steps

/-! ## The reading of a whole mapping -/

/-- Reading lines with different numbers leads where their fates say. -/
theorem follows_run (label : String) {lines : List (Nat × String)}
    (hnodup : (lines.map (·.1)).Nodup) :
    Follows lines ((plainReader label).run { state := () } lines) ∧
      (plainReader label).refused { state := () } lines = Fates.skipped (fates lines) ∧
      memberCount ((plainReader label).run { state := () } lines).classes =
        (fates lines).countP (·.fate.isAdded) := by
  induction lines using List.reverseRecOn with
  | nil => exact ⟨follows_nil, rfl, rfl⟩
  | append_singleton lines line ih =>
    rw [List.map_append, List.nodup_append] at hnodup
    obtain ⟨hlines, -, hnew⟩ := hnodup
    have hnew : line.1 ∉ lines.map (·.1) := fun hmem =>
      hnew line.1 hmem line.1 (List.mem_singleton.2 rfl) rfl
    obtain ⟨hfollows, hrefused, hcount⟩ := ih hlines
    obtain ⟨hnext, hskipped, hmembers⟩ := hfollows.advance hlines hnew label
    rw [LineReader.run_append, LineReader.refused_append, fates_concat, Fates.skipped_concat,
      List.countP_append, hrefused, hskipped]
    refine ⟨hnext, rfl, hmembers.trans ?_⟩
    rw [hcount, List.countP_singleton]

theorem length_fates_eq_add (entries : List FatedLine) :
    entries.length = (Fates.openings entries).length + entries.countP (·.fate.isAdded) +
      entries.countP (·.fate = .marked) + entries.countP (·.fate = .dropped) +
      (Fates.skipped entries).length := by
  induction entries with
  | nil => rfl
  | cons entry entries ih =>
    obtain ⟨number, line, fate⟩ := entry
    unfold Fates.openings Fates.skipped Fate.isAdded at ih ⊢
    rw [List.length_cons, ih]
    cases fate <;> simp [FatedLine.opening?, FatedLine.skipped?, List.filterMap_cons] <;> omega

theorem value_loadMapping (label : String) (report : Report) (text : String) :
    (loadMapping label report text).value =
      (((plainReader label).run { state := () } (Text.contentLines text)).classes,
        { report with
          skipped := report.skipped ++ ((plainReader label).refused { state := () }
            (Text.contentLines text)).toArray }) := by
  simp only [loadMapping_eq_readText, Noted.value_bind, Noted.value_pure,
    LineReader.value_readText]

theorem toList_loadMapping (label : String) (report : Report) (text : String) :
    (loadMapping label report text).value.1.toList =
      Fates.declared (fates (Text.contentLines text)) := by
  have hordered : ((Text.contentLines text).map (·.1)).Pairwise (· < ·) :=
    List.pairwise_map.2 (Text.pairwise_contentLines text)
  rw [value_loadMapping]
  exact (follows_run label (hordered.imp Nat.ne_of_lt)).1.classes

/-- The lines of a text have one fate each, and the classes and the report are what the fates say.
-/
structure ReadByFates (text : String) (before : Report) (classes : Array ClassDecl)
    (report : Report) : Prop where
  /-- The lines with fates are those that carry content. -/
  lines : (fates (Text.contentLines text)).map (fun entry => (entry.number, entry.line)) =
    Text.contentLines text
  /-- Lines without content are counted, but have no fate. -/
  numbers : ∀ number line, (number, line) ∈ Text.contentLines text ↔
    1 ≤ number ∧ (Text.linesOf text)[number - 1]? = some line ∧ Text.isIgnored line = false
  /-- The classes are those that are opened, with the members that are added, in their order. -/
  declared : classes.toList = Fates.declared (fates (Text.contentLines text))
  /-- The lines that are refused are reported, each once. -/
  skipped : report = { before with
    skipped := before.skipped ++ (Fates.skipped (fates (Text.contentLines text))).toArray }
  /-- The report goes through the lines in their order. -/
  increasing : (Fates.skipped (fates (Text.contentLines text))).Pairwise
    fun line other => line.number < other.number
  /-- No line is lost, and none is counted twice. -/
  count : before.count + (Text.contentLines text).length =
    classes.size + memberCount classes +
      (fates (Text.contentLines text)).countP (·.fate = .marked) +
      (fates (Text.contentLines text)).countP (·.fate = .dropped) + report.count

/-- A mapping is read as the fates of its lines say. -/
theorem readByFates_loadMapping (label : String) (report : Report) (text : String) :
    ReadByFates text report (loadMapping label report text).value.1
      (loadMapping label report text).value.2 := by
  have hordered : ((Text.contentLines text).map (·.1)).Pairwise (· < ·) :=
    List.pairwise_map.2 (Text.pairwise_contentLines text)
  obtain ⟨-, hrefused, hmembers⟩ := follows_run label (hordered.imp Nat.ne_of_lt)
  have hdeclared := toList_loadMapping label report text
  rw [value_loadMapping] at hdeclared ⊢
  dsimp only at hdeclared
  rw [hrefused]
  refine ⟨map_line_fates _, fun _ _ => Text.mem_contentLines_iff, hdeclared, rfl, ?_, ?_⟩
  · rw [← map_number_fates] at hordered
    have hskipped := hordered.sublist (Fates.map_number_skipped_sublist _)
    exact List.pairwise_map.1 hskipped
  · have hparts := length_fates_eq_add (fates (Text.contentLines text))
    have hlength := congrArg List.length (map_number_fates (Text.contentLines text))
    have hsize := congrArg List.length hdeclared
    rw [List.length_map, List.length_map] at hlength
    rw [Array.length_toList, Fates.declared, List.length_map] at hsize
    simp only [Report.count, Array.size_append, List.size_toArray]
    omega

end NameCarry
