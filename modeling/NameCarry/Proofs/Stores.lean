import NameCarry.Program.Execution

/-!
# Writing into a store

Where a path leads depends on the directories of a store. A text that is written makes no directory
and takes none away, and neither does it touch what is a device (`Store.SameLayout`). So each output
of a run goes where it would go if it were the only one (`Output.place?`), and what lies in a place
in the end is the last text that was written to it, or what lay there before
(`Program.writeAll_spec`).
-/

namespace NameCarry

namespace Store

/-- The device in a place. -/
def device? (store : Store) (location : Location) : Option Device :=
  match store.node? location with
  | some (.device device) => some device
  | _ => none

/-- Whether a text can be written to a place that is opened. Only a device can refuse it. -/
def takes (store : Store) (location : Location) (text : String) : Bool :=
  (store.device? location).all (·.takes text)

/-- The store with a text written to a place. A device keeps nothing. -/
def receive (store : Store) (location : Location) (text : String) : Store :=
  match store.device? location with
  | some device => store.pass device text
  | none => store.put location text

theorem fill?_eq (store : Store) (location : Location) (text : String) :
    store.fill? location text =
      if store.takes location text then some (store.receive location text) else none := by
  unfold fill? takes receive device?
  cases store.node? location with
  | none => rfl
  | some node => cases node <;> rfl

/-- A device that refuses a text is left as it was. -/
theorem receive_of_not_takes {store : Store} {location : Location} {text : String}
    (h : ¬ store.takes location text) : store.receive location text = store := by
  unfold takes at h
  unfold receive
  cases hdevice : store.device? location with
  | none => simp [hdevice] at h
  | some device =>
    rw [hdevice, Option.all_some] at h
    cases device with
    | full => rfl
    | null | endless | stream | console => exact absurd (Bool.or_true _) h

/-! ## What lies in a place behind a write -/

theorem lookup_filter_ne {location other : Location} (hother : other ≠ location)
    (entries : List (Location × Node)) :
    (entries.filter (·.1 != location)).lookup other = entries.lookup other := by
  induction entries with
  | nil => rfl
  | cons entry entries ih =>
    obtain ⟨place, node⟩ := entry
    by_cases hplace : place = location
    · subst hplace
      have hne : (other == place) = false := beq_false_of_ne hother
      rw [List.filter_cons_of_neg (by simp), ih, List.lookup_cons, hne]
    · rw [List.filter_cons_of_pos (by simpa using hplace), List.lookup_cons, List.lookup_cons, ih]

/-- A text that is put in a place is a file there, and leaves the other places as they are. -/
theorem node?_put (store : Store) {location : Location} (hroot : location ≠ []) (text : String)
    (other : Location) :
    (store.put location text).node? other =
      if other = location then some (.file text.toUTF8) else store.node? other := by
  unfold node? put
  by_cases hother : other = location
  · subst hother
    simp [hroot]
  · have hne : (other == location) = false := beq_false_of_ne hother
    rw [if_neg hother, List.lookup_cons, hne, lookup_filter_ne hother]

@[simp]
theorem node?_pass (store : Store) (device : Device) (text : String) (location : Location) :
    (store.pass device text).node? location = store.node? location := by
  unfold pass
  split <;> rfl

theorem ne_nil_of_isDirectory_eq_false {store : Store} {location : Location}
    (h : store.isDirectory location = false) : location ≠ [] := by
  rintro rfl
  cases h

/-- Only a place that holds no device keeps a text. -/
theorem node?_receive (store : Store) {location : Location}
    (hopen : store.isDirectory location = false) (text : String) (other : Location) :
    (store.receive location text).node? other =
      if other = location ∧ store.device? location = none then some (.file text.toUTF8)
      else store.node? other := by
  unfold receive
  cases store.device? location with
  | some device => simp
  | none => simp [store.node?_put (ne_nil_of_isDirectory_eq_false hopen)]

/-! ## Where paths lead -/

/-- Two stores have their directories and devices in the same places, so that paths lead to the same
places. -/
structure SameLayout (store other : Store) : Prop where
  /-- Paths start at the same place. -/
  workingDirectory : other.workingDirectory = store.workingDirectory
  /-- The directories are the same. -/
  isDirectory : ∀ location, other.isDirectory location = store.isDirectory location
  /-- The devices are the same. -/
  device? : ∀ location, other.device? location = store.device? location

theorem SameLayout.refl (store : Store) : store.SameLayout store where
  workingDirectory := rfl
  isDirectory _ := rfl
  device? _ := rfl

theorem SameLayout.trans {store other third : Store} (h : store.SameLayout other)
    (h' : other.SameLayout third) : store.SameLayout third where
  workingDirectory := h'.workingDirectory.trans h.workingDirectory
  isDirectory location := (h'.isDirectory location).trans (h.isDirectory location)
  device? location := (h'.device? location).trans (h.device? location)

/-- A text that is written to a place that can be opened makes no directory and no device, and takes
none away. -/
theorem sameLayout_receive (store : Store) {location : Location}
    (hopen : store.isDirectory location = false) (text : String) :
    store.SameLayout (store.receive location text) where
  workingDirectory := by
    unfold receive pass put
    split
    · split <;> rfl
    · rfl
  isDirectory other := by
    by_cases hother : other = location ∧ store.device? location = none
    · rw [isDirectory, store.node?_receive hopen, if_pos hother, hother.1, hopen]
    · rw [isDirectory, store.node?_receive hopen, if_neg hother]
      rfl
  device? other := by
    by_cases hother : other = location ∧ store.device? location = none
    · rw [device?, store.node?_receive hopen, if_pos hother, hother.1, hother.2]
    · rw [device?, store.node?_receive hopen, if_neg hother]
      rfl

variable {store other : Store}

theorem SameLayout.walk (h : store.SameLayout other) (start : Location) (names : List String) :
    other.walk start names = store.walk start names := by
  induction names generalizing start with
  | nil => rfl
  | cons name names ih => simp only [Store.walk, h.isDirectory, ih]

theorem SameLayout.open? (h : store.SameLayout other) (path : String) :
    other.open? path = store.open? path := by
  simp only [Store.open?, locate?, h.workingDirectory, h.walk, h.isDirectory]

theorem SameLayout.takes (h : store.SameLayout other) (location : Location) (text : String) :
    other.takes location text = store.takes location text := by
  rw [Store.takes, Store.takes, h.device?]

end Store

/-! ## Where outputs go -/

namespace Output

/-- The place that an output is written to, if it can be written. -/
def place? (output : Output) (store : Store) : Option Location :=
  (output.path.bind store.open?).filter fun location =>
    output.mayBeLost || store.takes location output.text

/-- The place that keeps the text of an output: the place that it is written to, unless that is a
device. -/
def file? (output : Output) (store : Store) : Option Location :=
  (output.place? store).filter fun location => (store.device? location).isNone

variable {store other : Store}

theorem place?_congr (h : store.SameLayout other) (output : Output) :
    output.place? other = output.place? store := by
  have hopen : other.open? = store.open? := funext h.open?
  simp only [place?, hopen, h.takes]

theorem isDirectory_of_place? {output : Output} {location : Location}
    (h : output.place? store = some location) : store.isDirectory location = false := by
  obtain ⟨path, -, hopen⟩ := Option.bind_eq_some_iff.1 (Option.filter_eq_some_iff.1 h).1
  simpa using (Option.filter_eq_some_iff.1 hopen).2

/-- An output is written to its place. -/
theorem write?_eq_map (output : Output) (store : Store) :
    output.write? store =
      (output.place? store).map fun location => store.receive location output.text := by
  unfold write? place?
  rw [← Option.bind_assoc]
  cases output.path.bind store.open? with
  | none => rfl
  | some location =>
    rw [Option.bind_some, Store.fill?_eq]
    by_cases htakes : store.takes location output.text
    · simp [Option.filter_some, htakes]
    · have hlost := Store.receive_of_not_takes htakes
      cases hmay : output.mayBeLost <;> simp [Option.filter_some, htakes, hlost]

end Output

namespace Program

/-- The text of the last output that is kept in a place. -/
def lastText? (store : Store) (outputs : List Output) (location : Location) : Option String :=
  (outputs.filter (·.file? store == some location)).getLast?.map (·.text)

theorem lastText?_cons (store : Store) (output : Output) (outputs : List Output)
    (location : Location) :
    lastText? store (output :: outputs) location =
      (lastText? store outputs location).or
        (if output.file? store = some location then some output.text else none) := by
  unfold lastText?
  by_cases hfile : output.file? store = some location
  · rw [List.filter_cons_of_pos (by simpa using hfile), if_pos hfile, List.getLast?_cons]
    cases (outputs.filter (·.file? store == some location)).getLast? <;> rfl
  · rw [List.filter_cons_of_neg (by simpa using hfile), if_neg hfile, Option.or_none]

/-- The outputs of a row that are written: those before the first one that has no place. -/
def written (store : Store) (outputs : List Output) : List Output :=
  outputs.takeWhile fun output => (output.place? store).isSome

/-- The first output of a row that is not written. -/
def unwritten? (store : Store) (outputs : List Output) : Option Output :=
  outputs.find? fun output => (output.place? store).isNone

/-- Outputs are written up to the first one that has no place in the store as it was at the start.
Each place keeps the last text that was written to it, and the other places stay as they were. -/
theorem writeAll_spec {start store : Store} (h : start.SameLayout store) (outputs : List Output) :
    (writeAll store outputs).2 = (unwritten? start outputs).elim 0 Output.failure ∧
      start.SameLayout (writeAll store outputs).1 ∧
      ∀ location, (writeAll store outputs).1.node? location =
        ((lastText? start (written start outputs) location).map fun text =>
          Node.file text.toUTF8).or (store.node? location) := by
  induction outputs generalizing store with
  | nil => exact ⟨rfl, h, fun _ => rfl⟩
  | cons output outputs ih =>
    rw [writeAll, Output.write?_eq_map, Output.place?_congr h]
    cases hplace : output.place? start with
    | none =>
      have hwritten : written start (output :: outputs) = [] := by simp [written, hplace]
      rw [hwritten]
      refine ⟨by simp [unwritten?, hplace], h, fun _ => rfl⟩
    | some place =>
      have hopen : store.isDirectory place = false := by
        rw [h.isDirectory]
        exact Output.isDirectory_of_place? hplace
      obtain ⟨hdone, hlayout, hnode⟩ := ih (h.trans (store.sameLayout_receive hopen output.text))
      have hwritten : written start (output :: outputs) = output :: written start outputs := by
        simp [written, hplace]
      simp only [Option.map_some]
      refine ⟨by rw [hdone]; simp [unwritten?, hplace], hlayout, fun location => ?_⟩
      -- The last text comes from the outputs behind this one, or else from this one.
      have hfile : (output.file? start = some location) ↔
          (location = place ∧ store.device? place = none) := by
        rw [h.device?, Output.file?, hplace, Option.filter_eq_some_iff, Option.some_inj,
          Option.isNone_iff_eq_none]
        constructor
        · rintro ⟨rfl, hfree⟩
          exact ⟨rfl, hfree⟩
        · rintro ⟨rfl, hfree⟩
          exact ⟨rfl, hfree⟩
      rw [hnode, hwritten, lastText?_cons, store.node?_receive hopen]
      cases lastText? start (written start outputs) location with
      | some text => rfl
      | none =>
        simp only [hfile, Option.none_or, Option.map_none]
        split <;> rfl

end Program

end NameCarry
