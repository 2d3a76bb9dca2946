import NameCarry.Carry
import NameCarry.Link

/-!
# What attempts come to

An attempt can break off anywhere, and nothing but its text says what it has done to the state by
then. The attempts by which inputs are read do nothing before the last point at which they can break
off: on each of the ways to a fault the state is left as it was, and nothing is noted
(`Attempt.ComesTo`). So a reading by attempts is the reading of a `LineReader`
(`Attempt.readText_eq`), and the lines that it refuses leave no trace but the report.
-/

namespace NameCarry

/-! ## Results with faults -/

section Results

variable {ε δ α β : Type}

theorem bind_eq_ok_iff {result : Except ε α} {f : α → Except ε β} {b : β} :
    (result >>= f) = .ok b ↔ ∃ a, result = .ok a ∧ f a = .ok b := by
  cases result <;> simp [bind, Except.bind]

theorem map_eq_ok_iff {result : Except ε α} {f : α → β} {b : β} :
    result.map f = .ok b ↔ ∃ a, result = .ok a ∧ f a = b := by
  cases result <;> simp [Except.map]

@[simp]
theorem mapError_ok (f : ε → δ) (a : α) : (.ok a : Except ε α).mapError f = .ok a :=
  rfl

@[simp]
theorem mapError_error (f : ε → δ) (e : ε) : (.error e : Except ε α).mapError f = .error (f e) :=
  rfl

/-- A fault put in other words is still a fault. -/
theorem mapError_eq_ok_iff {result : Except ε α} {f : ε → δ} {a : α} :
    result.mapError f = .ok a ↔ result = .ok a := by
  cases result <;> simp

end Results

namespace Attempt

variable {σ α β : Type}

/-! ## Carrying out an attempt -/

/-- The second part of an attempt is carried out on the state that the first part leaves, unless
that one broke off. -/
theorem on_bind (attempt : Attempt σ α) (f : α → Attempt σ β) (state : σ) :
    (attempt >>= f).on state = (do
      let (result, state) ← attempt.on state
      match result with
      | .ok a => (f a).on state
      | .error fault => pure (.error fault, state)) := by
  unfold on
  rw [ExceptT.run_bind, StateT.run_bind]
  congr 1
  funext ⟨result, state⟩
  cases result <;> rfl

@[simp]
theorem on_get (state : σ) : (get : Attempt σ σ).on state = pure (.ok state, state) :=
  rfl

@[simp]
theorem on_set (next state : σ) : (set next : Attempt σ Unit).on state = pure (.ok (), next) :=
  rfl

/-- A result that was found without touching the state. -/
@[simp]
theorem on_result (result : Except Fault α) (state : σ) :
    (liftM result : Attempt σ α).on state = pure (result, state) :=
  rfl

@[simp]
theorem on_noted (noted : Noted α) (state : σ) :
    (liftM noted : Attempt σ α).on state = (fun a => (.ok a, state)) <$> noted :=
  rfl

/-! ## Attempts that leave nothing behind when they fail -/

/-- What is left of a state by a result: what the state moved to, or else the state itself. -/
def settle (result : Except Fault (Noted σ)) (state : σ) : Noted (Except Fault Unit × σ) :=
  match result with
  | .ok moved => (fun moved => (.ok (), moved)) <$> moved
  | .error fault => pure (.error fault, state)

/-- Attempts at lines do what a line reader says, and leave no trace of a line that it refuses. -/
def ComesTo (attempt : String → Attempt σ Unit) (reader : LineReader σ) : Prop :=
  ∀ state line, (attempt line).on state = settle (reader state line) state

section ComesTo

variable {attempt : String → Attempt σ Unit} {reader : LineReader σ} (h : ComesTo attempt reader)

include h

/-- A line that fails leaves the state as it was, and nothing is noted on the way. -/
theorem ComesTo.untouched {state : σ} {line : String} {fault : Fault}
    (hfault : ((attempt line).on state).value.1 = .error fault) :
    (attempt line).on state = pure (.error fault, state) := by
  rw [h state line] at hfault ⊢
  cases hread : reader state line with
  | ok moved =>
    rw [hread] at hfault
    cases hfault
  | error fault' =>
    rw [hread] at hfault
    cases hfault
    rfl

theorem ComesTo.step (pass : Pass σ) (line : Nat × String) :
    step attempt pass line = pass.step reader line := by
  obtain ⟨state, accepted, report⟩ := pass
  unfold Attempt.step Pass.step
  rw [h state line.2]
  cases hread : reader state line.2 with
  | ok moved => simp only [hread, settle, bind_map_left]
  | error fault => simp only [hread, settle, pure_bind]

/-- A reading by attempts is the reading of the line reader that they come to. -/
theorem readText_eq (start : σ) (report : Report) (text : String) :
    readText attempt start report text = reader.readText start report text := by
  have hstep : Attempt.step attempt = Pass.step reader := by
    funext pass line
    exact h.step pass line
  rw [readText, LineReader.readText, hstep]

end ComesTo

/-! ## Links -/

theorem on_linkClass (obfuscated community : String) (registry : Registry) :
    (linkClass obfuscated community).on registry =
      settle ((registry.linkClass obfuscated community).map pure) registry := by
  unfold linkClass Registry.linkClass
  simp only [on_bind, on_get, pure_bind]
  cases registry.byObfuscated[obfuscated]? <;> rfl

theorem on_linkClassLine (line : String) (registry : Registry) :
    (linkClassLine line).on registry =
      settle ((registry.linkClassLine line).map pure) registry := by
  unfold linkClassLine Registry.linkClassLine ClassLink.read
  split
  · exact on_linkClass _ _ registry
  · rfl

theorem on_linkField (owner obfuscated community : String) (registry : Registry) :
    (linkField owner obfuscated community).on registry =
      settle ((registry.linkMember (.field (Text.dotted owner) obfuscated community)).map pure)
        registry := by
  unfold linkField Registry.linkMember Registry.resolve Registry.resolveField
  simp only [on_bind, on_get, pure_bind, on_result]
  cases registry.ownerOf (Text.dotted owner) with
  | error fault => rfl
  | ok found =>
    obtain ⟨number, cls⟩ := found
    simp only [bind, Except.bind]
    cases cls.fields.findIdx? (·.obfuscated == obfuscated) <;> rfl

/-- A search among the elements that are left of a list, each with its number. -/
theorem find?_filter_zipIdx (p q : α → Bool) (xs : List α) :
    (xs.zipIdx.filter fun entry => p entry.1).find? (fun entry => q entry.1) =
      (xs.find? fun x => p x && q x).map fun x => (x, xs.findIdx fun x => p x && q x) := by
  let fits x := p x && q x
  have hfilter : (xs.zipIdx.filter fun entry => p entry.1).find? (fun entry => q entry.1) =
      xs.zipIdx.find? fun entry => fits entry.1 := by
    rw [List.find?_filter]
    simp only [fits, Bool.decide_and, Bool.decide_eq_true]
  have hfound : xs.find? fits = (xs.zipIdx.find? fun entry => fits entry.1).map (·.1) := by
    have hmap := List.find?_map (p := fits) (f := Prod.fst) (l := xs.zipIdx)
    rwa [List.zipIdx_map_fst] at hmap
  have hnumber : xs.findIdx? fits = (xs.zipIdx.find? fun entry => fits entry.1).map (·.2) :=
    List.findIdx?_eq_fst_find?_zipIdx
  rw [hfilter, hfound]
  cases hfind : xs.zipIdx.find? fun entry => fits entry.1 with
  | none => rfl
  | some entry =>
    rw [hfind] at hnumber
    obtain ⟨-, hidx⟩ := List.findIdx?_eq_some_iff_findIdx_eq.1 hnumber
    rw [Option.map_some, Option.map_some, hidx]

/-- Numbers make no difference to whether anything is left of a list. -/
theorem isEmpty_filter_zipIdx (p : α → Bool) (xs : List α) :
    (xs.zipIdx.filter fun entry => p entry.1).isEmpty = !xs.any p := by
  have hleft : (∀ entry ∈ xs.zipIdx, ¬ p entry.1 = true) ↔ ∀ x ∈ xs, ¬ p x = true := by
    rw [← List.forall_mem_map (f := Prod.fst) (P := fun x => ¬ p x = true), List.zipIdx_map_fst]
  rw [Bool.eq_iff_iff, List.isEmpty_iff, List.filter_eq_nil_iff, hleft, Bool.not_eq_true',
    List.any_eq_false]

theorem on_linkMethod (owner obfuscated descriptor community : String) (registry : Registry) :
    (linkMethod owner obfuscated descriptor community).on registry =
      settle ((registry.linkMember
        (.method (Text.dotted owner) obfuscated descriptor community)).map pure) registry := by
  unfold linkMethod Registry.linkMember Registry.resolve Registry.resolveMethod
  simp only [on_bind, on_get, pure_bind, on_result]
  cases (Signature.read descriptor).mapError Fault.invalidDescriptor with
  | error fault => rfl
  | ok signature =>
    simp only [bind, Except.bind]
    cases registry.ownerOf (Text.dotted owner) with
    | error fault => rfl
    | ok found =>
      obtain ⟨number, cls⟩ := found
      have hnamed := isEmpty_filter_zipIdx (·.obfuscated == obfuscated) cls.methods
      have hfound := find?_filter_zipIdx (·.obfuscated == obfuscated)
        (·.params == signature.params.map registry.toHumanType) cls.methods
      dsimp only [Registry.toHumanSignature]
      rw [hnamed, hfound]
      -- One case for each fault of the method itself, in the order in which they are met.
      cases cls.methods.any (·.obfuscated == obfuscated) with
      | false => rfl
      | true =>
        cases cls.methods.find? fun method => method.obfuscated == obfuscated &&
            method.params == signature.params.map registry.toHumanType with
        | none => rfl
        | some method =>
          cases htype : method.type == some (registry.toHumanType signature.result) with
          | false =>
            simp only [bne, htype, Option.map_some]
            rfl
          | true =>
            simp only [bne, htype, Option.map_some]
            rfl

theorem on_linkMemberLine (line : String) (registry : Registry) :
    (linkMemberLine line).on registry =
      settle ((registry.linkMemberLine line).map pure) registry := by
  unfold linkMemberLine Registry.linkMemberLine MemberLink.read
  split
  · exact on_linkField _ _ _ registry
  · exact on_linkMethod _ _ _ _ registry
  · rfl

/-! ## Lines of a mapping -/

theorem on_addMember (shape : LineShape) (add : OpenClass → σ → Noted (OpenClass × σ))
    (loading : Loading σ) :
    (addMember shape add).on loading = settle (loading.addMember shape add) loading := by
  unfold addMember Loading.addMember
  simp only [on_bind, on_get, pure_bind]
  cases loading.scope with
  | outside => rfl
  | dropped => rfl
  | inside current =>
    simp only [on_bind, on_noted, on_set, settle, map_eq_pure_bind, bind_assoc, pure_bind]

theorem loadLine_comesTo (label : String) (annotator : Annotator σ) :
    ComesTo (loadLine label annotator) (Loading.reader label annotator) := by
  intro loading line
  unfold loadLine Loading.reader
  simp only [on_bind, on_result, pure_bind]
  cases Declaration.read line with
  | error fault => rfl
  | ok declaration =>
    cases declaration with
    | header human obfuscated =>
      simp only [mapError_ok, Loading.declare]
      split
      · rfl
      · simp only [on_bind, on_get, on_noted, on_set, settle, map_eq_pure_bind, bind_assoc,
          pure_bind]
    | field type human obfuscated => exact on_addMember _ _ loading
    | method result human params obfuscated => exact on_addMember _ _ loading

end Attempt

/-! ## Readings -/

namespace Registry

/-- What the lines of class links come to. -/
def classReader : LineReader Registry :=
  fun registry line => (registry.linkClassLine line).map pure

/-- What the lines of member links come to. -/
def memberReader : LineReader Registry :=
  fun registry line => (registry.linkMemberLine line).map pure

theorem linkClassLine_comesTo : Attempt.ComesTo Attempt.linkClassLine classReader :=
  fun registry line => Attempt.on_linkClassLine line registry

theorem linkMemberLine_comesTo : Attempt.ComesTo Attempt.linkMemberLine memberReader :=
  fun registry line => Attempt.on_linkMemberLine line registry

theorem linkClasses_eq_readText (registry : Registry) (report : Report) (text : String) :
    registry.linkClasses report text = classReader.readText registry report text :=
  Attempt.readText_eq linkClassLine_comesTo registry report text

theorem linkMembers_eq_readText (registry : Registry) (report : Report) (text : String) :
    registry.linkMembers report text = memberReader.readText registry report text :=
  Attempt.readText_eq linkMemberLine_comesTo registry report text

/-- An anchor is linked to its own name and counted, or else noted as missing. -/
theorem anchor_eq (linked : Registry × Nat) (name : String) :
    anchor linked name =
      match linked.1.linkClass name name with
      | .ok registry => pure (registry, linked.2 + 1)
      | .error fault => do
        Noted.note (.anchorMissing name fault)
        return linked := by
  unfold anchor
  rw [Attempt.on_linkClass]
  cases linked.1.linkClass name name <;> rfl

end Registry

theorem loadMapping_eq_readText (label : String) (report : Report) (text : String) :
    loadMapping label report text = (do
      let pass ← (Loading.reader label Annotator.none).readText { state := () } report text
      return (pass.state.classes, pass.report)) := by
  rw [loadMapping, Attempt.readText_eq (Attempt.loadLine_comesTo label Annotator.none)]

theorem loadCarried_eq_readText (old : Registry) (label : String) (report : Report)
    (text : String) :
    loadCarried old label report text = (do
      let pass ← (Loading.reader label old.carrier).readText { state := {} } report text
      return (pass.state.classes, pass.state.state, pass.report)) := by
  rw [loadCarried, Attempt.readText_eq (Attempt.loadLine_comesTo label old.carrier)]

end NameCarry
