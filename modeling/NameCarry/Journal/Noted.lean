import NameCarry.Journal.Event

/-!
# Noted values

A computation that says what it does returns its value together with the events on the way. Values
are never read off the events: `Noted.value_bind` and `Noted.value_foldl` say that the value of a
compound computation depends on the values of its parts alone.
-/

namespace NameCarry

/-- A value with the events that led to it, in order. -/
structure Noted (α : Type) where
  /-- The value. -/
  value : α
  /-- What happened on the way. -/
  events : Array Event := #[]

namespace Noted

variable {α β σ : Type}

instance : Monad Noted where
  pure value := { value }
  bind
    | ⟨value, events⟩, f =>
      let next := f value
      { value := next.value, events := events ++ next.events }

/-- Notes one event. -/
def note (event : Event) : Noted Unit :=
  { value := (), events := #[event] }

/-- Takes one step after the other through `items`. -/
def foldl (step : σ → α → Noted σ) (start : σ) (items : List α) : Noted σ :=
  items.foldl (fun sofar item => sofar >>= fun state => step state item) (pure start)

@[simp]
theorem value_pure (a : α) : (pure a : Noted α).value = a :=
  rfl

@[simp]
theorem events_pure (a : α) : (pure a : Noted α).events = #[] :=
  rfl

@[simp]
theorem value_bind (a : Noted α) (f : α → Noted β) : (a >>= f).value = (f a.value).value :=
  rfl

@[simp]
theorem events_bind (a : Noted α) (f : α → Noted β) :
    (a >>= f).events = a.events ++ (f a.value).events :=
  rfl

@[simp]
theorem value_map (f : α → β) (a : Noted α) : (f <$> a).value = f a.value :=
  rfl

theorem ext_of {a b : Noted α} (hvalue : a.value = b.value) (hevents : a.events = b.events) :
    a = b := by
  cases a
  cases b
  subst hvalue hevents
  rfl

instance : LawfulMonad Noted :=
  .mk' Noted (fun _ => ext_of rfl (by simp [Functor.map]))
    (fun _ _ => ext_of rfl (by simp))
    (fun _ _ _ => ext_of rfl (by simp [Array.append_assoc]))

/-- A walk through a list arrives where the walk without notes arrives. -/
@[simp]
theorem value_foldl (step : σ → α → Noted σ) (start : σ) (items : List α) :
    (foldl step start items).value = items.foldl (fun s a => (step s a).value) start := by
  suffices ∀ sofar : Noted σ,
      (items.foldl (fun sofar item => sofar >>= fun s => step s item) sofar).value =
        items.foldl (fun s a => (step s a).value) sofar.value from this (pure start)
  induction items with
  | nil => intro sofar; rfl
  | cons item items ih => intro sofar; simp [ih]

end Noted

end NameCarry
