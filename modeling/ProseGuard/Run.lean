import ProseGuard.Failure
import ProseGuard.Log

/-!
# Runs

A computation that reports events and may fail. The events up to a failure are kept.
Main statements: `Run` is a lawful monad, and `result_bind`, `result_mapM_cons` and their
companions say what a composed run results in whatever its events are.
-/

namespace ProseGuard

/-- The events of a computation and what it came to. -/
structure Run (α : Type) where
  events : List Event
  result : Except Failure α

namespace Run

variable {α β : Type}

@[ext] theorem ext {x y : Run α} (he : x.events = y.events) (hr : x.result = y.result) :
    x = y := by
  cases x; cases y; simp_all

/-- Goes on with the value of a run, its events first. -/
def andThen (x : Run α) (f : α → Run β) : Run β :=
  match x.result with
  | .ok a => ⟨x.events ++ (f a).events, (f a).result⟩
  | .error e => ⟨x.events, .error e⟩

instance : Monad Run where
  pure a := ⟨[], .ok a⟩
  bind := andThen

/-- Reports one event. -/
def report (event : Event) : Run Unit := ⟨[event], .ok ()⟩

/-- Fails without an event. -/
def fail (failure : Failure) : Run α := ⟨[], .error failure⟩

/-- A result without events. -/
def ofResult (result : Except Failure α) : Run α := ⟨[], result⟩

@[simp] theorem events_pure (a : α) : (pure a : Run α).events = [] := rfl

@[simp] theorem result_pure (a : α) : (pure a : Run α).result = .ok a := rfl

@[simp] theorem result_report (event : Event) : (report event).result = .ok () := rfl

@[simp] theorem result_fail (failure : Failure) : (fail failure : Run α).result = .error failure :=
  rfl

@[simp] theorem result_ofResult (result : Except Failure α) : (ofResult result).result = result :=
  rfl

/-- A composed run results in what its second part makes of the first. -/
@[simp] theorem result_bind (x : Run α) (f : α → Run β) :
    (x >>= f).result = x.result.bind fun a => (f a).result := by
  simp only [bind, andThen]
  cases x.result <;> rfl

private theorem id_map_run (x : Run α) : id <$> x = x := by
  cases x with
  | mk events result => cases result <;> simp [Functor.map, andThen]

private theorem pure_bind_run (a : α) (f : α → Run β) : pure a >>= f = f a := by
  ext1 <;> simp [bind, pure, andThen]

private theorem bind_assoc_run {γ : Type} (x : Run α) (f : α → Run β) (g : β → Run γ) :
    x >>= f >>= g = x >>= fun a => f a >>= g := by
  cases x with
  | mk events result =>
    cases result with
    | error e => rfl
    | ok a =>
      simp only [bind, andThen]
      cases (f a).result <;> simp

instance : LawfulMonad Run := .mk' Run id_map_run pure_bind_run bind_assoc_run

@[simp] theorem result_map (f : α → β) (x : Run α) : (f <$> x).result = x.result.map f := by
  rw [← bind_pure_comp, result_bind]
  cases x.result <;> rfl

/-- Running over a list results in the results, as far as none fails. -/
@[simp] theorem result_mapM_cons (f : α → Run β) (a : α) (as : List α) :
    ((a :: as).mapM f).result =
      (f a).result.bind fun b => (as.mapM f).result.map (b :: ·) := by
  simp [List.mapM_cons]

@[simp] theorem result_mapM_nil (f : α → Run β) : (([] : List α).mapM f).result = .ok [] := by
  simp

end Run

end ProseGuard
