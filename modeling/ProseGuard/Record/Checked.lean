import ProseGuard.Record.Issue

/-!
# Checked values

The outcome of reading a record: a value, or every issue met. Two outcomes combine by putting
their issues one after the other, so a record is read field by field and nothing is missed.
Main statement: `Checked.each_eq_valid_iff`, by which a list is valid exactly when every item is.
-/

namespace ProseGuard.Record

/-- A value, or what is wrong with it. -/
inductive Checked (α : Type) where
  | valid (value : α)
  | invalid (issues : List Issue)

namespace Checked

variable {α β : Type}

/-- Applies a checked function, the issues of both sides kept in order. -/
def apply (f : Checked (α → β)) (x : Unit → Checked α) : Checked β :=
  match f, x () with
  | valid f, valid a => valid (f a)
  | valid _, invalid issues => invalid issues
  | invalid issues, valid _ => invalid issues
  | invalid issues, invalid more => invalid (issues ++ more)

instance : Applicative Checked where
  pure := valid
  seq := apply

/-- A single flaw of the value itself. -/
def flawed (flaw : Flaw) : Checked α :=
  invalid [⟨[], flaw⟩]

/-- The outcome seen from one level further out. -/
def under (step : Step) : Checked α → Checked α
  | valid value => valid value
  | invalid issues => invalid (issues.map (Issue.under step))

/-- The value as the success of an exception. -/
def orElse {ε : Type} (fail : List Issue → ε) : Checked α → Except ε α
  | valid value => .ok value
  | invalid issues => .error (fail issues)

/-- Reads every item of a list, the first at position `start`. -/
def eachFrom (read : β → Checked α) (start : Nat) : List β → Checked (List α)
  | [] => valid []
  | item :: items =>
    List.cons <$> (read item).under (.index start) <*> eachFrom read (start + 1) items

/-- Reads every item of a list. -/
def each (read : β → Checked α) (items : List β) : Checked (List α) :=
  eachFrom read 0 items

@[simp] theorem map_valid (f : α → β) (a : α) : f <$> valid a = valid (f a) := rfl

@[simp] theorem map_invalid (f : α → β) (issues : List Issue) :
    f <$> (invalid issues : Checked α) = invalid issues := rfl

@[simp] theorem pure_eq_valid (a : α) : (pure a : Checked α) = valid a := rfl

@[simp] theorem valid_seq_valid (f : α → β) (a : α) : valid f <*> valid a = valid (f a) := rfl

@[simp] theorem valid_seq_invalid (f : α → β) (issues : List Issue) :
    valid f <*> (invalid issues : Checked α) = invalid issues := rfl

@[simp] theorem invalid_seq_valid (issues : List Issue) (a : α) :
    (invalid issues : Checked (α → β)) <*> valid a = invalid issues := rfl

@[simp] theorem invalid_seq_invalid (issues more : List Issue) :
    (invalid issues : Checked (α → β)) <*> (invalid more : Checked α) =
      invalid (issues ++ more) := rfl

@[simp] theorem under_valid (step : Step) (a : α) : (valid a).under step = valid a := rfl

theorem under_eq_valid_iff {step : Step} {x : Checked α} {a : α} :
    x.under step = valid a ↔ x = valid a := by
  cases x <;> simp [under]

/-- An applied function is valid exactly when both sides are. -/
theorem seq_eq_valid_iff {f : Checked (α → β)} {x : Checked α} {b : β} :
    f <*> x = valid b ↔ ∃ g a, f = valid g ∧ x = valid a ∧ g a = b := by
  cases f <;> cases x <;> simp

theorem map_eq_valid_iff {f : α → β} {x : Checked α} {b : β} :
    f <$> x = valid b ↔ ∃ a, x = valid a ∧ f a = b := by
  cases x <;> simp

theorem eachFrom_eq_valid_iff {read : β → Checked α} {start : Nat} {items : List β}
    {values : List α} :
    eachFrom read start items = valid values ↔ items.map read = values.map valid := by
  induction items generalizing start values with
  | nil => cases values <;> simp [eachFrom]
  | cons item items ih =>
    simp only [eachFrom, seq_eq_valid_iff, map_eq_valid_iff, under_eq_valid_iff, List.map_cons]
    cases values with
    | nil =>
      simp only [List.map_nil, reduceCtorEq, iff_false]
      rintro ⟨_, _, ⟨_, _, rfl⟩, _, h⟩
      cases h
    | cons value values =>
      constructor
      · rintro ⟨_, rest, ⟨first, hfirst, rfl⟩, hrest, h⟩
        cases h
        simp [hfirst, ih.1 hrest]
      · intro h
        simp only [List.map_cons, List.cons.injEq] at h
        exact ⟨_, values, ⟨value, h.1, rfl⟩, ih.2 h.2, rfl⟩

/-- A list is valid exactly when every item is. -/
theorem each_eq_valid_iff {read : β → Checked α} {items : List β} {values : List α} :
    each read items = valid values ↔ items.map read = values.map valid :=
  eachFrom_eq_valid_iff

end Checked

end ProseGuard.Record
