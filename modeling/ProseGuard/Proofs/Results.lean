import Mathlib.Data.List.Forall2
import ProseGuard.Run

/-!
# Results of runs

What a run over a list results in, its events aside. Main statements: `result_mapM`, by which the
results of such a run are those of its parts, and `mapM_eq_ok_iff`, which reads a success element by
element. `Related` compares two runs by what they result in, `SameValue` by the value alone: it
lets them fail in different ways.
-/

namespace ProseGuard

namespace Run

variable {α β γ δ : Type}

@[simp] theorem ok_map (f : α → β) (a : α) : (Except.ok a : Except Failure α).map f = .ok (f a) :=
  rfl

@[simp] theorem error_map (f : α → β) (e : Failure) :
    (Except.error e : Except Failure α).map f = .error e :=
  rfl

@[simp] theorem ok_bind (a : α) (f : α → Except Failure β) :
    (Except.ok a : Except Failure α).bind f = f a :=
  rfl

@[simp] theorem error_bind (e : Failure) (f : α → Except Failure β) :
    (Except.error e : Except Failure α).bind f = .error e :=
  rfl

/-- A mapped result is a success exactly where the result is. -/
theorem map_eq_ok_iff {f : α → β} {r : Except Failure α} {b : β} :
    r.map f = .ok b ↔ ∃ a, r = .ok a ∧ f a = b := by
  cases r with
  | error e => simp
  | ok a => simp

/-- A mapped result fails exactly where the result does, and alike. -/
theorem map_eq_error_iff {f : α → β} {r : Except Failure α} {e : Failure} :
    r.map f = .error e ↔ r = .error e := by
  cases r with
  | error e' => simp
  | ok a => simp

/-- A mapped result succeeds exactly where the result does. -/
theorem exists_map_eq_ok_iff {f : α → β} {r : Except Failure α} :
    (∃ b, r.map f = .ok b) ↔ ∃ a, r = .ok a := by
  simp only [map_eq_ok_iff, exists_comm, exists_and_left, exists_eq', and_true]

/-- Runs that go on alike from the value that a run results in are the same. -/
theorem bind_congr {x : Run α} {f g : α → Run β} (h : ∀ a, x.result = .ok a → f a = g a) :
    x >>= f = x >>= g := by
  obtain ⟨events, result⟩ := x
  cases result with
  | error e => rfl
  | ok a =>
      show (⟨events ++ (f a).events, (f a).result⟩ : Run β) = ⟨events ++ (g a).events, (g a).result⟩
      rw [h a rfl]

/-- The result of a run over a list is that of the list of results. -/
theorem result_mapM (f : α → Run β) (as : List α) :
    (as.mapM f).result = as.mapM fun a => (f a).result := by
  induction as with
  | nil => rfl
  | cons a as ih =>
      rw [result_mapM_cons, ih, List.mapM_cons]
      cases (f a).result with
      | error e => rfl
      | ok b => cases as.mapM fun a => (f a).result <;> rfl

/-- A list of results succeeds exactly with the values of its parts. -/
theorem mapM_eq_ok_iff {f : α → Except Failure β} {as : List α} {bs : List β} :
    as.mapM f = .ok bs ↔ List.Forall₂ (fun a b => f a = .ok b) as bs := by
  induction as generalizing bs with
  | nil =>
      rw [List.mapM_nil, List.forall₂_nil_left_iff]
      exact ⟨fun h => (Except.ok.inj h).symm, fun h => h ▸ rfl⟩
  | cons a as ih =>
      rw [List.mapM_cons, List.forall₂_cons_left_iff]
      cases hhead : f a with
      | error e => simp [bind, Except.bind]
      | ok b =>
          cases htail : as.mapM f with
          | error e =>
              have hnone : ∀ u, ¬ List.Forall₂ (fun a b => f a = .ok b) as u :=
                fun u hu => by simp [ih.2 hu] at htail
              simp [bind, Except.bind, hnone]
          | ok rest =>
              have hrest := ih.1 htail
              constructor
              · intro h
                exact ⟨b, rest, rfl, hrest, (Except.ok.inj h).symm⟩
              · rintro ⟨b', rest', hb, hrest', rfl⟩
                cases hb
                cases (ih.2 hrest').symm.trans htail
                rfl

/-- Where every part succeeds, the list does. -/
theorem mapM_eq_ok_map {f : α → Except Failure β} {g : α → β} {as : List α}
    (h : ∀ a ∈ as, f a = .ok (g a)) : as.mapM f = .ok (as.map g) := by
  rw [mapM_eq_ok_iff, List.forall₂_map_right_iff, List.forall₂_same]
  exact h

/-- A list that succeeds has as many values as parts. -/
theorem length_eq_of_mapM {f : α → Except Failure β} {as : List α} {bs : List β}
    (h : as.mapM f = .ok bs) : as.length = bs.length :=
  (mapM_eq_ok_iff.1 h).length_eq

/-- The value at a place of a list that succeeds is the result of the part there. -/
theorem eq_ok_of_mapM {f : α → Except Failure β} {as : List α} {bs : List β}
    (h : as.mapM f = .ok bs) {i : Nat} {a : α} {b : β} (ha : as[i]? = some a)
    (hb : bs[i]? = some b) : f a = .ok b := by
  obtain ⟨hi, rfl⟩ := List.getElem?_eq_some_iff.1 ha
  obtain ⟨hj, rfl⟩ := List.getElem?_eq_some_iff.1 hb
  exact (mapM_eq_ok_iff.1 h).get hi hj

/-- A list of results fails with the failure of one of its parts. -/
theorem exists_of_mapM_eq_error {f : α → Except Failure β} {as : List α} {e : Failure}
    (h : as.mapM f = .error e) : ∃ a ∈ as, f a = .error e := by
  induction as with
  | nil => exact nomatch h
  | cons a as ih =>
      rw [List.mapM_cons] at h
      cases hhead : f a with
      | error e' =>
          rw [hhead] at h
          exact ⟨a, List.mem_cons_self, by rw [hhead, Except.error.inj h]⟩
      | ok b =>
          cases htail : as.mapM f with
          | ok rest => simp [hhead, htail, bind, Except.bind, pure, Except.pure] at h
          | error e' =>
              simp only [hhead, htail, bind, Except.bind, Except.error.injEq] at h
              obtain ⟨a', hmem, hfail⟩ := ih (h ▸ htail)
              exact ⟨a', List.mem_cons_of_mem _ hmem, hfail⟩

/-- A list of results succeeds exactly where all its parts do. -/
theorem exists_mapM_eq_ok_iff {f : α → Except Failure β} {as : List α} :
    (∃ bs, as.mapM f = .ok bs) ↔ ∀ a ∈ as, ∃ b, f a = .ok b := by
  constructor
  · rintro ⟨bs, h⟩ a ha
    obtain ⟨i, hi, rfl⟩ := List.getElem_of_mem ha
    have hplace : i < bs.length := length_eq_of_mapM h ▸ hi
    exact ⟨bs[i], eq_ok_of_mapM h (List.getElem?_eq_getElem hi) (List.getElem?_eq_getElem hplace)⟩
  · intro h
    cases hall : as.mapM f with
    | ok bs => exact ⟨bs, rfl⟩
    | error e =>
        obtain ⟨a, ha, hfail⟩ := exists_of_mapM_eq_error hall
        obtain ⟨b, hb⟩ := h a ha
        exact nomatch hfail.symm.trans hb

/-- A list of options is complete exactly with the values of its parts. -/
theorem mapM_eq_some_iff {f : α → Option β} {as : List α} {bs : List β} :
    as.mapM f = some bs ↔ List.Forall₂ (fun a b => f a = some b) as bs := by
  induction as generalizing bs with
  | nil => simp [eq_comm]
  | cons a as ih =>
      simp only [List.mapM_cons, Option.bind_eq_bind, Option.bind_eq_some_iff, Option.pure_def,
        Option.some.injEq, List.forall₂_cons_left_iff, ih]
      constructor
      · rintro ⟨b, hb, rest, hrest, rfl⟩
        exact ⟨b, rest, hb, hrest, rfl⟩
      · rintro ⟨b, rest, hb, hrest, rfl⟩
        exact ⟨b, hb, rest, hrest, rfl⟩

/-- What is done to every value that a list of options has can be done to the list. -/
theorem mapM_option_map (f : α → Option β) (g : β → γ) (as : List α) :
    (as.mapM fun a => (f a).map g) = (as.mapM f).map (List.map g) := by
  induction as with
  | nil => rfl
  | cons a as ih =>
      rw [List.mapM_cons, List.mapM_cons, ih]
      cases f a with
      | none => rfl
      | some b => cases as.mapM f <;> rfl

/-- What stands on the right of a pointwise relation is related to something on its left. -/
theorem exists_of_mem_right {R : α → β → Prop} {as : List α} {bs : List β}
    (h : List.Forall₂ R as bs) {b : β} (hb : b ∈ bs) : ∃ a ∈ as, R a b := by
  obtain ⟨i, hi, rfl⟩ := List.getElem_of_mem hb
  have hplace : i < as.length := h.length_eq ▸ hi
  exact ⟨as[i], List.getElem_mem hplace, h.get hplace hi⟩

/-- Two runs that fail alike, or that result in related values. -/
def Related (R : α → β → Prop) (x : Run α) (y : Run β) : Prop :=
  (∃ a b, x.result = .ok a ∧ y.result = .ok b ∧ R a b) ∨
    ∃ e, x.result = .error e ∧ y.result = .error e

namespace Related

variable {R : α → β → Prop} {S : γ → δ → Prop} {x : Run α} {y : Run β}

/-- A run is related to itself by a relation that every value has to itself. -/
theorem refl {R : α → α → Prop} (hR : ∀ a, R a a) (x : Run α) : Related R x x := by
  cases h : x.result with
  | ok a => exact .inl ⟨a, a, h, h, hR a⟩
  | error e => exact .inr ⟨e, h, h⟩

/-- Runs that go on from related runs in related ways are related. -/
theorem bind (h : Related R x y) {f : α → Run γ} {g : β → Run δ}
    (hnext : ∀ a b, R a b → Related S (f a) (g b)) : Related S (x >>= f) (y >>= g) := by
  rcases h with ⟨a, b, hx, hy, hab⟩ | ⟨e, hx, hy⟩
  · simpa [Related, hx, hy] using hnext a b hab
  · exact .inr ⟨e, by simp [hx], by simp [hy]⟩

/-- Runs over one list that are related at each element result in lists related pointwise. -/
theorem mapM {ε : Type} {f : ε → Run α} {g : ε → Run β} {as : List ε}
    (h : ∀ a ∈ as, Related R (f a) (g a)) :
    Related (List.Forall₂ R) (as.mapM f) (as.mapM g) := by
  induction as with
  | nil => exact .inl ⟨[], [], rfl, rfl, .nil⟩
  | cons a as ih =>
      rw [List.mapM_cons, List.mapM_cons]
      refine (h a List.mem_cons_self).bind fun b c hbc => ?_
      refine (ih fun a' ha' => h a' (List.mem_cons_of_mem _ ha')).bind fun bs cs hs => ?_
      exact .inl ⟨b :: bs, c :: cs, rfl, rfl, .cons hbc hs⟩

end Related

/-- Two runs that result in the same value, or that both fail. -/
def SameValue (x y : Run α) : Prop :=
  ∀ a, x.result = .ok a ↔ y.result = .ok a

namespace SameValue

variable {x y : Run α}

theorem refl (x : Run α) : SameValue x x :=
  fun _ => Iff.rfl

/-- Runs that go on in the same way have the same value. -/
theorem bind (h : SameValue x y) {f g : α → Run β} (hnext : ∀ a, SameValue (f a) (g a)) :
    SameValue (x >>= f) (y >>= g) := by
  intro b
  have hstep : ∀ {z : Run α} {k : α → Run β},
      (z >>= k).result = .ok b ↔ ∃ a, z.result = .ok a ∧ (k a).result = .ok b := by
    intro z k
    rw [result_bind]
    cases z.result with
    | error e => simp
    | ok a => simp
  rw [hstep, hstep]
  exact exists_congr fun a => and_congr (h a) (hnext a b)

/-- Runs over one list that have the same value at each element have the same values. -/
theorem mapM {f g : γ → Run α} {cs : List γ} (h : ∀ c ∈ cs, SameValue (f c) (g c)) :
    SameValue (cs.mapM f) (cs.mapM g) := by
  induction cs with
  | nil => exact .refl _
  | cons c cs ih =>
      rw [List.mapM_cons, List.mapM_cons]
      refine (h c List.mem_cons_self).bind fun a => ?_
      exact (ih fun d hd => h d (List.mem_cons_of_mem _ hd)).bind fun _ => .refl _

end SameValue

end Run

end ProseGuard
