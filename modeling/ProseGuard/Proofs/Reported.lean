import ProseGuard.Proofs.Results
import ProseGuard.Record.Checked

/-!
# Reported results

A failure is reported if it is a problem, which is told to the user, and not a fault, which ends the
run. Main statements: `reported_bind_iff`, by which a composed computation reports exactly where its
parts do, and `Reported.mapM`. `not_reported_fault` is what the others are held against.
-/

namespace ProseGuard

open Record (Checked Issue)

/-- A value, or a problem of the sort that `sort` makes of what is wrong. -/
inductive Reported {κ α : Type} (sort : κ → Problem) : Except Failure α → Prop where
  | value (a : α) : Reported sort (.ok a)
  | told (wrong : κ) : Reported sort (.error (.problem (sort wrong)))

variable {κ α β : Type} {sort : κ → Problem}

/-- A fault is not reported. -/
@[simp] theorem not_reported_fault (fault : Fault) :
    ¬ Reported sort (.error (.fault fault) : Except Failure α) := by
  rintro ⟨⟩

/-- A problem is reported if it is of the sort. -/
theorem Reported.of_sort {wrong : κ} {problem : Problem} (h : sort wrong = problem) :
    Reported sort (.error (.problem problem) : Except Failure α) :=
  h ▸ .told wrong

/-- A composed computation reports exactly where its first part does and the second one does on the
value of the first. -/
theorem reported_bind_iff {r : Except Failure α} {f : α → Except Failure β} :
    Reported sort (r >>= f) ↔ Reported sort r ∧ ∀ a, r = .ok a → Reported sort (f a) := by
  cases r with
  | ok a =>
      refine ⟨fun h => ⟨.value a, fun b hb => ?_⟩, fun h => h.2 a rfl⟩
      obtain rfl : a = b := Except.ok.inj hb
      exact h
  | error failure =>
      refine ⟨fun h => ⟨?_, fun a ha => nomatch ha⟩, fun ⟨h, _⟩ => ?_⟩
      · cases h
        exact .told _
      · cases h
        exact .told _

/-- Where each part of a list reports, the list does. -/
theorem Reported.mapM {f : α → Except Failure β} {as : List α}
    (h : ∀ a ∈ as, Reported sort (f a)) : Reported sort (as.mapM f) := by
  cases hall : as.mapM f with
  | ok bs => exact .value bs
  | error failure =>
      obtain ⟨a, ha, hfail⟩ := Run.exists_of_mapM_eq_error hall
      have hreported := h a ha
      rw [hfail] at hreported
      cases hreported
      exact .told _

/-! ## Checked values -/

/-- A checked value is a success exactly if it is valid. -/
theorem orElse_eq_ok_iff {ε : Type} {x : Checked α} {fail : List Issue → ε} {a : α} :
    x.orElse fail = .ok a ↔ x = .valid a := by
  cases x <;> simp [Checked.orElse]

/-- Checked values of a list are a success exactly if each is valid. -/
theorem mapM_orElse_eq_ok_iff {read : β → Checked α} {fail : List Issue → Failure}
    {bs : List β} {as : List α} :
    (bs.mapM fun b => (read b).orElse fail) = .ok as ↔ bs.map read = as.map .valid := by
  rw [Run.mapM_eq_ok_iff, ← List.forall₂_eq_eq_eq, List.forall₂_map_left_iff,
    List.forall₂_map_right_iff]
  simp only [orElse_eq_ok_iff]

/-- A checked value is reported if its issues are. -/
theorem reported_orElse (x : Checked α) {fail : List Issue → Problem}
    (h : ∀ issues, ∃ wrong, sort wrong = fail issues) :
    Reported sort (x.orElse fun issues => .problem (fail issues)) := by
  cases x with
  | valid a => exact .value a
  | invalid issues =>
      obtain ⟨wrong, hwrong⟩ := h issues
      exact .of_sort hwrong

end ProseGuard
