import Mathlib.Data.List.Nodup
import ProseGuard.Program.Hierarchy

/-!
# Adding types

What a program knows after types were added to it one by one. Each name keeps the place at which it
was added first (`names_foldl_add`) and stands for the type of that name that was added last
(`find?_foldl_add`); a name that none of them bears stands for what it did before. So the order in
which types of distinct names are added does not matter to any name (`find?_foldl_add_of_perm`).
-/

namespace ProseGuard.Program

variable {p : Program} {t : TypeDecl} {ts us : List TypeDecl} {name : Text}

/-! ## Names -/

/-- A name that is there keeps its place. -/
theorem names_replaceOrAppend_of_mem (h : t.name ∈ us.map (·.name)) :
    (replaceOrAppend t us).map (·.name) = us.map (·.name) := by
  induction us with
  | nil => exact absurd h List.not_mem_nil
  | cons u us ih =>
      rw [replaceOrAppend]
      split
      · next hname => rw [List.map_cons, List.map_cons, hname]
      · next hname =>
        rw [List.map_cons, List.map_cons, ih ((List.mem_cons.1 h).resolve_left (Ne.symm hname))]

/-- The names of a program are those that it had and those added, each where it stood first. -/
theorem names_foldl_add (p : Program) (ts : List TypeDecl) :
    (ts.foldl add p).types.map (·.name) =
      distinctBy id (p.types.map (·.name) ++ ts.map (·.name)) := by
  induction ts generalizing p with
  | nil =>
      rw [List.map_nil, List.append_nil, distinctBy_eq_self (by simpa using p.names_nodup)]
      rfl
  | cons t ts ih =>
      rw [List.foldl_cons, ih, List.map_cons]
      by_cases hmem : t.name ∈ p.types.map (·.name)
      · have hnames : (p.add t).types.map (·.name) = p.types.map (·.name) :=
          names_replaceOrAppend_of_mem (t := t.claimed) hmem
        rw [hnames, distinctBy_append_cons_of_mem (by simpa using hmem)]
      · have htypes : (p.add t).types = p.types ++ [t.claimed] :=
          replaceOrAppend_of_not_mem (t := t.claimed) hmem
        rw [htypes, List.map_append, List.append_assoc]
        rfl

/-! ## What names stand for -/

/-- The last of the types that bear a name. -/
def lastNamed (name : Text) (ts : List TypeDecl) : Option TypeDecl :=
  (ts.filter fun t => t.name = name).getLast?

/-- A type that bears the name is the last one unless another follows it. -/
theorem lastNamed_cons_of_eq (h : t.name = name) :
    lastNamed name (t :: ts) = some ((lastNamed name ts).getD t) := by
  rw [lastNamed, List.filter_cons_of_pos (by simpa using h), List.getLast?_cons, lastNamed]

/-- A type of another name makes no difference. -/
theorem lastNamed_cons_of_ne (h : t.name ≠ name) :
    lastNamed name (t :: ts) = lastNamed name ts := by
  rw [lastNamed, List.filter_cons_of_neg (by simpa using h), lastNamed]

/-- Among types of distinct names, a name finds the one that bears it. -/
theorem lastNamed_eq_some_iff_of_nodup (hnames : (ts.map (·.name)).Nodup) :
    lastNamed name ts = some t ↔ t ∈ ts ∧ t.name = name := by
  constructor
  · intro h
    simpa using List.mem_filter.1 (List.mem_of_getLast? h)
  · rintro ⟨ht, rfl⟩
    have hmem : t ∈ ts.filter fun u => u.name = t.name := List.mem_filter.2 ⟨ht, by simp⟩
    have hlast := List.getLast?_eq_some_getLast (List.ne_nil_of_mem hmem)
    obtain ⟨hu, hname⟩ := List.mem_filter.1 (List.mem_of_getLast? hlast)
    rw [lastNamed, hlast, List.inj_on_of_nodup_map hnames hu ht (by simpa using hname)]

/-- The name of an added type stands for the last one added, its members claimed; every other name
stands for what it did. -/
theorem find?_foldl_add (p : Program) (ts : List TypeDecl) (name : Text) :
    (ts.foldl add p).find? name =
      match lastNamed name ts with
      | some t => some t.claimed
      | none => p.find? name := by
  induction ts generalizing p with
  | nil => rfl
  | cons t ts ih =>
      rw [List.foldl_cons, ih, find?_add]
      by_cases hname : t.name = name
      · rw [lastNamed_cons_of_eq hname, if_pos hname]
        cases lastNamed name ts <;> rfl
      · rw [lastNamed_cons_of_ne hname, if_neg hname]

/-- A name that none of the added types bears stands for what it did. -/
theorem find?_foldl_add_of_absent (h : ∀ t ∈ ts, t.name ≠ name) :
    (ts.foldl add p).find? name = p.find? name := by
  have hnone : lastNamed name ts = none := by
    rw [lastNamed, List.getLast?_eq_none_iff, List.filter_eq_nil_iff]
    simpa using h
  rw [find?_foldl_add, hnone]

/-- The order in which types of distinct names are added does not matter. -/
theorem find?_foldl_add_of_perm (h : ts.Perm us) (hnames : (ts.map (·.name)).Nodup) :
    (ts.foldl add p).find? name = (us.foldl add p).find? name := by
  have hother : (us.map (·.name)).Nodup := (h.map _).nodup_iff.1 hnames
  have hlast : lastNamed name ts = lastNamed name us := by
    refine Option.ext fun t => ?_
    rw [lastNamed_eq_some_iff_of_nodup hnames, lastNamed_eq_some_iff_of_nodup hother, h.mem_iff]
  rw [find?_foldl_add, find?_foldl_add, hlast]

end ProseGuard.Program
