import Mathlib.Data.List.Forall2
import Mathlib.Order.Bounds.Basic
import ProseGuard.Proofs.Program.Reach
import ProseGuard.Proofs.Results

/-!
# Nearest supertypes first

Supertypes may repeat, form cycles and name no known type. The walk over them keeps a frontier
(`Frontier`): the names at its front lead to types at one distance, those behind them to types one
step farther, and every type that is not farther than the front was seen or stands there. Main
statement: `lineage_breadth_first`, by which the walk ends and lists each type that can be reached
once, in the order of distances.
-/

namespace ProseGuard.Program

variable {p : Program} {t u : TypeDecl}

/-- So many steps to known supertypes lead to a type. -/
inductive Reaches (p : Program) (t : TypeDecl) : Nat → TypeDecl → Prop
  | self : Reaches p t 0 t
  | step {n : Nat} {u v : TypeDecl} {name : Text} (h : Reaches p t n u)
      (hname : name ∈ u.supertypes) (hfind : p.find? name = some v) : Reaches p t (n + 1) v

/-- The fewest steps that lead to a type. -/
def IsDistance (p : Program) (t : TypeDecl) (n : Nat) (u : TypeDecl) : Prop :=
  IsLeast {k | p.Reaches t k u} n

/-- The supertypes that are known, as often as they are named. -/
def knownSupertypes (p : Program) (t : TypeDecl) : List TypeDecl :=
  t.supertypes.filterMap p.find?

/-- A walk in progress: the types that it met and those that it still has to look at. -/
structure Ascent where
  met : List TypeDecl
  pending : List TypeDecl

/-- A round of a walk: a type of a new name is met, and its known supertypes are to be looked at
after all others. -/
def Ascent.next (p : Program) : Ascent → Ascent
  | ⟨met, []⟩ => ⟨met, []⟩
  | ⟨met, t :: pending⟩ =>
    if met.any fun u => u.name = t.name then ⟨met, pending⟩
    else ⟨met ++ [t], pending ++ p.knownSupertypes t⟩

/-- The front of a walk: `now` are the names at distance `d` that are still to come, and `next` names
one step farther. -/
structure Frontier (p : Program) (t : TypeDecl) (d : Nat) (seen now next : List Text) : Prop where
  known : p.find? t.name = some t
  nearer : ∀ n u, n < d → p.Reaches t n u → u.name ∈ seen
  level : ∀ u, p.Reaches t d u → u.name ∈ seen ∨ u.name ∈ now
  now_reached : ∀ name ∈ now, ∀ u, p.find? name = some u → p.Reaches t d u
  next_reached : ∀ name ∈ next, ∀ u, p.find? name = some u → p.Reaches t (d + 1) u
  closed : ∀ n u v name, p.Reaches t n u → u.name ∈ seen → name ∈ u.supertypes →
    p.find? name = some v → name ∈ seen ∨ name ∈ now ∨ name ∈ next

/-! ## Rounds -/

/-- A type whose name was met is passed over. -/
theorem Ascent.next_of_met {met pending : List TypeDecl} (h : u.name ∈ met.map (·.name)) :
    Ascent.next p ⟨met, u :: pending⟩ = ⟨met, pending⟩ := by
  rw [next, if_pos]
  simpa using h

/-- Any other is met. -/
theorem Ascent.next_of_new {met pending : List TypeDecl} (h : u.name ∉ met.map (·.name)) :
    Ascent.next p ⟨met, u :: pending⟩ = ⟨met ++ [u], pending ++ p.knownSupertypes u⟩ := by
  rw [next, if_neg]
  simpa using h

/-- A walk takes a round for each known type that it was given and for each known supertype of a type
that it meets. -/
theorem iterate_next (p : Program) {seen : List Text} (queue : List Text) {met : List TypeDecl}
    (hseen : ∀ name, name ∈ seen ↔ name ∈ met.map (·.name)) :
    (Ascent.next p)^[(queue.filterMap p.find?).length +
      ((p.walk seen queue).flatMap p.knownSupertypes).length]
        ⟨met, queue.filterMap p.find?⟩ = ⟨met ++ p.walk seen queue, []⟩ := by
  fun_induction walk p seen queue generalizing met with
  | case1 seen => simp
  | case2 seen name queue hcontains ih =>
      cases hfind : p.find? name with
      | none =>
          rw [List.filterMap_cons_none hfind]
          exact ih hseen
      | some u =>
          have hmet : u.name ∈ met.map (·.name) := by
            rw [name_of_find? hfind, ← hseen]
            exact List.contains_iff_mem.1 hcontains
          rw [List.filterMap_cons_some hfind, List.length_cons, Nat.add_right_comm,
            Function.iterate_succ_apply, Ascent.next_of_met hmet]
          exact ih hseen
  | case3 seen name queue hcontains hunknown ih =>
      rw [List.filterMap_cons_none hunknown]
      exact ih hseen
  | case4 seen name queue hcontains u hknown ih =>
      have hname := name_of_find? hknown
      have hnew : u.name ∉ met.map (·.name) := by
        rw [hname, ← hseen]
        exact fun hmem => hcontains (List.contains_iff_mem.2 hmem)
      have hseenNext : ∀ other,
          other ∈ name :: seen ↔ other ∈ (met ++ [u]).map (·.name) := by
        intro other
        rw [List.mem_cons, hseen, List.map_append, List.mem_append, or_comm, List.map_singleton,
          List.mem_singleton, hname]
      have hrest := ih hseenNext
      rw [List.filterMap_append, List.append_assoc, List.singleton_append] at hrest
      rw [List.filterMap_cons_some hknown, List.flatMap_cons, List.length_append, List.length_cons,
        ← Nat.add_assoc, Nat.add_right_comm _ 1, Nat.add_right_comm _ 1,
        Function.iterate_succ_apply, Ascent.next_of_new hnew, ← hrest, List.length_append]
      rfl

/-! ## Steps to supertypes -/

/-- What a known type reaches is known. -/
theorem Reaches.find? (ht : p.find? t.name = some t) {n : Nat} (h : p.Reaches t n u) :
    p.find? u.name = some u := by
  cases h with
  | self => exact ht
  | step hu hname hfind => rw [name_of_find? hfind, hfind]

namespace Frontier

variable {d : Nat} {seen now next queue : List Text} {name : Text}

/-- Where nothing is left at a distance the next one begins. -/
theorem advance (h : Frontier p t d seen [] next) : Frontier p t (d + 1) seen next [] where
  known := h.known
  nearer n u hn hu := by
    rcases Nat.lt_succ_iff_lt_or_eq.1 hn with hlt | rfl
    · exact h.nearer n u hlt hu
    · exact (h.level u hu).resolve_right List.not_mem_nil
  level v hv := by
    cases hv with
    | step hu hname hfind =>
        have hseen := (h.level _ hu).resolve_right List.not_mem_nil
        rw [name_of_find? hfind]
        exact (h.closed _ _ _ _ hu hseen hname hfind).imp_right
          fun hlater => hlater.resolve_left List.not_mem_nil
  now_reached := h.next_reached
  next_reached name hname := absurd hname List.not_mem_nil
  closed n u v name hu hseen hname hfind :=
    (h.closed n u v name hu hseen hname hfind).imp_right
      fun hlater => .inl (hlater.resolve_left List.not_mem_nil)

/-- The name at the front of a queue is at the distance of a frontier, possibly the next one. -/
theorem exists_front (h : Frontier p t d seen now next) (hqueue : now ++ next = name :: queue) :
    ∃ e now' next', d ≤ e ∧ Frontier p t e seen (name :: now') next' ∧ queue = now' ++ next' := by
  cases now with
  | nil =>
      rw [List.nil_append] at hqueue
      subst hqueue
      exact ⟨d + 1, queue, [], Nat.le_succ d, h.advance, (List.append_nil queue).symm⟩
  | cons first now =>
      obtain ⟨rfl, rfl⟩ := List.cons.inj hqueue
      exact ⟨d, now, next, Nat.le_refl d, h, rfl⟩

/-- A name that was seen or is of no known type may be dropped. -/
theorem drop (h : Frontier p t d seen (name :: now) next)
    (hname : name ∈ seen ∨ p.find? name = none) : Frontier p t d seen now next where
  known := h.known
  nearer := h.nearer
  level u hu := by
    rcases h.level u hu with hseen | hnow
    · exact .inl hseen
    · rcases List.mem_cons.1 hnow with heq | hnow
      · rw [← heq, hu.find? h.known] at hname
        exact .inl (hname.resolve_right (Option.some_ne_none u))
      · exact .inr hnow
  now_reached other hother := h.now_reached other (List.mem_cons_of_mem name hother)
  next_reached := h.next_reached
  closed n u v other hu hseen hother hfind := by
    rcases h.closed n u v other hu hseen hother hfind with hseen | hnow | hnext
    · exact .inl hseen
    · rcases List.mem_cons.1 hnow with rfl | hnow
      · rw [hfind] at hname
        exact .inl (hname.resolve_right (Option.some_ne_none v))
      · exact .inr (.inl hnow)
    · exact .inr (.inr hnext)

/-- A type that is met leaves its supertypes for the next distance. -/
theorem visit (h : Frontier p t d seen (name :: now) next) (hfind : p.find? name = some u) :
    Frontier p t d (name :: seen) now (next ++ u.supertypes) where
  known := h.known
  nearer n v hn hv := List.mem_cons_of_mem name (h.nearer n v hn hv)
  level v hv := by
    rw [List.mem_cons, or_assoc, or_left_comm, ← List.mem_cons]
    exact h.level v hv
  now_reached other hother := h.now_reached other (List.mem_cons_of_mem name hother)
  next_reached other hother v hv := by
    rcases List.mem_append.1 hother with hother | hother
    · exact h.next_reached other hother v hv
    · exact (h.now_reached name List.mem_cons_self u hfind).step hother hv
  closed n v w other hv hseen hother hw := by
    rcases List.mem_cons.1 hseen with heq | hseen
    · -- the type that bears the name is the one that was met
      have hsame := hv.find? h.known
      rw [heq, hfind, Option.some.injEq] at hsame
      exact .inr (.inr (List.mem_append_right next (hsame ▸ hother)))
    · rcases h.closed n v w other hv hseen hother hw with hseen | hnow | hnext
      · exact .inl (List.mem_cons_of_mem name hseen)
      · rcases List.mem_cons.1 hnow with rfl | hnow
        · exact .inl List.mem_cons_self
        · exact .inr (.inl hnow)
      · exact .inr (.inr (List.mem_append_left _ hnext))

/-- A type that is met first is at the distance of the frontier. -/
theorem isDistance (h : Frontier p t d seen (name :: now) next) (hfind : p.find? name = some u)
    (hnew : name ∉ seen) : p.IsDistance t d u := by
  refine ⟨h.now_reached name List.mem_cons_self u hfind, fun n hn => ?_⟩
  by_contra hlt
  have hseen := h.nearer n u (Nat.lt_of_not_le hlt) hn
  rw [name_of_find? hfind] at hseen
  exact hnew hseen

/-- Where the queue is empty, everything that can be reached was seen. -/
theorem mem_seen (h : Frontier p t d seen [] []) {n : Nat} (hu : p.Reaches t n u) :
    u.name ∈ seen := by
  induction hu with
  | self =>
      cases d with
      | zero => exact (h.level t .self).resolve_right List.not_mem_nil
      | succ d => exact h.nearer 0 t (Nat.succ_pos d) .self
  | step hu hname hfind ih =>
      rw [name_of_find? hfind]
      exact (h.closed _ _ _ _ hu ih hname hfind).resolve_right (by simp)

/-- A walk from a frontier meets what was not seen, in the order of distances. -/
theorem exists_distances (h : Frontier p t d seen now next) :
    (∃ distances : List Nat, distances.Pairwise (· ≤ ·) ∧ (∀ n ∈ distances, d ≤ n) ∧
      List.Forall₂ (p.IsDistance t) distances (p.walk seen (now ++ next))) ∧
    ∀ n u, p.Reaches t n u → u.name ∈ seen ∨ u ∈ p.walk seen (now ++ next) := by
  generalize hqueue : now ++ next = queue
  fun_induction walk p seen queue generalizing d now next with
  | case1 seen =>
      obtain ⟨rfl, rfl⟩ := List.append_eq_nil_iff.1 hqueue
      exact ⟨⟨[], .nil, fun n hn => absurd hn List.not_mem_nil, .nil⟩,
        fun n u hu => .inl (h.mem_seen hu)⟩
  | case2 seen name queue hcontains ih =>
      obtain ⟨e, now', next', hle, hfront, rfl⟩ := h.exists_front hqueue
      have hseen : name ∈ seen := List.contains_iff_mem.1 hcontains
      obtain ⟨⟨distances, hsorted, hlow, hdistances⟩, hall⟩ := ih (hfront.drop (.inl hseen)) rfl
      exact ⟨⟨distances, hsorted, fun n hn => hle.trans (hlow n hn), hdistances⟩, hall⟩
  | case3 seen name queue hcontains hunknown ih =>
      obtain ⟨e, now', next', hle, hfront, rfl⟩ := h.exists_front hqueue
      obtain ⟨⟨distances, hsorted, hlow, hdistances⟩, hall⟩ := ih (hfront.drop (.inr hunknown)) rfl
      exact ⟨⟨distances, hsorted, fun n hn => hle.trans (hlow n hn), hdistances⟩, hall⟩
  | case4 seen name queue hcontains u hknown ih =>
      obtain ⟨e, now', next', hle, hfront, rfl⟩ := h.exists_front hqueue
      have hnew : name ∉ seen := fun hmem => hcontains (List.contains_iff_mem.2 hmem)
      obtain ⟨⟨distances, hsorted, hlow, hdistances⟩, hall⟩ :=
        ih (hfront.visit hknown) (List.append_assoc _ _ _).symm
      constructor
      · refine ⟨e :: distances, List.pairwise_cons.2 ⟨hlow, hsorted⟩, ?_,
          .cons (hfront.isDistance hknown hnew) hdistances⟩
        intro n hn
        rcases List.mem_cons.1 hn with rfl | hn
        · exact hle
        · exact hle.trans (hlow n hn)
      · intro n v hv
        rcases hall n v hv with hseen | hlater
        · rcases List.mem_cons.1 hseen with heq | hseen
          · have hsame := hv.find? h.known
            rw [heq, hknown, Option.some.injEq] at hsame
            exact .inr (hsame ▸ List.mem_cons_self)
          · exact .inl hseen
        · exact .inr (List.mem_cons_of_mem u hlater)

end Frontier

/-! ## Lineages -/

/-- A known type is the first that a walk from its name meets. -/
theorem lineage_eq_walk (h : p.find? t.name = some t) : p.lineage t = p.walk [] [t.name] := by
  rw [walk_of_known p rfl h, lineage, List.nil_append]

/-- A walk meets no type of a name that was seen and none of a name twice. -/
theorem nodup_walk (p : Program) (seen queue : List Text) :
    (∀ u ∈ p.walk seen queue, u.name ∉ seen) ∧ ((p.walk seen queue).map (·.name)).Nodup := by
  fun_induction walk p seen queue with
  | case1 seen => exact ⟨fun u hu => absurd hu List.not_mem_nil, .nil⟩
  | case2 seen name queue hcontains ih => exact ih
  | case3 seen name queue hcontains hunknown ih => exact ih
  | case4 seen name queue hcontains u hknown ih =>
      obtain ⟨hnew, hnodup⟩ := ih
      have hname := name_of_find? hknown
      constructor
      · intro v hv
        rcases List.mem_cons.1 hv with rfl | hv
        · rw [hname]
          exact fun hmem => hcontains (List.contains_iff_mem.2 hmem)
        · exact fun hmem => hnew v hv (List.mem_cons_of_mem name hmem)
      · rw [List.map_cons, List.nodup_cons]
        refine ⟨fun hmem => ?_, hnodup⟩
        obtain ⟨v, hv, heq⟩ := List.mem_map.1 hmem
        exact hnew v hv (by rw [heq, hname]; exact List.mem_cons_self)

/-- At first nothing was seen, and the type itself is to come. -/
theorem frontier_self (ht : p.find? t.name = some t) : Frontier p t 0 [] [t.name] [] where
  known := ht
  nearer n u hn := absurd hn (Nat.not_lt_zero n)
  level u hu := by
    cases hu
    exact .inr List.mem_cons_self
  now_reached name hname u hfind := by
    rw [List.mem_singleton.1 hname, ht, Option.some.injEq] at hfind
    exact hfind ▸ .self
  next_reached name hname := absurd hname List.not_mem_nil
  closed n u v name hu hseen := absurd hseen List.not_mem_nil

/-- The walk over the supertypes of a known type ends, after a round for the type and one for each
known supertype of a type that it meets. It lists the type first, then what can be reached from it,
nothing else and nothing twice, in the order of the fewest steps that lead there. -/
theorem lineage_breadth_first {name : Text} (h : p.find? name = some t) :
    (Ascent.next p)^[1 + ((p.lineage t).flatMap p.knownSupertypes).length] ⟨[], [t]⟩ =
        ⟨p.lineage t, []⟩ ∧
      (p.lineage t).head? = some t ∧
      ((p.lineage t).map (·.name)).Nodup ∧
      (∀ u, u ∈ p.lineage t ↔ ∃ n, p.Reaches t n u) ∧
      ∃ distances : List Nat, distances.Pairwise (· ≤ ·) ∧
        List.Forall₂ (p.IsDistance t) distances (p.lineage t) := by
  have ht : p.find? t.name = some t := by rw [name_of_find? h, h]
  obtain ⟨⟨distances, hsorted, -, hdistances⟩, hall⟩ := (frontier_self ht).exists_distances
  rw [List.append_nil, ← lineage_eq_walk ht] at hdistances hall
  have hnone : ∀ name, name ∈ ([] : List Text) ↔ name ∈ ([] : List TypeDecl).map (·.name) := by simp
  have hrounds := iterate_next p [t.name] hnone
  rw [← lineage_eq_walk ht, List.filterMap_cons_some ht] at hrounds
  refine ⟨hrounds, rfl, ?_, fun u => ⟨fun hu => ?_, fun hu => ?_⟩, distances, hsorted, hdistances⟩
  · rw [lineage_eq_walk ht]
    exact (nodup_walk p [] [t.name]).2
  · obtain ⟨n, -, hn⟩ := Run.exists_of_mem_right hdistances hu
    exact ⟨n, hn.1⟩
  · obtain ⟨n, hn⟩ := hu
    exact (hall n u hn).resolve_left List.not_mem_nil

/-- A type that names itself, one supertype twice and one that is not known. -/
def queueType : TypeDecl where
  name := "Queue"
  supertypes := ["List", "Queue", "Pile", "Lost", "List"]

/-- Its supertypes, two of which lead back to it. -/
def queueProgram : Program :=
  .ofTypes [{ name := "Bag", supertypes := ["Queue"] }, { name := "Pile", supertypes := ["Bag"] },
    queueType, { name := "List", supertypes := ["Bag", "Queue"] }]

/-- The walk over them takes nine rounds and meets four types. -/
theorem lineage_breadth_first_queue :
    queueProgram.find? "Queue" = some queueType ∧
      (queueProgram.lineage queueType).map (·.name) =
        (["Queue", "List", "Pile", "Bag"] : List Text) ∧
      (Ascent.next queueProgram)^[9] ⟨[], [queueType]⟩ = ⟨queueProgram.lineage queueType, []⟩ ∧
      (∀ u, u ∈ queueProgram.lineage queueType ↔ ∃ n, queueProgram.Reaches queueType n u) ∧
      ∃ distances : List Nat, distances.Pairwise (· ≤ ·) ∧
        List.Forall₂ (queueProgram.IsDistance queueType) distances
          (queueProgram.lineage queueType) := by
  have hfind : queueProgram.find? "Queue" = some queueType := by decide
  have hnames : (queueProgram.lineage queueType).map (·.name) =
      (["Queue", "List", "Pile", "Bag"] : List Text) := by
    cbv
  have hnine : 1 + ((queueProgram.lineage queueType).flatMap queueProgram.knownSupertypes).length =
      9 := by
    cbv
  obtain ⟨hrounds, -, -, hreaches, hdistances⟩ := lineage_breadth_first hfind
  rw [hnine] at hrounds
  exact ⟨hfind, hnames, hrounds, hreaches, hdistances⟩

end ProseGuard.Program
