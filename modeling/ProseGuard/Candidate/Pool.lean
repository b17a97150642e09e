import ProseGuard.Candidate.Element
import ProseGuard.Run

/-!
# Candidate pools

The elements that a comment can refer to, in the order in which they were added. A pool takes an
element that has a word and that it does not hold yet; an element whose key has no fixed value can
be neither looked up nor taken. Main statement: `result_addAll`, which says what a pool holds after
elements were offered to it.

Specification 3, the candidate pool: adding is `Pool.offer`, and `Pool.add` for the elements of the
collector, whose keys are fixed.
-/

namespace ProseGuard.Candidate

/-- Elements in order of insertion, no two of one identity. -/
structure Pool where
  elements : List Element
  distinct : (elements.map Element.identity).Nodup

namespace Pool

/-- The pool without elements. -/
def empty : Pool := ⟨[], by simp⟩

/-- Whether the pool holds an element of the same identity. -/
def contains (pool : Pool) (e : Element) : Bool :=
  (pool.elements.map Element.identity).contains e.identity

/-- Whether the pool would grow by the element. -/
def accepts (pool : Pool) (e : Element) : Bool :=
  e.isNamed && !pool.contains e

/-- The pool with the element at its end, if it accepts it. -/
def insert (pool : Pool) (e : Element) : Pool :=
  if h : pool.accepts e then
    { elements := pool.elements ++ [e]
      distinct := by
        have hnew : e.identity ∉ pool.elements.map Element.identity := by
          simpa [accepts, contains] using (Bool.and_eq_true_iff.1 h).2
        rw [List.map_append, List.nodup_append]
        refine ⟨pool.distinct, by simp, ?_⟩
        rintro k hk l hl rfl
        simp only [List.map_cons, List.map_nil, List.mem_singleton] at hl
        exact hnew (hl ▸ hk) }
  else pool

/-- Whether the pool holds an element, which has to have a fixed key. -/
def lookup (pool : Pool) (e : Element) : Except Failure Bool :=
  if e.key.isFixed then .ok (pool.contains e) else .error (.fault .looseKey)

/-- Offers an element, which has to have a fixed key if it has a word. -/
def offer (pool : Pool) (e : Element) : Except Failure Pool :=
  if e.isNamed && !e.key.isFixed then .error (.fault .looseKey) else .ok (pool.insert e)

/-- Offers an element; one without words is reported. -/
def add (pool : Pool) (e : Element) : Run Pool := do
  if !e.isNamed then
    Run.report (.unnamed e.kind.word e.expression)
  return pool.insert e

/-- Offers elements one after the other. -/
def addAll (pool : Pool) (es : List Element) : Run Pool :=
  es.foldlM add pool

/-- The elements of one kind. -/
def ofKind (pool : Pool) (kind : Kind) : List Element :=
  pool.elements.filter fun e => e.kind = kind

/-- An element that is accepted comes last. -/
theorem elements_insert (pool : Pool) (e : Element) :
    (pool.insert e).elements =
      if pool.accepts e then pool.elements ++ [e] else pool.elements := by
  simp only [insert]
  split <;> rfl

@[simp] theorem result_add (pool : Pool) (e : Element) :
    (pool.add e).result = .ok (pool.insert e) := by
  simp only [add]
  split <;> simp [Except.map]

/-- Offering elements never fails and inserts them in turn. -/
@[simp] theorem result_addAll (pool : Pool) (es : List Element) :
    (pool.addAll es).result = .ok (es.foldl insert pool) := by
  induction es generalizing pool with
  | nil => rfl
  | cons e es ih =>
    have hstep : pool.addAll (e :: es) = pool.add e >>= fun q => q.addAll es := by
      simp [addAll, List.foldlM_cons]
    simp [hstep, Except.bind, ih]

end Pool

end ProseGuard.Candidate
