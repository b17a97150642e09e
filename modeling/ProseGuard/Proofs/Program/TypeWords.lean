import Mathlib.Order.Bounds.Basic
import ProseGuard.Program.TypeName

/-!
# The last capitalised word of a type name

A name in mixed case is cut where a capital stands before a small letter, but never at its start.
The last piece of the cut is what stands from the last such place on, and with the whole name it
makes the words for a type. Main statement: `typeWords_boundary`.
-/

namespace ProseGuard.Program

/-- An ASCII capital. -/
def IsCapital (c : Point) : Prop :=
  'A' ≤ c ∧ c ≤ 'Z'

/-- A small ASCII letter. -/
def IsSmall (c : Point) : Prop :=
  'a' ≤ c ∧ c ≤ 'z'

/-- The places of a text, its start apart, where a capital stands before a small letter. -/
def boundaries (text : Text) : Set Nat :=
  {k | 1 ≤ k ∧ ∃ capital small, text[k]? = some capital ∧ text[k + 1]? = some small ∧
    IsCapital capital ∧ IsSmall small}

/-- The text cut at each of its boundaries; a single piece if it has none. -/
def humps : Text → List Text
  | [] => [[]]
  | c :: cs => if startsHump cs then [c] :: humps cs else (humps cs).modifyHead (c :: ·)

/-! ## One character at a time -/

/-- A capitalised word starts with a capital and a small letter. -/
theorem startsHump_iff {text : Text} : startsHump text ↔ ∃ capital small,
    text[0]? = some capital ∧ text[1]? = some small ∧ IsCapital capital ∧ IsSmall small := by
  match text with
  | [] => simp [startsHump]
  | [c] => simp [startsHump]
  | c :: d :: rest => simp [startsHump, IsCapital, IsSmall, and_assoc]

/-- No boundary stands at the start. -/
theorem zero_notMem_boundaries (text : Text) : 0 ∉ boundaries text :=
  fun h => nomatch h.1

/-- Behind a first character the boundaries are those of the rest and, if that starts with a
capitalised word, its start. -/
theorem succ_mem_boundaries_cons {c : Point} {cs : Text} {k : Nat} :
    k + 1 ∈ boundaries (c :: cs) ↔ k ∈ boundaries cs ∨ k = 0 ∧ startsHump cs := by
  cases k with
  | zero =>
      rw [startsHump_iff]
      simp [boundaries]
  | succ k => simp [boundaries]

/-- The last capitalised word of a text is that behind its first character, or else the whole. -/
theorem lastHump?_eq (text : Text) :
    lastHump? text = (lastHump? text.tail).or (if startsHump text then some text else none) := by
  cases text with
  | nil => rfl
  | cons c cs =>
      rw [lastHump?, List.tail_cons]
      cases lastHump? cs <;> rfl

/-- A boundary behind a place is one of what stands from there on. -/
theorem add_mem_boundaries {text : Text} {k j : Nat} (h : j ∈ boundaries (text.drop k)) :
    k + j ∈ boundaries text := by
  obtain ⟨hj, capital, small, hcapital, hsmall, hletters⟩ := h
  rw [List.getElem?_drop] at hcapital hsmall
  exact ⟨by omega, capital, small, hcapital, hsmall, hletters⟩

/-! ## The last boundary -/

/-- What stands from the last boundary of a text on; nothing if the text has none. -/
inductive EndsIn (text : Text) : Option Text → Prop
  | whole : boundaries text = ∅ → EndsIn text none
  | hump {k : Nat} : IsGreatest (boundaries text) k → EndsIn text (some (text.drop k))

/-- A character in front of a text moves its last boundary by one place. -/
theorem isGreatest_boundaries_cons {c : Point} {cs : Text} {k : Nat}
    (h : IsGreatest (boundaries cs) k) : IsGreatest (boundaries (c :: cs)) (k + 1) := by
  refine ⟨succ_mem_boundaries_cons.2 (.inl h.1), fun j hj => ?_⟩
  cases j with
  | zero => exact Nat.zero_le _
  | succ j =>
      rcases succ_mem_boundaries_cons.1 hj with hj | ⟨rfl, -⟩
      · exact Nat.succ_le_succ (h.2 hj)
      · exact Nat.succ_le_succ (Nat.zero_le k)

/-- Behind the first character of a text the last capitalised word is what stands from the last
boundary on. -/
theorem endsIn_lastHump? (text : Text) : EndsIn text (lastHump? text.tail) := by
  induction text with
  | nil =>
      refine .whole (Set.eq_empty_of_forall_notMem fun k hk => ?_)
      obtain ⟨-, capital, small, hcapital, -⟩ := hk
      exact nomatch hcapital
  | cons c cs ih =>
      rw [List.tail_cons, lastHump?_eq]
      generalize lastHump? cs.tail = last at ih
      cases ih with
      | hump hgreatest => exact .hump (isGreatest_boundaries_cons hgreatest)
      | whole hnone =>
          -- the only boundary there can be is the one behind the first character
          have hmem : ∀ k, k + 1 ∈ boundaries (c :: cs) ↔ k = 0 ∧ startsHump cs := by
            intro k
            rw [succ_mem_boundaries_cons, hnone]
            exact or_iff_right (Set.notMem_empty k)
          rw [Option.none_or]
          split
          · next hstarts =>
            refine .hump (k := 1) ⟨(hmem 0).2 ⟨rfl, hstarts⟩, fun j hj => ?_⟩
            cases j with
            | zero => exact Nat.zero_le 1
            | succ j => exact (congrArg Nat.succ ((hmem j).1 hj).1).le
          · next hstarts =>
            refine .whole (Set.eq_empty_of_forall_notMem fun j hj => ?_)
            cases j with
            | zero => exact zero_notMem_boundaries _ hj
            | succ j => exact hstarts ((hmem j).1 hj).2

/-- What stands from the last boundary on is a part behind the start, and holds no other. -/
theorem drop_of_isGreatest {text : Text} {k : Nat} (h : IsGreatest (boundaries text) k) :
    text.drop k ≠ [] ∧ text.drop k ≠ text ∧ boundaries (text.drop k) = ∅ := by
  obtain ⟨⟨hk, capital, small, hcapital, -⟩, hlast⟩ := h
  have hlength : k < text.length := (List.getElem?_eq_some_iff.1 hcapital).1
  refine ⟨?_, fun heq => ?_, Set.eq_empty_of_forall_notMem fun j hj => ?_⟩
  · rw [Ne, List.drop_eq_nil_iff]
    omega
  · have hsize := congrArg List.length heq
    rw [List.length_drop] at hsize
    omega
  · have hle := hlast (add_mem_boundaries hj)
    have hpos := hj.1
    omega

/-! ## The pieces -/

/-- The last piece of a text is its last capitalised word, and others stand before it; without such
a word behind its first character the text is one piece. -/
theorem exists_humps_eq (text : Text) : ∃ front,
    humps text = front ++ [(lastHump? text.tail).getD text] ∧
      (front = [] ↔ lastHump? text.tail = none) := by
  induction text with
  | nil => exact ⟨[], rfl, iff_of_true rfl rfl⟩
  | cons c cs ih =>
      obtain ⟨front, hfront, hsingle⟩ := ih
      rw [List.tail_cons, lastHump?_eq, humps, hfront]
      cases hlast : lastHump? cs.tail with
      | none =>
          obtain rfl : front = [] := hsingle.2 hlast
          cases startsHump cs with
          | false => exact ⟨[], rfl, iff_of_true rfl rfl⟩
          | true => exact ⟨[[c]], rfl, iff_of_false (List.cons_ne_nil _ _) (Option.some_ne_none _)⟩
      | some hump =>
          have hne : front ≠ [] := fun h => nomatch (hsingle.1 h).symm.trans hlast
          obtain ⟨first, rest, rfl⟩ := List.exists_cons_of_ne_nil hne
          cases startsHump cs with
          | false =>
              exact ⟨(c :: first) :: rest, rfl,
                iff_of_false (List.cons_ne_nil _ _) (Option.some_ne_none _)⟩
          | true =>
              exact ⟨[c] :: first :: rest, rfl,
                iff_of_false (List.cons_ne_nil _ _) (Option.some_ne_none _)⟩

/-- The words for a type are its simple name alone if that has no boundary. Otherwise they are the
simple name and what stands in it from its last boundary on, which is neither empty nor the whole,
holds no boundary, and is the last of the pieces into which the name is cut. -/
theorem typeWords_boundary (name : Text) :
    (boundaries (simpleName name) = ∅ ∧ typeWords name = [simpleName name] ∧
        humps (simpleName name) = [simpleName name]) ∨
      ∃ k, IsGreatest (boundaries (simpleName name)) k ∧
        typeWords name = [simpleName name, (simpleName name).drop k] ∧
        (simpleName name).drop k ≠ [] ∧ (simpleName name).drop k ≠ simpleName name ∧
        boundaries ((simpleName name).drop k) = ∅ ∧
        ∃ front, humps (simpleName name) = front ++ [(simpleName name).drop k] ∧ front ≠ [] := by
  have hends := endsIn_lastHump? (simpleName name)
  obtain ⟨front, hpieces, hsingle⟩ := exists_humps_eq (simpleName name)
  rw [typeWords]
  generalize lastHump? (simpleName name).tail = last at hends hpieces hsingle
  cases hends with
  | whole hnone =>
      obtain rfl : front = [] := hsingle.2 rfl
      exact .inl ⟨hnone, rfl, hpieces⟩
  | hump hgreatest =>
      obtain ⟨hne, hproper, hlast⟩ := drop_of_isGreatest hgreatest
      exact .inr ⟨_, hgreatest, rfl, hne, hproper, hlast, front, hpieces,
        fun h => nomatch hsingle.1 h⟩

example : typeWords "java.nio.XMLÉByteBuffer2<T>" =
    (["XMLÉByteBuffer2", "Buffer2"] : List Text) := by
  decide

end ProseGuard.Program
