import ProseGuard.Program.TypeName
import ProseGuard.Proofs.Text.Words
import ProseGuard.Text.Alphanumeric

/-!
# Type references

Names of types as they are written with type arguments, and what their simple names are. A segment
is an identifier that arguments may follow, and arguments are type references themselves. Leaving
out all that stands between the first opening and the last closing bracket leaves out the segments
between them too, so behind a segment with arguments the last one gives the simple name only if it
has none or the same name: `simpleName_text`. The entry of a map shows the difference.
-/

namespace ProseGuard.Program

open Text (isWordChar)

/-- A word of letters, digits and underscores. -/
structure Identifier where
  text : Text
  ne_empty : text ≠ []
  isWord : ∀ c ∈ text, isWordChar c

/-- What separates the segments of a type reference. -/
inductive Qualifier where
  | point
  | dollar

/-- The mark for a qualifier. -/
def Qualifier.mark : Qualifier → Point
  | point => '.'
  | dollar => '$'

mutual

/-- A type reference: segments, each of them inside the one before. -/
inductive TypeRef where
  | single (segment : Segment)
  | member (outer : TypeRef) (qualifier : Qualifier) (segment : Segment)

/-- An identifier, with type arguments or without. -/
inductive Segment where
  | plain (name : Identifier)
  | applied (name : Identifier) (arguments : TypeArguments)

/-- Type references with commas between them, which spaces may follow. -/
inductive TypeArguments where
  | last (type : TypeRef)
  | more (type : TypeRef) (spaces : Nat) (rest : TypeArguments)

end

mutual

/-- The text of a type reference. -/
def TypeRef.text : TypeRef → Text
  | .single segment => segment.text
  | .member outer qualifier segment => outer.text ++ qualifier.mark :: segment.text

/-- The text of a segment. -/
def Segment.text : Segment → Text
  | .plain name => name.text
  | .applied name arguments => name.text ++ ('<' : Point) :: (arguments.text ++ ">")

/-- The text of type arguments. -/
def TypeArguments.text : TypeArguments → Text
  | .last type => type.text
  | .more type spaces rest =>
    type.text ++ (',' : Point) :: (List.replicate spaces (' ' : Point) ++ rest.text)

end

/-- The identifier of a segment. -/
def Segment.name : Segment → Identifier
  | plain name => name
  | applied name _ => name

/-- Whether a segment has type arguments. -/
def Segment.isApplied : Segment → Bool
  | plain _ => false
  | applied _ _ => true

/-- The segments, the outermost first. -/
def TypeRef.segments : TypeRef → List Segment
  | single segment => [segment]
  | member outer _ segment => outer.segments ++ [segment]

/-- The innermost segment. -/
def TypeRef.last : TypeRef → Segment
  | single segment => segment
  | member _ _ segment => segment

/-- The outermost segment with type arguments. -/
def TypeRef.firstApplied? (type : TypeRef) : Option Segment :=
  type.segments.find? Segment.isApplied

/-- What stands behind the points of a text and the dollar signs behind these. -/
def unqualified (text : Text) : Text :=
  afterLast '$' (afterLast '.' text)

/-! ## Texts without marks -/

/-- No other mark stands in an identifier. -/
theorem Identifier.not_mem (name : Identifier) {mark : Point} (h : isWordChar mark = false) :
    mark ∉ name.text := by
  intro hmem
  have hword := name.isWord mark hmem
  rw [h] at hword
  exact nomatch hword

/-- A qualifier is neither a bracket nor the end of a line. -/
theorem Qualifier.mark_ne (q : Qualifier) : q.mark ≠ '<' ∧ q.mark ≠ '>' ∧ q.mark ≠ '\n' := by
  cases q
  · decide
  · decide

mutual

/-- A type reference stands in one line. -/
theorem TypeRef.not_mem_text : (type : TypeRef) → ('\n' : Point) ∉ type.text
  | .single segment => segment.not_mem_text
  | .member outer qualifier segment => by
      rw [TypeRef.text, List.mem_append, List.mem_cons]
      rintro (h | h | h)
      · exact outer.not_mem_text h
      · exact qualifier.mark_ne.2.2 h.symm
      · exact segment.not_mem_text h

/-- A segment stands in one line. -/
theorem Segment.not_mem_text : (segment : Segment) → ('\n' : Point) ∉ segment.text
  | .plain name => name.not_mem (by decide)
  | .applied name arguments => by
      rw [Segment.text, List.mem_append, List.mem_cons, List.mem_append]
      rintro (h | h | h | h)
      · exact name.not_mem (by decide) h
      · exact absurd h (by decide)
      · exact arguments.not_mem_text h
      · exact absurd h (by decide)

/-- Type arguments stand in one line. -/
theorem TypeArguments.not_mem_text : (arguments : TypeArguments) → ('\n' : Point) ∉ arguments.text
  | .last type => type.not_mem_text
  | .more type spaces rest => by
      rw [TypeArguments.text, List.mem_append, List.mem_cons, List.mem_append]
      rintro (h | h | h | h)
      · exact type.not_mem_text h
      · exact absurd h (by decide)
      · exact absurd (List.eq_of_mem_replicate h) (by decide)
      · exact rest.not_mem_text h

end

/-! ## Lines without arguments -/

/-- A line without an opening bracket stays as it is. -/
theorem dropArguments_of_not_mem {line : Text} (h : ('<' : Point) ∉ line) :
    dropArguments line = line := by
  have hall : ∀ c ∈ line, decide (c ≠ ('<' : Point)) = true := by
    intro c hc
    refine decide_eq_true ?_
    rintro rfl
    exact h hc
  rw [dropArguments, List.dropWhile_eq_nil_iff.2 hall]
  rfl

/-- What stands from the first opening bracket to the last closing one is left out. -/
theorem dropArguments_of_brackets {front : Text} (middle : Text) {behind : Text}
    (hopen : ('<' : Point) ∉ front) (hclose : ('>' : Point) ∉ behind) :
    dropArguments (front ++ ('<' : Point) :: (middle ++ ('>' : Point) :: behind)) =
      front ++ behind := by
  have hall : ∀ c ∈ front, decide (c ≠ ('<' : Point)) = true := by
    intro c hc
    refine decide_eq_true ?_
    rintro rfl
    exact hopen hc
  have hrest : (front ++ ('<' : Point) :: (middle ++ ('>' : Point) :: behind)).dropWhile
      (fun c : Point => c ≠ '<') = ('<' : Point) :: middle ++ ('>' : Point) :: behind := by
    rw [List.dropWhile_append_of_pos hall]
    rfl
  have hfront : (front ++ ('<' : Point) :: (middle ++ ('>' : Point) :: behind)).takeWhile
      (fun c : Point => c ≠ '<') = front := by
    rw [List.takeWhile_append_of_pos hall]
    exact List.append_nil front
  have hcontains : (('<' : Point) :: middle ++ ('>' : Point) :: behind).contains '>' := by
    rw [List.contains_iff_mem]
    exact List.mem_append_right _ List.mem_cons_self
  rw [dropArguments]
  simp only [hrest, hfront]
  rw [if_pos hcontains, afterLast_append hclose]

/-- An identifier is its own unqualified text. -/
theorem unqualified_name (name : Identifier) : unqualified name.text = name.text := by
  rw [unqualified, afterLast_of_not_mem (name.not_mem (by decide)),
    afterLast_of_not_mem (name.not_mem (by decide))]

/-- What is put behind a text without a separator stands behind its last separator. -/
theorem afterLast_append_of_not_mem {separator : Point} (before : Text) {behind : Text}
    (h : separator ∉ behind) :
    afterLast separator (before ++ behind) = afterLast separator before ++ behind := by
  have hall : ∀ c ∈ behind.reverse, decide (c ≠ separator) = true := by
    intro c hc
    refine decide_eq_true ?_
    rintro rfl
    exact h (List.mem_reverse.1 hc)
  rw [afterLast, afterLast, List.reverse_append, List.takeWhile_append_of_pos hall,
    List.reverse_append, List.reverse_reverse]

/-- An identifier behind a qualifier is what is left without qualification. -/
theorem unqualified_append (before : Text) (q : Qualifier) (name : Identifier) :
    unqualified (before ++ q.mark :: name.text) = name.text := by
  have hpoint : ('.' : Point) ∉ name.text := name.not_mem (by decide)
  have hdollar : ('$' : Point) ∉ name.text := name.not_mem (by decide)
  cases q with
  | point =>
      show afterLast '$' (afterLast '.' (before ++ ('.' : Point) :: name.text)) = name.text
      rw [afterLast_append hpoint, afterLast_of_not_mem hdollar]
  | dollar =>
      show afterLast '$' (afterLast '.' (before ++ ('$' : Point) :: name.text)) = name.text
      have hmark : ('.' : Point) ∉ ('$' : Point) :: name.text := by
        rw [List.mem_cons, not_or]
        exact ⟨by decide, hpoint⟩
      rw [afterLast_append_of_not_mem before hmark, afterLast_append hdollar]

/-- The simple name of a line is what is left of it without arguments and qualification. -/
theorem simpleName_of_line {line : Text} (h : ('\n' : Point) ∉ line) :
    simpleName line = unqualified (dropArguments line) := by
  have hall : ∀ c ∈ line, decide (c = ('\n' : Point)) = false := by
    intro c hc
    refine decide_eq_false ?_
    rintro rfl
    exact h hc
  rw [simpleName, Text.splitWhere_of_forall hall, List.map_singleton, Text.join,
    List.intercalate_singleton]
  rfl

/-! ## References -/

/-- Where the arguments of a type reference begin and end. In front of them stands the first segment
that has any, and behind them the last segment, unless it has arguments itself. -/
structure TypeRef.Brackets (type : TypeRef) (first : Segment) (front middle behind : Text) :
    Prop where
  text_eq : type.text = front ++ ('<' : Point) :: (middle ++ ('>' : Point) :: behind)
  no_open : ('<' : Point) ∉ front
  no_close : ('>' : Point) ∉ behind
  front_name : unqualified front = first.name.text
  behind_of_applied : type.last.isApplied = true → behind = []
  behind_of_plain : type.last.isApplied = false →
    unqualified (front ++ behind) = type.last.name.text

/-- The outermost segment with arguments is looked for in the outer segments first. -/
theorem TypeRef.firstApplied?_member (outer : TypeRef) (q : Qualifier) (segment : Segment) :
    (member outer q segment).firstApplied? =
      outer.firstApplied?.or ([segment].find? Segment.isApplied) := by
  rw [firstApplied?, segments, List.find?_append]
  rfl

/-- The last segment is one of the segments. -/
theorem TypeRef.last_mem_segments (type : TypeRef) : type.last ∈ type.segments := by
  cases type with
  | single segment => exact List.mem_singleton_self segment
  | member outer q segment => exact List.mem_append_right _ (List.mem_singleton_self segment)

/-- A reference none of whose segments has arguments holds no brackets. -/
theorem TypeRef.not_mem_of_firstApplied : (type : TypeRef) → type.firstApplied? = none →
    ('<' : Point) ∉ type.text ∧ ('>' : Point) ∉ type.text
  | .single (.plain name), _ => ⟨name.not_mem (by decide), name.not_mem (by decide)⟩
  | .single (.applied name arguments), h => nomatch h
  | .member outer q segment, h => by
      rw [firstApplied?_member, Option.or_eq_none_iff] at h
      obtain ⟨hopen, hclose⟩ := outer.not_mem_of_firstApplied h.1
      cases segment with
      | applied name arguments => exact nomatch h.2
      | plain name =>
          rw [TypeRef.text, List.mem_append, List.mem_cons, List.mem_append, List.mem_cons, not_or,
            not_or, not_or, not_or]
          exact ⟨⟨hopen, q.mark_ne.1.symm, name.not_mem (by decide)⟩,
            hclose, q.mark_ne.2.1.symm, name.not_mem (by decide)⟩

/-- A reference one of whose segments has arguments has brackets. -/
theorem TypeRef.exists_brackets : (type : TypeRef) → {first : Segment} →
    type.firstApplied? = some first → ∃ front middle behind, type.Brackets first front middle behind
  | .single (.plain name), first, h => nomatch h
  | .single (.applied name arguments), first, h => by
      obtain rfl : Segment.applied name arguments = first := Option.some.inj h
      exact ⟨name.text, arguments.text, [], rfl, name.not_mem (by decide), List.not_mem_nil,
        unqualified_name name, fun _ => rfl, fun hplain => nomatch hplain⟩
  | .member outer q segment, first, h => by
      rw [firstApplied?_member] at h
      cases houter : outer.firstApplied? with
      | some found =>
          rw [houter, Option.some_or] at h
          obtain rfl : found = first := Option.some.inj h
          obtain ⟨front, middle, behind, hbrackets⟩ := outer.exists_brackets houter
          cases segment with
          | plain name =>
              refine ⟨front, middle, behind ++ q.mark :: name.text, ?_, hbrackets.no_open, ?_,
                hbrackets.front_name, (fun happlied => nomatch happlied), fun _ => ?_⟩
              · rw [TypeRef.text, hbrackets.text_eq, List.append_assoc, List.cons_append,
                  List.append_assoc, List.cons_append]
                rfl
              · rw [List.mem_append, List.mem_cons, not_or, not_or]
                exact ⟨hbrackets.no_close, q.mark_ne.2.1.symm, name.not_mem (by decide)⟩
              · rw [← List.append_assoc]
                exact unqualified_append _ q name
          | applied name arguments =>
              -- what stood behind the brackets of the outer segments is inside the wider ones
              refine ⟨front, middle ++ ('>' : Point) :: (behind ++ q.mark ::
                (name.text ++ ('<' : Point) :: arguments.text)), [], ?_, hbrackets.no_open,
                List.not_mem_nil, hbrackets.front_name, fun _ => rfl, fun hplain => nomatch hplain⟩
              rw [TypeRef.text, hbrackets.text_eq, Segment.text]
              simp only [List.append_assoc, List.cons_append]
              rfl
      | none =>
          rw [houter, Option.none_or] at h
          obtain ⟨hopen, -⟩ := outer.not_mem_of_firstApplied houter
          cases segment with
          | plain name => exact nomatch h
          | applied name arguments =>
              obtain rfl : Segment.applied name arguments = first := Option.some.inj h
              refine ⟨outer.text ++ q.mark :: name.text, arguments.text, [], ?_, ?_,
                List.not_mem_nil, unqualified_append _ q name, fun _ => rfl,
                fun hplain => nomatch hplain⟩
              · rw [TypeRef.text, Segment.text, List.append_assoc, List.cons_append]
                rfl
              · rw [List.mem_append, List.mem_cons, not_or, not_or]
                exact ⟨hopen, q.mark_ne.1.symm, name.not_mem (by decide)⟩

/-- Without arguments anywhere, the last identifier is what is left without qualification. -/
theorem TypeRef.unqualified_text (type : TypeRef) (h : type.last.isApplied = false) :
    unqualified type.text = type.last.name.text := by
  cases type with
  | single segment =>
      cases segment with
      | plain name => exact unqualified_name name
      | applied name arguments => exact nomatch h
  | member outer q segment =>
      cases segment with
      | plain name => exact unqualified_append outer.text q name
      | applied name arguments => exact nomatch h

/-- The simple name of a type reference is the identifier of its last segment if that has no
arguments, and otherwise that of its outermost segment with arguments. So it is the last identifier
exactly if the last segment has no arguments or the outermost one that has any is of its name, as
the last segment itself is where no other has arguments. -/
theorem simpleName_text (type : TypeRef) :
    simpleName type.text =
        (if type.last.isApplied then type.firstApplied?.getD type.last else type.last).name.text ∧
      (simpleName type.text = type.last.name.text ↔ type.last.isApplied = false ∨
        ∃ first, type.firstApplied? = some first ∧ first.name.text = type.last.name.text) := by
  have hline := simpleName_of_line type.not_mem_text
  cases hfirst : type.firstApplied? with
  | none =>
      have hplain : type.last.isApplied = false :=
        Bool.eq_false_iff.2 (List.find?_eq_none.1 hfirst _ type.last_mem_segments)
      rw [hline, dropArguments_of_not_mem (type.not_mem_of_firstApplied hfirst).1,
        type.unqualified_text hplain, hplain]
      exact ⟨rfl, fun _ => .inl rfl, fun _ => rfl⟩
  | some first =>
      obtain ⟨front, middle, behind, hbrackets⟩ := type.exists_brackets hfirst
      have hname : simpleName type.text = unqualified (front ++ behind) := by
        rw [hline, hbrackets.text_eq,
          dropArguments_of_brackets middle hbrackets.no_open hbrackets.no_close]
      cases hlast : type.last.isApplied with
      | false =>
          rw [hname, hbrackets.behind_of_plain hlast]
          exact ⟨rfl, fun _ => .inl rfl, fun _ => rfl⟩
      | true =>
          rw [hname, hbrackets.behind_of_applied hlast, List.append_nil, hbrackets.front_name]
          refine ⟨rfl, fun h => .inr ⟨first, rfl, h⟩, ?_⟩
          rintro (hplain | ⟨found, hfound, h⟩)
          · exact nomatch hplain
          · obtain rfl : first = found := Option.some.inj hfound
            exact h

/-! ## The entry of a map -/

/-- The type arguments of a map, whose entry takes the same. -/
def mapArguments : TypeArguments :=
  .more (.single (.plain ⟨"K", by decide, by decide⟩)) 1
    (.last (.single (.plain ⟨"V", by decide, by decide⟩)))

/-- The type of the entries of a map, with the arguments of both. -/
def mapEntryRef : TypeRef :=
  .member
    (.member
      (.member (.single (.plain ⟨"java", by decide, by decide⟩)) .point
        (.plain ⟨"util", by decide, by decide⟩))
      .point (.applied ⟨"Map", by decide, by decide⟩ mapArguments))
    .point (.applied ⟨"Entry", by decide, by decide⟩ mapArguments)

/-- The entry of a map goes by the simple name of the map. -/
theorem simpleName_mapEntryRef :
    mapEntryRef.text = "java.util.Map<K, V>.Entry<K, V>" ∧
      mapEntryRef.last.name.text = "Entry" ∧ simpleName mapEntryRef.text = "Map" := by
  exact ⟨by decide, by decide, by decide⟩

end ProseGuard.Program
