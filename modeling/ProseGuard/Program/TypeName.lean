import ProseGuard.Text.Blank

/-!
# Type names

Names of types as programs write them: qualified by points, nested by dollar signs, with type
arguments between angle brackets and a pair of square brackets for an array. Main statement:
`afterLast_append`, which finds what stands behind the last separator.

Specification 3, type names: `simple_name` is `simpleName`, `is_array_type` is `isArrayName`,
`is_boolean_type` is `isBooleanName`, and `type_identifiers` is `typeWords`.
-/

namespace ProseGuard.Program

/-- What stands behind the last occurrence of a character; the whole text if there is none. -/
def afterLast (separator : Point) (text : Text) : Text :=
  (text.reverse.takeWhile fun c => c ≠ separator).reverse

/-- A line without what stands between its first opening angle bracket and the last closing one
behind it, brackets included. -/
def dropArguments (line : Text) : Text :=
  let rest := line.dropWhile fun c : Point => c ≠ '<'
  if rest.contains '>' then (line.takeWhile fun c : Point => c ≠ '<') ++ afterLast '>' rest
  else line

/-- The name without qualification, enclosing types and type arguments. -/
def simpleName (name : Text) : Text :=
  let lines := (Text.splitWhere (fun c : Point => c = '\n') name).map dropArguments
  afterLast '$' (afterLast '.' (Text.join "\n" lines))

/-- Whether the name is that of an array type. -/
def isArrayName (name : Text) : Bool :=
  ("[]" : Text).isSuffixOf name

/-- The names of the types of truth values. -/
def booleanNames : List Text := ["boolean", "java.lang.Boolean", "Boolean"]

/-- Whether the name is that of a type of truth values. -/
def isBooleanName (name : Text) : Bool :=
  booleanNames.contains name

/-- Whether a word of mixed case starts here: a capital and a small letter, both ASCII. -/
def startsHump : Text → Bool
  | c :: d :: _ => 'A' ≤ c && c ≤ 'Z' && 'a' ≤ d && d ≤ 'z'
  | _ => false

/-- The text from its last capitalised word on. -/
def lastHump? : Text → Option (Text)
  | [] => none
  | c :: cs =>
    match lastHump? cs with
    | some hump => some hump
    | none => if startsHump (c :: cs) then some (c :: cs) else none

/-- The words that prose uses for a type: its simple name and the last capitalised word in it. -/
def typeWords (name : Text) : List Text :=
  let simple := simpleName name
  match lastHump? simple.tail with
  | some hump => [simple, hump]
  | none => [simple]

/-- Behind the last separator stands the text that follows it, if that holds no other. -/
theorem afterLast_append {separator : Point} {before after : Text} (h : separator ∉ after) :
    afterLast separator (before ++ separator :: after) = after := by
  have hall : ∀ c ∈ after.reverse, decide (c ≠ separator) = true := by
    intro c hc
    simp only [List.mem_reverse] at hc
    simpa using fun heq : c = separator => h (heq ▸ hc)
  rw [afterLast, List.reverse_append, List.reverse_cons, List.append_assoc,
    List.takeWhile_append_of_pos hall]
  simp

/-- A text without the separator is its own last part. -/
theorem afterLast_of_not_mem {separator : Point} {text : Text} (h : separator ∉ text) :
    afterLast separator text = text := by
  have hall : ∀ c ∈ text.reverse, decide (c ≠ separator) = true := by
    intro c hc
    simp only [List.mem_reverse] at hc
    simpa using fun heq : c = separator => h (heq ▸ hc)
  have htake : (text.reverse.takeWhile fun c => c ≠ separator) =
      text.reverse ++ [].takeWhile fun c => c ≠ separator := by
    rw [← List.takeWhile_append_of_pos hall, List.append_nil]
  rw [afterLast, htake, List.takeWhile_nil, List.append_nil, List.reverse_reverse]

end ProseGuard.Program
