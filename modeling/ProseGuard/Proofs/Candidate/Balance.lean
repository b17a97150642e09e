import ProseGuard.Proofs.Candidate.Origin
import ProseGuard.Proofs.Guard.Outcome
import ProseGuard.Proofs.Program.Reach
import ProseGuard.Proofs.Text.Balance
import ProseGuard.Proofs.Text.Words

/-!
# Balanced expressions

Expressions are put together from the names of a program, and what is put between them is balanced.
Where the names are, so are the expressions of the candidates (`IsCandidate.balanced`) and of all
that can be reached from them (`balanced_of_mem_reachable`).
-/

namespace ProseGuard

open Program (TypeDecl Method Field)
open Comment (Member)
open Candidate (Element Kind Pool)

/-! ## Names without parentheses -/

namespace Program

/-- What stands behind the last separator is part of the text. -/
theorem afterLast_subset (separator : Point) (text : Text) : afterLast separator text ⊆ text := by
  intro c hc
  rw [afterLast, List.mem_reverse] at hc
  exact List.mem_reverse.1 ((List.takeWhile_sublist _).subset hc)

/-- Without its type arguments, a line is still part of itself. -/
theorem dropArguments_subset (line : Text) : dropArguments line ⊆ line := by
  intro c hc
  unfold dropArguments at hc
  simp only [] at hc
  split at hc
  · rcases List.mem_append.1 hc with hc | hc
    · exact (List.takeWhile_sublist _).subset hc
    · exact (List.dropWhile_sublist _).subset (afterLast_subset _ _ hc)
  · exact hc

/-- A type name without parentheses has a simple name without. -/
theorem isFlat_simpleName {name : Text} (h : name.IsFlat) : (simpleName name).IsFlat := by
  have hlines : ∀ c ∈ Text.join "\n"
      ((Text.splitWhere (fun c : Point => c = '\n') name).map dropArguments),
      c ∈ name ∨ c = '\n' := by
    intro c hc
    rcases Text.mem_join hc with hc | ⟨line, hline, hc⟩
    · exact .inr (List.mem_singleton.1 hc)
    · obtain ⟨whole, hwhole, rfl⟩ := List.mem_map.1 hline
      exact .inl (Text.mem_of_mem_splitWhere hwhole (dropArguments_subset whole hc))
  have hpart : ∀ c ∈ simpleName name, c ∈ name ∨ c = '\n' :=
    fun c hc => hlines c (afterLast_subset _ _ (afterLast_subset _ _ hc))
  exact ⟨fun hc => (hpart _ hc).elim h.no_open (by decide),
    fun hc => (hpart _ hc).elim h.no_close (by decide)⟩

end Program

namespace Candidate

/-- Expressions put together from balanced ones are balanced, whatever they denote. -/
theorem balanced_compose (kind : Kind) {name receiver : Text} {args : List Text}
    (hname : name.Balanced) (hreceiver : receiver.Balanced) (hargs : ∀ a ∈ args, a.Balanced) :
    (compose kind name receiver args).Balanced := by
  have hpoint : Text.Balanced "." := by decide
  have hcomma : Text.Balanced ", " := by decide
  have hcall : (receiver ++ "." ++ name ++ "(" ++ Text.join ", " args ++ ")").Balanced := by
    have henclosed : receiver ++ "." ++ name ++ "(" ++ Text.join ", " args ++ ")" =
        receiver ++ "." ++ name ++ Text.enclosed (Text.join ", " args) := by
      simp only [Text.enclosed, List.append_assoc]
    rw [henclosed]
    exact ((hreceiver.append hpoint).append hname).append (hcomma.join hargs).enclosed
  cases kind with
  | type => exact hreceiver
  | parameter => exact hname
  | method => exact hcall
  | staticMethod => exact hcall
  | field => exact (hreceiver.append hpoint).append hname
  | derived => exact hname

end Candidate

namespace Context

/-- The receiver is balanced, and so are all names that expressions are put together from: those of
the documented parameters, and of the methods and fields of the program. A static method is called
on the simple name of the type that declares it. -/
structure BalancedNames (ctx : Context) (member : Member) : Prop where
  receiver : ctx.receiver.Balanced
  parameters : ∀ p ∈ member.parameters, p.name.Balanced
  methods : ∀ t ∈ ctx.program.types, ∀ m ∈ t.methods, m.name.Balanced
  declarers : ∀ t ∈ ctx.program.types, ∀ m ∈ t.methods,
    (Program.simpleName m.declaringType).Balanced
  fields : ∀ t ∈ ctx.program.types, ∀ f ∈ t.fields, f.name.Balanced

variable {ctx : Context} {member : Member} {type : TypeDecl}

/-- Names without parentheses are balanced, and so are the simple names of types. -/
theorem BalancedNames.of_isFlat (hreceiver : ctx.receiver.IsFlat)
    (hparameters : ∀ p ∈ member.parameters, p.name.IsFlat)
    (hmethods : ∀ t ∈ ctx.program.types, ∀ m ∈ t.methods,
      m.name.IsFlat ∧ m.declaringType.IsFlat)
    (hfields : ∀ t ∈ ctx.program.types, ∀ f ∈ t.fields, f.name.IsFlat) :
    ctx.BalancedNames member where
  receiver := hreceiver.balanced
  parameters := fun p hp => (hparameters p hp).balanced
  methods := fun t ht m hm => (hmethods t ht m hm).1.balanced
  declarers := fun t ht m hm => (Program.isFlat_simpleName (hmethods t ht m hm).2).balanced
  fields := fun t ht f hf => (hfields t ht f hf).balanced

section Names

variable (hnames : ctx.BalancedNames member)

include hnames

/-- A parameter is written by its name or as an argument place. -/
theorem balanced_parameterExpression {i : Nat} {p : Program.Parameter}
    (hp : member.parameters[i]? = some p) : (ctx.parameterExpression p.name i).Balanced := by
  unfold parameterExpression
  split
  · exact hnames.parameters p (List.mem_of_getElem? hp)
  · have hopen : Text.Balanced "args[" := by decide
    have hclose : Text.Balanced "]" := by decide
    exact (hopen.append (Text.isFlat_toString i).balanced).append hclose

/-- What a call passes is the receiver or a parameter. -/
theorem IsArgument.balanced {t a : Text} (h : ctx.IsArgument member t a) : a.Balanced := by
  cases h with
  | receiver => exact hnames.receiver
  | parameter i p hp hother hfirst => exact balanced_parameterExpression hnames hp

/-- The methods of a known type have balanced names. -/
theorem balanced_name_of_mem_methods (htype : type ∈ ctx.program.types) {publicOnly : Bool}
    {m : Method} (hm : m ∈ ctx.program.methods type publicOnly) : m.name.Balanced := by
  obtain ⟨u, hu, hm⟩ := Program.exists_of_mem_methods htype hm
  exact hnames.methods u hu m hm

/-- So have the types that declare them. -/
theorem balanced_declarer_of_mem_methods (htype : type ∈ ctx.program.types) {publicOnly : Bool}
    {m : Method} (hm : m ∈ ctx.program.methods type publicOnly) :
    (Program.simpleName m.declaringType).Balanced := by
  obtain ⟨u, hu, hm⟩ := Program.exists_of_mem_methods htype hm
  exact hnames.declarers u hu m hm

/-- And so have its fields. -/
theorem balanced_name_of_mem_fields (htype : type ∈ ctx.program.types) {publicOnly : Bool}
    {f : Field} (hf : f ∈ ctx.program.fields type publicOnly) : f.name.Balanced := by
  obtain ⟨u, hu, hf⟩ := Program.exists_of_mem_fields htype hf
  exact hnames.fields u hu f hf

/-- Every candidate has a balanced expression. -/
theorem IsCandidate.balanced (htype : type ∈ ctx.program.types) {e : Element}
    (h : ctx.IsCandidate member type e) : e.expression.Balanced := by
  cases h with
  | type => exact hnames.receiver
  | parameter i p words hp =>
      rw [expression_parameterElement]
      exact balanced_parameterExpression hnames hp
  | call m args hm hargs =>
      have hname := balanced_name_of_mem_methods hnames htype hm
      have hall : ∀ a ∈ args, a.Balanced := by
        intro a ha
        obtain ⟨t, -, harg⟩ := Run.exists_of_mem_right hargs ha
        exact harg.balanced hnames
      unfold callElement
      split
      · exact Candidate.balanced_compose .staticMethod hname
          (balanced_declarer_of_mem_methods hnames htype hm) hall
      · exact Candidate.balanced_compose .method hname hnames.receiver hall
  | field f hf =>
      exact Candidate.balanced_compose .field (balanced_name_of_mem_fields hnames htype hf)
        hnames.receiver (List.forall_mem_nil Text.Balanced)

/-- What can be asked of a value with a balanced expression has a balanced one. -/
theorem balanced_of_mem_membersOf {receiver : Text} (hreceiver : receiver.Balanced)
    {typeName : Option Text} {e : Element} (h : e ∈ ctx.membersOf receiver typeName) :
    e.expression.Balanced := by
  have hnone := List.forall_mem_nil Text.Balanced
  rcases mem_membersOf_cases h with harray | ⟨name, u, -, -, -, hfind, hmember⟩
  · -- the length of an array, and whether it is zero
    rw [arrayMembers, List.mem_cons, List.mem_singleton] at harray
    have hempty : Text.Balanced ".length==0" := by decide
    have hlength : Text.Balanced ".length" := by decide
    rcases harray with rfl | rfl
    · exact hreceiver.append hempty
    · exact hreceiver.append hlength
  · have hu := Program.mem_of_find? hfind
    rcases List.mem_append.1 hmember with hfield | hmethod
    · obtain ⟨f, hf, rfl⟩ := List.mem_map.1 hfield
      exact Candidate.balanced_compose .field
        (balanced_name_of_mem_fields hnames hu (List.mem_filter.1 hf).1) hreceiver hnone
    · obtain ⟨m, hm, rfl⟩ := List.mem_map.1 hmethod
      exact Candidate.balanced_compose .method
        (balanced_name_of_mem_methods hnames hu (List.mem_filter.1 hm).1) hreceiver hnone

/-- The static tests of a value with a balanced expression have balanced ones. -/
theorem balanced_of_mem_staticTests {containingType : Text} {subject : Element}
    (hsubject : subject.expression.Balanced) {e : Element}
    (h : e ∈ ctx.staticTests containingType subject) : e.expression.Balanced := by
  unfold staticTests at h
  cases hfind : ctx.program.find? containingType with
  | none =>
      rw [hfind] at h
      exact absurd h List.not_mem_nil
  | some u =>
      rw [hfind] at h
      have hu := Program.mem_of_find? hfind
      obtain ⟨m, hm, rfl⟩ := List.mem_map.1 h
      have hmethod := (List.mem_filter.1 hm).1
      refine Candidate.balanced_compose .staticMethod
        (balanced_name_of_mem_methods hnames hu hmethod)
        (balanced_declarer_of_mem_methods hnames hu hmethod) fun a ha => ?_
      split at ha
      · exact absurd ha List.not_mem_nil
      · rwa [List.mem_singleton.1 ha]

/-- What can be reached from a subject with a balanced expression has a balanced one. -/
theorem balanced_of_mem_reachable {subject : Element} (hsubject : subject.expression.Balanced)
    {e : Element} (h : e ∈ ctx.reachable member subject) : e.expression.Balanced := by
  unfold reachable at h
  split at h
  · rcases List.mem_append.1 (mem_of_mem_distinctBy h) with h | h
    · exact balanced_of_mem_membersOf hnames hsubject h
    · exact balanced_of_mem_staticTests hnames hsubject h
  · exact balanced_of_mem_membersOf hnames hsubject (mem_of_mem_distinctBy h)
  · exact balanced_of_mem_membersOf hnames hsubject (mem_of_mem_distinctBy h)
  · exact balanced_of_mem_membersOf hnames hsubject (mem_of_mem_distinctBy h)
  · exact absurd h List.not_mem_nil
  · exact absurd h List.not_mem_nil

end Names

end Context

end ProseGuard
