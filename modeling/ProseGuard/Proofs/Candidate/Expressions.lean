import Mathlib.Data.List.Forall2
import ProseGuard.Proofs.Candidate.Balance

/-!
# Distinct expressions

Where names are identifiers, the expression of a candidate shows what it denotes. Its form tells the
object itself, a parameter, a call and an access to a field apart (`form_expression`), and what
stands between its marks are the names and arguments that it was put together from (`call_inj`).
Main statement: `expressions_nodup`, by which no two candidates have one expression.
-/

namespace ProseGuard

open Program (Parameter TypeDecl Method Field)
open Comment (Member)
open Candidate (Element Kind Pool)

/-! ## Identifiers -/

/-- A text that can be put into an expression as one word, as every identifier can: it is not empty
and holds none of the marks by which expressions are put together. -/
structure IsIdentifier (name : Text) : Prop where
  ne_empty : name ≠ ""
  no_mark : ∀ mark ∈ (".(,[" : Text), mark ∉ name

instance : DecidablePred IsIdentifier := fun name =>
  decidable_of_iff (name ≠ "" ∧ ∀ mark ∈ (".(,[" : Text), mark ∉ name)
    ⟨fun h => ⟨h.1, h.2⟩, fun h => ⟨h.1, h.2⟩⟩

namespace Text

variable {mark : Point}

/-- Texts that do not hold a mark are told apart from what follows the mark. -/
theorem append_cons_inj {a b c d : Text} (ha : mark ∉ a) (hb : mark ∉ b)
    (h : a ++ mark :: c = b ++ mark :: d) : a = b ∧ c = d := by
  induction a generalizing b with
  | nil =>
      cases b with
      | nil => exact ⟨rfl, (List.cons.inj h).2⟩
      | cons p b => exact absurd ((List.cons.inj h).1 ▸ List.mem_cons_self) hb
  | cons p a ih =>
      cases b with
      | nil => exact absurd ((List.cons.inj h).1 ▸ List.mem_cons_self) ha
      | cons q b =>
          obtain ⟨hfirst, hrest⟩ := List.cons.inj h
          obtain ⟨hab, hcd⟩ := ih (fun hp => ha (List.mem_cons_of_mem _ hp))
            (fun hp => hb (List.mem_cons_of_mem _ hp)) hrest
          exact ⟨by rw [hfirst, hab], hcd⟩

/-- Joined texts, with one more separator at the end, have a separator behind each. -/
theorem join_cons_append (separator a : Text) (as : List Text) :
    join separator (a :: as) ++ separator = (a :: as).flatMap (· ++ separator) := by
  induction as generalizing a with
  | nil => rw [join, List.intercalate_singleton, List.flatMap_singleton]
  | cons b bs ih =>
      rw [join, List.intercalate_cons_cons, List.append_assoc, ← join, ih]
      rfl

/-- Texts that do not hold a mark are told apart where each is followed by it. -/
theorem flatMap_inj {rest : Text} {as bs : List Text} (has : ∀ a ∈ as, mark ∉ a)
    (hbs : ∀ b ∈ bs, mark ∉ b)
    (h : as.flatMap (· ++ mark :: rest) = bs.flatMap (· ++ mark :: rest)) : as = bs := by
  have hcons : ∀ (a : Text) (more : List Text), (a :: more).flatMap (· ++ mark :: rest) =
      a ++ mark :: (rest ++ more.flatMap (· ++ mark :: rest)) := by
    intro a more
    rw [List.flatMap_cons, List.append_assoc, List.cons_append]
  induction as generalizing bs with
  | nil =>
      cases bs with
      | nil => rfl
      | cons b bs =>
          rw [hcons] at h
          exact absurd h.symm (List.append_ne_nil_of_right_ne_nil b (List.cons_ne_nil mark _))
  | cons a as ih =>
      cases bs with
      | nil =>
          rw [hcons] at h
          exact absurd h (List.append_ne_nil_of_right_ne_nil a (List.cons_ne_nil mark _))
      | cons b bs =>
          rw [hcons, hcons] at h
          obtain ⟨hab, hrest⟩ :=
            append_cons_inj (has a List.mem_cons_self) (hbs b List.mem_cons_self) h
          rw [hab, ih (fun c hc => has c (List.mem_cons_of_mem _ hc))
            (fun c hc => hbs c (List.mem_cons_of_mem _ hc)) (List.append_cancel_left hrest)]

/-- Joined texts are told apart if none is empty and none holds the first point of the separator. -/
theorem join_inj {rest : Text} {as bs : List Text} (has : ∀ a ∈ as, a ≠ [] ∧ mark ∉ a)
    (hbs : ∀ b ∈ bs, b ≠ [] ∧ mark ∉ b) (h : join (mark :: rest) as = join (mark :: rest) bs) :
    as = bs := by
  -- no texts at all are told apart from others because these are not empty
  have hempty : ∀ (a : Text) (more : List Text), a ≠ [] → join (mark :: rest) (a :: more) ≠ [] := by
    intro a more ha
    cases more with
    | nil => rwa [join, List.intercalate_singleton]
    | cons b bs =>
        rw [join, List.intercalate_cons_cons, List.append_assoc]
        exact List.append_ne_nil_of_left_ne_nil ha _
  cases as with
  | nil =>
      cases bs with
      | nil => rfl
      | cons b bs => exact absurd h.symm (hempty b bs (hbs b List.mem_cons_self).1)
  | cons a as =>
      cases bs with
      | nil => exact absurd h (hempty a as (has a List.mem_cons_self).1)
      | cons b bs =>
          have hall : (a :: as).flatMap (· ++ mark :: rest) =
              (b :: bs).flatMap (· ++ mark :: rest) := by
            rw [← join_cons_append, ← join_cons_append, h]
          exact flatMap_inj (fun c hc => (has c hc).2) (fun c hc => (hbs c hc).2) hall

end Text

/-! ## Forms -/

namespace Program

/-- What stands behind the last separator holds none. -/
theorem not_mem_afterLast (separator : Point) (text : Text) :
    separator ∉ afterLast separator text := by
  intro h
  rw [afterLast, List.mem_reverse] at h
  have hother := List.mem_takeWhile_imp (p := fun c => decide (c ≠ separator)) h
  exact of_decide_eq_true hother rfl

/-- A simple name is not qualified. -/
theorem not_mem_simpleName (name : Text) : ('.' : Point) ∉ simpleName name :=
  fun h => not_mem_afterLast '.' _ (afterLast_subset _ _ h)

end Program

namespace Candidate

/-- What an expression denotes: the object itself, a value by its name, a call or a field. -/
inductive Form where
  | object
  | value
  | call
  | access
deriving DecidableEq

/-- The form in which elements of a kind are expressed. -/
def Kind.form : Kind → Form
  | .type => .object
  | .parameter | .derived => .value
  | .method | .staticMethod => .call
  | .field => .access

/-- The form that can be seen of an expression. -/
def formOf (receiver expression : Text) : Form :=
  if expression = receiver then .object
  else if ('.' : Point) ∉ expression then .value
  else if ('(' : Point) ∈ expression then .call
  else .access

variable {qualifier other name name' : Text} {args args' : List Text}

/-- A call on an unqualified name tells the method and the arguments. -/
theorem call_inj (hqualifier : ('.' : Point) ∉ qualifier) (hother : ('.' : Point) ∉ other)
    (hname : ('(' : Point) ∉ name) (hname' : ('(' : Point) ∉ name')
    (hargs : ∀ a ∈ args, a ≠ [] ∧ (',' : Point) ∉ a)
    (hargs' : ∀ a ∈ args', a ≠ [] ∧ (',' : Point) ∉ a)
    (h : compose .method name qualifier args = compose .method name' other args') :
    name = name' ∧ args = args' := by
  have hcut : ∀ (q n : Text) (as : List Text), compose .method n q as =
      q ++ ('.' : Point) :: (n ++ ('(' : Point) :: (Text.join ", " as ++ ")")) := by
    intro q n as
    simp only [compose, List.append_assoc]
    rfl
  rw [hcut, hcut] at h
  obtain ⟨-, h⟩ := Text.append_cons_inj hqualifier hother h
  obtain ⟨hsame, h⟩ := Text.append_cons_inj hname hname' h
  exact ⟨hsame, Text.join_inj hargs hargs' (List.append_cancel_right h)⟩

end Candidate

namespace Context

/-- The receiver, the documented parameters, the methods and the fields have names that can be put
into an expression as words, and no two of the values in scope have one name. -/
structure PlainNames (ctx : Context) (member : Member) : Prop where
  receiver : IsIdentifier ctx.receiver
  parameters : ∀ p ∈ member.parameters, IsIdentifier p.name
  distinct : (member.parameters.map (·.name)).Nodup
  apart : ∀ p ∈ member.parameters, p.name ≠ ctx.receiver
  methods : ∀ t ∈ ctx.program.types, ∀ m ∈ t.methods, IsIdentifier m.name
  fields : ∀ t ∈ ctx.program.types, ∀ f ∈ t.fields, IsIdentifier f.name

variable {ctx : Context} {member : Member} {type : TypeDecl} {pool : Pool}

/-- A method is called on an unqualified name. -/
theorem exists_qualifier (hreceiver : IsIdentifier ctx.receiver) (m : Method) (args : List Text) :
    ∃ qualifier, ('.' : Point) ∉ qualifier ∧
      (ctx.callElement m args).expression = Candidate.compose .method m.name qualifier args := by
  unfold callElement
  split
  · exact ⟨_, Program.not_mem_simpleName m.declaringType, rfl⟩
  · exact ⟨_, hreceiver.no_mark '.' (by decide), rfl⟩

/-- A call has the form of a call, on whatever it is made. -/
theorem form_callElement (m : Method) (args : List Text) :
    (ctx.callElement m args).kind.form = .call := by
  rw [kind_callElement]
  split <;> rfl

section Names

variable (hnames : ctx.PlainNames member)

include hnames

/-! ## Parameters and arguments -/

/-- The expression of a parameter holds neither a point nor a comma. -/
theorem not_mem_parameterExpression {i : Nat} {p : Parameter} (hp : member.parameters[i]? = some p)
    {mark : Char} (hmark : mark = '.' ∨ mark = ',') :
    (mark : Point) ∉ ctx.parameterExpression p.name i := by
  obtain ⟨hname, hopen, hclose, hdigit, hminus⟩ :
      (mark : Point) ∈ (".(,[" : Text) ∧ (mark : Point) ∉ ("args[" : Text) ∧
        (mark : Point) ∉ ("]" : Text) ∧ ¬ mark.isDigit ∧ mark ≠ '-' := by
    rcases hmark with rfl | rfl <;> decide
  unfold parameterExpression
  split
  · exact (hnames.parameters p (List.mem_of_getElem? hp)).no_mark mark hname
  · rw [List.mem_append, List.mem_append]
    rintro ((h | h) | h)
    · exact hopen h
    · exact Text.not_mem_toString i hdigit hminus h
    · exact hclose h

/-- A parameter is not expressed as the object itself is. -/
theorem parameterExpression_ne_receiver {i : Nat} {p : Parameter}
    (hp : member.parameters[i]? = some p) : ctx.parameterExpression p.name i ≠ ctx.receiver := by
  unfold parameterExpression
  split
  · exact hnames.apart p (List.mem_of_getElem? hp)
  · intro h
    refine hnames.receiver.no_mark '[' (by decide) (h ▸ ?_)
    exact List.mem_append_left _ (List.mem_append_left _ (by decide))

/-- Parameters at different places are expressed differently. -/
theorem parameterExpression_inj {i j : Nat} {p q : Parameter}
    (hp : member.parameters[i]? = some p) (hq : member.parameters[j]? = some q)
    (h : ctx.parameterExpression p.name i = ctx.parameterExpression q.name j) : i = j := by
  unfold parameterExpression at h
  split at h
  · have hplace : ∀ {k : Nat} {r : Parameter}, member.parameters[k]? = some r →
        (member.parameters.map (·.name))[k]? = some r.name := by
      intro k r hr
      rw [List.getElem?_map, hr]
      rfl
    exact place_unique hnames.distinct (hplace hp) (h ▸ hplace hq)
  · have hnumber := List.append_cancel_left (List.append_cancel_right h)
    exact Int.ofNat_inj.1 (Text.toString_injective hnumber)

/-- What a call passes is not empty and holds no comma. -/
theorem IsArgument.single {t x : Text} (h : ctx.IsArgument member t x) :
    x ≠ [] ∧ (',' : Point) ∉ x := by
  cases h with
  | receiver => exact ⟨hnames.receiver.ne_empty, hnames.receiver.no_mark ',' (by decide)⟩
  | parameter i p hp hother hfirst =>
      refine ⟨?_, not_mem_parameterExpression hnames hp (.inr rfl)⟩
      unfold parameterExpression
      split
      · exact (hnames.parameters p (List.mem_of_getElem? hp)).ne_empty
      · exact List.append_ne_nil_of_right_ne_nil _ (by decide)

/-- A value is passed for parameters of one type only. -/
theorem leftUnique_isArgument : Relator.LeftUnique (ctx.IsArgument member) := by
  intro t u x ht hu
  cases ht with
  | receiver =>
      generalize hx : ctx.receiver = x at hu
      cases hu with
      | receiver => rfl
      | parameter i p hp hother hfirst =>
          exact absurd hx.symm (parameterExpression_ne_receiver hnames hp)
  | parameter i p hp hother hfirst =>
      generalize hx : ctx.parameterExpression p.name i = x at hu
      cases hu with
      | receiver => exact absurd hx (parameterExpression_ne_receiver hnames hp)
      | parameter j q hq _ _ =>
          obtain rfl := parameterExpression_inj hnames hp hq hx
          rw [Option.some.inj (hp.symm.trans hq)]

/-! ## Candidates -/

/-- The form of its expression tells the kind of a candidate. -/
theorem IsCandidate.form_expression (htype : type ∈ ctx.program.types) {e : Element}
    (h : ctx.IsCandidate member type e) :
    Candidate.formOf ctx.receiver e.expression = e.kind.form := by
  have hreceiver : ('.' : Point) ∉ ctx.receiver := hnames.receiver.no_mark '.' (by decide)
  cases h with
  | type => exact if_pos rfl
  | parameter i p words hp =>
      rw [expression_parameterElement, Candidate.formOf,
        if_neg (parameterExpression_ne_receiver hnames hp),
        if_pos (not_mem_parameterExpression hnames hp (.inl rfl))]
      rfl
  | call m args hm hargs =>
      obtain ⟨qualifier, -, hcall⟩ := exists_qualifier hnames.receiver m args
      have hpoint : ('.' : Point) ∈ (ctx.callElement m args).expression := by
        rw [hcall]
        simp [Candidate.compose, Text.ofString]
      have hopen : ('(' : Point) ∈ (ctx.callElement m args).expression := by
        rw [hcall]
        simp [Candidate.compose, Text.ofString]
      have hother : (ctx.callElement m args).expression ≠ ctx.receiver :=
        fun heq => hreceiver (heq ▸ hpoint)
      rw [Candidate.formOf, if_neg hother, if_neg (not_not_intro hpoint), if_pos hopen,
        form_callElement]
  | field f hf =>
      obtain ⟨u, hu, hmem⟩ := Program.exists_of_mem_fields htype hf
      have hpoint : ('.' : Point) ∈ ctx.receiver ++ "." ++ f.name := by
        simp [Text.ofString]
      have hopen : ('(' : Point) ∉ ctx.receiver ++ "." ++ f.name := by
        rw [List.mem_append, List.mem_append]
        rintro ((h | h) | h)
        · exact hnames.receiver.no_mark '(' (by decide) h
        · exact absurd h (by decide)
        · exact (hnames.fields u hu f hmem).no_mark '(' (by decide) h
      have hother : ctx.receiver ++ "." ++ f.name ≠ ctx.receiver :=
        fun heq => hreceiver (heq ▸ hpoint)
      show Candidate.formOf ctx.receiver (ctx.receiver ++ "." ++ f.name) = .access
      rw [Candidate.formOf, if_neg hother, if_neg (not_not_intro hpoint), if_neg hopen]

/-- Calls of methods of one type that have one expression are the same. -/
theorem callElement_inj (htype : type ∈ ctx.program.types) {m n : Method} {args args' : List Text}
    (hm : m ∈ ctx.program.methods type true) (hn : n ∈ ctx.program.methods type true)
    (hargs : List.Forall₂ (IsArgument ctx member) (Program.parameterTypes m.parameters) args)
    (hargs' : List.Forall₂ (IsArgument ctx member) (Program.parameterTypes n.parameters) args')
    (h : (ctx.callElement m args).expression = (ctx.callElement n args').expression) :
    ctx.callElement m args = ctx.callElement n args' := by
  have hname : ∀ m ∈ ctx.program.methods type true, ('(' : Point) ∉ m.name := by
    intro m hm
    obtain ⟨u, hu, hmem⟩ := Program.exists_of_mem_methods htype hm
    exact (hnames.methods u hu m hmem).no_mark '(' (by decide)
  have hsingle : ∀ {ts as : List Text}, List.Forall₂ (IsArgument ctx member) ts as →
      ∀ a ∈ as, a ≠ [] ∧ (',' : Point) ∉ a := by
    intro ts as hall a ha
    obtain ⟨t, -, harg⟩ := Run.exists_of_mem_right hall ha
    exact harg.single hnames
  obtain ⟨q, hq, hcall⟩ := exists_qualifier hnames.receiver m args
  obtain ⟨r, hr, hcall'⟩ := exists_qualifier hnames.receiver n args'
  rw [hcall, hcall'] at h
  obtain ⟨hmn, rfl⟩ := Candidate.call_inj hq hr (hname m hm) (hname n hn) (hsingle hargs)
    (hsingle hargs') h
  -- the arguments tell the types, by which overloads differ
  have htypes := List.left_unique_forall₂' (leftUnique_isArgument hnames) hargs hargs'
  rw [Program.method_unique hm hn hmn htypes]

/-- Candidates of one expression are the same. -/
theorem IsCandidate.identity_eq (htype : type ∈ ctx.program.types) {e f : Element}
    (he : ctx.IsCandidate member type e) (hf : ctx.IsCandidate member type f)
    (h : e.expression = f.expression) : e.identity = f.identity := by
  have hform : e.kind.form = f.kind.form := by
    rw [← he.form_expression hnames htype, ← hf.form_expression hnames htype, h]
  cases he with
  | type =>
      cases hf with
      | type => rfl
      | call n args' hn hargs' =>
          rw [form_callElement] at hform
          exact nomatch hform
      | _ => exact nomatch hform
  | parameter i p words hp =>
      cases hf with
      | parameter j q words' hq =>
          rw [expression_parameterElement, expression_parameterElement] at h
          obtain rfl := parameterExpression_inj hnames hp hq h
          obtain rfl : p = q := Option.some.inj (hp.symm.trans hq)
          rfl
      | call n args' hn hargs' =>
          rw [form_callElement] at hform
          exact nomatch hform
      | _ => exact nomatch hform
  | call m args hm hargs =>
      rw [form_callElement] at hform
      cases hf with
      | call n args' hn hargs' =>
          rw [callElement_inj hnames htype hm hn hargs hargs' h]
      | _ => exact nomatch hform
  | field g hg =>
      cases hf with
      | field k hk =>
          rw [Program.field_unique hg hk (List.append_cancel_left h)]
      | call n args' hn hargs' =>
          rw [form_callElement] at hform
          exact nomatch hform
      | _ => exact nomatch hform

/-- No two candidates of a member have the same expression, and so have none of those that a subject
names. -/
theorem expressions_nodup (hpool : (ctx.collect member).result = .ok pool) :
    (pool.elements.map (·.expression)).Nodup ∧
      ∀ subject, ∃ es, (ctx.matchSubject subject member).result = .ok es ∧
        (es.map (·.expression)).Nodup := by
  have hpool' : (pool.elements.map (·.expression)).Nodup := by
    rcases collect_cases hpool with rfl | ⟨type, executable, mined, hresolves, hmined, rfl⟩
    · exact .nil
    · refine List.Nodup.map_on (fun e he f hf h => ?_) (Pool.elements_nodup _)
      have htype := Program.mem_of_find? hresolves.type_found
      have he' := isCandidate_of_mem_offers hmined (Pool.of_mem_ofOffers he).1
      have hf' := isCandidate_of_mem_offers hmined (Pool.of_mem_ofOffers hf).1
      exact List.inj_on_of_nodup_map (Pool.distinct _) he hf
        (he'.identity_eq hnames htype hf' h)
  refine ⟨hpool', fun subject => ?_⟩
  rw [result_matchSubject, hpool, Run.ok_map]
  refine ⟨_, rfl, ?_⟩
  rw [Candidate.nearest_eq]
  exact hpool'.sublist (List.filter_sublist.map _)

end Names

/-- The expressions that the candidates of a range have. -/
theorem expressions_nodup_rangeMember :
    rangeContext.PlainNames rangeMember ∧
      (rangeContext.collect rangeMember).result = .ok rangePool ∧
      (rangePool.elements.map (·.expression)).Nodup := by
  have hnames : rangeContext.PlainNames rangeMember := by
    constructor <;> decide
  exact ⟨hnames, collect_rangeMember, (expressions_nodup hnames collect_rangeMember).1⟩

end Context

end ProseGuard
