import ProseGuard.Proofs.Guard.Readings
import ProseGuard.Proofs.Text.Search
import ProseGuard.Proofs.Text.Words

/-!
# Surroundings

Text around a comparison that has no say in how it reads (`IsNeutral`, `Surroundings`). Main
statement: `Surroundings.place_of_around_eq`, by which a pattern without spaces is not divided by
the end of the surroundings.
-/

namespace ProseGuard.Guard

open Text (isWordChar isAsciiDigit isBlank)

/-- A word stands in a text, and no character of words is beside it. -/
def HoldsWord (text word : Text) : Prop :=
  ∃ before behind, text = before ++ (word ++ behind) ∧
    (∀ c ∈ before.getLast?, isWordChar c = false) ∧ ∀ c ∈ behind.head?, isWordChar c = false

/-- A text says nothing of a value: it holds no digit, no word of the catalogue, none behind "non"
and no phrase for a relation. -/
structure IsNeutral (text : Text) : Prop where
  no_digit : ∀ c ∈ text, ¬ isAsciiDigit c
  no_word : ∀ entry ∈ catalogue, ¬ HoldsWord text entry.1
  no_non : ∀ lead ∈ nonLeads, ∀ entry ∈ nonCatalogue, ¬ (lead ++ entry.1 : Text) <:+: text
  no_phrase : ∀ entry ∈ verbalRelations, ¬ entry.1 <:+: text

/-- A word that stands in a text is part of it. -/
theorem HoldsWord.isInfix {text word : Text} (h : HoldsWord text word) : word <:+: text := by
  obtain ⟨before, behind, rfl, -⟩ := h
  exact List.infix_append' before word behind

/-- A text says nothing if the letters of words, of "non" and of phrases do not occur in it at
all. -/
theorem IsNeutral.of_absent {text : Text} (hdigit : ∀ c ∈ text, ¬ isAsciiDigit c)
    (hword : ∀ entry ∈ catalogue, ¬ entry.1 <:+: text) (hnon : ¬ ("non" : Text) <:+: text)
    (hphrase : ∀ entry ∈ verbalRelations, ¬ entry.1 <:+: text) : IsNeutral text where
  no_digit := hdigit
  no_word entry hentry hholds := hword entry hentry hholds.isInfix
  no_non lead hlead entry _ hpart := by
    have hall : ∀ lead ∈ nonLeads, ("non" : Text) <+: lead := by decide
    have hstart : ("non" : Text) <+: lead ++ entry.1 :=
      (hall lead hlead).trans (List.prefix_append lead entry.1)
    exact hnon (hstart.isInfix.trans hpart)
  no_phrase := hphrase

/-- Blanks around a text hold no word together with it that it does not hold. -/
theorem HoldsWord.of_margins {left right text word : Text} (h : HoldsWord text word)
    (hleft : ∀ c ∈ left, isBlank c) (hright : ∀ c ∈ right, isBlank c) :
    HoldsWord (left ++ text ++ right) word := by
  obtain ⟨before, behind, rfl, hbefore, hbehind⟩ := h
  refine ⟨left ++ before, behind ++ right, by simp only [List.append_assoc], fun c hc => ?_,
    fun c hc => ?_⟩
  · cases before using List.reverseRecOn with
    | nil =>
        rw [List.append_nil] at hc
        exact Text.not_isWordChar_of_isBlank (hleft c (List.mem_of_getLast? hc))
    | append_singleton ds d =>
        exact hbefore c (by simpa using hc)
  · cases behind with
    | nil => exact Text.not_isWordChar_of_isBlank (hright c (List.mem_of_mem_head? hc))
    | cons d ds => exact hbehind c hc

/-- A text without the blanks around it says nothing either. -/
theorem IsNeutral.of_margins {left right text whole : Text} (h : IsNeutral whole)
    (hwhole : whole = left ++ text ++ right) (hleft : ∀ c ∈ left, isBlank c)
    (hright : ∀ c ∈ right, isBlank c) : IsNeutral text := by
  subst hwhole
  have hpart : text <:+: left ++ text ++ right := ⟨left, right, rfl⟩
  constructor
  · exact fun c hc => h.no_digit c (hpart.subset hc)
  · exact fun entry hentry hholds => h.no_word entry hentry (hholds.of_margins hleft hright)
  · exact fun lead hlead entry hentry hnon =>
      h.no_non lead hlead entry hentry (hnon.trans hpart)
  · exact fun entry hentry hphrase => h.no_phrase entry hentry (hphrase.trans hpart)

/-- What may stand around a comparison without a say in it. -/
structure Surroundings where
  before : Text
  behind : Text
  neutral_before : IsNeutral before
  neutral_behind : IsNeutral behind
  before_ends : ∀ c ∈ before.getLast?, c = ' '
  behind_begins : ∀ c ∈ behind.head?, c = ' '

namespace Surroundings

/-- A text in its surroundings. -/
def around (s : Surroundings) (middle : Text) : Text :=
  s.before ++ (middle ++ s.behind)

/-- The surroundings without the blanks at their outer ends. -/
def trimmed (s : Surroundings) : Surroundings where
  before := s.before.dropWhile isBlank
  behind := s.behind.rdropWhile isBlank
  neutral_before := by
    have hparts : s.before =
        s.before.takeWhile isBlank ++ s.before.dropWhile isBlank ++ [] := by simp
    exact s.neutral_before.of_margins hparts (fun c hc => List.mem_takeWhile_imp hc)
      fun c hc => absurd hc List.not_mem_nil
  neutral_behind := by
    have hparts : s.behind =
        [] ++ s.behind.rdropWhile isBlank ++ s.behind.rtakeWhile isBlank := by simp
    exact s.neutral_behind.of_margins hparts (fun c hc => absurd hc List.not_mem_nil)
      fun c hc => List.mem_rtakeWhile_imp hc
  before_ends c hc := by
    refine s.before_ends c ?_
    rw [← List.takeWhile_append_dropWhile (p := isBlank) (l := s.before)]
    exact List.mem_getLast?_append_of_mem_getLast? hc
  behind_begins c hc := by
    refine s.behind_begins c ?_
    rw [← List.rdropWhile_append_rtakeWhile (p := isBlank) (l := s.behind)]
    exact List.mem_head?_append_of_mem_head? hc

variable (s : Surroundings)

/-- Trimming takes blanks off at the outer ends. -/
theorem trimmed_around {middle : Text} (hne : middle ≠ [])
    (hfirst : ∀ c ∈ middle.head?, isBlank c = false)
    (hlast : ∀ c ∈ middle.getLast?, isBlank c = false) :
    Text.trimmed (s.around middle) = s.trimmed.around middle :=
  Text.trimWhere_around hne hfirst hlast s.before s.behind

/-- A pattern without spaces stands before, within or behind a text in its surroundings. -/
theorem place_of_around_eq {middle pattern passed rest : Text} (hspace : .char ' ' ∉ pattern)
    (h : s.around middle = passed ++ (pattern ++ rest)) :
    (∃ tail, s.before = passed ++ (pattern ++ tail) ∧ rest = tail ++ (middle ++ s.behind)) ∨
      (∃ left right, middle = left ++ (pattern ++ right) ∧ passed = s.before ++ left ∧
        rest = right ++ s.behind) ∨
      ∃ start, s.behind = start ++ (pattern ++ rest) ∧
        passed = s.before ++ (middle ++ start) := by
  have hbefore : ∀ c ∈ s.before.getLast?, c ∉ pattern :=
    fun c hc hmem => hspace (s.before_ends c hc ▸ hmem)
  have hbehind : ∀ c ∈ s.behind.head?, c ∉ pattern :=
    fun c hc hmem => hspace (s.behind_begins c hc ▸ hmem)
  rcases Text.beside_of_append_eq h (.inl hbefore) with hplace | ⟨left, rfl, hmiddle⟩
  · exact .inl hplace
  · rcases Text.beside_of_append_eq hmiddle (.inr hbehind) with
      ⟨right, hplace, hrest⟩ | ⟨start, rfl, hplace⟩
    · exact .inr (.inl ⟨left, right, hplace, rfl, hrest⟩)
    · exact .inr (.inr ⟨start, hplace, rfl⟩)

end Surroundings

end ProseGuard.Guard
