import Mathlib.Data.List.Induction
import ProseGuard.Proofs.Text.Search

/-!
# Insertion before phrases

Phrases none of which begins within another do not overlap in any text (`Isolated.apart`). If in
addition what is inserted neither holds nor completes a phrase (`Separates`), inserting before one
phrase after the other comes to inserting before all of them at once. `insertBeforeEach_concat` is
the step, and main statements are `foldl_replaceAll` and `place_iff`, by which each phrase
finds its turn at the places where it stood at first.
-/

namespace ProseGuard.Text

/-- Whether one of the phrases begins the text. -/
def startsWithAny (phrases : List Text) (text : Text) : Bool :=
  phrases.any fun phrase => phrase.isPrefixOf text

/-- Puts a text before every place at which one of the phrases begins. -/
def insertBeforeEach (inserted : Text) (phrases : List Text) : Text → Text
  | [] => []
  | c :: cs =>
    if startsWithAny phrases (c :: cs) then inserted ++ c :: insertBeforeEach inserted phrases cs
    else c :: insertBeforeEach inserted phrases cs

/-- No phrase is empty, and none begins within another or where another one does. -/
structure Isolated (phrases : List Text) : Prop where
  ne_nil : ∀ phrase ∈ phrases, phrase ≠ []
  whole : ∀ phrase ∈ phrases, ∀ tail, tail <:+ phrase → tail ≠ [] → ∀ other ∈ phrases,
    tail <+: other ∨ other <+: tail → tail = phrase ∧ phrase = other

/-- What is put before a phrase makes no other one: none goes on into it, and none begins in it. -/
structure Separates (inserted : Text) (phrases : List Text) : Prop where
  not_entered : ∀ start tail, start ++ tail ∈ phrases → start ≠ [] → tail ≠ [] →
    ∀ phrase ∈ phrases, ∀ rest, ¬ tail <+: inserted ++ (phrase ++ rest)
  not_left : ∀ part, part <:+ inserted → part ≠ [] → ∀ phrase ∈ phrases, ∀ other ∈ phrases,
    ∀ rest, ¬ phrase <+: part ++ (other ++ rest)

/-- Of two places at which phrases stand in a text, one is behind the phrase at the other, unless
place and phrase are the same. -/
def Apart (phrases : List Text) (text : Text) : Prop :=
  ∀ phrase ∈ phrases, ∀ other ∈ phrases, ∀ before behind before' behind',
    text = before ++ (phrase ++ behind) → text = before' ++ (other ++ behind') →
      (before = before' ∧ phrase = other) ∨ before ++ phrase <+: before' ∨
        before' ++ other <+: before

variable {inserted : Text} {phrases : List Text}

theorem startsWithAny_iff {text : Text} :
    startsWithAny phrases text ↔ ∃ phrase ∈ phrases, phrase <+: text := by
  simp [startsWithAny]

theorem startsWithAny_eq_false_iff {text : Text} :
    startsWithAny phrases text = false ↔ ∀ phrase ∈ phrases, ¬ phrase <+: text := by
  simp [startsWithAny]

theorem startsWithAny_singleton {phrase text : Text} :
    startsWithAny [phrase] text = false ↔ ¬ phrase <+: text := by
  simp [startsWithAny_eq_false_iff]

/-! ## Overlaps -/

section Isolated

variable (h : Isolated phrases)

include h

/-- Some of the phrases are isolated as well. -/
theorem Isolated.of_subset {part : List Text} (hpart : part ⊆ phrases) : Isolated part where
  ne_nil phrase hphrase := h.ne_nil phrase (hpart hphrase)
  whole phrase hphrase tail htail hne other hother :=
    h.whole phrase (hpart hphrase) tail htail hne other (hpart hother)

/-- No phrase begins behind the start of another one and within it. -/
theorem Isolated.not_within {start tail phrase rest : Text} (hmem : start ++ tail ∈ phrases)
    (hstart : start ≠ []) (htail : tail ≠ []) (hphrase : phrase ∈ phrases)
    (hwithin : phrase <+: tail ++ rest) : False := by
  have halike := List.prefix_or_prefix_of_prefix hwithin (List.prefix_append tail rest)
  obtain ⟨hwhole, -⟩ := h.whole _ hmem tail (List.suffix_append start tail) htail phrase hphrase
    halike.symm
  exact hstart (List.append_left_eq_self.1 hwhole.symm)

/-- At most one phrase begins at a place. -/
theorem Isolated.eq_of_prefix {phrase other text : Text} (hphrase : phrase ∈ phrases)
    (hother : other ∈ phrases) (hfirst : phrase <+: text) (hsecond : other <+: text) :
    phrase = other :=
  (h.whole phrase hphrase phrase List.suffix_rfl (h.ne_nil phrase hphrase) other hother
    (List.prefix_or_prefix_of_prefix hfirst hsecond)).2

/-- Such phrases do not overlap. -/
theorem Isolated.apart (text : Text) : Apart phrases text := by
  intro phrase hphrase other hother before behind before' behind' hfound hfound'
  have heq := hfound.symm.trans hfound'
  -- one of two places is the first: between them stands `gap`, which the phrase there fills
  have hfirst : ∀ {p q b d gap : Text}, p ∈ phrases → q ∈ phrases → p ++ b = gap ++ (q ++ d) →
      (gap = [] ∧ p = q) ∨ p <+: gap := by
    intro p q b d gap hp hq hgap
    rcases List.append_eq_append_iff.1 hgap with ⟨rest, rfl, -⟩ | ⟨tail, rfl, htail⟩
    · exact .inr (List.prefix_append p rest)
    · by_cases hempty : gap = []
      · subst hempty
        exact .inl ⟨rfl, h.eq_of_prefix hp hq (List.prefix_append _ b) ⟨d, hgap.symm⟩⟩
      · refine .inr ?_
        by_cases hwithin : tail = []
        · exact ⟨[], by rw [hwithin, List.append_nil, List.append_nil]⟩
        · exact (h.not_within hp hempty hwithin hq ⟨d, htail⟩).elim
  rcases List.append_eq_append_iff.1 heq with ⟨gap, rfl, hgap⟩ | ⟨gap, rfl, hgap⟩
  · rcases hfirst hphrase hother hgap with ⟨rfl, rfl⟩ | hprefix
    · exact .inl ⟨(List.append_nil before).symm, rfl⟩
    · exact .inr (.inl ((List.prefix_append_right_inj before).2 hprefix))
  · rcases hfirst hother hphrase hgap with ⟨rfl, rfl⟩ | hprefix
    · exact .inl ⟨List.append_nil before', rfl⟩
    · exact .inr (.inr ((List.prefix_append_right_inj before').2 hprefix))

end Isolated

/-! ## Insertion before one phrase -/

/-- Where no phrase begins, a text is passed over. -/
theorem insertBeforeEach_append {text rest : Text}
    (h : ∀ part, part <:+ text → part ≠ [] → startsWithAny phrases (part ++ rest) = false) :
    insertBeforeEach inserted phrases (text ++ rest) =
      text ++ insertBeforeEach inserted phrases rest := by
  induction text with
  | nil => rfl
  | cons c cs ih =>
      have hnot := h (c :: cs) List.suffix_rfl (List.cons_ne_nil c cs)
      rw [List.cons_append] at hnot
      rw [List.cons_append, insertBeforeEach, hnot, if_neg Bool.false_ne_true,
        ih fun part hpart => h part (hpart.trans (List.suffix_cons c cs)), List.cons_append]

/-- A text in which no phrase stands is left as it is. -/
theorem insertBeforeEach_of_absent {text : Text} (h : ∀ phrase ∈ phrases, ¬ phrase <:+: text) :
    insertBeforeEach inserted phrases text = text := by
  induction text with
  | nil => rfl
  | cons c cs ih =>
      have hnot : startsWithAny phrases (c :: cs) = false :=
        startsWithAny_eq_false_iff.2 fun phrase hphrase hprefix =>
          h phrase hphrase hprefix.isInfix
      rw [insertBeforeEach, hnot, if_neg Bool.false_ne_true,
        ih fun phrase hphrase hoccurs => h phrase hphrase (List.infix_cons hoccurs)]

/-- A phrase that is met is led by the inserted text. -/
theorem insertBeforeEach_phrase {phrase : Text} (h : Isolated phrases) (hphrase : phrase ∈ phrases)
    (rest : Text) :
    insertBeforeEach inserted phrases (phrase ++ rest) =
      inserted ++ (phrase ++ insertBeforeEach inserted phrases rest) := by
  obtain ⟨c, cs, rfl⟩ := List.exists_cons_of_ne_nil (h.ne_nil phrase hphrase)
  have hstarts : startsWithAny phrases (c :: (cs ++ rest)) :=
    startsWithAny_iff.2 ⟨c :: cs, hphrase, List.prefix_append (c :: cs) rest⟩
  have hbehind : insertBeforeEach inserted phrases (cs ++ rest) =
      cs ++ insertBeforeEach inserted phrases rest := by
    refine insertBeforeEach_append fun part ⟨start, hpart⟩ hne =>
      startsWithAny_eq_false_iff.2 fun other hother hprefix => ?_
    have hmem : (c :: start) ++ part ∈ phrases := by rwa [List.cons_append, hpart]
    exact h.not_within hmem (List.cons_ne_nil c start) hne hother hprefix
  rw [List.cons_append, insertBeforeEach, if_pos hstarts, hbehind, List.cons_append]

/-- Replacing a phrase by itself with a lead is inserting the lead. -/
theorem replaceAll_eq_insertBeforeEach {phrase : Text} (h : Isolated [phrase]) (text : Text) :
    replaceAll phrase (inserted ++ phrase) text = insertBeforeEach inserted [phrase] text := by
  have hmem : phrase ∈ [phrase] := List.mem_singleton_self phrase
  induction hlength : text.length using Nat.strongRecOn generalizing text with
  | ind n ih =>
      by_cases hstart : phrase <+: text
      · obtain ⟨rest, rfl⟩ := hstart
        have hshort : rest.length < n := by
          have := List.length_pos_iff.2 (h.ne_nil phrase hmem)
          rw [List.length_append] at hlength
          omega
        rw [replaceAll_append_self (h.ne_nil phrase hmem), insertBeforeEach_phrase h hmem,
          ih rest.length hshort rest rfl, List.append_assoc]
      · cases text with
        | nil => rfl
        | cons c cs =>
            have hnot : ∀ part, part <:+ [c] → part ≠ [] → ¬ phrase <+: part ++ cs := by
              intro part hpart hne
              rcases List.suffix_cons_iff.1 hpart with rfl | hpart
              · exact hstart
              · exact absurd (List.suffix_nil.1 hpart) hne
            have hstarts : ∀ part, part <:+ [c] → part ≠ [] →
                startsWithAny [phrase] (part ++ cs) = false :=
              fun part hpart hne => startsWithAny_singleton.2 (hnot part hpart hne)
            have hshort : cs.length < n := by
              rw [← hlength]
              exact Nat.lt_succ_self _
            rw [← List.singleton_append, replaceAll_append_of_forall cs hnot,
              insertBeforeEach_append hstarts, ih cs.length hshort cs rfl]

/-! ## Insertion before several phrases -/

/-- Behind the place at hand the insertion goes on with what follows. -/
theorem exists_insertBeforeEach_cons (inserted : Text) (phrases : List Text) (c : Point)
    (cs : Text) :
    ∃ lead, insertBeforeEach inserted phrases (c :: cs) =
      lead ++ c :: insertBeforeEach inserted phrases cs := by
  rw [insertBeforeEach]
  split
  · exact ⟨inserted, rfl⟩
  · exact ⟨[], rfl⟩

/-- What becomes of the end of a text is an end of what becomes of the text. -/
theorem insertBeforeEach_suffix {part text : Text} (h : part <:+ text) :
    insertBeforeEach inserted phrases part <:+ insertBeforeEach inserted phrases text := by
  induction text with
  | nil =>
      obtain rfl := List.suffix_nil.1 h
      exact List.suffix_rfl
  | cons c cs ih =>
      rcases List.suffix_cons_iff.1 h with rfl | h
      · exact List.suffix_rfl
      · obtain ⟨lead, hlead⟩ := exists_insertBeforeEach_cons inserted phrases c cs
        rw [hlead]
        exact (ih h).trans ((List.suffix_cons c _).trans (List.suffix_append lead _))

section Separates

variable {done : List Text} (h : Isolated phrases) (hseparates : Separates inserted phrases)
  (hdone : done ⊆ phrases)

include h hseparates hdone

/-- The rest of a phrase that has begun stands before a text exactly if it stands before what has
become of the text. -/
theorem prefix_insertBeforeEach_iff {start tail : Text} (hmem : start ++ tail ∈ phrases)
    (hstart : start ≠ []) (text : Text) :
    tail <+: insertBeforeEach inserted done text ↔ tail <+: text := by
  induction text generalizing start tail with
  | nil => rfl
  | cons c cs ih =>
      cases tail with
      | nil => simp
      | cons d ds =>
          rw [insertBeforeEach]
          split
          · next hstarts =>
              -- neither goes on: what is inserted cannot be entered, and no phrase begins within
              obtain ⟨phrase, hphrase, hprefix⟩ := startsWithAny_iff.1 hstarts
              have hphrase := hdone hphrase
              refine iff_of_false (fun hentered => ?_) fun hthere => ?_
              · obtain ⟨e, es, rfl⟩ := List.exists_cons_of_ne_nil (h.ne_nil phrase hphrase)
                obtain ⟨rfl, hrest⟩ := List.cons_prefix_cons.1 hprefix
                have hkept : es <+: insertBeforeEach inserted done cs :=
                  (ih (hphrase : [e] ++ es ∈ phrases) (List.cons_ne_nil e [])).2 hrest
                obtain ⟨rest, hrest⟩ := hkept
                rw [← hrest] at hentered
                exact hseparates.not_entered start (d :: ds) hmem hstart (List.cons_ne_nil d ds)
                  (e :: es) hphrase rest hentered
              · obtain ⟨rest, hrest⟩ := hthere
                rw [← hrest] at hprefix
                exact h.not_within hmem hstart (List.cons_ne_nil d ds) hphrase hprefix
          · have hnext : (start ++ [d]) ++ ds ∈ phrases := by simpa using hmem
            rw [List.cons_prefix_cons, List.cons_prefix_cons,
              ih hnext (List.append_ne_nil_of_right_ne_nil start (List.cons_ne_nil d []))]

/-- A phrase begins at a place exactly if it begins at what the place has become, the lead at the
place itself left out. -/
theorem phrase_prefix_iff {phrase : Text} (hphrase : phrase ∈ phrases) (c : Point) (cs : Text) :
    phrase <+: c :: insertBeforeEach inserted done cs ↔ phrase <+: c :: cs := by
  obtain ⟨d, ds, rfl⟩ := List.exists_cons_of_ne_nil (h.ne_nil phrase hphrase)
  have hbegun : [d] ++ ds ∈ phrases := hphrase
  rw [List.cons_prefix_cons, List.cons_prefix_cons,
    prefix_insertBeforeEach_iff h hseparates hdone hbegun (List.cons_ne_nil d [])]

/-- In a lead that was put before a phrase no phrase begins. -/
theorem not_prefix_of_lead {phrase other part : Text} (hphrase : phrase ∈ phrases)
    (hother : other ∈ phrases) {c : Point} {cs : Text} (hthere : other <+: c :: cs)
    (hpart : part <:+ inserted) (hne : part ≠ []) :
    ¬ phrase <+: part ++ c :: insertBeforeEach inserted done cs := by
  obtain ⟨rest, hrest⟩ := (phrase_prefix_iff h hseparates hdone hother c cs).2 hthere
  rw [← hrest]
  exact hseparates.not_left part hpart hne phrase hphrase other hother rest

/-- Inserting before one phrase more after the others is inserting before all of them at once. -/
theorem insertBeforeEach_concat {phrase : Text} (hphrase : phrase ∈ phrases)
    (hnew : phrase ∉ done) (text : Text) :
    insertBeforeEach inserted [phrase] (insertBeforeEach inserted done text) =
      insertBeforeEach inserted (done ++ [phrase]) text := by
  induction text with
  | nil => rfl
  | cons c cs ih =>
      have hthis : startsWithAny [phrase] (c :: insertBeforeEach inserted done cs) =
          startsWithAny [phrase] (c :: cs) := by
        rw [Bool.eq_iff_iff, startsWithAny_iff, startsWithAny_iff]
        simpa using phrase_prefix_iff h hseparates hdone hphrase c cs
      have hall : startsWithAny (done ++ [phrase]) (c :: cs) =
          (startsWithAny done (c :: cs) || startsWithAny [phrase] (c :: cs)) := by
        simp [startsWithAny]
      rw [insertBeforeEach, insertBeforeEach, hall]
      by_cases hstarts : startsWithAny done (c :: cs)
      · -- the place has its lead, and the phrase at hand begins neither in the lead nor behind it
        obtain ⟨other, hother, hthere⟩ := startsWithAny_iff.1 hstarts
        have hnot : startsWithAny [phrase] (c :: cs) = false :=
          startsWithAny_singleton.2 fun hprefix =>
            hnew (h.eq_of_prefix hphrase (hdone hother) hprefix hthere ▸ hother)
        have hlead : ∀ part, part <:+ inserted → part ≠ [] →
            startsWithAny [phrase] (part ++ c :: insertBeforeEach inserted done cs) = false := by
          intro part hpart hne
          exact startsWithAny_singleton.2
            (not_prefix_of_lead h hseparates hdone hphrase (hdone hother) hthere hpart hne)
        rw [if_pos hstarts, hstarts, Bool.true_or, if_pos rfl, insertBeforeEach_append hlead,
          insertBeforeEach, hthis, hnot, if_neg Bool.false_ne_true, ih]
      · rw [if_neg hstarts, Bool.eq_false_iff.2 hstarts, Bool.false_or, insertBeforeEach, hthis, ih]

omit hdone in
/-- Inserting before one phrase after the other is inserting before all of them at once. -/
theorem foldl_replaceAll (hnodup : done.Nodup) (hdone : done ⊆ phrases) (text : Text) :
    done.foldl (fun text phrase => replaceAll phrase (inserted ++ phrase) text) text =
      insertBeforeEach inserted done text := by
  induction done using List.reverseRecOn with
  | nil =>
      have hnone : ∀ part : Text, part <:+ text → part ≠ [] →
          startsWithAny [] (part ++ []) = false := fun _ _ _ => rfl
      rw [List.foldl_nil, ← List.append_nil text, insertBeforeEach_append hnone]
      rfl
  | append_singleton before phrase ih =>
      rw [List.nodup_append] at hnodup
      have hphrase : phrase ∈ phrases := hdone (by simp)
      have hbefore : before ⊆ phrases := fun p hp => hdone (List.mem_append_left _ hp)
      have halone : Isolated [phrase] := h.of_subset (by simpa using hphrase)
      rw [List.foldl_append, List.foldl_cons, List.foldl_nil, ih hnodup.1 hbefore,
        replaceAll_eq_insertBeforeEach halone,
        insertBeforeEach_concat h hseparates hbefore hphrase fun hmem => ?_]
      exact hnodup.2.2 phrase hmem phrase (List.mem_singleton_self phrase) rfl

/-- The places at which a phrase stands when others have had their turn are those at which it stood
at first. -/
theorem place_iff {phrase : Text} (hphrase : phrase ∈ phrases) (hnew : phrase ∉ done)
    {text place : Text} :
    (place <:+ insertBeforeEach inserted done text ∧ phrase <+: place) ↔
      ∃ origin, origin <:+ text ∧ phrase <+: origin ∧
        place = insertBeforeEach inserted done origin := by
  -- where the phrase stands no other one does, so nothing is put before it by the others
  have hplain : ∀ {c : Point} {cs : Text}, phrase <+: c :: cs →
      insertBeforeEach inserted done (c :: cs) = c :: insertBeforeEach inserted done cs := by
    intro c cs hprefix
    rw [insertBeforeEach, if_neg]
    intro hstarts
    obtain ⟨other, hother, hthere⟩ := startsWithAny_iff.1 hstarts
    exact hnew (h.eq_of_prefix hphrase (hdone hother) hprefix hthere ▸ hother)
  constructor
  · rintro ⟨hplace, hprefix⟩
    induction text with
    | nil =>
        obtain rfl := List.suffix_nil.1 hplace
        exact absurd (List.prefix_nil.1 hprefix) (h.ne_nil phrase hphrase)
    | cons c cs ih =>
        by_cases hbehind : place <:+ insertBeforeEach inserted done cs
        · obtain ⟨origin, horigin, hrest⟩ := ih hbehind
          exact ⟨origin, horigin.trans (List.suffix_cons c cs), hrest⟩
        · have hhere : c :: insertBeforeEach inserted done cs <:+ place := by
            obtain ⟨lead, hlead⟩ := exists_insertBeforeEach_cons inserted done c cs
            rw [hlead] at hplace
            rcases List.suffix_or_suffix_of_suffix hplace (List.suffix_append lead _) with h | h
            · rcases List.suffix_cons_iff.1 h with rfl | h
              · exact List.suffix_rfl
              · exact absurd h hbehind
            · exact h
          obtain ⟨part, rfl⟩ := hhere
          by_cases hpart : part = []
          · rw [hpart, List.nil_append] at hprefix ⊢
            have hthere := (phrase_prefix_iff h hseparates hdone hphrase c cs).1 hprefix
            exact ⟨c :: cs, List.suffix_rfl, hthere, (hplain hthere).symm⟩
          · -- a phrase would begin in what was put before another one
            rw [insertBeforeEach] at hplace
            split at hplace
            · next hstarts =>
                obtain ⟨other, hother, hthere⟩ := startsWithAny_iff.1 hstarts
                exact absurd hprefix (not_prefix_of_lead h hseparates hdone hphrase (hdone hother)
                  hthere (List.suffix_append_self_iff.1 hplace) hpart)
            · have hempty : part <:+ [] :=
                List.suffix_append_self_iff.1 (hplace.trans (List.suffix_append [] _))
              exact absurd (List.suffix_nil.1 hempty) hpart
  · rintro ⟨origin, horigin, hprefix, rfl⟩
    refine ⟨insertBeforeEach_suffix horigin, ?_⟩
    cases origin with
    | nil => exact absurd (List.prefix_nil.1 hprefix) (h.ne_nil phrase hphrase)
    | cons c cs =>
        rw [hplain hprefix]
        exact (phrase_prefix_iff h hseparates hdone hphrase c cs).2 hprefix

end Separates

end ProseGuard.Text
