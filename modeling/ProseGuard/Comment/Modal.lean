import ProseGuard.Text.Search

/-!
# Modal phrasing

A comment on a parameter mostly leaves out its subject: "must not be null". The name of the
parameter is put before every modal phrase, behind a mark that starts a new clause.

Specification 4.1, the phrase normalizer: `normalize` is `supplySubject`.
-/

namespace ProseGuard.Comment

/-- The modal phrases, in the order in which they are looked for. -/
def modals : List Text := [
  "must be", "must not be", "will be", "will not be", "can't be", "cannot be", "should be",
  "should not be", "shouldn't be", "may not be",
  "Must be", "Must not be", "Will be", "Will not be", "Can't be", "Cannot be", "Should be",
  "Should not be", "Shouldn't be", "May not be"]

/-- The phrase without a verb that stands for a modal one where there is none. -/
def verbless : Text := "not null"

/-- What separates a supplied subject from the text before it: a full stop, or a blank in a
comment with an opening parenthesis, which a full stop would cut in two. -/
def subjectLead (comment : Text) : Text :=
  if comment.contains '(' then " " else ". "

/-- Puts a text before every occurrence of a phrase. -/
def insertBefore (inserted phrase comment : Text) : Text :=
  Text.replaceAll phrase (inserted ++ phrase) comment

/-- The comment with the parameter as the subject of each modal phrase. -/
def supplySubject (parameter comment : Text) : Text :=
  if modals.any fun modal => Text.occurs modal comment then
    let inserted := subjectLead comment ++ parameter ++ " "
    modals.foldl (fun text modal => insertBefore inserted modal text) comment
  else insertBefore (". " ++ parameter ++ " is ") verbless comment

end ProseGuard.Comment
