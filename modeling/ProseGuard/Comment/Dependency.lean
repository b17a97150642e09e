import ProseGuard.Comment.Clause

/-!
# Dependency trees

What a grammatical analysis of a sentence says, given as a tree of words with labelled edges. The
root is the verb of the main clause, or its only phrase. Main statement: `Tree.subtree_node`,
which lists a tree in order.

Specification 4.6, the source backed by a parser: `proposition_from_root` is `Tree.proposition`.
-/

namespace ProseGuard.Comment

/-- A word of a sentence. -/
structure Token where
  text : Text
  /-- The place in the sentence. -/
  position : Int
  /-- How the word depends on the one above it. -/
  label : Text
  /-- The dictionary form. -/
  base : Text
deriving DecidableEq

/-- A word with the words that depend on it. -/
inductive Tree where
  | node (token : Token) (children : List Tree)

namespace Tree

/-- The word at the root. -/
def token : Tree → Token
  | node token _ => token

/-- The trees below the root. -/
def children : Tree → List Tree
  | node _ children => children

mutual

/-- The words of a tree, each before those that depend on it. -/
def subtree : Tree → List Token
  | node token children => token :: subtrees children

/-- The words of several trees. -/
def subtrees : List Tree → List Token
  | [] => []
  | tree :: trees => subtree tree ++ subtrees trees

end

/-- The words of several trees are those of each in turn. -/
theorem subtrees_eq_flatMap (trees : List Tree) : subtrees trees = trees.flatMap subtree := by
  induction trees with
  | nil => rfl
  | cons tree trees ih => simp [subtrees, ih]

/-- A tree's words are its root's and then those of its branches. -/
theorem subtree_node (token : Token) (children : List Tree) :
    (node token children).subtree = token :: children.flatMap subtree := by
  rw [subtree, subtrees_eq_flatMap]

end Tree

/-- The words in order of their places, separated by blanks. -/
def spanText (tokens : List Token) : Text :=
  Text.join " " ((tokens.mergeSort fun a b => a.position ≤ b.position).map (·.text))

/-- Labels of subjects. -/
def subjectLabels : List Text := ["nsubj", "nsubjpass", "csubj"]

/-- Labels of the branches that are not part of a predicate. -/
def skippedLabels : List Text :=
  subjectLabels ++ (["aux", "auxpass", "neg", "punct", "cc", "mark"] : List Text)

/-- Labels of the complements of a copula. -/
def complementLabels : List Text := ["acomp", "attr"]

namespace Tree

/-- Whether the root is a copula. -/
def isCopular (tree : Tree) : Bool :=
  tree.token.base = "be"

/-- The text of the first branch that is a subject and is not empty. -/
def subjectText (tree : Tree) : Text :=
  ((tree.children.filter fun child => subjectLabels.contains child.token.label).map
    fun child => spanText child.subtree).find? (fun span : Text => span ≠ "") |>.getD ""

/-- The words of the predicate: the branches that are part of it, and the root unless it is a
copula. -/
def predicateTokens (tree : Tree) : List Token :=
  (tree.children.filter fun child => !skippedLabels.contains child.token.label).flatMap subtree ++
    if tree.isCopular then [] else [tree.token]

/-- The word that heads the clause: the root, or the complement of a copula. -/
def headText (tree : Tree) : Text :=
  if tree.isCopular then
    ((tree.children.find? fun child => complementLabels.contains child.token.label).getD tree
      ).token.text
  else tree.token.text

/-- What a sentence says, from its analysis. -/
def proposition (tree : Tree) : Proposition where
  subject := tree.subjectText
  predicate := spanText tree.predicateTokens
  negated := tree.children.any fun child => child.token.label = "neg"
  head := tree.headText

end Tree

end ProseGuard.Comment
