import Kousei.Extract.Segment
import Kousei.Tree.ByteIndex

/-! # Syntax trees

    The syntax tree of a document as a parser gives it, and the candidates
    in it: the comments, the texts of HTML, and the string literals of
    Python that have three quotes.  Nothing below a candidate is looked at,
    nor what a script or a style element of HTML holds.

    The tree is walked with a list of the nodes that are still to be looked
    at, which needs no depth.  The walk finds what a recursion over the tree
    finds (`walk_eq`). -/

namespace Kousei

/-- A node: what it is, its first byte and the one after its last, and the
    nodes below it in the order of the document. -/
inductive Node where
  | mk (kind : String) (first last : Int) (children : List Node)
  deriving Inhabited

namespace Node

def kind : Node → String
  | mk k _ _ _ => k

def first : Node → Int
  | mk _ a _ _ => a

def last : Node → Int
  | mk _ _ b _ => b

def children : Node → List Node
  | mk _ _ _ cs => cs

/-! ## Classes of nodes -/

/-- A comment of any grammar has the word in its kind. -/
def isComment (n : Node) : Bool :=
  Text.includes (Text.toAsciiWord (text n.kind)) (text "comment")

/-- The text of a node. -/
def source (n : Node) (t : Text) : Text := t.sliceBytes n.first n.last

/-- Are there three quotes at the head of the text, after the letters that
    may stand before a literal? -/
def hasTripleQuotes (t : Text) : Bool :=
  let rest : Text := t.dropWhile Extract.isLiteralLetter
  rest.startsWith (text "\"\"\"") || rest.startsWith (text "'''")

/-- A string literal of Python that is read as a comment. -/
def isDocstring (n : Node) (t : Text) : Bool :=
  (n.kind == "string" || n.kind == "string_content") && hasTripleQuotes (n.source t)

def isHtmlText (n : Node) : Bool := n.kind == "text" || n.kind == "raw_text"

def isHtmlElement (n : Node) : Bool :=
  n.kind == "element" || n.kind == "script_element" || n.kind == "style_element"

def isTag (n : Node) : Bool := n.kind == "start_tag" || n.kind == "self_closing_tag"

/-- The name of an element of HTML, to be compared with ASCII names; empty if it
    has no tag. -/
def tagName (n : Node) (t : Text) : Text :=
  match ((n.children.filter isTag).flatMap children).find? (·.kind == "tag_name") with
  | none => []
  | some name => (name.source t).toAsciiWord

/-- An element of HTML whose content is no text. -/
def isRawElement (n : Node) (t : Text) : Bool :=
  n.isHtmlElement && (n.tagName t == text "script" || n.tagName t == text "style")

/-! ## Candidates -/

/-- What the walk over a tree does at a node. -/
inductive Visit where
  /-- Pass the node and all below it over. -/
  | skip
  /-- Take the node as a candidate, with or without markers. -/
  | take (markers : Bool)
  /-- Look at the nodes below it. -/
  | descend
  deriving DecidableEq, Repr

/-- What to do at a node of a tree of the given grammar. -/
def visit (grammar : String) (t : Text) (n : Node) : Visit :=
  if grammar == "html" && n.isRawElement t then .skip
  else if grammar == "html" && n.isHtmlText then .take false
  else if n.isComment then .take true
  else if grammar == "python" && n.isDocstring t then .take true
  else .descend

/-- A node as a candidate. -/
def toCandidate (t : Text) (markers : Bool) (n : Node) : Candidate :=
  ⟨t.charIndex n.first, n.source t, markers⟩

mutual

/-- The candidates of a tree in the order of the document. -/
def candidates (grammar : String) (t : Text) : Node → List Candidate
  | mk k a b cs =>
    match visit grammar t (mk k a b cs) with
    | .skip => []
    | .take markers => [toCandidate t markers (mk k a b cs)]
    | .descend => candidatesOf grammar t cs

/-- The candidates of several trees, one tree after the other. -/
def candidatesOf (grammar : String) (t : Text) : List Node → List Candidate
  | [] => []
  | n :: r => candidates grammar t n ++ candidatesOf grammar t r

end

/-! ## Walk -/

mutual

/-- The number of nodes of a tree. -/
def size : Node → Nat
  | mk _ _ _ cs => 1 + totalSize cs

/-- The number of nodes of several trees. -/
def totalSize : List Node → Nat
  | [] => 0
  | n :: r => size n + totalSize r

end

theorem size_eq (n : Node) : n.size = 1 + totalSize n.children := by
  cases n; rw [size, children]

theorem totalSize_append (ns ms : List Node) : totalSize (ns ++ ms) = totalSize ns + totalSize ms := by
  induction ns with
  | nil => simp [totalSize]
  | cons n r ih => simp only [List.cons_append, totalSize, ih]; omega

/-- The candidates of the trees that are still to be looked at.  In place of a
    node come the nodes below it. -/
def walk (grammar : String) (t : Text) : List Node → List Candidate
  | [] => []
  | n :: r =>
    match visit grammar t n with
    | .skip => walk grammar t r
    | .take markers => toCandidate t markers n :: walk grammar t r
    | .descend => walk grammar t (n.children ++ r)
termination_by ns => totalSize ns
decreasing_by
  · simp only [totalSize, size_eq]; omega
  · simp only [totalSize, size_eq]; omega
  · simp only [totalSize, totalSize_append, size_eq]; omega

theorem candidatesOf_append (grammar : String) (t : Text) (ns ms : List Node) :
    candidatesOf grammar t (ns ++ ms) =
      candidatesOf grammar t ns ++ candidatesOf grammar t ms := by
  induction ns with
  | nil => simp [candidatesOf]
  | cons n r ih => simp [candidatesOf, ih]

/-- What the recursion finds in a tree, by what is done at its root. -/
theorem candidates_eq (grammar : String) (t : Text) (n : Node) :
    candidates grammar t n =
      match visit grammar t n with
      | .skip => []
      | .take markers => [toCandidate t markers n]
      | .descend => candidatesOf grammar t n.children := by
  cases n; rw [candidates, children]

/-- The walk finds what the recursion finds. -/
theorem walk_eq (grammar : String) (t : Text) (ns : List Node) :
    walk grammar t ns = candidatesOf grammar t ns := by
  fun_induction walk grammar t ns with
  | case1 => rw [candidatesOf]
  | case2 n r h ih => simp [candidatesOf, candidates_eq, h, ih]
  | case3 n r markers h ih => simp [candidatesOf, candidates_eq, h, ih]
  | case4 n r h ih => rw [ih, candidatesOf_append, candidatesOf, candidates_eq, h]

end Node

end Kousei
