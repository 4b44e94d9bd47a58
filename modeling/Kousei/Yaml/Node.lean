import Kousei.Yaml.Scalar

/-! # YAML nodes

    The nodes of a document, each with its kind.  A node may have several
    places, but it is the same wherever it stands, so a document is a tree.

    In a map the entries of other maps may be merged, which is done when its
    node is made.  The values are made of the nodes level by level: first of
    the scalars that stand in a collection, then of the collections in it, so
    of several faults the one nearest to the root is the first. -/

namespace Kousei.Yaml

inductive Node where
  /-- A scalar; its content is a text. -/
  | scalar (kind : Kind) (content : Value)
  | sequence (kind : Kind) (items : List Node)
  /-- A map: what is wrong with the maps that are merged in it, its content when
      it is taken for a scalar, and whether its entries are as they were
      written. -/
  | mapping (kind : Kind) (fault : Option ReadFault) (content : Option Value) (plain : Bool)
      (entries : List (Node × Node))
  deriving Inhabited

namespace Node

/-- The node of what is left out. -/
def empty : Node := scalar .null (.str "")

/-! ## Merging -/

/-- The entries of a map that is merged in another one. -/
def mergedEntries : Node → Reading (List (Node × Node))
  | mapping _ none _ _ entries => .ok entries
  | mapping _ (some fault) _ _ _ => .error fault
  | _ => .error .malformed

/-- The entries that a merged value stands for: those of a map, or of several
    maps, the last of them first. -/
def merged : Node → Reading (List (Node × Node))
  | sequence _ items => do return (← items.mapM mergedEntries).reverse.flatten
  | n => mergedEntries n

/-- The kind of a node. -/
def kind : Node → Kind
  | scalar kind _ => kind
  | sequence kind _ => kind
  | mapping kind _ _ _ _ => kind

/-- Does the entry stand for those of other maps? -/
def isMerge (e : Node × Node) : Bool := e.1.kind = .merge

/-- Is the entry the content of the map itself? -/
def isContent (e : Node × Node) : Bool := e.1.kind = .content

/-- A key as it is used: the one for the content of a map stands for itself. -/
def plainKey : Node → Node
  | scalar .content content => scalar .str content
  | sequence .content items => sequence .str items
  | mapping .content fault content plain entries => mapping .str fault content plain entries
  | n => n

/-- The content of a node that is taken for a scalar. -/
def content? : Node → Option Value
  | scalar _ content => some content
  | sequence _ _ => none
  | mapping _ _ content _ _ => content

/-- The node of a map with the given entries, those that are merged before its
    own. -/
def ofEntries (kind : Kind) (entries : List (Node × Node)) : Node :=
  let own := (entries.filter fun e => !isMerge e).map fun (k, v) => (plainKey k, v)
  let content := (entries.find? isContent).bind fun e => e.2.content?
  let plain := !entries.any fun e => isMerge e || isContent e
  match (entries.filter isMerge).mapM fun e => merged e.2 with
  | .ok before => mapping kind none content plain (before.flatten ++ own)
  | .error fault => mapping kind (some fault) content plain own

/-! ## Faults -/

/-- Lists of levels, one after the other on every level. -/
def joinLevels {α : Type} : List (List α) → List (List α) → List (List α)
  | [], ys => ys
  | xs, [] => xs
  | x :: xs, y :: ys => (x ++ y) :: joinLevels xs ys

/-- The faults of a scalar.  What is taken for a collection is found to be none
    one level below. -/
def scalarFaults (kind : Kind) (content : Value) : List (List ReadFault) :=
  match scalarValue kind content with
  | .ok _ => []
  | .error fault => if kind.isCollection then [[], [fault]] else [[fault]]

/-- The faults of a map that is taken for a scalar; it is never one for a
    date. -/
def contentFaults (kind : Kind) (content : Option Value) : List (List ReadFault) :=
  match content with
  | some content => if kind = .moment then [[.momentOfMap]] else scalarFaults kind content
  | none => [[.malformed]]

/-- What is wrong with a collection whose kind is not its own. -/
def kindFaults (kind : Kind) : List (List ReadFault) :=
  if kind.isCollection then [[], [.malformed]] else [[.malformed]]

/-- A collection is no key. -/
def keyFaults : Node → List (List ReadFault)
  | scalar kind content =>
    if kind.isCollection then [[.malformed]] else scalarFaults kind content
  | mapping kind _ content _ _ =>
    if kind.isScalar then contentFaults kind content else [[.malformed]]
  | sequence _ _ => [[.malformed]]

mutual

/-- The faults in a node, level by level from it on. -/
def faults : Node → List (List ReadFault)
  | scalar kind content => scalarFaults kind content
  | sequence .seq items => [] :: faultsIn items
  | sequence .pairs items => [] :: pairFaults items
  | sequence kind _ => kindFaults kind
  | mapping kind fault content _ entries =>
    match kind with
    | .map | .set => [] :: joinLevels [fault.toList] (entryFaults entries)
    | kind => if kind.isScalar then contentFaults kind content else kindFaults kind

def faultsIn : List Node → List (List ReadFault)
  | [] => []
  | n :: r => joinLevels (faults n) (faultsIn r)

def entryFaults : List (Node × Node) → List (List ReadFault)
  | [] => []
  | (k, v) :: r => joinLevels (keyFaults k) (joinLevels (faults v) (entryFaults r))

/-- The faults in maps with one entry each, whose keys may be of any kind. -/
def pairFaults : List Node → List (List ReadFault)
  | [] => []
  | mapping _ _ _ true [(k, v)] :: r =>
    joinLevels (faults k) (joinLevels (faults v) (pairFaults r))
  | _ :: r => joinLevels [[.malformed]] (pairFaults r)

end

/-! ## Values -/

/-- The value of a scalar; nothing if it has none. -/
def scalarOrNull (kind : Kind) (content : Value) : Value :=
  (scalarValue kind content).toOption.getD .null

mutual

/-- The value of a node without faults. -/
def pureValue : Node → Value
  | scalar kind content => scalarOrNull kind content
  | sequence .pairs items => .list (purePairs items)
  | sequence _ items => .list (pureValues items)
  | mapping kind _ content _ entries =>
    match kind with
    | .map => .map (Value.ofEntries (pureEntries entries))
    | .set => .set ((Value.ofEntries (pureEntries entries)).map (·.1))
    | kind => scalarOrNull kind (content.getD .null)

def pureValues : List Node → List Value
  | [] => []
  | n :: r => pureValue n :: pureValues r

def pureEntries : List (Node × Node) → List (Value × Value)
  | [] => []
  | (k, v) :: r => (pureValue k, pureValue v) :: pureEntries r

def purePairs : List Node → List Value
  | [] => []
  | mapping _ _ _ _ ((k, v) :: _) :: r => .tuple [pureValue k, pureValue v] :: purePairs r
  | _ :: r => purePairs r

end

/-- The value of a node. -/
def value (n : Node) : Reading Value :=
  match n.faults.flatten.head? with
  | some fault => .error fault
  | none => .ok n.pureValue

end Node

end Kousei.Yaml
