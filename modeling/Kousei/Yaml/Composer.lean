import Kousei.Yaml.Node
import Kousei.Yaml.Scanner

/-! # YAML composer

    The node of a document, out of its lexemes.  A node may be left out
    wherever its place is told by something else, and is nothing then.  What
    is left of the lexemes and the named nodes met so far are the state of
    the composer. -/

namespace Kousei.Yaml

/-! ## States -/

structure Composer where
  stream : Stream
  /-- What the handles of tags stand for. -/
  handles : List (Text × Text)
  /-- The nodes that have a name; one that is not finished stands for none. -/
  named : List (Text × Option Node) := []

/-- A step of the composer. -/
abbrev Compose : Type → Type := StateT Composer Reading

namespace Compose

def fail {α : Type} (fault : ReadFault) : Compose α := fun _ => .error fault

/-- The next lexeme, which stays there. -/
def peek : Compose Lexeme := do
  match (← get).stream with
  | ⟨l :: _, _⟩ => return l
  | ⟨[], ending⟩ => fail ending

/-- Pass the next lexeme over. -/
def skip : Compose Unit :=
  modify fun c => { c with stream := ⟨c.stream.lexemes.drop 1, c.stream.ending⟩ }

/-- What the next lexeme is, if it is of a kind; then it is passed over. -/
def take? {α : Type} (f : Lexeme → Option α) : Compose (Option α) := do
  match f (← peek) with
  | some x =>
    skip
    return some x
  | none => return none

end Compose

/-! ## Lexemes -/

def Lexeme.isItem : Lexeme → Bool
  | .item => true
  | _ => false

def Lexeme.isBlockEnd : Lexeme → Bool
  | .blockEnd => true
  | _ => false

def Lexeme.isKey : Lexeme → Bool
  | .key => true
  | _ => false

def Lexeme.isValue : Lexeme → Bool
  | .value => true
  | _ => false

def Lexeme.isComma : Lexeme → Bool
  | .comma => true
  | _ => false

def Lexeme.isSequenceEnd : Lexeme → Bool
  | .flowSequenceEnd => true
  | _ => false

def Lexeme.isMappingEnd : Lexeme → Bool
  | .flowMappingEnd => true
  | _ => false

/-- Does the lexeme stand outside all nodes? -/
def Lexeme.isOutside : Lexeme → Bool
  | .directive _ | .documentStart | .documentEnd | .streamEnd => true
  | _ => false

def Lexeme.anchor? : Lexeme → Option Text
  | .anchor name => some name
  | _ => none

def Lexeme.tag? : Lexeme → Option RawTag
  | .tag t => some t
  | _ => none

/-! ## Tags -/

/-- What the tags of the kinds that are known begin with. -/
def coreStart : Text := text "tag:yaml.org,2002:"

/-- What handles stand for if no directive says otherwise. -/
def coreHandles : List (Text × Text) := [(['!'], ['!']), (['!', '!'], coreStart)]

/-- The kind that a tag stands for. -/
def kindOfTag (tag : Text) : Kind :=
  if tag.startsWith coreStart then
    (kindNames.lookup (String.ofList (tag.drop coreStart.length))).getD .other
  else .other

/-- What a node has before it. -/
structure Properties where
  name : Option Text := none
  /-- The tag, of which a lone exclamation mark says nothing. -/
  tag : Option Text := none

/-- Has the node a tag that tells its kind? -/
def Properties.kind? (p : Properties) : Option Kind :=
  match p.tag with
  | none => none
  | some tag => if tag = ['!'] then none else some (kindOfTag tag)

/-- The tag that a tag with a handle stands for. -/
def fullTag (t : RawTag) : Compose Text := do
  match t.handle with
  | none => return t.suffix
  | some handle =>
    match (← get).handles.lookup handle with
    | some start => return start ++ t.suffix
    | none => Compose.fail .malformed

/-- The name and the tag before a node, in any order. -/
def properties : Compose Properties := do
  let name ← Compose.take? Lexeme.anchor?
  let tag ← Compose.take? Lexeme.tag?
  let name ← match name with
    | some name => pure (some name)
    | none => if tag.isSome then Compose.take? Lexeme.anchor? else pure none
  match tag with
  | none => return { name }
  | some t => return { name, tag := some (← fullTag t) }

/-! ## Names -/

/-- A node of the given name begins; no other one may have it. -/
def beginNamed (name : Option Text) : Compose Unit := do
  match name with
  | none => return
  | some name =>
    if ((← get).named.lookup name).isSome then Compose.fail .malformed
    modify fun c => { c with named := (name, none) :: c.named }

/-- A node of the given name ends. -/
def endNamed (name : Option Text) (n : Node) : Compose Node := do
  match name with
  | none => return n
  | some name =>
    modify fun c => { c with named := (name, some n) :: c.named }
    return n

/-- The node of a name. -/
def namedNode (name : Text) : Compose Node := do
  match (← get).named.lookup name with
  | some (some n) => return n
  | _ => Compose.fail .malformed

/-! ## Nodes -/

/-- Where a node stands. -/
inductive Place where
  /-- Between brackets. -/
  | flow
  /-- On lines. -/
  | block
  /-- After a key or a colon on lines, where the items of a sequence may stand
      at the column of the map. -/
  | entry
  deriving DecidableEq, Repr

/-- The node of a text without quotes. -/
def plainNode (p : Properties) (t : Text) : Node :=
  .scalar (p.kind?.getD (kindOf t)) (.str (String.ofList t))

/-- The node of a text between quotes.  A lone exclamation mark before it makes
    it one without quotes. -/
def quotedNode (p : Properties) (v : Value) : Node :=
  match p.kind?, p.tag, v with
  | some kind, _, v => .scalar kind v
  | none, some _, .str s => .scalar (kindOf s.toList) v
  | none, _, v => .scalar .str v

/-- How deeply nodes may be nested. -/
def maxDepth : Nat := 485

/-- The node that is left out before one of the given lexemes, or else the one
    that stands there. -/
def orEmpty (absent : Lexeme → Bool) (node : Compose Node) : Compose Node := do
  if absent (← Compose.peek) then return Node.empty else node

mutual

/-- A node. -/
def node : Nat → Nat → Place → Compose Node
  | 0, _, _ => Compose.fail .malformed
  | fuel + 1, depth, place => do
    if depth = 0 then Compose.fail .tooDeep
    match ← Compose.peek with
    | .alias name =>
      Compose.skip
      namedNode name
    | _ =>
      let p ← properties
      beginNamed p.name
      endNamed p.name (← content fuel (depth - 1) place p)

/-- What a node with properties is. -/
def content : Nat → Nat → Place → Properties → Compose Node
  | 0, _, _, _ => Compose.fail .malformed
  | fuel + 1, depth, place, p => do
    let seqKind := p.kind?.getD .seq
    let mapKind := p.kind?.getD .map
    match ← Compose.peek, place with
    | .item, .entry => return .sequence seqKind (← openItems fuel depth)
    | .plain t, _ =>
      Compose.skip
      return plainNode p t
    | .quoted v, _ =>
      Compose.skip
      return quotedNode p v
    | .flowSequence, _ =>
      Compose.skip
      return .sequence seqKind (← flowItems fuel depth true)
    | .flowMapping, _ =>
      Compose.skip
      return Node.ofEntries mapKind (← flowEntries fuel depth true)
    | .blockSequence, .block | .blockSequence, .entry =>
      Compose.skip
      return .sequence seqKind (← items fuel depth)
    | .blockMapping, .block | .blockMapping, .entry =>
      Compose.skip
      return Node.ofEntries mapKind (← entries fuel depth)
    | _, _ =>
      if p.name.isSome || p.tag.isSome then return plainNode p [] else Compose.fail .malformed

/-- The items of a sequence on lines, up to its end. -/
def items : Nat → Nat → Compose (List Node)
  | 0, _ => Compose.fail .malformed
  | fuel + 1, depth => do
    match ← Compose.peek with
    | .item =>
      Compose.skip
      let n ← orEmpty (fun l => l.isItem || l.isBlockEnd) (node fuel depth .block)
      return n :: (← items fuel depth)
    | .blockEnd =>
      Compose.skip
      return []
    | _ => Compose.fail .malformed

/-- The items of a sequence that stand at the column of the map around it. -/
def openItems : Nat → Nat → Compose (List Node)
  | 0, _ => Compose.fail .malformed
  | fuel + 1, depth => do
    match ← Compose.peek with
    | .item =>
      Compose.skip
      let n ← orEmpty (fun l => l.isItem || l.isKey || l.isValue || l.isBlockEnd)
        (node fuel depth .block)
      return n :: (← openItems fuel depth)
    | _ => return []

/-- The entries of a map on lines, up to its end.  A key may have no value; a
    value needs a key. -/
def entries : Nat → Nat → Compose (List (Node × Node))
  | 0, _ => Compose.fail .malformed
  | fuel + 1, depth => do
    match ← Compose.peek with
    | .key =>
      Compose.skip
      let absent := fun (l : Lexeme) => l.isKey || l.isValue || l.isBlockEnd
      let k ← orEmpty absent (node fuel depth .entry)
      let v ←
        if (← Compose.peek).isValue then do
          Compose.skip
          orEmpty absent (node fuel depth .entry)
        else pure Node.empty
      return (k, v) :: (← entries fuel depth)
    | .blockEnd =>
      Compose.skip
      return []
    | _ => Compose.fail .malformed

/-- The items of a sequence between brackets, up to its end.  An item that is
    a key is a map of its own. -/
def flowItems : Nat → Nat → Bool → Compose (List Node)
  | 0, _, _ => Compose.fail .malformed
  | fuel + 1, depth, first => do
    if (← Compose.peek).isSequenceEnd then
      Compose.skip
      return []
    if !first then
      if (← Compose.peek).isComma then Compose.skip else Compose.fail .malformed
    if (← Compose.peek).isSequenceEnd then
      Compose.skip
      return []
    let n ←
      if (← Compose.peek).isKey then do
        let e ← flowEntry fuel (depth - 1) Lexeme.isSequenceEnd
        pure (Node.ofEntries .map [e])
      else node fuel depth .flow
    return n :: (← flowItems fuel depth false)

/-- An entry between brackets that begins with a key. -/
def flowEntry : Nat → Nat → (Lexeme → Bool) → Compose (Node × Node)
  | 0, _, _ => Compose.fail .malformed
  | fuel + 1, depth, isEnd => do
    Compose.skip
    let k ← orEmpty (fun l => l.isValue || l.isComma || isEnd l) (node fuel depth .flow)
    let v ←
      if (← Compose.peek).isValue then do
        Compose.skip
        orEmpty (fun l => l.isComma || isEnd l) (node fuel depth .flow)
      else pure Node.empty
    return (k, v)

/-- The entries of a map between brackets, up to its end.  What is no key is
    one without a value. -/
def flowEntries : Nat → Nat → Bool → Compose (List (Node × Node))
  | 0, _, _ => Compose.fail .malformed
  | fuel + 1, depth, first => do
    if (← Compose.peek).isMappingEnd then
      Compose.skip
      return []
    if !first then
      if (← Compose.peek).isComma then Compose.skip else Compose.fail .malformed
    if (← Compose.peek).isMappingEnd then
      Compose.skip
      return []
    let e ←
      if (← Compose.peek).isKey then flowEntry fuel depth Lexeme.isMappingEnd
      else do
        let k ← node fuel depth .flow
        pure (k, Node.empty)
    return e :: (← flowEntries fuel depth false)

end

/-! ## Documents -/

/-- The directives before a document, put over those met so far; the version
    is told once at most, and so is every handle. -/
def directives : Nat → Bool → List (Text × Text) → Compose (List (Text × Text))
  | 0, _, _ => Compose.fail .malformed
  | fuel + 1, versioned, handles => do
    match ← Compose.peek with
    | .directive (.version major _) =>
      if versioned || major != 1 then Compose.fail .malformed
      Compose.skip
      directives fuel true handles
    | .directive (.handle name start) =>
      if (handles.lookup name).isSome then Compose.fail .malformed
      Compose.skip
      directives fuel versioned ((name, start) :: handles)
    | .directive .other =>
      Compose.skip
      directives fuel versioned handles
    | _ => return handles

/-- The beginning of a document with a mark. -/
def documentStart (fuel : Nat) : Compose Unit := do
  let handles ← directives fuel false []
  match ← Compose.peek with
  | .documentStart =>
    Compose.skip
    modify fun c => { c with handles := handles ++ coreHandles }
  | _ => Compose.fail .malformed

/-- The end of the stream, after marks that end the document. -/
def streamEnd : Nat → Compose Unit
  | 0 => Compose.fail .malformed
  | fuel + 1 => do
    match ← Compose.peek with
    | .documentEnd =>
      Compose.skip
      streamEnd fuel
    | .streamEnd => return
    | _ => Compose.fail .malformed

/-- The node of the only document of a stream, if there is one. -/
def document (fuel : Nat) : Compose (Option Node) := do
  match ← Compose.peek with
  | .streamEnd => return none
  | .directive _ | .documentStart =>
    documentStart fuel
    let n ← orEmpty Lexeme.isOutside (node fuel maxDepth .block)
    streamEnd fuel
    return some n
  | _ =>
    let n ← node fuel maxDepth .block
    streamEnd fuel
    return some n

/-- The node of the document in a stream. -/
def compose (stream : Stream) : Reading (Option Node) :=
  let fuel := 4 * stream.lexemes.length + 8
  (document fuel { stream, handles := coreHandles }).map (·.1)

end Kousei.Yaml
