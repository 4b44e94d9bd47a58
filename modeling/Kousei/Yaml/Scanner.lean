import Kousei.Yaml.Block
import Kousei.Yaml.Property
import Kousei.Yaml.Quoted

/-! # YAML scanner

    The lexemes of a text, from left to right.  That a thing is a key is only
    known when the colon after it is met, so the scanner remembers, for every
    level of brackets, the place of the latest thing that may be one.  A key
    stands on one line and is not longer than 1024 characters.

    The columns of the collections that have their parts on lines of their
    own are kept as well; a line that begins left of one ends it. -/

namespace Kousei.Yaml

/-! ## States -/

/-- A place at which a key may have begun. -/
structure KeyPlace where
  /-- The level of brackets. -/
  level : Nat
  /-- How many lexemes were before it. -/
  number : Nat
  /-- Can nothing but a key stand there? -/
  required : Bool
  index : Nat
  line : Nat
  column : Nat
  deriving DecidableEq, Repr

structure Scanner where
  cursor : Cursor
  /-- The lexemes so far, the latest first. -/
  found : List Lexeme := []
  /-- How many brackets are open. -/
  level : Nat := 0
  /-- The column of the innermost collection, less than zero if there is
      none. -/
  column : Int := -1
  /-- The columns of the collections around it, the innermost first. -/
  outer : List Int := []
  /-- Can a key begin here? -/
  allowKey : Bool := true
  keys : List KeyPlace := []

/-- What comes of a step of the scanner. -/
abbrev Scan : Type → Type := Except ReadFault

namespace Scanner

def inFlow (s : Scanner) : Bool := s.level != 0

def emit (s : Scanner) (l : Lexeme) : Scanner := { s with found := l :: s.found }

def moveTo (s : Scanner) (c : Cursor) : Scanner := { s with cursor := c }

/-- The scanner after a lexeme of so many characters. -/
def take (s : Scanner) (l : Lexeme) (width : Nat) : Scanner :=
  (s.moveTo (s.cursor.steps width)).emit l

def allowing (s : Scanner) (b : Bool) : Scanner := { s with allowKey := b }

/-! ## Collections on lines -/

/-- A collection begins at a column, if that is right of the innermost one. -/
def indent (s : Scanner) (column : Nat) : Bool × Scanner :=
  if s.column < column then
    (true, { s with column := column, outer := s.column :: s.outer })
  else (false, s)

/-- The ends of the collections that stand right of a column, given the column
    of the innermost one and those around it. -/
def unwound (column : Int) (inner : Int) : List Int → List Lexeme × Int × List Int
  | [] => ([], inner, [])
  | next :: more =>
    if column < inner then
      let (ends, inner, outer) := unwound column next more
      (.blockEnd :: ends, inner, outer)
    else ([], inner, next :: more)

/-- The collections that stand right of a column end, unless brackets are
    open. -/
def unwind (s : Scanner) (column : Int) : Scanner :=
  if s.inFlow then s
  else
    let (ends, inner, outer) := unwound column s.column s.outer
    { s with found := ends ++ s.found, column := inner, outer := outer }

/-! ## Keys -/

/-- Is it too late for a thing to become a key? -/
def isStale (s : Scanner) (k : KeyPlace) : Bool :=
  k.line != s.cursor.line || 1024 < s.cursor.index - k.index

/-- Forget the things that cannot become keys any more. -/
def dropStale (s : Scanner) : Scan Scanner :=
  if s.keys.any fun k => s.isStale k && k.required then .error .malformed
  else .ok { s with keys := s.keys.filter fun k => !s.isStale k }

/-- The thing that may be a key on the innermost level of brackets. -/
def pending? (s : Scanner) : Option KeyPlace := s.keys.find? (·.level == s.level)

def withoutPending (s : Scanner) : Scanner :=
  { s with keys := s.keys.filter (·.level != s.level) }

/-- Nothing on the innermost level can become a key any more. -/
def dropPending (s : Scanner) : Scan Scanner :=
  if s.pending?.any (·.required) then .error .malformed else .ok s.withoutPending

/-- What stands at the place may become a key, if one can begin there. -/
def markKey (s : Scanner) : Scan Scanner :=
  if !s.allowKey then .ok s
  else do
    let s ← s.dropPending
    let required := !s.inFlow && s.column == s.cursor.column
    let k : KeyPlace :=
      ⟨s.level, s.found.length, required, s.cursor.index, s.cursor.line, s.cursor.column⟩
    return { s with keys := k :: s.keys }

/-- Put lexemes before those from the given number on. -/
def insertAt (s : Scanner) (number : Nat) (ls : List Lexeme) : Scanner :=
  let later := s.found.length - number
  { s with found := s.found.take later ++ ls.reverse ++ s.found.drop later }

/-! ## Space -/

/-- The place of the next thing, after blanks, comments and line ends, and
    whether a line has ended. -/
def nextThing : Nat → Cursor → Bool × Cursor
  | 0, c => (false, c)
  | fuel + 1, c =>
    let c := c.skipSpaces.skipComment
    match c.lineBreak? with
    | none => (false, c)
    | some (_, next) => (true, (nextThing fuel next).2)

/-- Go to the next thing.  After the end of a line a key can begin, unless
    brackets are open. -/
def skipSpace (s : Scanner) : Scanner :=
  let (crossed, c) := nextThing (s.cursor.rest.length + 1) s.cursor
  { s with cursor := c, allowKey := s.allowKey || (crossed && !s.inFlow) }

/-! ## Lexemes -/

/-- What stands between documents: no collection goes on there. -/
def betweenDocuments (s : Scanner) : Scan Scanner := do
  return (← (s.unwind (-1)).dropPending).allowing false

def scanDirective (s : Scanner) : Scan Scanner := do
  let s ← s.betweenDocuments
  let (d, c) ← directive s.cursor
  return (s.moveTo c).emit (.directive d)

/-- A mark that begins or ends a document. -/
def scanMark (s : Scanner) (l : Lexeme) : Scan Scanner := do
  return (← s.betweenDocuments).take l 3

/-- A bracket that opens a collection. -/
def scanOpening (s : Scanner) (l : Lexeme) : Scan Scanner := do
  let s ← s.markKey
  return { (s.take l 1).allowing true with level := s.level + 1 }

/-- A bracket that closes a collection. -/
def scanClosing (s : Scanner) (l : Lexeme) : Scan Scanner := do
  if !s.inFlow then throw .malformed
  let s ← s.dropPending
  return { (s.take l 1).allowing false with level := s.level - 1 }

def scanComma (s : Scanner) : Scan Scanner := do
  return ((← s.dropPending).allowing true).take .comma 1

/-- A lexeme may begin a collection where it stands, if a key could. -/
def beginAt (s : Scanner) (l : Lexeme) : Scan Scanner := do
  if s.inFlow then return s
  if !s.allowKey then throw .malformed
  let (begun, s) := s.indent s.cursor.column
  return if begun then s.emit l else s

/-- A dash before an item. -/
def scanItem (s : Scanner) : Scan Scanner := do
  let s ← s.beginAt .blockSequence
  return ((← s.dropPending).allowing true).take .item 1

/-- A question mark before a key. -/
def scanKey (s : Scanner) : Scan Scanner := do
  let s ← s.beginAt .blockMapping
  return ((← s.dropPending).allowing (!s.inFlow)).take .key 1

/-- A colon after the key that is pending: the key and perhaps the map that it
    begins are put before it. -/
def scanKeyValue (s : Scanner) (k : KeyPlace) : Scanner :=
  let s := s.withoutPending
  let (begun, s) := if s.inFlow then (false, s) else s.indent k.column
  ((s.insertAt k.number (if begun then [.blockMapping, .key] else [.key])).allowing false).take
    .value 1

/-- A colon before a value. -/
def scanValue (s : Scanner) : Scan Scanner :=
  match s.pending? with
  | some k => .ok (s.scanKeyValue k)
  | none => do
    let s ← s.beginAt .blockMapping
    return ((← s.dropPending).allowing (!s.inFlow)).take .value 1

/-- The name of a node. -/
def scanName (s : Scanner) (toLexeme : Text → Lexeme) : Scan Scanner := do
  let s ← s.markKey
  let (name, c) ← nodeName s.cursor
  return ((s.allowing false).moveTo c).emit (toLexeme name)

def scanTag (s : Scanner) : Scan Scanner := do
  let s ← s.markKey
  let (t, c) ← nodeTag s.cursor
  return ((s.allowing false).moveTo c).emit (.tag t)

/-- A text on lines of its own; after it a key can begin. -/
def scanBlock (s : Scanner) (folded : Bool) : Scan Scanner := do
  let s ← s.dropPending
  let (t, c) ← blockText folded s.column s.cursor.step
  return ((s.allowing true).moveTo c).emit (.quoted (.str (String.ofList t)))

def scanQuoted (s : Scanner) (quote : Char) : Scan Scanner := do
  let s ← s.markKey
  let (v, c) ← quoted quote s.cursor
  return ((s.allowing false).moveTo c).emit (.quoted v)

/-- A text without quotes.  If it has gone past the end of its line, a key can
    begin after it. -/
def scanPlain (s : Scanner) : Scan Scanner := do
  let s ← s.markKey
  let (t, crossed, c) := plain s.inFlow s.column s.cursor
  return ((s.allowing crossed).moveTo c).emit (.plain t)

/-- The end of the text. -/
def scanEnd (s : Scanner) : Scan Scanner := do
  return { ((← s.betweenDocuments).emit .streamEnd) with keys := [] }

/-- The lexeme that begins with the given character. -/
def scanFrom (s : Scanner) (x : Char) : Scan Scanner :=
  let c := s.cursor
  let atMargin := c.column == 0
  let wordEnds := endsWord (c.peekAt 1)
  if x == '%' && atMargin then s.scanDirective
  else if atMargin && c.isMark '-' then s.scanMark .documentStart
  else if atMargin && c.isMark '.' then s.scanMark .documentEnd
  else if x == '[' then s.scanOpening .flowSequence
  else if x == '\x7b' then s.scanOpening .flowMapping
  else if x == ']' then s.scanClosing .flowSequenceEnd
  else if x == '\x7d' then s.scanClosing .flowMappingEnd
  else if x == ',' then s.scanComma
  else if x == '-' && wordEnds then s.scanItem
  else if x == '?' && (s.inFlow || wordEnds) then s.scanKey
  else if x == ':' && (s.inFlow || wordEnds) then s.scanValue
  else if x == '*' then s.scanName .alias
  else if x == '&' then s.scanName .anchor
  else if x == '!' then s.scanTag
  else if (x == '|' || x == '>') && !s.inFlow then s.scanBlock (x == '>')
  else if x == '\'' || x == '"' then s.scanQuoted x
  else if beginsPlain s.inFlow c then s.scanPlain
  else .error .malformed

/-- The scanner at the next thing, with nothing left over from before it. -/
def settle (s : Scanner) : Scan Scanner := do
  let s ← s.skipSpace.dropStale
  return s.unwind s.cursor.column

end Scanner

/-! ## Streams -/

/-- The lexemes of a text, and what is met by who wants more of them. -/
structure Stream where
  lexemes : List Lexeme
  ending : ReadFault := .malformed

/-- The lexemes before a fault that is met on the way to the next one: those
    that may still be keys do not count, as that is not known without it. -/
def Scanner.broken (s : Scanner) (fault : ReadFault) : Stream :=
  let unsettled := s.keys.filter fun k => !s.isStale k
  let sure := unsettled.foldl (fun n k => min n k.number) s.found.length
  ⟨s.found.reverse.take sure, fault⟩

/-- The scanner after the next lexeme, and whether the text has ended. -/
def Scanner.next (s : Scanner) : Scan (Bool × Scanner) := do
  let s ← s.settle
  match s.cursor.peek with
  | none => return (true, ← s.scanEnd)
  | some x => return (false, ← s.scanFrom x)

/-- The lexemes from a state of the scanner on. -/
def Scanner.run : Nat → Scanner → Stream
  | 0, s => s.broken .malformed
  | fuel + 1, s =>
    match s.next with
    | .error fault => s.broken fault
    | .ok (true, last) => ⟨last.found.reverse, .malformed⟩
    | .ok (false, next) => next.run fuel

/-- The place at which a text begins, after a mark of the byte order. -/
def Cursor.start (t : Text) : Cursor :=
  let c : Cursor := { rest := t }
  if c.isAt '\uFEFF' then c.step else c

/-- The lexemes of a text. -/
def scan (t : Text) : Stream := Scanner.run (t.length + 1) { cursor := Cursor.start t }

end Kousei.Yaml
