import Kousei.Value.Numeral
import Kousei.Yaml.Cursor
import Kousei.Yaml.Lexeme

/-! # Properties and directives

    A node may have a name, by which other places mean it, and a tag, which
    tells what it is.  Lines before a document may tell the version of the
    language and what the handles of tags stand for. -/

namespace Kousei.Yaml

/-! ## Names -/

/-- The characters that may follow the name of a node. -/
def followsName (c : Char) : Bool := endsWord (some c) || "?:,]\x7d%@\x60".toList.contains c

/-- A name after its sign. -/
def nodeName (c : Cursor) : Reading (Text × Cursor) :=
  let (name, after) := c.step.run isNameChar
  if name.isEmpty || !after.peek.all followsName then .error .malformed else .ok (name, after)

/-! ## Tags -/

/-- The characters of a tag. -/
def isTagChar (c : Char) : Bool := c.isAlphanum || "-;/?:@&=+$,_.!~*'()[]".toList.contains c

/-- Escaped bytes at a place. -/
def escapedBytes : Nat → Cursor → Reading (List UInt8 × Cursor)
  | 0, _ => .error .malformed
  | fuel + 1, c =>
    if !c.isAt '%' then .ok ([], c)
    else do
      let digits := c.step.rest.take 2
      if digits.length < 2 || !digits.all (Numeral.isDigitOf 16) then throw .malformed
      let (more, last) ← escapedBytes fuel (c.steps 3)
      return ((Numeral.ofDigits 16 digits).toUInt8 :: more, last)

/-- The characters of escaped bytes. -/
def decodeBytes (bytes : List UInt8) : Reading Text :=
  match String.fromUTF8? ⟨bytes.toArray⟩ with
  | some s => .ok s.toList
  | none => .error .malformed

/-- The characters of a tag from a place on. -/
def tagChars : Nat → Cursor → Reading (Text × Cursor)
  | 0, _ => .error .malformed
  | fuel + 1, c => do
    let (name, c) := c.run isTagChar
    if !c.isAt '%' then return (name, c)
    let (bytes, c) ← escapedBytes (c.rest.length + 1) c
    let (more, last) ← tagChars fuel c
    return (name ++ (← decodeBytes bytes) ++ more, last)

/-- The characters of a tag, of which there is at least one. -/
def tagText (c : Cursor) : Reading (Text × Cursor) := do
  let (t, after) ← tagChars (c.rest.length + 1) c
  if after.index = c.index then throw .malformed
  return (t, after)

/-- A handle: a name between two exclamation marks, or one that stands
    alone. -/
def tagHandle (c : Cursor) : Reading (Text × Cursor) :=
  if !c.isAt '!' then .error .malformed
  else
    let (name, after) := c.step.run isNameChar
    if after.isAt '!' then .ok (('!' :: name) ++ ['!'], after.step)
    else if name.isEmpty && after.isAt ' ' then .ok (['!'], after)
    else .error .malformed

/-- Does a second exclamation mark follow before the next space? -/
def hasHandle (c : Cursor) : Bool := (c.step.rest.takeWhile fun x => !endsPart (some x)).contains '!'

/-- A tag. -/
def nodeTag (c : Cursor) : Reading (RawTag × Cursor) := do
  let (t, after) ←
    if c.peekAt 1 == some '<' then do
      let (suffix, after) ← tagText (c.steps 2)
      if !after.isAt '>' then throw .malformed
      pure (⟨none, suffix⟩, after.step)
    else if endsWord (c.peekAt 1) then pure (⟨none, ['!']⟩, c.step)
    else do
      let (handle, after) ← if hasHandle c then tagHandle c else pure (['!'], c.step)
      let (suffix, after) ← tagText after
      pure (⟨some handle, suffix⟩, after)
  if !endsPart after.peek then throw .malformed
  return (t, after)

/-! ## Directives -/

/-- A decimal number. -/
def versionNumber (c : Cursor) : Reading (Nat × Cursor) := do
  let (digits, after) := c.run Char.isDigit
  if digits.isEmpty then throw .malformed
  return (← Numeral.natural digits, after)

def versionDirective (c : Cursor) : Reading (Directive × Cursor) := do
  let (major, c) ← versionNumber c.skipSpaces
  if !c.isAt '.' then throw .malformed
  let (minor, c) ← versionNumber c.step
  if !endsPart c.peek then throw .malformed
  return (.version major minor, c)

def handleDirective (c : Cursor) : Reading (Directive × Cursor) := do
  let (name, c) ← tagHandle c.skipSpaces
  if !c.isAt ' ' then throw .malformed
  let (start, c) ← tagText c.skipSpaces
  if !endsPart c.peek then throw .malformed
  return (.handle name start, c)

/-- A directive with its line. -/
def directive (c : Cursor) : Reading (Directive × Cursor) := do
  let (name, c) := c.step.run isNameChar
  if name.isEmpty || !endsPart c.peek then throw .malformed
  let (d, c) ←
    if name = text "YAML" then versionDirective c
    else if name = text "TAG" then handleDirective c
    else pure (.other, c.skip (!isBreak ·))
  let c := c.skipSpaces.skipComment
  if !endsLine c.peek then throw .malformed
  return (d, c.skipBreak)

end Kousei.Yaml
