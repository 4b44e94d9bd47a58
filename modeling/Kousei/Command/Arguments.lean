import Kousei.Command.Options

/-! # Arguments

    The arguments on the command line are options, with their values, and
    paths.  All paths stand next to one another.  The word of an option may
    be shortened as long as no other option begins the same way, and a value
    may follow it after an equals sign.  After two dashes that stand alone
    there are no more options.

    What looks like a negative number is no option, and neither is what has
    a space in it and is not the beginning of one. -/

namespace Kousei.Command

/-! ## Single arguments -/

inductive Argument where
  | value (s : String)
  /-- Two dashes that stand alone. -/
  | separator
  /-- An option by its word, with the value after the equals sign. -/
  | word (e : Effect) (attached : Option String)
  /-- Options by their letters, of which the first is known. -/
  | letters (cs : Text)
  /-- An option that is not known. -/
  | unknown

/-- Is the character a decimal digit of some script? -/
def isDigit (c : Char) : Bool := (Text.digitValue? c).isSome

/-- Digits, with a point among them or before them or without any. -/
def looksNumeric (t : Text) : Bool :=
  let r := t.dropWhile isDigit
  match r with
  | [] => !t.isEmpty
  | c :: places => c == '.' && !places.isEmpty && places.all isDigit

/-- Does what follows a dash make it look like a negative number? -/
def looksNegative (afterDash : Text) : Bool := looksNumeric (Text.dropLineEnd afterDash)

/-- The effects of the options whose words begin with the given text. -/
def beginningWith (start : String) : List Effect :=
  (words.filter fun w => Text.startsWith w.1.toList start.toList).map (·.2)

/-- What follows an equals sign, if there is one, and what stands before. -/
def splitEquals (t : Text) : String × Option String :=
  let name := t.takeWhile (· != '=')
  (String.ofList name,
    match t.drop name.length with
    | [] => none
    | _ :: value => some (String.ofList value))

/-- An argument that is the word or letter of no option. -/
def otherArgument (s : Text) : Argument :=
  if looksNegative (s.drop 1) || s.contains ' ' then .value (String.ofList s) else .unknown

/-- An argument with two dashes and a word; nothing if several options may be
    meant. -/
def wordArgument? (word : Text) : Option Argument :=
  let (name, attached) := splitEquals word
  match words.lookup name with
  | some e => some (.word e attached)
  | none =>
    match beginningWith name with
    | [] => some (otherArgument ('-' :: '-' :: word))
    | [e] => some (.word e attached)
    | _ => none

/-- The letters after the first one, which an equals sign may set off from
    it. -/
def moreLetters (t : Text) : Text :=
  match t with
  | '=' :: c :: r => c :: r
  | t => t

/-- What an argument is; nothing if several options may be meant. -/
def argument? (s : Text) : Option Argument :=
  match s with
  | '-' :: '-' :: word => wordArgument? word
  | '-' :: c :: r =>
    some (if (letters.lookup c).isSome then .letters (c :: moreLetters r) else otherArgument s)
  | s => some (.value (String.ofList s))

/-- What all arguments are. -/
def arguments? : List String → Option (List Argument)
  | [] => some []
  | s :: r =>
    if s = "--" then some (.separator :: r.map .value)
    else do
      let a ← argument? s.toList
      let more ← arguments? r
      return a :: more

/-! ## Letters -/

/-- The options of several letters; nothing if one of them is not known. -/
def letterFlags? (cs : Text) : Option (List Flag) := cs.mapM fun c => letters.lookup c

/-! ## Values -/

/-- The request after an option with a value; nothing if the value is
    refused. -/
def readValue? (read : String → Request → Option Request) (absent : Request → Request)
    (s : String) (q : Request) : Option Request :=
  if s = "--" then some (absent q) else read s q

/-! ## The whole line -/

/-- What comes of a command line. -/
inductive Reading where
  | request (q : Request)
  | help
  | refused

/-- How far a command line has been read. -/
structure Progress where
  request : Request := {}
  /-- Has an option followed the paths? -/
  closed : Bool := false
  /-- Was there anything that does not belong there? -/
  surplus : Bool := false

namespace Progress

/-- An option comes: no paths can follow if there were some before it. -/
def meetOption (p : Progress) : Progress :=
  { p with closed := p.closed || !p.request.paths.isEmpty }

/-- A path comes. -/
def meetPath (p : Progress) (s : String) : Progress :=
  if p.closed then { p with surplus := true }
  else { p with request := { p.request with paths := p.request.paths ++ [s] } }

/-- Two dashes come that stand alone. -/
def meetSeparator (p : Progress) : Progress := { p with surplus := p.surplus || p.closed }

/-- An option that is not known comes. -/
def meetUnknown (p : Progress) : Progress := { p.meetOption with surplus := true }

/-- Options that stand alone come; nothing if one asks for help. -/
def meetFlags? (p : Progress) : List Flag → Option Progress
  | [] => some p
  | .help :: _ => none
  | .set change :: r => { p with request := change p.request }.meetFlags? r

/-- The end comes. -/
def finish (p : Progress) : Reading :=
  if p.surplus || p.request.paths.isEmpty then .refused else .request p.request

end Progress

/-- Read arguments, given how far the line has been read.  Nothing is done
    after an option that asks for help, or a value that is refused. -/
def readArguments (p : Progress) : List Argument → Reading
  | [] => p.finish
  | .value s :: r => readArguments (p.meetPath s) r
  | .separator :: r => readArguments p.meetSeparator r
  | .unknown :: r => readArguments p.meetUnknown r
  | .letters cs :: r =>
    match letterFlags? cs with
    | none => .refused
    | some flags =>
      match p.meetOption.meetFlags? flags with
      | none => .help
      | some p => readArguments p r
  | .word (.flag _) (some _) :: _ => .refused
  | .word (.flag f) none :: r =>
    match p.meetOption.meetFlags? [f] with
    | none => .help
    | some p => readArguments p r
  | .word (.takes read absent) (some s) :: r =>
    match readValue? read absent s p.request with
    | none => .refused
    | some q => readArguments { p.meetOption with request := q } r
  | .word (.takes read absent) none :: .value s :: r =>
    match readValue? read absent s p.request with
    | none => .refused
    | some q => readArguments { p.meetOption with request := q } r
  | .word (.takes ..) none :: _ => .refused

/-- What comes of the arguments on a command line. -/
def readLine (args : List String) : Reading :=
  match arguments? args with
  | none => .refused
  | some as => readArguments {} as

end Kousei.Command
