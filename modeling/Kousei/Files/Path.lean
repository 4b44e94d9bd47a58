import Kousei.Failure
import Kousei.Text.Basic

/-! # Paths

    A path is absolute or relative and has a list of names, of which two
    dots stand for the directory above.  Empty names and single dots in a
    written path do not count. -/

namespace Kousei

structure Path where
  /-- What an absolute path begins with; empty for a relative one. -/
  root : String := ""
  names : List String := []
  deriving DecidableEq, Repr

namespace Path

/-! ## Reading and writing -/

/-- The root of a written path: two slashes are a root of their own, any other
    number of them is as good as one. -/
def rootOf (t : Text) : String :=
  match (t.takeWhile (· == '/')).length with
  | 0 => ""
  | 2 => "//"
  | _ => "/"

/-- The names of a written path. -/
def namesOf (t : Text) : List String :=
  ((Text.splitOn '/' t).filter fun n => n != [] && n != ['.']).map String.ofList

def ofString (s : String) : Path := ⟨rootOf s.toList, namesOf s.toList⟩

/-- The path as it is written; a relative path without names is a dot. -/
def render (p : Path) : String :=
  if p.root.isEmpty && p.names.isEmpty then "." else p.root ++ "/".intercalate p.names

def isAbsolute (p : Path) : Bool := !p.root.isEmpty

/-- The path of a name in a directory. -/
def child (p : Path) (name : String) : Path := { p with names := p.names ++ [name] }

/-- The path of names below a directory. -/
def within (p : Path) (names : List String) : Path := { p with names := p.names ++ names }

/-- The path of a directory as those of what is in it begin: written with a slash at its
    end. -/
def opened (p : Path) : String :=
  if p.names.isEmpty && p.isAbsolute then p.root else p.render ++ "/"

/-- A path seen from a directory. -/
def join (directory p : Path) : Path :=
  if p.isAbsolute then p else { directory with names := directory.names ++ p.names }

/-! ## Suffixes -/

/-- The last name; empty if there is none. -/
def name (p : Path) : String := p.names.getLast?.getD ""

/-- The suffix of a name, from its last dot on.  A dot at the beginning or at
    the end of the name begins no suffix. -/
def suffixOf (name : Text) : Text :=
  let ending : Text := (name.reverse.takeWhile (· != '.')).reverse
  let stem := name.length - ending.length
  if ending.isEmpty || stem ≤ 1 then [] else '.' :: ending

/-- The suffix of a path, to be compared with ASCII suffixes. -/
def suffix (p : Path) : String := String.ofList (Text.toAsciiWord (suffixOf p.name.toList))

/-! ## Places without two dots -/

/-- Names without two dots: each takes the name before it away. -/
def collapse (names : List String) : List String :=
  (names.foldl (fun (done : List String) n => if n = ".." then done.tail else n :: done)
    []).reverse

/-- The absolute path without two dots that a path stands for. -/
def resolve (directory p : Path) : Path := ⟨"/", collapse (directory.join p).names⟩

end Path

/-! ## Paths that are refused -/

/-- Why nothing can be said of what is at a path. -/
inductive PathFault where
  /-- A name in it, or the whole of it, is too long. -/
  | tooLong
  /-- It has a null character, which would end it. -/
  | null
  /-- It leads through a directory, or to a file, that is not open to the program. -/
  | denied
  deriving DecidableEq, Repr

/-- The failure of an operation on files for such a path. -/
def PathFault.failure : PathFault → Failure
  | .tooLong => .raised "OSError" "File name too long"
  | .null => .raised "ValueError" "embedded null byte"
  | .denied => .raised "PermissionError" "Permission denied"

namespace Path

/-- The most bytes that a name may have. -/
def maxNameBytes : Nat := 255

/-- The most bytes that a written path may have. -/
def maxBytes : Nat := 4095

def hasNull (p : Path) : Bool := p.names.any fun n => n.toList.contains '\x00'

end Path

/-! ## Languages of files -/

/-- The languages of the suffixes that are known. -/
def suffixLanguages : List (String × String) :=
  [(".txt", "plaintext"), (".md", "markdown"), (".markdown", "markdown"), (".tex", "latex"),
   (".html", "html"), (".htm", "html"), (".js", "javascript"), (".mjs", "javascript"),
   (".cjs", "javascript"), (".jsx", "javascriptreact"), (".ts", "typescript"),
   (".mts", "typescript"), (".tsx", "typescriptreact"), (".py", "python"), (".pyi", "python"),
   (".rs", "rust"), (".c", "c"), (".h", "c"), (".cc", "cpp"), (".cpp", "cpp"), (".cxx", "cpp"),
   (".hpp", "cpp")]

/-- The language of a file, by its suffix; plain text if that is not known. -/
def languageOf (p : Path) : String := (suffixLanguages.lookup p.suffix).getD "plaintext"

end Kousei
