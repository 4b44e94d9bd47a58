import Kousei.Files.Path

/-! # Directories

    A tree of directories and of what else can be in them, which is looked at
    from one directory in it, the working directory.  Looking for the files
    under a path gives everything in a directory that is no directory, in the
    order of the names, then the same of its subdirectories in the order of
    their names.  Some subdirectories hold nothing that anyone wrote by hand
    and are passed over, and one that lies so deep that its path is too long
    cannot be opened, nor can one that the program may not look into. -/

namespace Kousei

/-- What the program may do with a directory. -/
structure Access where
  /-- See the names of what is in it. -/
  lists : Bool := true
  /-- Go through it to what is in it. -/
  enters : Bool := true
  deriving DecidableEq, Repr

/-- What can be at a path. -/
inductive FileTree where
  /-- A regular file, or else a pipe, a socket or a device, with the bytes that reading
      it gives; none if it cannot be read. -/
  | leaf (regular : Bool) (content : Option (List UInt8))
  /-- A directory with its entries by name. -/
  | directory (access : Access) (entries : List (String × FileTree))
  deriving Inhabited

namespace FileTree

/-- A file that can be read. -/
@[match_pattern]
abbrev file (bytes : List UInt8) : FileTree := leaf true (some bytes)

/-- Is it a regular file? -/
def isFile : FileTree → Bool
  | leaf regular _ => regular
  | directory .. => false

def isDirectory : FileTree → Bool
  | leaf .. => false
  | directory .. => true

def entries : FileTree → List (String × FileTree)
  | leaf .. => []
  | directory _ es => es

/-- What may be done with it if it is a directory. -/
def access : FileTree → Access
  | leaf .. => {}
  | directory a _ => a

/-! ## Changing a tree -/

/-- Entries with one changed or added. -/
def setEntry (name : String) (t : FileTree) : List (String × FileTree) → List (String × FileTree)
  | [] => [(name, t)]
  | (n, u) :: r => if n = name then (n, t) :: r else (n, u) :: setEntry name t r

/-- The tree with `t` put at a place, directories being made on the way.  What
    is there already as a directory keeps its entries when a directory is
    put there. -/
def put (t : FileTree) : List String → FileTree → FileTree
  | [], old =>
    match t, old with
    | directory a [], directory _ es => directory a es
    | t, _ => t
  | n :: r, old =>
    let below := (old.entries.lookup n).getD (directory {} [])
    directory old.access (setEntry n (put t r below) old.entries)

/-! ## Looking for files -/

/-- The names of directories that are passed over. -/
def skippedNames : List String :=
  [".git", ".hg", ".svn", "node_modules", "__pycache__", ".venv", "venv"]

/-- Entries in the order of their names. -/
def sorted {α : Type} (es : List (String × α)) : List (String × α) :=
  es.mergeSort fun a b => a.1 ≤ b.1

/-- The names of the entries that are no directories. -/
def fileNames (es : List (String × FileTree)) : List String :=
  (sorted (es.filter fun e => !e.2.isDirectory)).map (·.1)

/-- Does a directory stay closed: is it passed over, or is its path, which begins
    with that of the directory it is in, too long to be opened? -/
def staysClosed (above name : String) : Bool :=
  skippedNames.contains name || Path.maxBytes < (above ++ name).utf8ByteSize

mutual

/-- The files of a tree as lists of names from its root: those of the root,
    then those of its subdirectories.  The root is opened by the given path,
    which has a slash at its end.  What cannot be opened has no files. -/
def files (path : String) : FileTree → List (List String)
  | leaf .. => []
  | directory access es =>
    if !access.lists then []
    else
      (fileNames es).map (fun n => [n]) ++
        if access.enters then (sorted (subdirectories path es)).flatMap fun (_, fs) => fs else []

/-- The subdirectories among entries that are opened, each with the files in
    it. -/
def subdirectories (path : String) :
    List (String × FileTree) → List (String × List (List String))
  | [] => []
  | (n, t) :: r =>
    let others := subdirectories path r
    if !t.isDirectory || staysClosed path n then others
    else (n, (files (path ++ n ++ "/") t).map (n :: ·)) :: others

end

end FileTree

/-- A tree with one of its directories as the working directory. -/
structure Workspace where
  root : FileTree
  /-- The absolute path of the working directory. -/
  home : Path

namespace Workspace

/-- The tree at a place, step by step, given the directories above it.  Two
    dots go back up, and stay at the root; steps below a file lead
    nowhere.  A name is looked at only when the directory is there and may be
    gone through, so only then can it be too long. -/
def walk : List FileTree → FileTree → List String → Except PathFault (Option FileTree)
  | _, here, [] => .ok (some here)
  | above, here, n :: r =>
    match here with
    | .leaf .. => .ok none
    | .directory access es =>
      if !access.enters then .error .denied
      else if n = ".." then
        match above with
        | [] => walk [] here r
        | up :: further => walk further up r
      else if Path.maxNameBytes < n.utf8ByteSize then .error .tooLong
      else
        match es.lookup n with
        | none => .ok none
        | some below => walk (here :: above) below r

/-- The tree at a place below, with the directories above it, the nearest one first. -/
def descend : List FileTree → FileTree → List String → Option (List FileTree × FileTree)
  | above, here, [] => some (above, here)
  | above, here, n :: r => (here.entries.lookup n).bind fun below => descend (here :: above) below r

/-- Where a path begins: at the root, or in the working directory, which is open whatever
    is above it. -/
def start (w : Workspace) (p : Path) : Option (List FileTree × FileTree) :=
  if p.isAbsolute then some ([], w.root) else descend [] w.root w.home.names

/-- What is at a path, if anything is.  Nothing is at a path with a null
    character. -/
def find? (w : Workspace) (p : Path) : Except PathFault (Option FileTree) :=
  if p.hasNull then .ok none
  else if Path.maxBytes < p.render.utf8ByteSize then .error .tooLong
  else
    match w.start p with
    | none => .ok none
    | some (above, here) =>
      if p.isAbsolute || here.access.enters then walk above here p.names else .error .denied

/-- What is at a path that is not refused. -/
def at? (w : Workspace) (p : Path) : Option FileTree := (w.find? p).toOption.join

/-- Is there a regular file? -/
def hasFile (w : Workspace) (p : Path) : Bool := (w.at? p).any FileTree.isFile

/-- Is there anything? -/
def has (w : Workspace) (p : Path) : Bool := (w.at? p).isSome

/-- The bytes that reading gives. -/
def read? (w : Workspace) (p : Path) : Option (List UInt8) :=
  match w.at? p with
  | some (.leaf _ content) => content
  | _ => none

/-- The files that a path names: itself if it is a regular file, or those in the
    directory. -/
def filesUnder (w : Workspace) (p : Path) : List Path :=
  match w.at? p with
  | none => []
  | some (.leaf regular _) => if regular then [p] else []
  | some t => (t.files p.opened).map p.within

/-- The files that several paths name, one path after the other. -/
def filesUnderAll (w : Workspace) (ps : List String) : List Path :=
  ps.flatMap fun s => w.filesUnder (Path.ofString s)

/-- The fault of a path when it is only looked at. -/
def fault? (w : Workspace) (p : Path) : Option PathFault :=
  match w.find? p with
  | .ok _ => none
  | .error fault => some fault

/-- The fault of the first of several paths that has one. -/
def firstFault? (w : Workspace) (ps : List String) : Option PathFault :=
  ps.findSome? fun s => w.fault? (Path.ofString s)

end Workspace

end Kousei
