import Kousei.Value.Basic

/-! # TOML tables

    The tables of a TOML document while it is read.  A table may come to be
    in several ways, and which of them decides how it may be added to: it
    may be declared once in a header, keys with dots add to the tables that
    they made in the same section, and a table that only stands on the way
    to another one may still be declared. -/

namespace Kousei.Toml

/-- How a table came to be. -/
inductive Standing where
  /-- It stands on the way to a table that was declared. -/
  | implied
  /-- Keys with dots have made it in the section that is being read. -/
  | growing
  /-- It was declared, or made in a section that has ended. -/
  | declared
  deriving DecidableEq, Repr

/-- What stands under a key. -/
inductive Item where
  | value (v : Value)
  | table (standing : Standing) (entries : List (String × Item))
  /-- A list of tables, of which the last one is being read. -/
  | tables (elements : List (List (String × Item)))

abbrev Entries : Type := List (String × Item)

/-- Entries with the item of a key replaced, or added at the end. -/
def setItem (key : String) (x : Item) : Entries → Entries
  | [] => [(key, x)]
  | (k, y) :: r => if k = key then (k, x) :: r else (k, y) :: setItem key x r

/-- Change the table at a path of headers; tables on the way are made if they
    are missing. -/
def within (change : Entries → Option Entries) : List String → Entries → Option Entries
  | [], es => change es
  | k :: path, es =>
    match es.lookup k with
    | none => (within change path []).map fun below => setItem k (.table .implied below) es
    | some (.table standing below) =>
      (within change path below).map fun below => setItem k (.table standing below) es
    | some (.tables elements) =>
      match elements.getLast? with
      | none => none
      | some below =>
        (within change path below).map fun below =>
          setItem k (.tables (elements.dropLast ++ [below])) es
    | some (.value _) => none

/-- Declare a table of the given name. -/
def declareTable (name : String) (es : Entries) : Option Entries :=
  match es.lookup name with
  | none => some (setItem name (.table .declared []) es)
  | some (.table .implied below) => some (setItem name (.table .declared below) es)
  | _ => none

/-- Add a table to the list of the given name. -/
def declareElement (name : String) (es : Entries) : Option Entries :=
  match es.lookup name with
  | none => some (setItem name (.tables [[]]) es)
  | some (.tables elements) => some (setItem name (.tables (elements ++ [[]])) es)
  | _ => none

/-- Give a key a value; a key with dots adds to the tables on its way. -/
def assign (v : Value) : List String → Entries → Option Entries
  | [], _ => none
  | [k], es =>
    match es.lookup k with
    | none => some (setItem k (.value v) es)
    | some _ => none
  | k :: path, es =>
    match es.lookup k with
    | none => (assign v path []).map fun below => setItem k (.table .growing below) es
    | some (.table .declared _) => none
    | some (.table _ below) =>
      (assign v path below).map fun below => setItem k (.table .growing below) es
    | some _ => none

mutual

/-- An item after the end of a section. -/
def settleItem : Item → Item
  | .value v => .value v
  | .table standing es =>
    .table (if standing = .growing then .declared else standing) (settle es)
  | .tables elements => .tables (settleAll elements)

def settle : List (String × Item) → List (String × Item)
  | [] => []
  | (k, x) :: r => (k, settleItem x) :: settle r

def settleAll : List (List (String × Item)) → List (List (String × Item))
  | [] => []
  | es :: r => settle es :: settleAll r

end

mutual

/-- The value of an item. -/
def itemValue : Item → Value
  | .value v => v
  | .table _ es => .map (entryValues es)
  | .tables elements => .list (elementValues elements)

def entryValues : List (String × Item) → List (Value × Value)
  | [] => []
  | (k, x) :: r => (.str k, itemValue x) :: entryValues r

def elementValues : List (List (String × Item)) → List Value
  | [] => []
  | es :: r => .map (entryValues es) :: elementValues r

end

end Kousei.Toml
