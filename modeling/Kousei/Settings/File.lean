import Kousei.Encoding.Detect
import Kousei.Files.Directory
import Kousei.Notice
import Kousei.Settings.Mapping
import Kousei.Toml.Reader
import Kousei.Value.Json

/-! # Settings files

    Settings are read from a file in one of three formats, by the suffix of
    its name: TOML, where they have a table of their own among those of
    other tools, YAML, and JSON for every other suffix.

    The reader of YAML is one of the packages that a program finds where it
    runs.  Its documents may have themselves in them, so of what type they are is
    its own affair. -/

namespace Kousei

/-- Why no settings come of a file. -/
inductive LoadFault where
  /-- There is no such file. -/
  | missing (path : Path)
  /-- The path is refused, or the file at it is. -/
  | refusedPath (fault : PathFault)
  /-- The bytes fit no encoding. -/
  | undecodable (path : Path)
  | notToml (path : Path)
  | notYaml (path : Path)
  | notJson
  /-- It is written in its format, but what it says has no value. -/
  | unreadable (fault : ReadFault)
  /-- What should hold the tables of all tools is no table. -/
  | noToolTable
  | refused (fault : SettingsFault)

def LoadFault.message : LoadFault → String
  | .missing path => path.render
  | .refusedPath fault => fault.failure.message
  | .undecodable path => s!"設定ファイルをデコードできません: {path.render}"
  | .notToml _ => "TOMLの解析に失敗しました"
  | .notYaml _ => "YAMLの解析に失敗しました"
  | .notJson => "Expecting value"
  | .unreadable fault => fault.message
  | .noToolTable => "no table of tools"
  | .refused fault => fault.message

namespace Settings

/-- The formats of settings files. -/
inductive Format where
  | toml
  | yaml
  | json
  deriving DecidableEq, Repr

/-- The format of a file, by its suffix. -/
def Format.ofPath (p : Path) : Format :=
  if p.suffix == ".toml" then .toml
  else if p.suffix == ".yaml" || p.suffix == ".yml" then .yaml
  else .json

/-- A reader of documents. -/
structure Reader where
  /-- The documents that it reads, and their parts. -/
  Document : Type
  data : Data Document
  read : Text → Reading Document

attribute [instance] Reader.data

/-- The reader of a format, given that of YAML. -/
def Format.reader (yaml : Reader) : Format → Reader
  | .toml => { Document := Value, data := inferInstance, read := Toml.read }
  | .yaml => yaml
  | .json => { Document := Value, data := inferInstance, read := Json.read }

/-! ## The place of the settings -/

section Place

variable {δ : Type} [Data δ]

/-- The table of this program among those of other tools, if it is there. -/
def toolTable (document : δ) : Except LoadFault (Option δ) :=
  match Data.layer document with
  | .map es =>
    match Data.lookup? "tool" es with
    | none => .ok none
    | some tool =>
      match Data.layer tool with
      | .map tools => .ok (Data.lookup? programName tools)
      | _ => .error .noToolTable
  | _ => .ok none

/-- What stands in a document in the place of the settings, if there is
    anything. -/
def place (format : Format) (document : δ) : Except LoadFault (Option δ) :=
  if format = .toml then toolTable document else .ok (some document)

/-- The settings in a document. -/
def ofDocument (format : Format) (document : δ) : Except LoadFault Settings := do
  match ← place format document with
  | none => return {}
  | some x => (ofValue x).mapError .refused

end Place

/-! ## Files -/

/-- A fault of reading as one of loading: what is not written in the format of
    the file is told as such. -/
def readFault (notWritten : LoadFault) : ReadFault → LoadFault
  | .malformed => notWritten
  | fault => .unreadable fault

/-- What is told of a text that is not written in the format of the file. -/
def notWritten (path : Path) : LoadFault :=
  match Format.ofPath path with
  | .toml => .notToml path
  | .yaml => .notYaml path
  | .json => .notJson

/-- The settings in a text that a reader reads. -/
def ofText (reader : Reader) (path : Path) (t : Text) : Except LoadFault Settings := do
  let document ← (reader.read t).mapError (readFault (notWritten path))
  ofDocument (Format.ofPath path) document

/-- The settings in the bytes of a file. -/
def ofBytes (yaml : Reader) (path : Path) (bytes : List UInt8) : Except LoadFault Settings :=
  match Encoding.unmarkedText? bytes with
  | none => .error (.undecodable path)
  | some t => ofText ((Format.ofPath path).reader yaml) path t

/-- The settings in a file. -/
def load (yaml : Reader) (w : Workspace) (path : Path) : Except LoadFault Settings :=
  match w.find? path with
  | .error fault => .error (.refusedPath fault)
  | .ok (some (.file bytes)) => ofBytes yaml path bytes
  | .ok (some (.leaf true none)) => .error (.refusedPath .denied)
  | .ok _ => .error (.missing path)

end Settings

end Kousei
