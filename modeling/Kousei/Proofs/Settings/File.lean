import Kousei.Command.Run
import Kousei.Proofs.Encoding.Reading
import Kousei.Proofs.Settings.Acceptance

/-! # Faults of settings files

    A file that cannot be used as settings is told to the user, and the run ends
    with two, as long as its fault is one of the file (`isForeseen_eq`).  Other
    faults break the run off.

    The readers of the formats aside, there are two places where that can happen
    (`Breaks`): a document has a table of tools that is no table, or the first
    value that is not taken is more than can be dealt with.  Nothing else that a
    file can say does (`ofBytes_cases`).

    Of the reader of YAML nothing is known but what it gives, so its documents may
    well have themselves in them. -/

namespace Kousei.Settings

variable {yaml : Reader} {path : Path} {bytes : List UInt8} {t : Text} {w : Workspace}
  {fault : SettingsFault} {f : ReadFault}

/-! ## What is told -/

/-- The faults that are told to the user are those that are errors of the
    file. -/
theorem isForeseen_eq (fault : LoadFault) : Command.isForeseen fault = fault.isOfFile := by
  cases fault with
  | refusedPath fault => cases fault <;> rfl
  | unreadable fault => cases fault <;> rfl
  | refused fault =>
    cases fault with
    | unshown fault => cases fault <;> rfl
    | _ => rfl
  | _ => rfl

/-- A settings file that cannot be used is told and ends the run with two, or it
    breaks the run off. -/
theorem run_of_fault {h : Command.Host} {args : List String} {q : Command.Request} {p : String}
    {fault : LoadFault} (hline : Command.readLine args = .request q) (hconfig : q.config = some p)
    (hp : p ≠ "") (hload : load h.yaml h.workspace (Path.ofString p) = .error fault) :
    Command.run h args =
      if fault.isOfFile then (.ok ⟨2, [], [Command.settingsError (some p) fault]⟩, {})
      else (.error (.settings fault), {}) := by
  have hsettings : q.settings h.yaml h.workspace = .error fault := by
    unfold Command.Request.settings Command.Request.baseSettings
    rw [hconfig]
    split
    · contradiction
    · next heq => exact absurd (Option.some.inj heq) hp
    · next heq =>
      rw [← Option.some.inj heq, hload]
      rfl
  unfold Command.run
  rw [hline]
  simp only [hsettings, isForeseen_eq, hconfig]

/-! ## Documents -/

section Documents

variable {δ : Type} [Data δ]

/-- What should be the tables of all tools is there and is no table. -/
def LacksTools (format : Format) (document : δ) : Prop :=
  format = .toml ∧ ∃ es tool, Data.layer document = .map es ∧ Data.lookup? "tool" es = some tool ∧
    ∀ tools, Data.layer tool ≠ .map tools

/-- The first value in a map that is not taken is an integer beyond all floats,
    or nested too deeply to be shown. -/
def Overstrains (x : δ) : Prop :=
  ∃ es d v, Data.layer x = .map es ∧ FirstOffence es d v ∧ d.kind.isOverstrained v

/-- What a document says breaks the loading off. -/
def BreaksOff (format : Format) (document : δ) : Prop :=
  LacksTools format document ∨ ∃ x, place format document = .ok (some x) ∧ Overstrains x

end Documents

/-- The text of a settings file is read, but what it says breaks the loading
    off. -/
def Breaks (yaml : Reader) (path : Path) (bytes : List UInt8) : Prop :=
  ∃ t document, Encoding.unmarkedText? bytes = some t ∧
    ((Format.ofPath path).reader yaml).read t = .ok document ∧
    BreaksOff (Format.ofPath path) document

section Documents

variable {δ : Type} [Data δ] {format : Format} {document x : δ}

theorem place_of_lacksTools (h : LacksTools format document) :
    place format document = .error .noToolTable := by
  obtain ⟨hformat, es, tool, hes, htool, hmap⟩ := h
  unfold place toolTable
  rw [if_pos hformat, hes]
  simp only [htool]

theorem exists_place_of_not_lacksTools (h : ¬LacksTools format document) :
    ∃ x?, place format document = .ok x? := by
  unfold place
  by_cases hformat : format = .toml
  · rw [if_pos hformat]
    unfold toolTable
    split
    next es hes =>
      split
      next => exact ⟨_, rfl⟩
      next tool htool =>
        split
        next => exact ⟨_, rfl⟩
        next hother => exact absurd ⟨hformat, es, tool, hes, htool, hother⟩ h
    next => exact ⟨_, rfl⟩
  · rw [if_neg hformat]
    exact ⟨_, rfl⟩

theorem ofValue_of_overstrains (h : Overstrains x) :
    (∃ name, ofValue x = .error (.tooLarge name)) ∨ ofValue x = .error (.unshown .tooDeep) := by
  obtain ⟨es, d, v, hx, hfirst, hstrained⟩ := h
  rw [ofValue_of_firstOffence hx hfirst]
  rcases fault_of_isOverstrained d.name hstrained with hfault | hfault
  · exact .inl ⟨d.name, congrArg Except.error hfault⟩
  · exact .inr (congrArg Except.error hfault)

/-- Unless there is more in it than can be dealt with, a value that is no settings
    is an error of the file. -/
theorem kind_of_ofValue (h : ofValue x = .error fault) (hnot : ¬Overstrains x) :
    fault.kind = "ValueError" := by
  cases hx : Data.layer x with
  | map es =>
    refine kind_of_ofValue_map hx h fun d v hfirst => Bool.eq_false_iff.2 fun hstrained => ?_
    exact hnot ⟨es, d, v, hx, hfirst, hstrained⟩
  | _ =>
    simp only [ofValue, hx] at h
    split at h
    · cases h
    · cases h
      rfl

theorem ofDocument_of_place (h : place format document = .ok (some x)) :
    ofDocument format document = (ofValue x).mapError .refused := by
  unfold ofDocument
  rw [h]
  rfl

/-- What comes of a document: settings or an error of the file, or a break. -/
theorem ofDocument_cases (format : Format) (document : δ) :
    (¬BreaksOff format document ∧ ((∃ s, ofDocument format document = .ok s) ∨
      ∃ fault, ofDocument format document = .error fault ∧ fault.isOfFile)) ∨
    (BreaksOff format document ∧ ∃ fault, ofDocument format document = .error fault ∧
      (fault = .noToolTable ∨ (∃ name, fault = .refused (.tooLarge name)) ∨
        fault = .refused (.unshown .tooDeep))) := by
  -- First the place for the settings may be missing, then what stands there may be refused.
  by_cases hlacks : LacksTools format document
  · refine .inr ⟨.inl hlacks, .noToolTable, ?_, .inl rfl⟩
    unfold ofDocument
    rw [place_of_lacksTools hlacks]
    rfl
  obtain ⟨x?, hplace⟩ := exists_place_of_not_lacksTools hlacks
  cases x? with
  | none =>
    refine .inl ⟨?_, .inl ⟨{}, ?_⟩⟩
    · rintro (h | ⟨x, hx, -⟩)
      · exact hlacks h
      · rw [hplace] at hx
        cases hx
    · unfold ofDocument
      rw [hplace]
      rfl
  | some x =>
    rw [ofDocument_of_place hplace]
    by_cases hstrained : Overstrains x
    · refine .inr ⟨.inr ⟨x, hplace, hstrained⟩, ?_⟩
      rcases ofValue_of_overstrains hstrained with ⟨name, hvalue⟩ | hvalue
      · rw [hvalue]
        exact ⟨_, rfl, .inr (.inl ⟨name, rfl⟩)⟩
      · rw [hvalue]
        exact ⟨_, rfl, .inr (.inr rfl)⟩
    · refine .inl ⟨?_, ?_⟩
      · rintro (h | ⟨x', hx', hstrained'⟩)
        · exact hlacks h
        · rw [hplace] at hx'
          cases hx'
          exact hstrained hstrained'
      · cases hvalue : ofValue x with
        | ok s => exact .inl ⟨s, rfl⟩
        | error fault =>
          refine .inr ⟨.refused fault, rfl, ?_⟩
          rw [LoadFault.isOfFile, LoadFault.failure, SettingsFault.failure,
            kind_of_ofValue hvalue hstrained]
          rfl

end Documents

/-! ## Loading -/

theorem isOfFile_readFault (path : Path) (f : ReadFault) :
    (readFault (notWritten path) f).isOfFile = (f.kind == "ValueError") := by
  cases f with
  | malformed =>
    unfold notWritten
    cases Format.ofPath path <;> rfl
  | _ => rfl

theorem ofText_of_error {reader : Reader} (hread : reader.read t = .error f) :
    ofText reader path t = .error (readFault (notWritten path) f) := by
  unfold ofText
  rw [hread]
  rfl

theorem ofText_of_ok {reader : Reader} {document : reader.Document}
    (hread : reader.read t = .ok document) :
    ofText reader path t = ofDocument (Format.ofPath path) document := by
  unfold ofText
  rw [hread]
  exact pure_bind document _

theorem ofBytes_of_error {format : Format} (hformat : Format.ofPath path = format)
    (ht : Encoding.unmarkedText? bytes = some t) (hread : (format.reader yaml).read t = .error f) :
    ofBytes yaml path bytes = .error (readFault (notWritten path) f) := by
  subst hformat
  unfold ofBytes
  rw [ht]
  exact ofText_of_error hread

theorem ofBytes_of_ok {format : Format} {document : (format.reader yaml).Document}
    (hformat : Format.ofPath path = format) (ht : Encoding.unmarkedText? bytes = some t)
    (hread : (format.reader yaml).read t = .ok document) :
    ofBytes yaml path bytes = ofDocument format document := by
  subst hformat
  unfold ofBytes
  rw [ht]
  exact ofText_of_ok hread

theorem breaks_iff {format : Format} {document : (format.reader yaml).Document}
    (hformat : Format.ofPath path = format) (ht : Encoding.unmarkedText? bytes = some t)
    (hread : (format.reader yaml).read t = .ok document) :
    Breaks yaml path bytes ↔ BreaksOff format document := by
  subst hformat
  constructor
  · rintro ⟨t', document', ht', hread', h⟩
    rw [ht] at ht'
    cases ht'
    rw [hread] at hread'
    cases hread'
    exact h
  · exact fun h => ⟨t, document, ht, hread, h⟩

/-- What comes of the bytes of a file: settings or an error of the file, or a
    break. -/
theorem ofBytes_cases (yaml : Reader) (path : Path) (bytes : List UInt8)
    (hreader : ∀ t f, Encoding.unmarkedText? bytes = some t →
      ((Format.ofPath path).reader yaml).read t = .error f → f.kind = "ValueError") :
    (¬Breaks yaml path bytes ∧ ((∃ s, ofBytes yaml path bytes = .ok s) ∨
      ∃ fault, ofBytes yaml path bytes = .error fault ∧ fault.isOfFile)) ∨
    (Breaks yaml path bytes ∧ ∃ fault, ofBytes yaml path bytes = .error fault ∧
      (fault = .noToolTable ∨ (∃ name, fault = .refused (.tooLarge name)) ∨
        fault = .refused (.unshown .tooDeep))) := by
  cases ht : Encoding.unmarkedText? bytes with
  | none =>
    have hrun : ofBytes yaml path bytes = .error (.undecodable path) := by
      unfold ofBytes
      rw [ht]
    refine .inl ⟨?_, .inr ⟨_, hrun, rfl⟩⟩
    rintro ⟨t, _, ht', -⟩
    rw [ht] at ht'
    cases ht'
  | some t =>
    cases hread : ((Format.ofPath path).reader yaml).read t with
    | error f =>
      have hfault : (readFault (notWritten path) f).isOfFile := by
        rw [isOfFile_readFault, hreader t f ht hread]
        rfl
      refine .inl ⟨?_, .inr ⟨_, ofBytes_of_error rfl ht hread, hfault⟩⟩
      rintro ⟨t', document, ht', hread', -⟩
      rw [ht] at ht'
      cases ht'
      rw [hread] at hread'
      cases hread'
    | ok document =>
      rw [breaks_iff rfl ht hread, ofBytes_of_ok rfl ht hread]
      exact ofDocument_cases (Format.ofPath path) document

theorem load_of_file (hfile : w.find? path = .ok (some (.file bytes))) :
    load yaml w path = ofBytes yaml path bytes := by
  unfold load
  rw [hfile]

theorem not_good {r : Except LoadFault Settings} {fault : LoadFault} (h : r = .error fault)
    (hbad : fault.isOfFile = false) :
    ¬((∃ s, r = .ok s) ∨ ∃ fault, r = .error fault ∧ fault.isOfFile) := by
  rintro (⟨s, hs⟩ | ⟨fault', hfault, hgood⟩)
  · rw [h] at hs
    cases hs
  · rw [h] at hfault
    cases hfault
    rw [hbad] at hgood
    cases hgood

/-- **Faults of settings files.**  Of a file that can be read settings come, or
    an error of the file that is told to the user, exactly if the file does not
    break the loading off.  It does if what should be the tables of all tools is
    no table, or if the first value that is not taken is an integer beyond all
    floats or nested too deeply to be shown.  The readers of the formats are not
    in question here: their own faults are taken to be errors of the file. -/
theorem load_iff_not_breaks (yaml : Reader) (w : Workspace) (path : Path) (bytes : List UInt8)
    (hfile : w.find? path = .ok (some (.file bytes)))
    (hreader : ∀ t f, Encoding.unmarkedText? bytes = some t →
      ((Format.ofPath path).reader yaml).read t = .error f → f.kind = "ValueError") :
    (((∃ s, load yaml w path = .ok s) ∨
        ∃ fault, load yaml w path = .error fault ∧ fault.isOfFile) ↔
        ¬Breaks yaml path bytes) ∧
      (Breaks yaml path bytes → ∃ fault, load yaml w path = .error fault ∧
        (fault = .noToolTable ∨ (∃ name, fault = .refused (.tooLarge name)) ∨
          fault = .refused (.unshown .tooDeep))) ∧
      ∀ (h : Command.Host) args q p fault, h.yaml = yaml → h.workspace = w →
        Path.ofString p = path → Command.readLine args = .request q → q.config = some p →
        p ≠ "" → load yaml w path = .error fault →
        Command.run h args =
          if fault.isOfFile then (.ok ⟨2, [], [Command.settingsError (some p) fault]⟩, {})
          else (.error (.settings fault), {}) := by
  have hload : load yaml w path = ofBytes yaml path bytes := load_of_file hfile
  refine ⟨?_, ?_, ?_⟩
  · rw [hload]
    rcases ofBytes_cases yaml path bytes hreader with ⟨hnot, hgood⟩ | ⟨hbreaks, fault, hrun, hfault⟩
    · exact iff_of_true hgood hnot
    · refine iff_of_false (not_good hrun ?_) (not_not_intro hbreaks)
      rcases hfault with rfl | ⟨name, rfl⟩ | rfl <;> rfl
  · intro hbreaks
    rw [hload]
    rcases ofBytes_cases yaml path bytes hreader with ⟨hnot, -⟩ | ⟨-, hrun⟩
    · exact absurd hbreaks hnot
    · exact hrun
  · rintro h args q p fault rfl rfl rfl hline hconfig hp hfault
    exact run_of_fault hline hconfig hp hfault

/-! ## Some files -/

/-- A value is not as it should be. -/
def wrongValue : Text := text "\x7b\"enable\": \"yes\"\x7d"

/-- A map has itself in it, and a number that is beyond all floats. -/
def loopedText : Text :=
  text "&a \x7bmin_japanese_ratio: 0x1" ++ List.replicate 256 '0' ++ text ", self: *a\x7d"

/-- The parts of the document that `loopedText` is. -/
inductive Looped where
  | whole
  | ratioKey
  | ratio
  | selfKey

def Looped.layer : Looped → Layer Looped
  | whole => .map [(ratioKey, ratio), (selfKey, whole)]
  | ratioKey => .str "min_japanese_ratio"
  | ratio => .int (16 ^ 256)
  | selfKey => .str "self"

def Looped.written : Looped → String
  | whole => "\x7b'min_japanese_ratio': " ++ toString (16 ^ 256) ++ ", 'self': \x7b...\x7d\x7d"
  | ratioKey => "'min_japanese_ratio'"
  | ratio => toString (16 ^ 256)
  | selfKey => "'self'"

instance : Data Looped where
  layer := Looped.layer
  written x := .ok x.written
  display x := .ok x.written

-- The reader is not to be evaluated, which would compare the texts character by character.
@[irreducible]
def readLooped (t : Text) : Reading Looped :=
  if t = loopedText then .ok .whole else .error .malformed

theorem readLooped_loopedText : readLooped loopedText = .ok .whole := by
  unfold readLooped
  exact if_pos rfl

/-- A reader of the one text. -/
def loopedReader : Reader where
  Document := Looped
  data := inferInstance
  read := readLooped

/-- A host with two settings files. -/
def sampleHost : Command.Host where
  installation := { janome := fun _ => .ok [], fugashi := fun _ => .ok [] }
  grammars := fun _ name => .error name
  yaml := loopedReader
  workspace :=
    { root := .directory {} [("wrong.json", .file (Encoding.Utf8.encode wrongValue)),
        ("looped.yaml", .file (Encoding.Utf8.encode loopedText))]
      home := ⟨"/", []⟩ }

/-- A command line names a settings file. -/
def names (args : List String) (path : String) : Bool :=
  match Command.readLine args with
  | .request q => q.config == some path
  | _ => false

theorem exists_request {args : List String} {p : String} (h : names args p) :
    ∃ q, Command.readLine args = .request q ∧ q.config = some p := by
  unfold names at h
  split at h
  next q hline => exact ⟨q, hline, eq_of_beq h⟩
  next => cases h

theorem unmarkedText?_encode (h : Encoding.dropMarks t = t) :
    Encoding.unmarkedText? (Encoding.Utf8.encode t) = some t := by
  rw [Encoding.unmarkedText?, Encoding.decode?_of_utf8 rfl, Option.map_some, h]

/-- A mapping is read with one entry, whose value is known. -/
def readsEntry (key : String) (isKnown : Value → Bool) : Reading Value → Bool
  | .ok (.map [(.str k, v)]) => k == key && isKnown v
  | _ => false

/-- Is the value the given number? -/
def isInt (n : Int) : Value → Bool
  | .int m => m == n
  | _ => false

theorem eq_str_of_isText {v : Value} {t : String} (h : Data.isText t v) : v = .str t := by
  cases v with
  | str s => rw [eq_of_beq (show (s == t) = true from h)]
  | _ => cases h

theorem eq_int_of_isInt {v : Value} {n : Int} (h : isInt n v) : v = .int n := by
  cases v with
  | int m => rw [eq_of_beq (show (m == n) = true from h)]
  | _ => cases h

theorem exists_of_readsEntry {key : String} {isKnown : Value → Bool} {r : Reading Value}
    (h : readsEntry key isKnown r) : ∃ v, r = .ok (.map [(.str key, v)]) ∧ isKnown v = true := by
  unfold readsEntry at h
  split at h
  next k v =>
    obtain ⟨hk, hv⟩ := Bool.and_eq_true_iff.1 h
    exact ⟨v, by rw [eq_of_beq hk], hv⟩
  next => cases h

theorem read_wrongValue : (Format.json.reader sampleHost.yaml).read wrongValue =
    .ok (Value.map [(.str "enable", .str "yes")]) := by
  show Json.read wrongValue = _
  obtain ⟨v, hread, hv⟩ := exists_of_readsEntry (r := Json.read wrongValue)
    (show readsEntry "enable" (Data.isText "yes") _ by decide +kernel)
  rw [eq_str_of_isText hv] at hread
  exact hread

theorem firstOffence_wrongValue : FirstOffence [(Value.str "enable", Value.str "yes")]
    { name := "enable", runTogether := "enable", kind := .truth, default := .bool true }
    (.str "yes") :=
  .inl ⟨[], .str "enable", [], rfl, by decide, List.mem_of_getElem? (i := 0) rfl, by decide⟩

theorem ofValue_wrongValue : ofValue (Value.map [(.str "enable", .str "yes")]) =
    .error (.wrongType "enable" "真偽値" "'yes'") := by
  have hwritten : Data.written (Value.str "yes") = .ok "'yes'" :=
    written_value (by decide +kernel) (by decide +kernel)
  rw [ofValue_of_firstOffence rfl firstOffence_wrongValue]
  simp only [Kind.fault, Kind.shown, hwritten]
  rfl

/-- Bytes of which a document is read have no fault of reading. -/
theorem kind_of_read {format : Format} {document : (format.reader yaml).Document}
    (hformat : Format.ofPath path = format) (ht : Encoding.unmarkedText? bytes = some t)
    (hread : (format.reader yaml).read t = .ok document) (t' : Text) (f : ReadFault)
    (ht' : Encoding.unmarkedText? bytes = some t')
    (hf : ((Format.ofPath path).reader yaml).read t' = .error f) : f.kind = "ValueError" := by
  subst hformat
  rw [ht] at ht'
  rw [← Option.some.inj ht', hread] at hf
  cases hf

/-- The document with itself in it begins with a value that is too much. -/
theorem firstOffence_whole :
    FirstOffence [(Looped.ratioKey, Looped.ratio), (Looped.selfKey, Looped.whole)]
      { name := "min_japanese_ratio", runTogether := "minJapaneseRatio", kind := .number,
        default := .float 0.1 } .ratio :=
  .inl ⟨[], .ratioKey, _, rfl, by decide, List.mem_of_getElem? (i := 2) rfl, by decide +kernel⟩

theorem overstrains_whole : Overstrains Looped.whole :=
  ⟨_, _, _, rfl, firstOffence_whole, by decide +kernel⟩

theorem place_whole : place .yaml Looped.whole = .ok (some .whole) := rfl

theorem ofDocument_whole :
    ofDocument .yaml Looped.whole = .error (.refused (.tooLarge "min_japanese_ratio")) := by
  rw [ofDocument_of_place place_whole, ofValue_of_firstOffence rfl firstOffence_whole]
  rfl

theorem load_iff_not_breaks_of_sampleHost :
    (sampleHost.workspace.find? (Path.ofString "wrong.json") =
        .ok (some (.file (Encoding.Utf8.encode wrongValue))) ∧
      ¬Breaks sampleHost.yaml (Path.ofString "wrong.json") (Encoding.Utf8.encode wrongValue) ∧
      load sampleHost.yaml sampleHost.workspace (Path.ofString "wrong.json") =
        .error (.refused (.wrongType "enable" "真偽値" "'yes'")) ∧
      Command.run sampleHost ["--config", "wrong.json", "a.txt"] =
        (.ok ⟨2, [], [Command.settingsError (some "wrong.json")
          (.refused (.wrongType "enable" "真偽値" "'yes'"))]⟩, {})) ∧
    sampleHost.workspace.find? (Path.ofString "looped.yaml") =
        .ok (some (.file (Encoding.Utf8.encode loopedText))) ∧
      Breaks sampleHost.yaml (Path.ofString "looped.yaml") (Encoding.Utf8.encode loopedText) ∧
      load sampleHost.yaml sampleHost.workspace (Path.ofString "looped.yaml") =
        .error (.refused (.tooLarge "min_japanese_ratio")) ∧
      Command.run sampleHost ["--config", "looped.yaml", "a.txt"] =
        (.error (.settings (.refused (.tooLarge "min_japanese_ratio"))), {}) := by
  constructor
  · have hfile : sampleHost.workspace.find? (Path.ofString "wrong.json") =
        .ok (some (.file (Encoding.Utf8.encode wrongValue))) := rfl
    have ht := unmarkedText?_encode (t := wrongValue) (by decide +kernel)
    have hformat : Format.ofPath (Path.ofString "wrong.json") = .json := by decide +kernel
    obtain ⟨q, hline, hconfig⟩ := exists_request (p := "wrong.json")
      (show names ["--config", "wrong.json", "a.txt"] _ by decide +kernel)
    have hload : load sampleHost.yaml sampleHost.workspace (Path.ofString "wrong.json") =
        .error (.refused (.wrongType "enable" "真偽値" "'yes'")) := by
      rw [load_of_file hfile, ofBytes_of_ok hformat ht read_wrongValue]
      show (ofValue (Value.map [(.str "enable", .str "yes")])).mapError _ = _
      rw [ofValue_wrongValue]
      rfl
    obtain ⟨hgood, -, hrun⟩ := load_iff_not_breaks sampleHost.yaml _ _ _ hfile
      (kind_of_read hformat ht read_wrongValue)
    exact ⟨hfile, hgood.1 (.inr ⟨_, hload, rfl⟩), hload,
      hrun sampleHost _ q _ _ rfl rfl rfl hline hconfig (by decide) hload⟩
  · have hfile : sampleHost.workspace.find? (Path.ofString "looped.yaml") =
        .ok (some (.file (Encoding.Utf8.encode loopedText))) := rfl
    have ht := unmarkedText?_encode (t := loopedText) (by decide +kernel)
    have hformat : Format.ofPath (Path.ofString "looped.yaml") = .yaml := by decide +kernel
    have hread : (Format.yaml.reader sampleHost.yaml).read loopedText = .ok Looped.whole :=
      readLooped_loopedText
    obtain ⟨q, hline, hconfig⟩ := exists_request (p := "looped.yaml")
      (show names ["--config", "looped.yaml", "a.txt"] _ by decide +kernel)
    have hoff : BreaksOff Format.yaml Looped.whole := .inr ⟨_, place_whole, overstrains_whole⟩
    have hbreaks : Breaks sampleHost.yaml (Path.ofString "looped.yaml")
        (Encoding.Utf8.encode loopedText) := (breaks_iff hformat ht hread).2 hoff
    have hload : load sampleHost.yaml sampleHost.workspace (Path.ofString "looped.yaml") =
        .error (.refused (.tooLarge "min_japanese_ratio")) := by
      rw [load_of_file hfile, ofBytes_of_ok hformat ht hread]
      exact ofDocument_whole
    obtain ⟨-, -, hrun⟩ := load_iff_not_breaks sampleHost.yaml _ _ _ hfile
      (kind_of_read hformat ht hread)
    exact ⟨hfile, hbreaks, hload,
      hrun sampleHost _ q _ _ rfl rfl rfl hline hconfig (by decide) hload⟩

/-- A number stands for the tables of all tools. -/
def numberForTools : Text := text "tool = 1\n"

/-- A host with one settings file. -/
def toolsHost : Command.Host :=
  { sampleHost with
    workspace :=
      { root := .directory {} [("tools.toml", .file (Encoding.Utf8.encode numberForTools))]
        home := ⟨"/", []⟩ } }

/-- A file that breaks the loading off, though it is read. -/
theorem load_numberForTools :
    toolsHost.workspace.find? (Path.ofString "tools.toml") =
        .ok (some (.file (Encoding.Utf8.encode numberForTools))) ∧
      (Format.toml.reader toolsHost.yaml).read numberForTools =
        .ok (Value.map [(.str "tool", .int 1)]) ∧
      load toolsHost.yaml toolsHost.workspace (Path.ofString "tools.toml") = .error .noToolTable ∧
      LoadFault.noToolTable.isOfFile = false ∧
      Command.run toolsHost ["--config", "tools.toml", "a.txt"] =
        (.error (.settings .noToolTable), {}) := by
  have hfile : toolsHost.workspace.find? (Path.ofString "tools.toml") =
      .ok (some (.file (Encoding.Utf8.encode numberForTools))) := rfl
  have ht := unmarkedText?_encode (t := numberForTools) (by decide +kernel)
  have hformat : Format.ofPath (Path.ofString "tools.toml") = .toml := by decide +kernel
  have hread : (Format.toml.reader toolsHost.yaml).read numberForTools =
      .ok (Value.map [(.str "tool", .int 1)]) := by
    show Toml.read numberForTools = _
    obtain ⟨v, hread, hv⟩ := exists_of_readsEntry (r := Toml.read numberForTools)
      (show readsEntry "tool" (isInt 1) _ by decide +kernel)
    rw [eq_int_of_isInt hv] at hread
    exact hread
  obtain ⟨q, hline, hconfig⟩ := exists_request (p := "tools.toml")
    (show names ["--config", "tools.toml", "a.txt"] _ by decide +kernel)
  have hload : load toolsHost.yaml toolsHost.workspace (Path.ofString "tools.toml") =
      .error .noToolTable := by
    rw [load_of_file hfile, ofBytes_of_ok hformat ht hread]
    rfl
  exact ⟨hfile, hread, hload, rfl, run_of_fault hline hconfig (by decide) hload⟩

end Kousei.Settings
