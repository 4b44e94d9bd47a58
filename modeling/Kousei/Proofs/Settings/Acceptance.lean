import Kousei.Proofs.Settings.Mapping

/-! # Which maps are settings

    A map stands for settings exactly if every value in it is taken by the
    setting of which its key is a spelling; keys that are no spelling of any
    setting do not matter (`exists_ofValue_map_iff`).  What has become of the
    settings then is told line by line (`values_of_ofValue_map`).

    The other way round, settings whose values are of their types are written
    down in a map by giving each of them its value under one of its spellings.
    As a key is a spelling of one setting at most, that is the value which is
    found there again (`ofValue_of_writtenIn`).

    What a list of texts has to hold goes beyond its type: whatever is put into
    texts must not be an integer with too many digits, and its parts must not be
    nested too deeply (`ofValue_unshown`). -/

namespace Kousei.Settings

section Written

variable {δ : Type} [Data δ]

/-! ## Settings that are written down -/

/-- The value of a setting is what stands in a document: it is there as it is,
    and texts are there as a list or a tuple. -/
def Stands (x : δ) : Value → Prop
  | .bool b => Data.layer x = .bool b
  | .int n => Data.layer x = .int n
  | .float y => Data.layer x = .float y
  | .tuple names => ∃ xs, Data.layer x = .list xs ∧
      List.Forall₂ (fun x name => ∃ s, Data.layer x = .str s ∧ name = .str s) xs names
  | _ => False

/-- The entries write the value of a setting down, under one of its spellings
    at least and under none of them anything else. -/
def Description.IsWritten (d : Description) (es : List (δ × δ)) (v : Value) : Prop :=
  (∃ e ∈ es, d.isSpelled e.1) ∧ ∀ e ∈ es, d.isSpelled e.1 → Stands e.2 v

/-- The entries write the values of a table down, line by line. -/
def Written (ds : List Description) (values : List (String × Value)) (es : List (δ × δ)) : Prop :=
  List.Forall₂ (fun d line => d.IsWritten es line.2) ds values

/-- A map of settings writes settings down, those of the rules in a map of
    their own. -/
def WrittenIn (s : Settings) (es : List (δ × δ)) : Prop :=
  Written described s.table es ∧ ∃ rules, rulesLayer? es = some (.map rules) ∧
    Written describedRules (ruleTable s.rules) rules

end Written

variable {δ : Type} [Data δ] {ds : List Description} {d : Description} {es : List (δ × δ)}
  {e : δ × δ} {x v : δ} {s : Settings} {values : List (String × Value)}

/-- The limits of the rules. -/
def limits (r : RuleSettings) : List Limit :=
  [r.commaLimitMax, r.adversativeGaMax, r.duplicateParticleMaxRepeat,
   r.adjacentParticlesMaxRepeat, r.conjunctionRepeatMax]

/-- All settings have values of their types: none is absent, and the limits are
    integers. -/
structure IsTyped (s : Settings) : Prop where
  ratio : ∃ x, s.minJapaneseRatio = some x
  severity : ∃ n, s.minSeverity = some n
  limits : ∀ l ∈ limits s.rules, ∃ n : Int, l = .count n

/-- The value is one that a setting of the type can have. -/
def Kind.Has : Kind → Value → Prop
  | truth, v => ∃ b, v = .bool b
  | integer, v => ∃ n, v = .int n
  | number, v => ∃ y, v = .float y
  | texts, v => ∃ names : List String, v = .tuple (names.map .str)

/-- The lines of a table have the names and the types that are described. -/
def Kept (ds : List Description) (values : List (String × Value)) : Prop :=
  List.Forall₂ (fun d line => line.1 = d.name ∧ d.kind.Has line.2) ds values

theorem Kind.has_limit {l : Limit} (h : ∃ n : Int, l = .count n) : Kind.integer.Has l.toValue := by
  obtain ⟨n, rfl⟩ := h
  exact ⟨n, rfl⟩

theorem IsTyped.kept (h : s.IsTyped) : Kept described s.table := by
  obtain ⟨x, hx⟩ := h.ratio
  obtain ⟨n, hn⟩ := h.severity
  unfold Kept table
  rw [hx, hn]
  exact .cons ⟨rfl, _, rfl⟩ <| .cons ⟨rfl, _, rfl⟩ <| .cons ⟨rfl, _, rfl⟩ <|
    .cons ⟨rfl, _, rfl⟩ <| .cons ⟨rfl, _, rfl⟩ .nil

theorem IsTyped.kept_rules (h : s.IsTyped) : Kept describedRules (ruleTable s.rules) := by
  have hlimits := h.limits
  simp only [Settings.limits, List.forall_mem_cons] at hlimits
  obtain ⟨h1, h2, h3, h4, h5, -⟩ := hlimits
  exact .cons ⟨rfl, _, rfl⟩ <| .cons ⟨rfl, Kind.has_limit h1⟩ <|
    .cons ⟨rfl, _, rfl⟩ <| .cons ⟨rfl, Kind.has_limit h2⟩ <|
    .cons ⟨rfl, _, rfl⟩ <| .cons ⟨rfl, Kind.has_limit h3⟩ <|
    .cons ⟨rfl, _, rfl⟩ <| .cons ⟨rfl, Kind.has_limit h4⟩ <|
    .cons ⟨rfl, _, rfl⟩ <| .cons ⟨rfl, Kind.has_limit h5⟩ <|
    .cons ⟨rfl, _, rfl⟩ .nil

/-- The values of settings where none are given are of their types. -/
theorem default_isTyped : IsTyped {} where
  ratio := ⟨_, rfl⟩
  severity := ⟨_, rfl⟩
  limits := by
    intro l hl
    simp only [limits, List.mem_cons, List.not_mem_nil, or_false] at hl
    rcases hl with rfl | rfl | rfl | rfl | rfl
    · exact ⟨3, rfl⟩
    all_goals exact ⟨1, rfl⟩

/-! ## Reading back -/

/-- Texts are put into texts as they are. -/
theorem texts_of_stands {xs : List δ} {names : List String}
    (h : List.Forall₂ (fun x name => ∃ s, Data.layer x = .str s ∧ name = .str s) xs
      (names.map Value.str)) :
    xs.mapM Data.text = (.ok names : Except Unshown (List String)) := by
  induction xs generalizing names with
  | nil =>
    cases names with
    | nil => rfl
    | cons name r => cases h
  | cons x xs ih =>
    cases names with
    | nil => cases h
    | cons name r =>
      obtain ⟨⟨s, hx, hs⟩, hrest⟩ := List.forall₂_cons.1 h
      obtain rfl := Value.str.inj hs
      have htext : Data.text x = .ok name := by simp only [Data.text, hx]
      rw [List.mapM_cons, htext, ih hrest]
      rfl

/-- What stands for a value of the type is taken, and it is this value that is
    kept. -/
theorem Kind.read_of_stands {k : Kind} {v : Value} (hv : k.Has v) (hx : Stands x v) :
    k.admits x ∧ k.convert x = v := by
  cases k with
  | truth =>
    obtain ⟨b, rfl⟩ := hv
    have hlayer : Data.layer x = .bool b := hx
    simp [admits, hasType, fits, convert, hlayer]
  | integer =>
    obtain ⟨n, rfl⟩ := hv
    have hlayer : Data.layer x = .int n := hx
    simp [admits, hasType, fits, convert, hlayer]
  | number =>
    obtain ⟨y, rfl⟩ := hv
    have hlayer : Data.layer x = .float y := hx
    simp [admits, hasType, fits, convert, hlayer]
  | texts =>
    obtain ⟨names, rfl⟩ := hv
    obtain ⟨xs, hlayer, hxs⟩ := hx
    have htexts : Data.texts x = .ok names := by
      simp only [Data.texts, hlayer]
      exact texts_of_stands hxs
    simp [admits, hasType, fits, convert, hlayer, htexts, Except.isOk, Except.toBool,
      Except.toOption]

theorem Description.IsWritten.given? {v : Value} (h : d.IsWritten es v) :
    ∃ x, d.given? es = some x ∧ Stands x v := by
  obtain ⟨⟨e, he, hkey⟩, honly⟩ := h
  unfold Description.given?
  cases hlast : (es.filter fun e => d.isSpelled e.1).getLast? with
  | none =>
    rw [List.getLast?_eq_none_iff, List.filter_eq_nil_iff] at hlast
    exact absurd hkey (hlast e he)
  | some last =>
    obtain ⟨hmem, hspelled⟩ := List.mem_filter.1 (List.mem_of_getLast? hlast)
    exact ⟨last.2, rfl, honly last hmem hspelled⟩

/-- What is written down is read as it is. -/
theorem Written.valuesIn (h : Written ds values es) (hkept : Kept ds values) :
    valuesIn ds es = values ∧ Admitted ds es := by
  induction h with
  | nil => exact ⟨rfl, fun _ _ d hd => absurd hd List.not_mem_nil⟩
  | @cons d line ds values hwritten _ ih =>
    cases hkept with
    | cons hline hrest =>
      obtain ⟨hname, hkind⟩ := hline
      obtain ⟨hvalues, hadmitted⟩ := ih hrest
      constructor
      · obtain ⟨x, hgiven, hx⟩ := hwritten.given?
        have hvalue : d.valueIn es = line.2 := by
          unfold Description.valueIn
          rw [hgiven, Option.map_some, Option.getD_some, (Kind.read_of_stands hkind hx).2]
        unfold Settings.valuesIn at hvalues ⊢
        rw [List.map_cons, hvalues, hvalue, ← hname]
      · intro e he d' hd' hkey
        rcases List.mem_cons.1 hd' with rfl | hmem
        · exact (Kind.read_of_stands hkind (hwritten.2 e he hkey)).1
        · exact hadmitted e he d' hmem hkey

/-! ## Maps that write settings down -/

/-- The values of a table, each under the spelling that is chosen for its
    setting. -/
def under (spell : Description → String) (ds : List Description)
    (values : List (String × Value)) : List (Value × Value) :=
  List.zipWith (fun d line => (.str (spell d), line.2)) ds values

/-- A map that writes settings down, each under the spelling that is chosen for
    it. -/
def entries (spell : Description → String) (s : Settings) : List (Value × Value) :=
  (.str "rules", .map (under spell describedRules (ruleTable s.rules))) ::
    under spell described s.table

theorem Kind.stands_self {k : Kind} {v : Value} (hv : k.Has v) : Stands v v := by
  cases k with
  | truth | integer | number =>
    obtain ⟨_, rfl⟩ := hv
    rfl
  | texts =>
    obtain ⟨names, rfl⟩ := hv
    refine ⟨_, rfl, List.forall₂_same.2 fun name hname => ?_⟩
    obtain ⟨s, -, rfl⟩ := List.mem_map.1 hname
    exact ⟨s, rfl, rfl⟩

theorem getElem?_under {spell : Description → String} {i : Nat} {e : Value × Value} :
    (under spell ds values)[i]? = some e ↔
      ∃ d line, ds[i]? = some d ∧ values[i]? = some line ∧ (.str (spell d), line.2) = e :=
  List.getElem?_zipWith_eq_some

/-- Values under chosen spellings are written down, whatever else there is that
    is about no setting, and in any order. -/
theorem written_of_under {spell : Description → String} {es : List (Value × Value)} (h : Apart ds)
    (hspell : ∀ d ∈ ds, spell d ∈ d.spellings) (hkept : Kept ds values)
    (hes : ∀ e, (∃ d ∈ ds, d.isSpelled e.1) → (e ∈ es ↔ e ∈ under spell ds values)) :
    Written ds values es := by
  have hself {d : Description} (hd : d ∈ ds) : d.isSpelled (Value.str (spell d)) :=
    List.contains_iff_mem.2 (hspell d hd)
  obtain ⟨hlength, hlines⟩ := List.forall₂_iff_get.1 hkept
  refine List.forall₂_iff_get.2 ⟨hlength, fun i hi hi' => ?_⟩
  have hd : ds[i]? = some (ds.get ⟨i, hi⟩) := List.getElem?_eq_getElem hi
  have hline : values[i]? = some (values.get ⟨i, hi'⟩) := List.getElem?_eq_getElem hi'
  have hkind := (hlines i hi hi').2
  generalize ds.get ⟨i, hi⟩ = d at hd hkind ⊢
  generalize values.get ⟨i, hi'⟩ = line at hline hkind ⊢
  have hmem := List.mem_of_getElem? hd
  constructor
  · refine ⟨(.str (spell d), line.2), ?_, hself hmem⟩
    rw [hes _ ⟨d, hmem, hself hmem⟩]
    exact List.mem_of_getElem? (getElem?_under.2 ⟨d, line, hd, hline, rfl⟩)
  · -- Another entry for the setting would stand in another line, of which the key is no spelling.
    intro e he hkey
    obtain ⟨j, hj⟩ := List.mem_iff_getElem?.1 ((hes e ⟨d, hmem, hkey⟩).1 he)
    obtain ⟨d', line', hd', hline', rfl⟩ := getElem?_under.1 hj
    have hij : i = j := h.eq_of_isSpelled hd hd' hkey (hself (List.mem_of_getElem? hd'))
    rw [← hij, hline] at hline'
    rw [← Option.some.inj hline']
    exact Kind.stands_self hkind

/-- Settings with values of their types can be written down, each of them under
    any of its spellings. -/
theorem writtenIn_entries {spell : Description → String} (hs : s.IsTyped)
    (h : ∀ d ∈ described ++ describedRules, spell d ∈ d.spellings) :
    s.WrittenIn (entries spell s) := by
  obtain ⟨hfields, hrules⟩ := List.forall_mem_append.1 h
  constructor
  · refine written_of_under described_apart hfields hs.kept fun e he => ?_
    obtain ⟨d, hd, hkey⟩ := he
    unfold entries
    rw [List.mem_cons, or_iff_right]
    rintro rfl
    have hnone : ∀ d ∈ described, d.isSpelled (Value.str "rules") = false := by decide
    exact absurd hkey (Bool.eq_false_iff.1 (hnone d hd))
  · exact ⟨_, rfl, written_of_under describedRules_apart hrules hs.kept_rules fun _ _ => Iff.rfl⟩

/-! ## Faults -/

section Faults

variable {δ : Type} [Data δ]

/-- Is it an integer beyond all floats? -/
def isBeyondFloats (x : δ) : Bool :=
  match Data.layer x with
  | .int n => Decimal.overflowBound ≤ n.natAbs
  | _ => false

/-- Is the value nested too deeply for what is shown of it, when it is given to a
    setting of the type? -/
def Kind.isTooDeep (k : Kind) (x : δ) : Bool :=
  match k.shown x with
  | .error fault => fault = .tooDeep
  | .ok _ => false

/-- Is the value more than can be dealt with, when it is given to a setting of
    the type: an integer beyond all floats for a number, or nested too deeply to
    be shown? -/
def Kind.isOverstrained (k : Kind) (x : δ) : Bool :=
  k == number && isBeyondFloats x || k.isTooDeep x

/-- No setting is given more than can be dealt with. -/
def NoneOverstrained (ds : List Description) (es : List (δ × δ)) : Prop :=
  ∀ e ∈ es, ∀ d ∈ ds, d.isSpelled e.1 → d.kind.isOverstrained e.2 = false

instance (ds : List Description) (es : List (δ × δ)) : Decidable (NoneOverstrained ds es) :=
  inferInstanceAs (Decidable (∀ e ∈ es, ∀ d ∈ ds, d.isSpelled e.1 →
    d.kind.isOverstrained e.2 = false))

end Faults

theorem NoneOverstrained.of_firstRefused (h : NoneOverstrained ds es)
    (hfirst : FirstRefused ds es d v) : d.kind.isOverstrained v = false := by
  obtain ⟨before, key, after, rfl, -, hd, hrefuses⟩ := hfirst
  have hkey := (Bool.and_eq_true_iff.1 hrefuses).1
  exact h (key, v) (List.mem_append_right _ List.mem_cons_self) d hd hkey

theorem NoneOverstrained.of_firstOffence (htop : NoneOverstrained described es)
    (hrules : NoneOverstrained describedRules (rulesIn es)) (hfirst : FirstOffence es d v) :
    d.kind.isOverstrained v = false := by
  rcases hfirst with hfirst | ⟨-, rules, hlookup, hfirst⟩
  · exact htop.of_firstRefused hfirst
  · unfold rulesIn at hrules
    rw [hlookup] at hrules
    exact hrules.of_firstRefused hfirst

/-- A value that is not taken is not as it should be, unless it is more than can
    be dealt with. -/
theorem kind_fault_of_refuses (h : d.refuses e) (hnot : d.kind.isOverstrained e.2 = false) :
    (d.kind.fault d.name e.2).kind = "ValueError" := by
  obtain ⟨-, hadmits⟩ := Bool.and_eq_true_iff.1 h
  obtain ⟨hnumber, hdeep⟩ := Bool.or_eq_false_iff.1 hnot
  unfold Kind.fault
  split
  next hkind hlayer =>
    -- An integer that is no float is beyond all of them.
    rw [hkind] at hadmits hnumber
    simp [Kind.admits, Kind.hasType, Kind.fits, hlayer] at hadmits
    simp [isBeyondFloats, hlayer] at hnumber
    omega
  next =>
    unfold Kind.isTooDeep at hdeep
    cases hshown : d.kind.shown e.2 with
    | ok given => rfl
    | error fault =>
      rw [hshown] at hdeep
      cases fault with
      | tooLong => rfl
      | tooDeep => cases hdeep

/-- The fault of what is more than can be dealt with. -/
theorem fault_of_isOverstrained {k : Kind} (name : String) (h : k.isOverstrained x) :
    k.fault name x = .tooLarge name ∨ k.fault name x = .unshown .tooDeep := by
  unfold Kind.fault
  split
  next => exact .inl rfl
  next hother =>
    refine .inr ?_
    rcases Bool.or_eq_true_iff.1 h with hnumber | hdeep
    · obtain ⟨hkind, hbeyond⟩ := Bool.and_eq_true_iff.1 hnumber
      unfold isBeyondFloats at hbeyond
      split at hbeyond
      next n hx => exact absurd hx (hother n (by simpa using hkind))
      next => cases hbeyond
    · unfold Kind.isTooDeep at hdeep
      split at hdeep
      next fault hshown =>
        rw [hshown, of_decide_eq_true hdeep, SettingsFault.ofShown]
      next => cases hdeep

/-! ## Maps of settings -/

/-- Unless the first value that is not taken is more than can be dealt with, it is
    not as it should be. -/
theorem kind_of_ofValue_map {fault : SettingsFault} (hx : Data.layer x = .map es)
    (h : ofValue x = .error fault)
    (hnot : ∀ d v, FirstOffence es d v → d.kind.isOverstrained v = false) :
    fault.kind = "ValueError" := by
  rcases exists_of_mapFault? ((ofValue_map_eq_error_iff hx).1 h) with rfl | ⟨d, v, hfirst, rfl⟩
  · rfl
  · have hsmall := hnot d v hfirst
    rcases hfirst with ⟨_, key, _, -, -, -, hrefuses⟩ | ⟨-, _, -, _, key, _, -, -, -, hrefuses⟩
    · exact kind_fault_of_refuses hrefuses hsmall
    · exact kind_fault_of_refuses hrefuses hsmall

/-- Settings that are written down are read back. -/
theorem ofValue_of_writtenIn (hx : Data.layer x = .map es) (htyped : s.IsTyped)
    (h : s.WrittenIn es) : ofValue x = .ok s := by
  obtain ⟨htop, rules, hlookup, hrules⟩ := h
  obtain ⟨hvalues, hadmitted⟩ := htop.valuesIn htyped.kept
  obtain ⟨hrvalues, hradmitted⟩ := hrules.valuesIn htyped.kept_rules
  have hrulesAdmitted : RulesAdmitted es := by
    unfold RulesAdmitted
    rw [hlookup]
    exact hradmitted
  have hrulesIn : rulesIn es = rules := by
    unfold rulesIn
    rw [hlookup]
  -- The map is taken, and what comes of it has the same lines, hence is the same.
  obtain ⟨s', hrun⟩ := (exists_ofValue_map_iff hx).2 ⟨hadmitted, hrulesAdmitted⟩
  obtain ⟨htable, hrtable⟩ := values_of_ofValue_map hx hrun
  rw [hvalues] at htable
  rw [hrulesIn, hrvalues] at hrtable
  rw [hrun, eq_of_table htable (ruleTable_injective hrtable)]

/-- **Which maps are settings.**  A map is taken exactly if every value that it
    gives to a setting is, those of the rules in a map of their own; then every
    setting has the value that it was given last, or its value where none is
    given.  If a map is not taken, the first setting with a value that is not
    taken decides the fault, those apart from the rules before those of the
    rules; a value is not as it should be then, unless it is an integer beyond
    all floats or nested too deeply to be shown.  Settings that are written down,
    under whatever spellings, are read back. -/
theorem ofValue_map_asDescribed {δ : Type} [Data δ] (x : δ) (es : List (δ × δ))
    (hx : Data.layer x = .map es) :
    ((∃ s, ofValue x = .ok s) ↔ Admitted described es ∧ RulesAdmitted es) ∧
      (∀ s, ofValue x = .ok s → s.table = valuesIn described es ∧
        ruleTable s.rules = valuesIn describedRules (rulesIn es)) ∧
      (∀ d v, FirstOffence es d v → ofValue x = .error (d.kind.fault d.name v)) ∧
      (∀ layer, Admitted described es → rulesLayer? es = some layer → layer ≠ .null →
        (∀ rules, layer ≠ .map rules) → ofValue x = .error .rulesNotMap) ∧
      (∀ fault, ofValue x = .error fault →
        (∀ d v, FirstOffence es d v → d.kind.isOverstrained v = false) →
        fault.kind = "ValueError") ∧
      ∀ s, s.IsTyped → s.WrittenIn es → ofValue x = .ok s := by
  refine ⟨exists_ofValue_map_iff hx, fun s => values_of_ofValue_map hx, fun d v => ?_,
    fun layer hadmitted hlookup hnull hmap => ?_, fun fault => kind_of_ofValue_map hx,
    fun s => ofValue_of_writtenIn hx⟩
  · exact ofValue_of_firstOffence hx
  · rw [ofValue_map_eq_error_iff hx, mapFault?_of_admitted hadmitted]
    exact rulesFault?_of_not_map hlookup hnull hmap

theorem written_value {v : Value} {s : String} (hv : v.obstacle? Value.shownDepth = none)
    (hs : v.written = s) : Data.written v = .ok s := by
  show v.shown _ _ = _
  rw [Value.shown, hv, hs]

theorem display_value {v : Value} {s : String} (hv : v.obstacle? (Value.shownDepth - 1) = none)
    (hs : v.display = s) : Data.display v = .ok s := by
  show v.shown _ _ = _
  rw [Value.shown, hv, hs]

/-- Several spellings, a key that is no text, and one that is not known. -/
def sampleEntries : List (Value × Value) :=
  [(.str "minJapaneseRatio", .float 0.3), (.str "min_severity", .int 0),
   (.str "targetLanguages", .tuple [.str "python", .int 3]), (.int 1, .null),
   (.str "warningMinSeverity", .int 1), (.str "enableWikipedia", .bool false),
   (.str "unknownKey", .str "ignored"),
   (.str "rules", .map [(.str "commaLimitMax", .int 5), (.str "ra_dropping", .bool false)])]

/-- Two values are not taken, and what stands for the rules is no map. -/
def refusedEntries : List (Value × Value) :=
  [(.str "rules", .list []), (.str "enable", .bool true), (.str "minSeverity", .null),
   (.str "min_japanese_ratio", .str "high")]

theorem convert_sampleLanguages :
    Kind.texts.convert (Value.tuple [.str "python", .int 3]) =
      .tuple [.str "python", .str "3"] := by
  have htexts : Data.texts (Value.tuple [.str "python", .int 3]) = .ok ["python", "3"] := by
    have hthree : Data.display (Value.int 3) = .ok "3" :=
      display_value (by decide +kernel) (by decide +kernel)
    have hlayer : Data.layer (Value.tuple [.str "python", .int 3]) =
        .list [.str "python", .int 3] := rfl
    simp only [Data.texts, hlayer, List.mapM_cons, List.mapM_nil, Data.text, hthree]
    rfl
  simp only [Kind.convert, htexts]
  rfl

theorem valuesIn_sampleEntries :
    valuesIn described sampleEntries =
      [("enable", .bool true), ("target_languages", .tuple [.str "python", .str "3"]),
       ("min_japanese_ratio", .float 0.3), ("min_severity", .int 1),
       ("enable_enrichment", .bool false)] := by
  rw [← convert_sampleLanguages]
  rfl

theorem firstOffence_refusedEntries :
    FirstOffence refusedEntries
      { name := "min_severity", runTogether := "minSeverity", aliases := ["warningMinSeverity"],
        kind := .integer, default := .int 2 } .null :=
  .inl ⟨[(.str "rules", .list []), (.str "enable", .bool true)], .str "minSeverity",
    [(.str "min_japanese_ratio", .str "high")], rfl, by decide +kernel,
    List.mem_of_getElem? (i := 3) rfl, by decide⟩

theorem firstOffence_commaLimit :
    FirstOffence [(Value.str "rules", Value.map [(.str "commaLimit", .str "on")])]
      (describedRule "comma_limit" "commaLimit") (.str "on") :=
  .inr ⟨by decide, _, rfl, [], .str "commaLimit", [], rfl, by decide,
    List.mem_of_getElem? (i := 0) rfl, by decide⟩

theorem fault_commaLimit :
    (describedRule "comma_limit" "commaLimit").kind.fault "comma_limit" (Value.str "on") =
      .wrongType "comma_limit" "真偽値" "'on'" := by
  have hwritten : Data.written (Value.str "on") = .ok "'on'" :=
    written_value (by decide +kernel) (by decide +kernel)
  simp only [describedRule, Kind.fault, Kind.shown, hwritten]
  rfl

theorem ofValue_map_asDescribed_of_sampleEntries :
    (Admitted described sampleEntries ∧ RulesAdmitted sampleEntries ∧
      ∃ s, ofValue (Value.map sampleEntries) = .ok s ∧
        s.table =
          [("enable", .bool true), ("target_languages", .tuple [.str "python", .str "3"]),
           ("min_japanese_ratio", .float 0.3), ("min_severity", .int 1),
           ("enable_enrichment", .bool false)] ∧
        s.rules.commaLimitMax.toValue = .int 5) ∧
      (ofValue (Value.map refusedEntries) = .error (.wrongType "min_severity" "整数" "None") ∧
        (SettingsFault.wrongType "min_severity" "整数" "None").kind = "ValueError" ∧
        ofValue (Value.map [(.str "rules", .list [])]) = .error .rulesNotMap ∧
        ofValue (Value.map [(.str "rules", .map [(.str "commaLimit", .str "on")])]) =
          .error (.wrongType "comma_limit" "真偽値" "'on'")) ∧
      ofValue (Value.map (entries Description.runTogether {})) = .ok {} := by
  have hadmitted : Admitted described sampleEntries := by decide +kernel
  have hrules : RulesAdmitted sampleEntries := by
    show Admitted describedRules _
    decide +kernel
  obtain ⟨haccepted, hvalues, -⟩ := ofValue_map_asDescribed (.map sampleEntries) sampleEntries rfl
  obtain ⟨s, hs⟩ := haccepted.2 ⟨hadmitted, hrules⟩
  obtain ⟨htable, hrtable⟩ := hvalues s hs
  have hspelled : ∀ d ∈ described ++ describedRules, d.runTogether ∈ d.spellings := by decide
  obtain ⟨-, -, hfirst, -, hkind, -⟩ :=
    ofValue_map_asDescribed (.map refusedEntries) refusedEntries rfl
  obtain ⟨-, -, -, hnotMap, -⟩ :=
    ofValue_map_asDescribed (Value.map [(.str "rules", .list [])]) _ rfl
  obtain ⟨-, -, hbroken, -⟩ :=
    ofValue_map_asDescribed
      (Value.map [(.str "rules", .map [(.str "commaLimit", .str "on")])]) _ rfl
  obtain ⟨-, -, -, -, -, hback⟩ :=
    ofValue_map_asDescribed (Value.map (entries Description.runTogether {})) _ rfl
  have hseverity := hfirst _ _ firstOffence_refusedEntries
  refine ⟨⟨hadmitted, hrules, s, hs, htable.trans valuesIn_sampleEntries, ?_⟩,
    ⟨hseverity, ?_, ?_, ?_⟩, ?_⟩
  · have hline : (ruleTable s.rules)[1]? = some ("comma_limit_max", .int 5) := by
      rw [hrtable]
      rfl
    exact (Prod.mk.inj (Option.some.inj hline)).2
  · have htop : NoneOverstrained described refusedEntries := by decide +kernel
    have hrules : NoneOverstrained describedRules (rulesIn refusedEntries) := by decide +kernel
    exact hkind _ hseverity fun d v => htop.of_firstOffence hrules
  · exact hnotMap _ (by decide) rfl (fun h => by cases h) fun _ h => by cases h
  · rw [hbroken _ _ firstOffence_commaLimit]
    exact congrArg Except.error fault_commaLimit
  · exact hback {} default_isTyped (writtenIn_entries default_isTyped hspelled)

/-! ## What is not shown -/

/-- A list is not taken for one of texts if what it begins with cannot be shown. -/
theorem ofValue_unshown {x : Value} {xs : List Value} {u : Unshown}
    (hlist : x.layer = .list xs) (hbegin : ∃ v r, xs = v :: r ∧ Data.text v = .error u) :
    ofValue (Value.map [(.str "target_languages", x)]) = .error (.unshown u) := by
  have hlayer : Data.layer x = .list xs := hlist
  have hx : Data.texts x = .error u := by
    obtain ⟨v, r, rfl, hv⟩ := hbegin
    simp only [Data.texts, hlayer, List.mapM_cons, hv]
    rfl
  have hfirst : FirstOffence [(Value.str "target_languages", x)]
      { name := "target_languages", runTogether := "targetLanguages", kind := .texts,
        default := .tuple (defaultTargetLanguages.map .str) } x := by
    refine .inl ⟨[], .str "target_languages", [], rfl, by decide,
      List.mem_of_getElem? (i := 1) rfl, ?_⟩
    rw [Description.refuses, Kind.admits, Kind.hasType, hlayer, hx]
    rfl
  rw [ofValue_of_firstOffence rfl hfirst]
  simp only [Kind.fault, Kind.shown, hx, SettingsFault.ofShown]

theorem text_unshown {v : Value} {u : Unshown} (htext : ∀ s, v.layer ≠ .str s)
    (hv : v.obstacle? (Value.shownDepth - 1) = some u) : Data.text v = .error u := by
  unfold Data.text
  split
  next s hs => exact absurd hs (htext s)
  next =>
    show v.shown _ _ = _
    rw [Value.shown, hv]

/-- A list in a list in a list, and so on. -/
def nested : Nat → Value
  | 0 => .list []
  | n + 1 => .list [nested n]

theorem obstacle?_nested (room : Nat) : (nested room).obstacle? room = some .tooDeep := by
  induction room with
  | zero => rfl
  | succ room ih => rw [nested, Value.obstacle?, Value.obstacleIn?, ih, Option.some_or]

theorem isLong_natCast {n : Nat} (h : Nat.pow 10 Decimal.maxDigits ≤ n) :
    Value.isLong (n : Int) = true := by
  rw [Value.isLong, Int.natAbs_natCast, decide_eq_true h]

/-- The one language is an integer that is too long to be put into a text. -/
def longLanguages : List (Value × Value) :=
  [(.str "target_languages", .list [.int (Nat.pow 10 Decimal.maxDigits : Nat)])]

/-- The one language has too many lists in it to be put into a text. -/
def deepLanguages : List (Value × Value) :=
  [(.str "target_languages", .list [nested (Value.shownDepth - 1)])]

theorem ofValue_unshownLanguages :
    ((∀ e ∈ longLanguages, ∀ d ∈ described, d.isSpelled e.1 → d.kind.hasType e.2) ∧
      rulesLayer? longLanguages = none ∧
      ofValue (Value.map longLanguages) = .error (.unshown .tooLong)) ∧
    (∀ e ∈ deepLanguages, ∀ d ∈ described, d.isSpelled e.1 → d.kind.hasType e.2) ∧
      rulesLayer? deepLanguages = none ∧
      ofValue (Value.map deepLanguages) = .error (.unshown .tooDeep) := by
  refine ⟨⟨by decide +kernel, rfl, ofValue_unshown rfl ⟨_, [], rfl, ?_⟩⟩, by decide +kernel, rfl,
    ofValue_unshown rfl ⟨_, [], rfl, ?_⟩⟩
  · refine text_unshown (fun s h => by cases h) ?_
    show Value.obstacle? (983 + 1) _ = _
    rw [Value.obstacle?, isLong_natCast (Nat.le_refl _)]
    rfl
  · exact text_unshown (fun s h => by cases h) (obstacle?_nested _)

end Kousei.Settings
