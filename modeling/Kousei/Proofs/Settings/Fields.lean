import Kousei.Proofs.Settings.Entries

/-! # The fields of the settings

    The fields of each type do as a setting of that type is described, whatever
    their names are and wherever they put their values (`flag_obeys` and so on).
    For the fields of the two structures it is left to be seen that what they put
    is their own line of the table.

    A structure is known from its table, so the values by their names are all
    that there is to tell of settings (`eq_of_table`). -/

namespace Kousei.Settings

/-! ## Fields of each type -/

section Laws

variable {σ δ : Type} [Data δ] {table : σ → List (String × Value)} {name runTogether : String}
  {aliases : List String} {default : Value} {i : Nat}

/-- Of a value that has not the type it is the value itself that is shown. -/
theorem shown_of_not_hasType {k : Kind} {x : δ} (h : k.hasType x = false) :
    k.shown x = Data.written x := by
  unfold Kind.shown
  split
  next hfault =>
    unfold Data.texts at hfault
    split at hfault
    next hx => simp [Kind.hasType, hx, Kind.fits] at h
    next => cases hfault
  next => rfl

theorem map_wrongType {k : Kind} {x : δ} {β : Type} (f : σ → β) (g : Value → β)
    (h : k.hasType x = false) (hinteger : k = .number → ∀ n, Data.layer x ≠ .int n) :
    (wrongType name k.wanted x : Except SettingsFault σ).map f = (k.read name x).map g := by
  have hadmits : k.admits x = false := by rw [Kind.admits, h, Bool.false_and]
  have hfault : k.fault name x = .ofShown name k.wanted (Data.written x) := by
    unfold Kind.fault
    split
    next hx => exact absurd hx (hinteger rfl _)
    next => rw [shown_of_not_hasType h]
  rw [Kind.read, hadmits, hfault]
  rfl

theorem flag_obeys {put : Bool → σ → σ} (hname : camelCase name = runTogether)
    (hput : ∀ b s, table (put b s) = (table s).set i (name, .bool b)) :
    Obeys table (flag name put aliases : Field σ δ)
      ⟨name, runTogether, aliases, .truth, default⟩ i where
  spellings := by
    rw [← hname]
    rfl
  put x s := by
    cases hx : Data.layer x with
    | bool b =>
      simp only [flag, Kind.read, Kind.admits, Kind.hasType, Kind.fits, Kind.convert, hx]
      exact congrArg Except.ok (hput b s)
    | _ =>
      simp only [flag, hx]
      exact map_wrongType (k := .truth) _ _ (by simp only [Kind.hasType, hx, Kind.fits])
        fun h => by cases h

theorem integer_obeys {put : Int → σ → σ} (hname : camelCase name = runTogether)
    (hput : ∀ n s, table (put n s) = (table s).set i (name, .int n)) :
    Obeys table (integer name put aliases : Field σ δ)
      ⟨name, runTogether, aliases, .integer, default⟩ i where
  spellings := by
    rw [← hname]
    rfl
  put x s := by
    cases hx : Data.layer x with
    | int n =>
      simp only [integer, Kind.read, Kind.admits, Kind.hasType, Kind.fits, Kind.convert, hx]
      exact congrArg Except.ok (hput n s)
    | _ =>
      simp only [integer, hx]
      exact map_wrongType (k := .integer) _ _ (by simp only [Kind.hasType, hx, Kind.fits])
        fun h => by cases h

theorem number_obeys {put : Float → σ → σ} (hname : camelCase name = runTogether)
    (hput : ∀ x s, table (put x s) = (table s).set i (name, .float x)) :
    Obeys table (number name put : Field σ δ) ⟨name, runTogether, [], .number, default⟩ i where
  spellings := by
    rw [← hname]
    rfl
  put x s := by
    cases hx : Data.layer x with
    | float y =>
      simp only [number, Kind.read, Kind.admits, Kind.hasType, Kind.fits, Kind.convert, hx]
      exact congrArg Except.ok (hput y s)
    | int n =>
      -- What decides is the float that is made, or how large the integer is.
      have hsize := Decimal.isInf_ofInt_iff n
      by_cases hlarge : (Decimal.ofInt n).isInf = true
      · have hadmits : Kind.admits .number x = false := by
          simp [Kind.admits, Kind.hasType, hx, Kind.fits, hsize.1 hlarge]
        simp only [number, Kind.read, Kind.fault, hx, hlarge, hadmits, ↓reduceIte,
          Bool.false_eq_true]
        rfl
      · have hadmits : Kind.admits .number x = true := by
          have hsmall : n.natAbs < Decimal.overflowBound := Nat.not_le.1 fun h => hlarge (hsize.2 h)
          simp [Kind.admits, Kind.hasType, hx, Kind.fits, hsmall]
        simp only [number, Kind.read, Kind.convert, hx, hlarge, hadmits, ↓reduceIte,
          Bool.false_eq_true]
        exact congrArg Except.ok (hput _ s)
    | _ =>
      simp only [number, hx]
      have hnot : Kind.number.hasType x = false := by simp only [Kind.hasType, hx, Kind.fits]
      exact map_wrongType (k := .number) _ _ hnot fun _ n => by
        simp [hx]

theorem texts_obeys {put : List String → σ → σ} (hname : camelCase name = runTogether)
    (hput : ∀ l s, table (put l s) = (table s).set i (name, .tuple (l.map .str))) :
    Obeys table (texts name put : Field σ δ) ⟨name, runTogether, [], .texts, default⟩ i where
  spellings := by
    rw [← hname]
    rfl
  put x s := by
    cases hx : Data.layer x with
    | list xs =>
      cases htexts : Data.texts x with
      | ok l =>
        simp only [texts, Kind.read, Kind.admits, Kind.hasType, Kind.fits, Kind.convert, hx, htexts]
        exact congrArg Except.ok (hput l s)
      | error fault =>
        simp only [texts, Kind.read, Kind.admits, Kind.hasType, Kind.fits, Kind.fault, Kind.shown,
          hx, htexts]
        rfl
    | _ =>
      simp only [texts, hx]
      exact map_wrongType (k := .texts) _ _ (by simp only [Kind.hasType, hx, Kind.fits])
        fun h => by cases h

end Laws

/-! ## Tables -/

/-- The settings apart from those of the rules by their names. -/
def table (s : Settings) : List (String × Value) :=
  [("enable", .bool s.enable), ("target_languages", .tuple (s.targetLanguages.map .str)),
   ("min_japanese_ratio", s.minJapaneseRatio.elim .null .float),
   ("min_severity", s.minSeverity.elim .null .int),
   ("enable_enrichment", .bool s.enableEnrichment)]

theorem fields_lawful {δ : Type} [Data δ] :
    Lawful Settings.table (fields : List (Field Settings δ)) described {} where
  obeys := .cons (flag_obeys (by decide) fun _ _ => rfl) <|
    .cons (texts_obeys (by decide) fun _ _ => rfl) <|
    .cons (number_obeys (by decide) fun _ _ => rfl) <|
    .cons (integer_obeys (by decide) fun _ _ => rfl) <|
    .cons (flag_obeys (by decide) fun _ _ => rfl) .nil
  apart := described_apart
  start := rfl

theorem ruleFields_lawful {δ : Type} [Data δ] :
    Lawful ruleTable (ruleFields : List (Field RuleSettings δ)) describedRules {} where
  obeys := .cons (flag_obeys (by decide) fun _ _ => rfl) <|
    .cons (integer_obeys (by decide) fun _ _ => rfl) <|
    .cons (flag_obeys (by decide) fun _ _ => rfl) <|
    .cons (integer_obeys (by decide) fun _ _ => rfl) <|
    .cons (flag_obeys (by decide) fun _ _ => rfl) <|
    .cons (integer_obeys (by decide) fun _ _ => rfl) <|
    .cons (flag_obeys (by decide) fun _ _ => rfl) <|
    .cons (integer_obeys (by decide) fun _ _ => rfl) <|
    .cons (flag_obeys (by decide) fun _ _ => rfl) <|
    .cons (integer_obeys (by decide) fun _ _ => rfl) <|
    .cons (flag_obeys (by decide) fun _ _ => rfl) .nil
  apart := describedRules_apart
  start := rfl

/-! ## The table of a structure -/

theorem toValue_injective {l l' : Limit} (h : l.toValue = l'.toValue) : l = l' := by
  cases l <;> cases l' <;> simp_all [Limit.toValue]

theorem ruleTable_injective {r r' : RuleSettings} (h : ruleTable r = ruleTable r') : r = r' := by
  obtain ⟨⟩ := r
  obtain ⟨⟩ := r'
  simp only [ruleTable, List.cons.injEq, Prod.mk.injEq, Value.bool.injEq, true_and, and_true] at h
  obtain ⟨rfl, h2, rfl, h4, rfl, h6, rfl, h8, rfl, h10, rfl⟩ := h
  rw [toValue_injective h2, toValue_injective h4, toValue_injective h6, toValue_injective h8,
    toValue_injective h10]

/-- The table and the settings of the rules are all that there is. -/
theorem eq_of_table {s s' : Settings} (h : s.table = s'.table) (hrules : s.rules = s'.rules) :
    s = s' := by
  obtain ⟨enable, languages, ratio, severity, enrichment, rules⟩ := s
  obtain ⟨enable', languages', ratio', severity', enrichment', rules'⟩ := s'
  simp only [table, List.cons.injEq, Prod.mk.injEq, Value.bool.injEq, Value.tuple.injEq, true_and,
    and_true] at h
  obtain ⟨rfl, hlanguages, hratio, hseverity, rfl⟩ := h
  have h2 : languages = languages' :=
    List.map_injective_iff.2 (fun _ _ => Value.str.inj) hlanguages
  have h3 : ratio = ratio' := by cases ratio <;> cases ratio' <;> simp_all
  have h4 : severity = severity' := by cases severity <;> cases severity' <;> simp_all
  have h6 : rules = rules' := hrules
  rw [h2, h3, h4, h6]

end Kousei.Settings
