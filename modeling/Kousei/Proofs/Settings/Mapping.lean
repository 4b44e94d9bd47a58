import Kousei.Proofs.Settings.Faults
import Kousei.Proofs.Settings.Fields

/-! # Settings from a map

    A map of settings holds those of the rules in a map of their own.  It is
    read in two goes: first its entries, then those for the rules, so that a
    value for a rule is refused only if all others are taken.

    `mapFault?` tells the fault of a map in terms of what the settings are
    (`described`, `describedRules`).  It is the fault with which the map is
    refused, and where it tells of none the settings have the values that the
    map gives (`ofValue_map_cases`). -/

namespace Kousei.Settings

/-! ## Maps -/

section Maps

variable {δ : Type} [Data δ]

/-- What stands in a map of settings in the place of those of the rules. -/
def rulesLayer? (es : List (δ × δ)) : Option (Layer δ) :=
  (Data.lookup? "rules" es).map Data.layer

/-- The entries for the settings of the rules in a map of settings. -/
def rulesIn (es : List (δ × δ)) : List (δ × δ) :=
  match rulesLayer? es with
  | some (.map rules) => rules
  | _ => []

/-- What stands in the place of the settings of the rules is nothing, or a map
    with admitted entries. -/
def RulesAdmitted (es : List (δ × δ)) : Prop :=
  match rulesLayer? es with
  | none | some .null => True
  | some (.map rules) => Admitted describedRules rules
  | some _ => False

/-- The setting is the first one that is given a value that is not taken, and
    this is the value. -/
def FirstRefused (ds : List Description) (es : List (δ × δ)) (d : Description)
    (v : δ) : Prop :=
  ∃ before key after, es = before ++ (key, v) :: after ∧ Admitted ds before ∧ d ∈ ds ∧
    d.refuses (key, v)

/-- The setting is the first one in a map of settings that is given a value that
    is not taken, those of the rules coming last, and this is the value. -/
def FirstOffence (es : List (δ × δ)) (d : Description) (v : δ) : Prop :=
  FirstRefused described es d v ∨ Admitted described es ∧
    ∃ rules, rulesLayer? es = some (.map rules) ∧ FirstRefused describedRules rules d v

/-- The fault of the first entry for a setting of the rules that has one, or that
    of what stands in their place. -/
def rulesFault? (es : List (δ × δ)) : Option SettingsFault :=
  match rulesLayer? es with
  | none | some .null => none
  | some (.map rules) => rules.findSome? (refusal? describedRules)
  | some _ => some .rulesNotMap

/-- The fault of a map of settings, those of the rules coming last. -/
def mapFault? (es : List (δ × δ)) : Option SettingsFault :=
  (es.findSome? (refusal? described)).or (rulesFault? es)

end Maps

variable {δ : Type} [Data δ] {ds : List Description} {d : Description} {es rules : List (δ × δ)}
  {e : δ × δ} {v x : δ} {fault : SettingsFault} {s : Settings}

/-! ## Faults of entries -/

theorem refusal?_eq_none_iff :
    refusal? ds e = none ↔ ∀ d ∈ ds, d.isSpelled e.1 → d.kind.admits e.2 := by
  unfold refusal?
  rw [Option.map_eq_none_iff, List.find?_eq_none]
  refine forall₂_congr fun d _ => ?_
  simp [Description.refuses]

theorem findSome?_eq_none_iff_admitted :
    es.findSome? (refusal? ds) = none ↔ Admitted ds es := by
  rw [List.findSome?_eq_none_iff]
  exact forall₂_congr fun e _ => refusal?_eq_none_iff

/-- The first setting with a value that is not taken decides the fault. -/
theorem findSome?_of_firstRefused (h : Apart ds) (hfirst : FirstRefused ds es d v) :
    es.findSome? (refusal? ds) = some (d.kind.fault d.name v) := by
  obtain ⟨before, key, after, rfl, hbefore, hd, hrefuses⟩ := hfirst
  obtain ⟨i, hi⟩ := List.mem_iff_getElem?.1 hd
  obtain ⟨hkey, hnot⟩ := Bool.and_eq_true_iff.1 hrefuses
  have hrefusal : refusal? ds (key, v) = some (d.kind.fault d.name v) := by
    rw [refusal?_of_isSpelled h hi hkey, if_neg]
    simpa using hnot
  rw [List.findSome?_append, findSome?_eq_none_iff_admitted.2 hbefore, List.findSome?_cons,
    hrefusal]
  rfl

/-- Every fault is that of the first setting with a value that is not taken. -/
theorem exists_firstRefused (h : es.findSome? (refusal? ds) = some fault) :
    ∃ d v, FirstRefused ds es d v ∧ fault = d.kind.fault d.name v := by
  obtain ⟨before, e, after, hes, hfault, hbefore⟩ := List.findSome?_eq_some_iff.1 h
  obtain ⟨d, hfind, hd⟩ := Option.map_eq_some_iff.1 hfault
  have hrefuses := List.find?_some hfind
  have hadmitted : Admitted ds before := by
    rw [← findSome?_eq_none_iff_admitted, List.findSome?_eq_none_iff]
    exact hbefore
  exact ⟨d, e.2, ⟨before, e.1, after, hes, hadmitted, List.mem_of_find?_eq_some hfind, hrefuses⟩,
    hd.symm⟩

/-! ## Faults of maps -/

theorem rulesFault?_eq_none_iff : rulesFault? es = none ↔ RulesAdmitted es := by
  unfold rulesFault? RulesAdmitted
  split
  · exact iff_of_true rfl trivial
  · exact iff_of_true rfl trivial
  · exact findSome?_eq_none_iff_admitted
  · exact iff_of_false (Option.some_ne_none _) not_false

theorem mapFault?_eq_none_iff :
    mapFault? es = none ↔ Admitted described es ∧ RulesAdmitted es := by
  unfold mapFault?
  rw [Option.or_eq_none_iff, findSome?_eq_none_iff_admitted, rulesFault?_eq_none_iff]

/-- The rules are looked at once all other settings are taken. -/
theorem mapFault?_of_admitted (h : Admitted described es) : mapFault? es = rulesFault? es := by
  unfold mapFault?
  rw [findSome?_eq_none_iff_admitted.2 h, Option.none_or]

/-- The first setting with a value that is not taken decides the fault. -/
theorem mapFault?_of_firstOffence (h : FirstOffence es d v) :
    mapFault? es = some (d.kind.fault d.name v) := by
  rcases h with htop | ⟨hadmitted, rules, hlookup, hrules⟩
  · unfold mapFault?
    rw [findSome?_of_firstRefused described_apart htop]
    rfl
  · rw [mapFault?_of_admitted hadmitted]
    unfold rulesFault?
    rw [hlookup]
    exact findSome?_of_firstRefused describedRules_apart hrules

theorem rulesFault?_of_not_map {layer : Layer δ} (hlookup : rulesLayer? es = some layer)
    (hnull : layer ≠ .null) (hmap : ∀ rules, layer ≠ .map rules) :
    rulesFault? es = some .rulesNotMap := by
  unfold rulesFault?
  rw [hlookup]
  cases layer with
  | null => exact absurd rfl hnull
  | map rules => exact absurd rfl (hmap rules)
  | _ => rfl

/-- A fault is that of the first setting with a value that is not taken, or there
    is no map for the rules. -/
theorem exists_of_mapFault? (h : mapFault? es = some fault) :
    fault = .rulesNotMap ∨ ∃ d v, FirstOffence es d v ∧ fault = d.kind.fault d.name v := by
  unfold mapFault? at h
  rcases Option.or_eq_some_iff.1 h with hfields | ⟨hnone, hrules⟩
  · obtain ⟨d, v, hfirst, hfault⟩ := exists_firstRefused hfields
    exact .inr ⟨d, v, .inl hfirst, hfault⟩
  · unfold rulesFault? at hrules
    split at hrules
    next => cases hrules
    next => cases hrules
    next rules hlookup =>
      obtain ⟨d, v, hfirst, hfault⟩ := exists_firstRefused hrules
      have hadmitted := findSome?_eq_none_iff_admitted.1 hnone
      exact .inr ⟨d, v, .inr ⟨hadmitted, rules, hlookup, hfirst⟩, hfault⟩
    next => exact .inl (Option.some.inj hrules).symm

/-! ## Reading -/

theorem ofValue_map (hx : Data.layer x = .map es) :
    ofValue x = (putEntries fields {} es).bind fun s =>
      (rulesOf es).map fun rules => { s with rules } := by
  unfold ofValue
  rw [hx]
  cases es with
  | nil => rfl
  | cons e r =>
    show (do
      let s ← putEntries fields {} (e :: r)
      let rules ← rulesOf (e :: r)
      return { s with rules }) = _
    cases putEntries fields {} (e :: r) with
    | error fault => rfl
    | ok s => cases rulesOf (e :: r) <;> rfl

/-- Entries for a structure are put into it, and then it has the values that
    they give; or one of them is refused. -/
theorem putEntries_cases {σ : Type} {table : σ → List (String × Value)} {fs : List (Field σ δ)}
    {start : σ} (h : Lawful table fs ds start) (es : List (δ × δ)) :
    (∃ s, putEntries fs start es = .ok s ∧ es.findSome? (refusal? ds) = none ∧
      table s = valuesIn ds es) ∨
    ∃ fault, putEntries fs start es = .error fault ∧ es.findSome? (refusal? ds) = some fault := by
  have hrun := putEntries_table h es
  cases hput : putEntries fs start es with
  | ok s =>
    rw [hput] at hrun
    cases hfirst : es.findSome? (refusal? ds) with
    | none =>
      rw [hfirst] at hrun
      exact .inl ⟨s, rfl, rfl, Except.ok.inj hrun⟩
    | some fault =>
      rw [hfirst] at hrun
      cases hrun
  | error fault =>
    rw [hput] at hrun
    cases hfirst : es.findSome? (refusal? ds) with
    | none =>
      rw [hfirst] at hrun
      cases hrun
    | some fault' =>
      rw [hfirst] at hrun
      cases hrun
      exact .inr ⟨fault, rfl, rfl⟩

theorem rulesOf_cases (es : List (δ × δ)) :
    (∃ r, rulesOf es = .ok r ∧ rulesFault? es = none ∧
      ruleTable r = valuesIn describedRules (rulesIn es)) ∨
    ∃ fault, rulesOf es = .error fault ∧ rulesFault? es = some fault := by
  unfold rulesOf rulesFault? rulesIn rulesLayer?
  have hstart : ruleTable {} = valuesIn describedRules ([] : List (δ × δ)) :=
    ruleFields_lawful.start
  cases (Data.lookup? "rules" es).map Data.layer with
  | none => exact .inl ⟨{}, rfl, rfl, hstart⟩
  | some layer =>
    cases layer with
    | null => exact .inl ⟨{}, rfl, rfl, hstart⟩
    | map rules => exact putEntries_cases ruleFields_lawful rules
    | _ => exact .inr ⟨_, rfl, rfl⟩

/-- **What comes of a map:** settings with the values that it gives, or its
    fault. -/
theorem ofValue_map_cases (hx : Data.layer x = .map es) :
    (∃ s, ofValue x = .ok s ∧ mapFault? es = none ∧ s.table = valuesIn described es ∧
      ruleTable s.rules = valuesIn describedRules (rulesIn es)) ∨
    ∃ fault, ofValue x = .error fault ∧ mapFault? es = some fault := by
  rw [ofValue_map hx]
  unfold mapFault?
  rcases putEntries_cases fields_lawful es with ⟨s, hput, hnone, htable⟩ | ⟨fault, hput, hfault⟩
  · rw [hput, hnone]
    rcases rulesOf_cases es with ⟨r, hrules, hrnone, hrtable⟩ | ⟨fault, hrules, hrfault⟩
    · rw [hrules, hrnone]
      exact .inl ⟨{ s with rules := r }, rfl, rfl, htable, hrtable⟩
    · rw [hrules, hrfault]
      exact .inr ⟨fault, rfl, rfl⟩
  · rw [hput, hfault]
    exact .inr ⟨fault, rfl, rfl⟩

theorem ofValue_map_eq_error_iff (hx : Data.layer x = .map es) :
    ofValue x = .error fault ↔ mapFault? es = some fault := by
  rcases ofValue_map_cases hx with ⟨s, hrun, hnone, -⟩ | ⟨fault', hrun, hfault⟩
  · rw [hrun, hnone]
    exact iff_of_false (fun h => by cases h) (fun h => by cases h)
  · rw [hrun, hfault, Except.error.injEq, Option.some.injEq]

/-- A map is taken exactly if all that it gives to settings is. -/
theorem exists_ofValue_map_iff (hx : Data.layer x = .map es) :
    (∃ s, ofValue x = .ok s) ↔ Admitted described es ∧ RulesAdmitted es := by
  rw [← mapFault?_eq_none_iff]
  rcases ofValue_map_cases hx with ⟨s, hrun, hnone, -⟩ | ⟨fault, hrun, hfault⟩
  · exact iff_of_true ⟨s, hrun⟩ hnone
  · rw [hrun, hfault]
    exact iff_of_false (fun ⟨_, h⟩ => by cases h) (fun h => by cases h)

/-- A map that is taken gives every setting its value. -/
theorem values_of_ofValue_map (hx : Data.layer x = .map es) (h : ofValue x = .ok s) :
    s.table = valuesIn described es ∧ ruleTable s.rules = valuesIn describedRules (rulesIn es) := by
  rcases ofValue_map_cases hx with ⟨s', hrun, -, hvalues⟩ | ⟨fault, hrun, -⟩
  · rw [hrun] at h
    rw [← Except.ok.inj h]
    exact hvalues
  · rw [hrun] at h
    cases h

theorem ofValue_of_firstOffence (hx : Data.layer x = .map es) (h : FirstOffence es d v) :
    ofValue x = .error (d.kind.fault d.name v) :=
  (ofValue_map_eq_error_iff hx).2 (mapFault?_of_firstOffence h)

end Kousei.Settings
