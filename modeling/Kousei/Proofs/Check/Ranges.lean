import Kousei.Proofs.Check.Course
import Kousei.Proofs.Check.Extraction
import Kousei.Proofs.Rule.Ranges
import Kousei.Proofs.Text.Position

/-! # Ranges of the diagnostics of a document

    A document is cut into segments, each segment into words and sentences,
    and the stretches that the rules report about them are moved back into
    the document.  Every diagnostic lies in its segment and marks in the
    document what it marks in the segment, and its line and column lead back
    to where it begins (`validateText_ranges`). -/

namespace Kousei

/-- The surfaces that the engine reads in the text can be placed in it. -/
def Engine.Places (engine : Engine) (t : Text) : Prop :=
  ∀ ms, engine t = .ok ms → Placeable t (ms.map Morpheme.surface)

namespace Check

variable {e : Engines} {settings : Settings} {t : Text} {language : String} {c c' : Context}

/-! ## Where diagnostics come from -/

theorem tokenize_eq_ok {tokenizer : Tokenizer} {s : Text} {xs : List Token}
    (h : (Context.tokenize e tokenizer s).onContext c = (.ok xs, c')) :
    ∃ engine ms, tokenizer.engine = some engine ∧ engine s = .ok ms ∧ xs = anchor s ms := by
  unfold Context.tokenize at h
  obtain ⟨-, c₁, -, h⟩ := Run.bind_eq_ok.1 h
  rw [Run.onContext_ofExcept, Tokenizer.tokenize] at h
  split at h
  · cases h
  · next engine hengine =>
    cases hms : engine s with
    | error failure => rw [hms] at h; cases h
    | ok ms =>
      rw [hms] at h
      cases h
      exact ⟨engine, ms, hengine, hms, rfl⟩

/-- The diagnostics of a segment are what the rules report about its words,
    moved into the document. -/
theorem segmentDiagnostics_eq_ok {tokenizer : Tokenizer} {s : Segment} {ds : List Diagnostic}
    (h : (segmentDiagnostics e settings tokenizer s).onContext c = (.ok ds, c')) :
    ∃ engine ms, tokenizer.engine = some engine ∧ engine s.text = .ok ms ∧
      ds = (Rule.check s.text (Sentence.split s.text (anchor s.text ms)) settings.rules).map
        (·.shifted s.offset) := by
  unfold segmentDiagnostics sentences at h
  obtain ⟨ss, c₁, hss, h⟩ := Run.bind_eq_ok.1 h
  obtain ⟨xs, c₂, hxs, hsplit⟩ := Run.bind_eq_ok.1 hss
  obtain ⟨engine, ms, hengine, hms, rfl⟩ := tokenize_eq_ok hxs
  cases hsplit
  split at h
  · cases h
  · cases h
    exact ⟨engine, ms, hengine, hms, rfl⟩

/-- Each diagnostic of several segments is one of one of them. -/
theorem mem_segmentsDiagnostics {tokenizer : Tokenizer} {ss : List Segment} {ds : List Diagnostic}
    (h : (segmentsDiagnostics e settings tokenizer ss).onContext c = (.ok ds, c')) :
    ∀ d ∈ ds, ∃ s ∈ ss, ∃ engine ms, tokenizer.engine = some engine ∧ engine s.text = .ok ms ∧
      ∃ d' ∈ Rule.check s.text (Sentence.split s.text (anchor s.text ms)) settings.rules,
        d = d'.shifted s.offset := by
  induction ss generalizing c ds with
  | nil => cases h; exact List.forall_mem_nil _
  | cons s r ih =>
    unfold segmentsDiagnostics at h
    obtain ⟨here, c₁, hhere, h⟩ := Run.bind_eq_ok.1 h
    obtain ⟨rest, c₂, hrest, h⟩ := Run.bind_eq_ok.1 h
    cases h
    intro d hd
    rcases List.mem_append.1 hd with hd | hd
    · obtain ⟨engine, ms, hengine, hms, rfl⟩ := segmentDiagnostics_eq_ok hhere
      obtain ⟨d', hd', rfl⟩ := List.mem_map.1 hd
      exact ⟨s, List.mem_cons_self .., engine, ms, hengine, hms, d', hd', rfl⟩
    · obtain ⟨s', hs', hfound⟩ := ih hrest d hd
      exact ⟨s', List.mem_cons_of_mem _ hs', hfound⟩

theorem mem_of_mem_reported {all ds : List Diagnostic} (h : reported settings all = .ok ds) :
    ∀ d ∈ ds, d ∈ all := by
  unfold reported at h
  split at h
  · cases h
    exact fun d hd => (List.mem_filter.1 hd).1
  · split at h
    · cases h; exact List.forall_mem_nil _
    · cases h

/-- An analysis that gives diagnostics has cut the document and found them with the
    tokenizer that it had for the segments. -/
theorem validate_eq_ok {ds : List Diagnostic}
    (h : (validate e settings t language).onContext c = (.ok ds, c')) :
    ∃ ss c₁, (segments e settings t language).onContext c = (.ok ss, c₁) ∧
      ∀ d ∈ ds, ∃ tokenizer c₂ all c₃,
        (Context.readyTokenizer e).onContext c₁ = (.ok tokenizer, c₂) ∧
        (segmentsDiagnostics e settings tokenizer ss).onContext c₂ = (.ok all, c₃) ∧ d ∈ all := by
  unfold validate at h
  obtain ⟨ss, c₁, hss, h⟩ := Run.bind_eq_ok.1 h
  refine ⟨ss, c₁, hss, ?_⟩
  split at h
  · cases h; exact List.forall_mem_nil _
  · obtain ⟨tokenizer, c₂, hready, h⟩ := Run.bind_eq_ok.1 h
    obtain ⟨outcome, c₃, hall, h⟩ := Run.bind_eq_ok.1 h
    rw [Run.attempt_eq_ok] at hall
    split at h
    · next all =>
      rw [Run.onContext_ofExcept] at h
      intro d hd
      exact ⟨tokenizer, c₂, all, c₃, hready, hall,
        mem_of_mem_reported (congrArg Prod.fst h) d hd⟩
    · cases h

/-- A check that gives diagnostics has cut the document, or its parser has failed in
    one of the ways that are answered with no diagnostics. -/
theorem validateText_eq_ok {ds : List Diagnostic}
    (h : (validateText e settings t language).onContext c = (.ok ds, c')) :
    (∃ failure c₁, (segments e settings t language).onContext c = (.error failure, c₁) ∧
      failure.isAnswered = true ∧ ds = []) ∨
    ∃ ss c₁, (segments e settings t language).onContext c = (.ok ss, c₁) ∧
      ∀ d ∈ ds, ∃ tokenizer c₂ all c₃,
        (Context.readyTokenizer e).onContext c₁ = (.ok tokenizer, c₂) ∧
        (segmentsDiagnostics e settings tokenizer ss).onContext c₂ = (.ok all, c₃) ∧ d ∈ all := by
  rcases hrun : (validate e settings t language).onContext c with ⟨failure | found, c₁⟩
  · rw [validateText_onContext hrun] at h
    obtain ⟨hanswered, rfl⟩ := answered_error_eq_ok.1 (congrArg Prod.fst h)
    rcases hss : (segments e settings t language).onContext c with ⟨refusal | ss, c₂⟩
    · -- The failure is that of the parser.
      rw [validate_eq, Run.onContext_bind, hss] at hrun
      cases hrun
      exact .inl ⟨_, _, rfl, hanswered, rfl⟩
    · exact .inr ⟨ss, c₂, rfl, List.forall_mem_nil _⟩
  · rw [validateText_onContext hrun] at h
    cases h
    exact .inr (validate_eq_ok hrun)

/-! ## Where they lie -/

/-- The segments that are checked are stretches of the document. -/
theorem segments_standsIn {ss : List Segment}
    (h : (segments e settings t language).onContext c = (.ok ss, c')) :
    ∀ s ∈ ss, s.StandsIn t := by
  unfold segments at h
  split at h
  · cases h; exact List.forall_mem_nil _
  · split at h
    · split at h
      · cases h; exact List.forall_mem_nil _
      · exact extract_standsIn h
    · split at h
      · cases h
      · obtain ⟨found, c₁, hfound, h⟩ := Run.bind_eq_ok.1 h
        split at h
        · cases h; exact List.forall_mem_nil _
        · cases h

/-- What the rules report about words that can be placed in a text lies in
    the text. -/
theorem check_between_of_placeable {ms : List Morpheme} {r : RuleSettings}
    (h : Placeable t (ms.map Morpheme.surface)) :
    ∀ d ∈ Rule.check t (Sentence.split t (anchor t ms)) r, d.Between 0 t.length :=
  Rule.check_between (Rule.split_between (anchor_pairwise t ms)
    fun x hx => (anchor_standsIn h x hx).bounds)

/-- The line and the column of an issue lead back to where it begins. -/
theorem offset_of_issue (file : Option String) {d : Diagnostic} (h0 : 0 ≤ d.start)
    (hlen : d.start ≤ t.length) :
    (t.offset ⟨(Issue.ofDiagnostic file t d).line - 1,
      (Issue.ofDiagnostic file t d).column - 1⟩ : Int) = d.start := by
  have hclamp : (t.clamp d.start : Int) = d.start := by
    unfold Text.clamp
    omega
  simp only [Issue.ofDiagnostic, Int.add_sub_cancel]
  calc (t.offset (t.position d.start) : Int)
    _ = t.clamp d.start := by rw [t.offset_position]
    _ = d.start := hclamp

/-- **End-to-end ranges.**  If the engine's surfaces can be placed in each
    segment, every diagnostic of a document lies in one of its segments and
    marks there what it marks in the document, and the issue made of it shows
    that stretch and tells where it begins.  There is none if the document
    cannot be cut. -/
theorem validateText_ranges (e : Engines) (settings : Settings) (t : Text) (language : String)
    (file : Option String) (c c' : Context) (ds : List Diagnostic)
    (h : (validateText e settings t language).onContext c = (.ok ds, c'))
    (hp : ∀ ss c₁ tokenizer c₂ engine,
      (segments e settings t language).onContext c = (.ok ss, c₁) →
      (Context.readyTokenizer e).onContext c₁ = (.ok tokenizer, c₂) →
      tokenizer.engine = some engine → ∀ s ∈ ss, engine.Places s.text) :
    (∃ failure c₁, (segments e settings t language).onContext c = (.error failure, c₁) ∧
      failure.isAnswered = true ∧ ds = []) ∨
    ∃ ss c₁, (segments e settings t language).onContext c = (.ok ss, c₁) ∧
      ∀ d ∈ ds, ∃ s ∈ ss,
        s.offset ≤ d.start ∧ d.start ≤ d.stop ∧ d.stop ≤ s.stop ∧
        t.sliceInt d.start d.stop = s.text.sliceInt (d.start - s.offset) (d.stop - s.offset) ∧
        (Issue.ofDiagnostic file t d).snippet =
          t.sliceInt (Issue.ofDiagnostic file t d).start (Issue.ofDiagnostic file t d).stop ∧
        (t.offset ⟨(Issue.ofDiagnostic file t d).line - 1,
          (Issue.ofDiagnostic file t d).column - 1⟩ : Int) = d.start := by
  rcases validateText_eq_ok h with hfails | ⟨ss, c₁, hss, hds⟩
  · exact .inl hfails
  refine .inr ⟨ss, c₁, hss, fun d hd => ?_⟩
  obtain ⟨tokenizer, c₂, all, c₃, hready, hall, hmem⟩ := hds d hd
  obtain ⟨s, hs, engine, ms, hengine, hms, d', hd', rfl⟩ := mem_segmentsDiagnostics hall d hmem
  have hplaced := hp ss c₁ tokenizer c₂ engine hss hready hengine s hs ms hms
  obtain ⟨hstart, hle, hstop⟩ := check_between_of_placeable hplaced d' hd'
  have hstands := segments_standsIn hss s hs
  have hoff := hstands.offset_nonneg
  have hend := hstands.stop_le
  have hcut := hstands.sliceInt_eq hstart hle hstop
  unfold Segment.stop at hend ⊢
  -- A shift by the place of the segment is the same on both sides of the cut.
  have hstart' : (d'.shifted s.offset).start = s.offset + d'.start := Int.add_comm _ _
  have hstop' : (d'.shifted s.offset).stop = s.offset + d'.stop := Int.add_comm _ _
  refine ⟨s, hs, by omega, by omega, by omega, ?_, rfl, ?_⟩
  · have hback (a : Int) : s.offset + a - s.offset = a := by omega
    rw [hstart', hstop', hcut, hback, hback]
  · exact offset_of_issue file (by omega) (by omega)

/-- A document of two lines, each a verb, and an engine that reads them. -/
def sampleProse : Text := text "見れる\n来れる"

def sampleVerb (surface : String) : Morpheme where
  surface := text surface
  pos := some "動詞"
  posDetail1 := some "自立"
  baseForm := some surface

def sampleVerbs : List Morpheme := [sampleVerb "見れる", sampleVerb "来れる"]

def proseEngines : Engines where
  backend := .ok ⟨"sample", none, .ok fun _ => .ok sampleVerbs⟩
  grammars := fun _ _ => .error "none"

theorem sampleProse_segments :
    (segments proseEngines {} sampleProse "plaintext").onContext {} =
      (.ok [⟨sampleProse, 0⟩], {}) := rfl

theorem proseEngines_readyTokenizer :
    ∃ tokenizer c, (Context.readyTokenizer proseEngines).onContext {} = (.ok tokenizer, c) ∧
      tokenizer.engine = some fun _ => .ok sampleVerbs := ⟨_, _, rfl, rfl⟩

theorem sampleProse_placeable :
    Placeable sampleProse (sampleVerbs.map Morpheme.surface) := by
  have hfirst : Text.StandsAt (text "見れる") sampleProse 0 :=
    ⟨[], text "\n来れる", by decide, rfl⟩
  have hsecond : Text.StandsAt (text "来れる") sampleProse 4 :=
    ⟨text "見れる\n", [], by decide, rfl⟩
  exact ⟨[0, 4], .cons (by decide) hfirst (.cons (by decide) hsecond .nil)⟩

theorem proseEngines_places (ss : List Segment) (c₁ : Context) (tokenizer : Tokenizer)
    (c₂ : Context) (engine : Engine)
    (hss : (segments proseEngines {} sampleProse "plaintext").onContext {} = (.ok ss, c₁))
    (hready : (Context.readyTokenizer proseEngines).onContext c₁ = (.ok tokenizer, c₂))
    (hengine : tokenizer.engine = some engine) : ∀ s ∈ ss, engine.Places s.text := by
  rw [sampleProse_segments] at hss
  cases hss
  obtain ⟨tokenizer', c', hready', hengine'⟩ := proseEngines_readyTokenizer
  rw [hready'] at hready
  cases hready
  rw [hengine'] at hengine
  cases hengine
  intro s hs ms hms
  rw [List.mem_singleton.1 hs]
  cases hms
  exact sampleProse_placeable

theorem validateText_ranges_of_sampleProse :
    ∃ ds c', (validateText proseEngines {} sampleProse "plaintext").onContext {} = (.ok ds, c') ∧
      ds.map (fun d => (d.start, d.stop)) = [(0, 3), (4, 7)] ∧
      ∃ ss c₁, (segments proseEngines {} sampleProse "plaintext").onContext {} = (.ok ss, c₁) ∧
        ∀ d ∈ ds, ∃ s ∈ ss,
          s.offset ≤ d.start ∧ d.start ≤ d.stop ∧ d.stop ≤ s.stop ∧
          sampleProse.sliceInt d.start d.stop =
            s.text.sliceInt (d.start - s.offset) (d.stop - s.offset) ∧
          (Issue.ofDiagnostic none sampleProse d).snippet =
            sampleProse.sliceInt (Issue.ofDiagnostic none sampleProse d).start
              (Issue.ofDiagnostic none sampleProse d).stop ∧
          (sampleProse.offset ⟨(Issue.ofDiagnostic none sampleProse d).line - 1,
            (Issue.ofDiagnostic none sampleProse d).column - 1⟩ : Int) = d.start := by
  have hrun : ((validateText proseEngines {} sampleProse "plaintext").onContext {}).1.toOption.map
      (·.map fun d => (d.start, d.stop)) = some [(0, 3), (4, 7)] := by decide +kernel
  rcases hout : (validateText proseEngines {} sampleProse "plaintext").onContext {} with
    ⟨_ | ds, c'⟩
  · rw [hout] at hrun
    cases hrun
  · rw [hout] at hrun
    rcases validateText_ranges proseEngines {} sampleProse "plaintext" none {} c' ds hout
      proseEngines_places with ⟨failure, c₁, hfails, -⟩ | hranges
    · rw [sampleProse_segments] at hfails
      cases hfails
    · exact ⟨ds, c', rfl, Option.some.inj hrun, hranges⟩

end Check

end Kousei
