import Kousei.Proofs.Check.Numbers

/-! # Checks that are not disturbed

    A check that ends is published unless its number is no longer the current
    one.  The number of a document changes only when a check of it begins and
    when it is closed.  So a check between whose beginning and end neither
    happens is published, whatever has happened before and whatever happens to
    other documents (`undisturbed_published`).

    It is published once: a check that has ended does not end again, so it has
    one outcome at most (`EndsOnce`). -/

namespace Kousei.Check

namespace Desk

variable {d : Desk} {key : String} {between : List Step}

/-! ## Outcomes -/

/-- Whether a check was published, as often as it ended. -/
def outcomes (d : Desk) (i : Nat) : List Bool := (d.ended.filter (·.1 == i)).map Prod.snd

/-- No check has ended more than once. -/
def EndsOnce (d : Desk) : Prop := ∀ i, d.outcomes i = (d.ended.lookup i).toList

theorem endsOnce_start (c : Context) : (start c).EndsOnce := fun _ => rfl

/-- A check ends only if it has not ended before. -/
theorem EndsOnce.step (h : d.EndsOnce) (s : Step) : (d.step s).EndsOnce := by
  intro i
  cases s with
  | begin k => exact h i
  | forget k => exact h i
  | finish j =>
    show (d.finish j).outcomes i = ((d.finish j).ended.lookup i).toList
    rcases finish_cases d j with hsame | ⟨published, -, hnone, hended⟩
    · rw [hsame]
      exact h i
    · have hbefore := h i
      unfold outcomes at hbefore ⊢
      rw [hended, List.lookup_cons]
      by_cases hij : i = j
      · -- It had no outcome so far.
        subst hij
        rw [hnone] at hbefore
        rw [List.filter_cons_of_pos (by simp), List.map_cons, hbefore, beq_self_eq_true]
        rfl
      · rw [List.filter_cons_of_neg (by simpa using fun h => hij h.symm), hbefore,
          beq_eq_false_iff_ne.2 hij]

theorem EndsOnce.run (h : d.EndsOnce) (steps : List Step) : (d.run steps).EndsOnce := by
  induction steps generalizing d with
  | nil => exact h
  | cons s r ih => exact ih (h.step s)

/-! ## Numbers that stay -/

/-- The number of a check stays the current one as long as no other check of the document
    begins and it is not closed. -/
theorem number_pass_of_undisturbed (d : Desk) (hbegin : .begin key ∉ between)
    (hforget : .forget key ∉ between) :
    ((d.begin key).run between).number key = d.number key + 1 := by
  rw [number_pass, if_neg hforget, beginsSinceForget_of_not_mem hforget,
    List.count_eq_zero.2 hbegin, Nat.zero_add]

/-- So it is published when it ends. -/
theorem published_of_undisturbed (c : Context) (before after : List Step)
    (hpending : .finish (begins before) ∉ between) (hbegin : .begin key ∉ between)
    (hforget : .forget key ∉ between) :
    ((start c).run (stepsOfPass key before between after)).Published (begins before) := by
  rw [← begun_start c before] at hpending
  have hpass := published_pass (endedBegun_start c before) key hpending after
  rw [begun_start] at hpass
  rw [stepsOfPass, run_append]
  exact hpass.2 (number_pass_of_undisturbed _ hbegin hforget)

end Desk

open Desk Run

variable {e : Engines} {c : Context} {key : String} {between : List Step}

/-- It has one outcome from then on, and none before. -/
theorem outcomes_of_undisturbed (c : Context) (before after : List Step)
    (hpending : .finish (begins before) ∉ between) (hbegin : .begin key ∉ between)
    (hforget : .forget key ∉ between) :
    ((start c).run (before ++ .begin key :: between)).outcomes (begins before) = [] ∧
    ((start c).run (stepsOfPass key before between after)).outcomes (begins before) = [true] := by
  constructor
  · have hpending' := hpending
    rw [← begun_start c before] at hpending'
    have hended := ended_pass (endedBegun_start c before) key hpending'
    rw [begun_start] at hended
    rw [(endsOnce_start c).run, run_append]
    show (((((start c).run before).begin key).run between).ended.lookup _).toList = []
    rw [hended]
    rfl
  · rw [(endsOnce_start c).run, published_of_undisturbed c before after hpending hbegin hforget]
    rfl

/-! ## The check itself -/

/-- Other checks that keep the number of the document keep it however often they happen. -/
theorem number_iterate {meanwhile : Generations → Generations}
    (h : ∀ g, (meanwhile g).number key = g.number key) (k : Nat) (g : Generations) :
    (meanwhile^[k] g).number key = g.number key := by
  induction k generalizing g with
  | zero => rfl
  | succ k ih => exact (ih (meanwhile g)).trans (h g)

/-- A check during which the number of its document stays gives all its diagnostics to be
    published. -/
theorem validateDocument_of_undisturbed (settings : Settings) (t : Text) (language : String)
    (h : ∀ g, (e.meanwhile g).number key = g.number key) :
    ((validateDocument e settings key t language).onContext c).1 =
      ((validateText e settings t language).onContext c).1.map some := by
  rw [validateDocument_outcome, validateText_outcome, number_iterate h]
  have hbegin : (c.generations.begin key).2.number key = c.generations.number key + 1 :=
    Generations.number_begin_self
  simp only [hbegin, if_true]

/-- **No check is lost.**  A check between whose beginning and end no other check of its
    document begins and the document is not closed ends once, and is published then.  So
    the last check of a document that is not closed is published when it ends.  And a check
    that other checks do not disturb in this way while it runs gives all its diagnostics to
    be published. -/
theorem undisturbed_published (c : Context) (key : String) :
    (∀ before between after, .finish (begins before) ∉ between → .begin key ∉ between →
      .forget key ∉ between →
      ((start c).run (before ++ .begin key :: between)).outcomes (begins before) = [] ∧
      ((start c).run (stepsOfPass key before between after)).outcomes (begins before) =
        [true]) ∧
    (∀ before rest, .begin key ∉ rest → .forget key ∉ rest → .finish (begins before) ∈ rest →
      ((start c).run (before ++ .begin key :: rest)).outcomes (begins before) = [true]) ∧
    ∀ (e : Engines) (settings : Settings) (t : Text) (language : String),
      (∀ g, (e.meanwhile g).number key = g.number key) →
      ((validateDocument e settings key t language).onContext c).1 =
        ((validateText e settings t language).onContext c).1.map some := by
  refine ⟨?_, ?_, ?_⟩
  · intro before between after hpending hbegin hforget
    exact outcomes_of_undisturbed c before after hpending hbegin hforget
  · intro before rest hbegin hforget hends
    -- It ends at the first step that ends it; nothing before that disturbs it.
    obtain ⟨between, after, hsplit, hpending⟩ := List.eq_append_cons_of_mem hends
    have hbegin' : .begin key ∉ between := by
      intro hmem
      exact hbegin (hsplit ▸ List.mem_append_left _ hmem)
    have hforget' : .forget key ∉ between := by
      intro hmem
      exact hforget (hsplit ▸ List.mem_append_left _ hmem)
    rw [hsplit]
    exact (outcomes_of_undisturbed c before after hpending hbegin' hforget').2
  · intro e settings t language hkeeps
    exact validateDocument_of_undisturbed settings t language hkeeps

/-- Engines while whose answers checks of another document begin, and it is closed. -/
def busyEngines : Engines where
  backend := proseEngines.backend
  grammars := proseEngines.grammars
  meanwhile := fun g => ((g.begin "b").2.begin "b").2.forget "b"

theorem busyEngines_keep (g : Generations) :
    (busyEngines.meanwhile g).number "a" = g.number "a" := by
  have hne : "b" ≠ "a" := by decide
  show (((g.begin "b").2.begin "b").2.forget "b").number "a" = _
  rw [Generations.number_forget_of_ne hne, Generations.number_begin_of_ne hne,
    Generations.number_begin_of_ne hne]

/-- Before the check another one of the document began, and the document was closed; while
    it runs that one ends, and checks of another document begin. -/
theorem undisturbed_published_of_reopened :
    .finish (begins [.begin "a", .forget "a"]) ∉ [Step.begin "b", .finish 0, .forget "b"] ∧
    .begin "a" ∉ [Step.begin "b", .finish 0, .forget "b"] ∧
    .forget "a" ∉ [Step.begin "b", .finish 0, .forget "b"] ∧
    ((start {}).run (stepsOfPass "a" [.begin "a", .forget "a"]
      [.begin "b", .finish 0, .forget "b"] [.begin "a", .finish 1])).outcomes 1 = [true] ∧
    ((start {}).run ([.begin "a", .forget "a"] ++ .begin "a" ::
      [.begin "b", .finish 1, .finish 0])).outcomes 1 = [true] ∧
    ((validateDocument busyEngines {} "a" sampleProse "plaintext").onContext {}).1 =
      ((validateText busyEngines {} sampleProse "plaintext").onContext {}).1.map some := by
  have hpending : .finish (begins [.begin "a", .forget "a"]) ∉
      [Step.begin "b", .finish 0, .forget "b"] := by decide
  have hbegin : .begin "a" ∉ [Step.begin "b", .finish 0, .forget "b"] := by decide
  have hforget : .forget "a" ∉ [Step.begin "b", .finish 0, .forget "b"] := by decide
  obtain ⟨honce, hlast, hcheck⟩ := undisturbed_published {} "a"
  refine ⟨hpending, hbegin, hforget, ?_, ?_, ?_⟩
  · exact (honce _ _ _ hpending hbegin hforget).2
  · exact hlast [.begin "a", .forget "a"] _ (by decide) (by decide) (by decide)
  · exact hcheck busyEngines {} sampleProse "plaintext" busyEngines_keep

end Kousei.Check
